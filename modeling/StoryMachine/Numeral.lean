/-! Numbers as text. Messages and listings show addresses in lower-case hexadecimal with a
least number of digits, and the clock in decimal with a least width. -/

namespace StoryMachine.Numeral

/-- Put `fill` in front of `digits` until there are `width` characters. -/
def padLeft (fill : Char) (width : Nat) (digits : List Char) : String :=
  String.ofList (List.replicate (width - digits.length) fill ++ digits)

/-- Lower-case hexadecimal digits, at least `width` of them. -/
def hex (width value : Nat) : String :=
  padLeft '0' width (Nat.toDigits 16 value)

/-- An address as messages show it: `0x` and at least four digits. -/
def address (value : Nat) : String :=
  "0x" ++ hex 4 value

/-- Decimal digits, at least `width` characters wide, filled on the left with `fill`. -/
def decimal (fill : Char) (width value : Nat) : String :=
  padLeft fill width (Nat.toDigits 10 value)

end StoryMachine.Numeral
