import StoryMachine.Random.Generator

/-! A random source: the key stream of the ChaCha cipher with eight rounds, one 32-bit word per
number. The key is spread out of a 64-bit seed by a congruential generator, or comes from outside
for the seed 0. -/

namespace StoryMachine

/-- The position in the key stream of a key, which is eight words. -/
structure ChaCha8 where
  key : List UInt32
  position : Nat := 0
  /-- The keys that will come from outside. -/
  entropy : List (List UInt32) := []
  deriving DecidableEq, Repr

namespace ChaCha8

private def rotateLeft (value count : UInt32) : UInt32 :=
  (value <<< count) ||| (value >>> (32 - count))

private def rotateRight (value count : UInt32) : UInt32 :=
  (value >>> count) ||| (value <<< ((32 - count) % 32))

def spread (state : UInt64) : Nat → List UInt32
  | 0 => []
  | count + 1 =>
    let state := state * 6364136223846793005 + 11634580027462260723
    let mixed := (((state >>> 18) ^^^ state) >>> 27).toUInt32
    rotateRight mixed (state >>> 59).toUInt32 :: spread state count

def ofSeed (seed : UInt64) : ChaCha8 :=
  { key := spread seed 8 }

/-- Start over from a seed. The seed 0 takes the next key from outside, while there is one. -/
def reseed (source : ChaCha8) (seed : UInt64) : ChaCha8 :=
  match source.entropy with
  | [] => ofSeed seed
  | key :: rest =>
    if seed = 0 then { key, entropy := rest } else { ofSeed seed with entropy := key :: rest }

def blockInput (key : List UInt32) (block : UInt64) : List UInt32 :=
  ([0x61707865, 0x3320646e, 0x79622d32, 0x6b206574] : List UInt32) ++ key ++
    [block.toUInt32, (block >>> 32).toUInt32, 0, 0]

private def quarterRound (words : Array UInt32) (a b c d : Nat) : Array UInt32 :=
  let wordOf (index : Nat) := words.getD index 0
  let wa := wordOf a + wordOf b
  let wd := rotateLeft (wordOf d ^^^ wa) 16
  let wc := wordOf c + wd
  let wb := rotateLeft (wordOf b ^^^ wc) 12
  let wa := wa + wb
  let wd := rotateLeft (wd ^^^ wa) 8
  let wc := wc + wd
  let wb := rotateLeft (wb ^^^ wc) 7
  (((words.setIfInBounds a wa).setIfInBounds b wb).setIfInBounds c wc).setIfInBounds d wd

/-- A round over the columns and a round over the diagonals. -/
def doubleRound (words : Array UInt32) : Array UInt32 :=
  [(0, 4, 8, 12), (1, 5, 9, 13), (2, 6, 10, 14), (3, 7, 11, 15),
    (0, 5, 10, 15), (1, 6, 11, 12), (2, 7, 8, 13), (3, 4, 9, 14)].foldl
    (fun words (a, b, c, d) => quarterRound words a b c d) words

def block (key : List UInt32) (number : UInt64) : List UInt32 :=
  let input := blockInput key number
  let mixed := (List.range 4).foldl (fun words _ => doubleRound words) input.toArray
  input.zipWith (· + ·) mixed.toList

def keyWord (key : List UInt32) (position : Nat) : UInt32 :=
  (block key (UInt64.ofNat (position / 16))).getD (position % 16) 0

end ChaCha8

instance : RandomSource ChaCha8 where
  draw source :=
    ((ChaCha8.keyWord source.key source.position).toUInt16,
      { source with position := source.position + 1 })
  seed seed source := source.reseed seed

end StoryMachine
