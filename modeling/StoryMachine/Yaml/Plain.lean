import StoryMachine.Yaml.Gap

/-! Scalars without quotes, on one line or more. -/

namespace StoryMachine.Yaml

structure Plain where
  text : String
  /-- Did the scalar stop at the start of a line? -/
  endsLine : Bool
  rest : List Glyph
  deriving DecidableEq, Repr

/-- Does a plain scalar end before these characters? After a gap it ends at a comment, at the mark
of a document and, outside brackets, at a character that is not indented far enough. -/
def endsPlain (inFlow : Bool) (indent : Nat) (gap : Gap) (glyph : Glyph) (rest : List Glyph) :
    Bool :=
  (¬ gap.isEmpty ∧ (glyph.char = '#' ∨ isDocumentMark (glyph :: rest) ∨
      (¬ inFlow ∧ glyph.column < indent))) ∨
    (glyph.char = ':' ∧ startsGap rest) ∨ (inFlow ∧ isFlowIndicator glyph.char)

/-- The rest of a plain scalar whose lines are indented by `indent` columns. Inside brackets a
colon must not be followed by a character that has a meaning there. -/
def plain? (inFlow : Bool) (indent : Nat) (gap : Gap) (read : List Char) :
    List Glyph → Option Plain
  | [] => some ⟨String.ofList read.reverse, gap.hasBreak, []⟩
  | glyph :: rest =>
    if glyph.isBlank ∨ glyph.isBreak then
      if glyph.char = '\t' ∧ gap.hasBreak ∧ glyph.column < indent then none
      else plain? inFlow indent (gap.push glyph.char) read rest
    else if inFlow ∧ glyph.char = ':' ∧
        rest.head?.any (fun next => isFlowIndicator next.char ∨ next.char = '?') then none
    else if endsPlain inFlow indent gap glyph rest then
      some ⟨String.ofList read.reverse, gap.hasBreak, glyph :: rest⟩
    else plain? inFlow indent .empty (glyph.char :: (gap.folded ++ read)) rest

end StoryMachine.Yaml
