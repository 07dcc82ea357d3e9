/-! Random numbers. A story draws from a source, or, for testing, counts through a range. -/

namespace StoryMachine

/-- A source of 16-bit numbers outside the machine. -/
class RandomSource (η : Type) where
  draw : η → UInt16 × η
  seed : UInt64 → η → η

inductive RandomMode where
  | random
  /-- Count from 0 up to `range` and start again. -/
  | counting (range next : UInt16)
  deriving DecidableEq, Repr

structure Generator (η : Type) where
  mode : RandomMode := .random
  source : η

namespace Generator

variable {η : Type} [RandomSource η]

/-- Start over from a number: count up to it, or seed the source with it. -/
def seed (generator : Generator η) (value : UInt16) (counting : Bool) : Generator η :=
  if counting ∧ value ≠ 0 then { generator with mode := .counting value 0 }
  else ⟨.random, RandomSource.seed value.toUInt64 generator.source⟩

def reset (generator : Generator η) (seed : UInt64) : Generator η :=
  ⟨.random, RandomSource.seed seed generator.source⟩

def generate (generator : Generator η) : UInt16 × Generator η :=
  match generator.mode with
  | .counting range next =>
    (next, { generator with mode := .counting range ((next + 1) % range) })
  | .random =>
    let (value, source) := RandomSource.draw generator.source
    (value, { generator with source })

/-- A number below `range`; a range of 0 counts as 1. -/
def below (generator : Generator η) (range : UInt16) : UInt16 × Generator η :=
  let (value, generator) := generator.generate
  (value % max range 1, generator)

end Generator

end StoryMachine
