set_option autoImplicit false

namespace SuperChip

/-- A stream of random words, and how many of them were taken. -/
structure Generator where
  stream : Nat → UInt32
  position : Nat

namespace Generator

def ofStream (stream : Nat → UInt32) : Generator := ⟨stream, 0⟩

/-- The next word, and the generator without it. -/
def next (generator : Generator) : UInt32 × Generator :=
  (generator.stream generator.position,
    { generator with position := generator.position + 1 })

end Generator

/-- Where random words come from: a stream for each seed, and one that is left to chance. Nothing is
said about the words. -/
structure RandomSource where
  seeded : UInt64 → Nat → UInt32
  unseeded : Nat → UInt32

/-- The stream that a machine gets, with a seed or without. -/
def RandomSource.stream (source : RandomSource) : Option UInt64 → Nat → UInt32
  | some seed => source.seeded seed
  | none => source.unseeded

end SuperChip
