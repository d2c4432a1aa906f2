import SuperChip.Generator
import SuperChip.Nibble

set_option autoImplicit false

/-!
The random words of the program are those of the ChaCha keystream with twelve rounds, sixteen to a
block. The key of eight words is stretched from a seed.
-/

namespace SuperChip

namespace Random

/-- The words of a block, or of the state that a block is computed from. -/
abbrev Block := Vector UInt32 16

def rotateLeft (word : UInt32) (amount : Nat) : UInt32 :=
  (word <<< UInt32.ofNat (amount % 32)) ||| (word >>> UInt32.ofNat ((32 - amount % 32) % 32))

def rotateRight (word : UInt32) (amount : Nat) : UInt32 :=
  rotateLeft word ((32 - amount % 32) % 32)

/-- Mixes four words of the state. -/
def quarterRound (block : Block) (a b c d : Fin 16) : Block :=
  let (p, q, r, s) := (block[a], block[b], block[c], block[d])
  let p := p + q
  let s := rotateLeft (s ^^^ p) 16
  let r := r + s
  let q := rotateLeft (q ^^^ r) 12
  let p := p + q
  let s := rotateLeft (s ^^^ p) 8
  let r := r + s
  let q := rotateLeft (q ^^^ r) 7
  (((block.set a p).set b q).set c r).set d s

/-- A round over the columns and a round over the diagonals. -/
def doubleRound (block : Block) : Block :=
  let block := quarterRound block 0 4 8 12
  let block := quarterRound block 1 5 9 13
  let block := quarterRound block 2 6 10 14
  let block := quarterRound block 3 7 11 15
  let block := quarterRound block 0 5 10 15
  let block := quarterRound block 1 6 11 12
  let block := quarterRound block 2 7 8 13
  quarterRound block 3 4 9 14

/-- The state that block `counter` is computed from: four constants, the key, the counter in two
words, and two words of zero. -/
def initial (key : Vector UInt32 8) (counter : Nat) : Block :=
  #v[0x61707865, 0x3320646e, 0x79622d32, 0x6b206574,
    key[0], key[1], key[2], key[3], key[4], key[5], key[6], key[7],
    UInt32.ofNat counter, UInt32.ofNat (counter / UInt32.size), 0, 0]

/-- Block `counter` of the keystream: twelve rounds, added to the state they started from. -/
def block (key : Vector UInt32 8) (counter : Nat) : Block :=
  let start := initial key counter
  let mixed := Nat.repeat doubleRound 6 start
  Vector.ofFn fun i => mixed[i] + start[i]

/-- One step of the generator that stretches a seed. -/
def stretchStep (state : UInt64) : UInt64 := state * 6364136223846793005 + 11634580027462260723

/-- The word that the stretching generator gives out in a state. -/
def stretchWord (state : UInt64) : UInt32 :=
  rotateRight (((state >>> 18) ^^^ state) >>> 27).toUInt32 (state >>> 59).toNat

def keyOfSeed (seed : UInt64) : Vector UInt32 8 :=
  Vector.ofFn fun i => stretchWord (Nat.repeat stretchStep (i.val + 1) seed)

/-- Word number `position` of the stream that belongs to a seed. -/
def word (seed : UInt64) (position : Nat) : UInt32 :=
  (block (keyOfSeed seed) (position / 16))[(⟨position % 16, by omega⟩ : Fin 16)]

end Random

/-- The random words of the program. Without a seed they belong to a seed that is drawn by chance. -/
def RandomSource.standard (chance : UInt64) : RandomSource where
  seeded := Random.word
  unseeded := Random.word chance

end SuperChip
