import SuperChip.Nibble

set_option autoImplicit false

namespace SuperChip

/-- A sixteen bit instruction word, most significant byte first in memory. -/
abbrev Word := UInt16

abbrev Register := Nibble

namespace Word

def ofBytes (high low : UInt8) : Word := UInt16.ofNat (high.toNat * 256 + low.toNat)

/-- The nibble at `place`, counted from the least significant end. -/
def nibble (word : Word) (place : Fin 4) : Nibble :=
  Fin.ofNat 16 (word.toNat / Nat.pow 16 place.val)

/-- The family of the instruction, bits 12 to 15. -/
def family (word : Word) : Nibble := word.nibble 3

/-- The first register operand, bits 8 to 11. -/
def x (word : Word) : Register := word.nibble 2

/-- The second register operand, bits 4 to 7. -/
def y (word : Word) : Register := word.nibble 1

/-- The count operand, bits 0 to 3. -/
def n (word : Word) : Nibble := word.nibble 0

/-- The immediate operand, bits 0 to 7. -/
def byte (word : Word) : UInt8 := UInt8.ofNat (word.toNat % 256)

/-- The address operand, bits 0 to 11. -/
def address (word : Word) : UInt16 := UInt16.ofNat (word.toNat % 4096)

theorem byte_ofBytes (high low : UInt8) : (ofBytes high low).byte = low := by
  have highBound := high.toNat_lt
  have lowBound := low.toNat_lt
  apply UInt8.toNat_inj.mp
  change (high.toNat * 256 + low.toNat) % 65536 % 256 % 256 = low.toNat
  omega

theorem eq_iff_nibbles (left right : Word) :
    left = right ↔
      left.family = right.family ∧ left.x = right.x ∧ left.y = right.y ∧ left.n = right.n := by
  constructor
  · rintro rfl
    exact ⟨rfl, rfl, rfl, rfl⟩
  · rintro ⟨family, x, y, n⟩
    have high : left.toNat / 4096 % 16 = right.toNat / 4096 % 16 := congrArg Fin.val family
    have second : left.toNat / 256 % 16 = right.toNat / 256 % 16 := congrArg Fin.val x
    have third : left.toNat / 16 % 16 = right.toNat / 16 % 16 := congrArg Fin.val y
    have low : left.toNat / 1 % 16 = right.toNat / 1 % 16 := congrArg Fin.val n
    have leftBound := left.toNat_lt
    have rightBound := right.toNat_lt
    apply UInt16.toNat_inj.mp
    omega

/-- A word is the number that its nibbles spell. -/
theorem toNat_eq_nibbles (word : Word) :
    word.toNat = 4096 * word.family.val + 256 * word.x.val + 16 * word.y.val + word.n.val := by
  have bound := word.toNat_lt
  change word.toNat = 4096 * (word.toNat / 4096 % 16) + 256 * (word.toNat / 256 % 16) +
    16 * (word.toNat / 16 % 16) + word.toNat / 1 % 16
  omega

end Word

end SuperChip
