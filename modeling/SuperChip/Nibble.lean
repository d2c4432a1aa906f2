set_option autoImplicit false

namespace SuperChip

/-- A hexadecimal digit, or the number of a key or of a register. -/
abbrev Nibble := Fin 16

instance sixteen_neZero : @NeZero Nat Zero.ofOfNat0 16 := ⟨by decide⟩

end SuperChip
