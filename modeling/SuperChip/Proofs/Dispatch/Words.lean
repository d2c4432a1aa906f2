import Mathlib.Algebra.Group.Nat.Defs
import SuperChip.Dispatch

set_option autoImplicit false

namespace SuperChip.Rule

theorem land_mod_two (left right : Nat) : (left &&& right) % 2 = left % 2 * (right % 2) := by
  have last := Nat.and_mod_two_pow (a := left) (b := right) (n := 1)
  rw [Nat.pow_one] at last
  rw [last]
  rcases Nat.mod_two_eq_zero_or_one left with l | l <;>
    rcases Nat.mod_two_eq_zero_or_one right with r | r <;> rw [l, r] <;> rfl

theorem land_eq_iff (left right whole : Nat) :
    left &&& right = whole ↔
      left / 2 &&& right / 2 = whole / 2 ∧ left % 2 * (right % 2) = whole % 2 := by
  rw [← Nat.and_div_two, ← land_mod_two]
  omega

theorem land_of_filled (width : Nat) {free bits : Nat} (inside : free < 2 ^ width)
    (chosen : bits &&& free = bits) : (2 ^ width - 1 - free + bits) &&& free = bits := by
  induction width generalizing free bits with
  | zero =>
    have none : free = 0 := by omega
    subst none
    simpa using chosen
  | succ width ih =>
    rw [Nat.pow_succ] at inside ⊢
    obtain ⟨upper, last⟩ := (land_eq_iff _ _ _).mp chosen
    have rest := ih (show free / 2 < 2 ^ width by omega) upper
    have smaller : bits / 2 ≤ free / 2 := upper ▸ Nat.and_le_right
    refine (land_eq_iff _ _ _).mpr ⟨?_, ?_⟩
    · rw [← rest]
      congr 1
      rcases Nat.mod_two_eq_zero_or_one free with f | f <;> rw [f] at last <;> omega
    · rcases Nat.mod_two_eq_zero_or_one free with f | f <;> rw [f] at last ⊢ <;> omega

/-- What subtraction and dropping lead to is above the subset and not above any larger one.
Induction is over the bits, from the last one on. -/
theorem next_subset (width : Nat) {free bits other : Nat} (inside : free < 2 ^ width)
    (chosen : bits &&& free = bits) (otherChosen : other &&& free = other) (below : bits < other) :
    bits < ((2 ^ width - free + bits) % 2 ^ width) &&& free ∧
      ((2 ^ width - free + bits) % 2 ^ width) &&& free ≤ other := by
  induction width generalizing free bits other with
  | zero =>
    have none : free = 0 := by omega
    subst none
    rw [Nat.and_zero] at otherChosen
    omega
  | succ width ih =>
    rw [Nat.pow_succ] at inside ⊢
    have power : 0 < 2 ^ width := Nat.two_pow_pos width
    obtain ⟨upper, last⟩ := (land_eq_iff _ _ _).mp chosen
    obtain ⟨otherUpper, otherLast⟩ := (land_eq_iff _ _ _).mp otherChosen
    have smaller : bits / 2 ≤ free / 2 := upper ▸ Nat.and_le_right
    generalize sum : (2 ^ width * 2 - free + bits) % (2 ^ width * 2) = total
    generalize found : total &&& free = result
    obtain ⟨resultUpper, resultLast⟩ := (land_eq_iff _ _ _).mp found
    rcases Nat.mod_two_eq_zero_or_one free with even | odd
    · -- The last bit is not free, so the question is the one for the halves.
      rw [even] at last otherLast resultLast
      have half : total / 2 = (2 ^ width - free / 2 + bits / 2) % 2 ^ width := by
        rw [← sum, Nat.mul_comm, Nat.mod_mul_right_div_self]
        congr 1
        omega
      have bounds := ih (show free / 2 < 2 ^ width by omega) upper otherUpper (by omega)
      rw [← half, resultUpper] at bounds
      omega
    · rw [odd, Nat.mul_one] at resultLast
      rcases Nat.mod_two_eq_zero_or_one bits with clear | set
      · -- The last bit is free and not chosen: choosing it is the next subset.
        have exact : total = 2 ^ width * 2 - free + bits := by
          rw [← sum, Nat.mod_eq_of_lt (by omega)]
        have half : total / 2 = 2 ^ width - 1 - free / 2 + bits / 2 := by omega
        rw [half, land_of_filled width (show free / 2 < 2 ^ width by omega) upper] at resultUpper
        omega
      · -- The last bit is free and chosen: it is given up and the halves move on.
        have half : total / 2 = (2 ^ width - free / 2 + bits / 2) % 2 ^ width := by
          rw [← sum, Nat.mul_comm, Nat.mod_mul_right_div_self]
          congr 1
          omega
        have cleared : total % 2 = 0 := by
          rw [← sum, Nat.mod_mul_left_mod]
          omega
        have bounds := ih (show free / 2 < 2 ^ width by omega) upper otherUpper (by omega)
        rw [← half, resultUpper] at bounds
        omega

/-- The word that the enumeration goes on with. -/
theorem next_word {free bits other : Word} (chosen : bits &&& free = bits)
    (otherChosen : other &&& free = other) (below : bits < other) :
    bits < (bits - free) &&& free ∧ (bits - free) &&& free ≤ other := by
  have bounds := next_subset 16 free.toNat_lt
    (by rw [← UInt16.toNat_and, chosen]) (by rw [← UInt16.toNat_and, otherChosen])
    (UInt16.lt_iff_toNat_lt.mp below)
  rw [← UInt16.toNat_sub, ← UInt16.toNat_and] at bounds
  exact ⟨UInt16.lt_iff_toNat_lt.mpr bounds.1, UInt16.le_iff_toNat_le.mpr bounds.2⟩

/-- The enumeration meets the subsets from its start on, and nothing else. -/
theorem mem_subsetsFrom {free bits word : Word} (chosen : bits &&& free = bits) :
    word ∈ subsetsFrom free bits ↔ word &&& free = word ∧ bits ≤ word := by
  induction bits using subsetsFrom.induct free with
  | case1 bits later ih =>
    rw [subsetsFrom, if_pos later, List.mem_cons, ih (by rw [UInt16.and_assoc, UInt16.and_self])]
    constructor
    · rintro (rfl | ⟨subset, above⟩)
      · exact ⟨chosen, UInt16.le_refl _⟩
      · exact ⟨subset, UInt16.le_of_lt (UInt16.lt_of_lt_of_le later above)⟩
    · rintro ⟨subset, above⟩
      rcases UInt16.lt_or_eq_of_le above with below | same
      · exact Or.inr ⟨subset, (next_word chosen subset below).2⟩
      · exact Or.inl same.symm
  | case2 bits last =>
    rw [subsetsFrom, if_neg last, List.mem_singleton]
    constructor
    · rintro rfl
      exact ⟨chosen, UInt16.le_refl _⟩
    · rintro ⟨subset, above⟩
      rcases UInt16.lt_or_eq_of_le above with below | same
      · exact absurd (next_word chosen subset below).1 last
      · exact same.symm

private theorem eq_of_bits {left right : Word}
    (same : ∀ place < 16, left.toBitVec.getLsbD place = right.toBitVec.getLsbD place) :
    left = right :=
  UInt16.toBitVec_inj.mp (BitVec.eq_of_getLsbD_eq same)

private theorem land_of_joined {pattern bits mask : Word} (clean : pattern &&& ~~~mask = 0)
    (subset : bits &&& ~~~mask = bits) : (pattern ||| bits) &&& mask = pattern := by
  apply eq_of_bits
  intro place inside
  have ignored := congrArg (fun word : Word => word.toBitVec.getLsbD place) clean
  have chosen := congrArg (fun word : Word => word.toBitVec.getLsbD place) subset
  have zero : (0 : Word).toBitVec.getLsbD place = false := BitVec.getLsbD_zero
  simp only [UInt16.toBitVec_and, UInt16.toBitVec_or, UInt16.toBitVec_not, BitVec.getLsbD_and,
    BitVec.getLsbD_or, BitVec.getLsbD_not, inside, decide_true, Bool.true_and, zero]
    at ignored chosen ⊢
  cases masked : mask.toBitVec.getLsbD place <;> simp_all

private theorem joined_parts (word mask : Word) : word &&& mask ||| word &&& ~~~mask = word := by
  apply eq_of_bits
  intro place inside
  simp only [UInt16.toBitVec_and, UInt16.toBitVec_or, UInt16.toBitVec_not, BitVec.getLsbD_and,
    BitVec.getLsbD_or, BitVec.getLsbD_not, inside, decide_true, Bool.true_and]
  cases mask.toBitVec.getLsbD place <;> simp

/-- A rule binds the words that agree with its pattern, if the pattern has no bit that the mask
ignores. -/
theorem mem_words {rule : Rule} (clean : rule.pattern &&& ~~~rule.mask = 0) (word : Word) :
    word ∈ rule.words ↔ rule.Matches word := by
  simp only [words, List.mem_map]
  constructor
  · rintro ⟨bits, listed, rfl⟩
    exact land_of_joined clean ((mem_subsetsFrom UInt16.zero_and).mp listed).1
  · intro agrees
    refine ⟨word &&& ~~~rule.mask, ?_, ?_⟩
    · exact (mem_subsetsFrom UInt16.zero_and).mpr
        ⟨by rw [UInt16.and_assoc, UInt16.and_self], UInt16.le_iff_toNat_le.mpr (Nat.zero_le _)⟩
    · rw [← agrees]
      exact joined_parts word rule.mask

end SuperChip.Rule
