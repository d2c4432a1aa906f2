import SuperChip.Proofs.Decoding

set_option autoImplicit false

namespace SuperChip

namespace Instruction

/-- How an instruction set writes an instruction: what the nibbles of its word are, and where among
them the operands stand. -/
def SpelledBy (mode : Mode) (word : Word) : Instruction → Prop
  | clearScreen => word = 0x00E0
  | ret => word = 0x00EE
  | jump target => word.family = 0x1 ∧ target = word.address
  | call target => word.family = 0x2 ∧ target = word.address
  | skipIfByte x value => word.family = 0x3 ∧ x = word.x ∧ value = word.byte
  | skipUnlessByte x value => word.family = 0x4 ∧ x = word.x ∧ value = word.byte
  | skipIfSame x y => word.family = 0x5 ∧ word.n = 0x0 ∧ x = word.x ∧ y = word.y
  | setByte x value => word.family = 0x6 ∧ x = word.x ∧ value = word.byte
  | addByte x value => word.family = 0x7 ∧ x = word.x ∧ value = word.byte
  | copy x y => word.family = 0x8 ∧ word.n = 0x0 ∧ x = word.x ∧ y = word.y
  | or x y => word.family = 0x8 ∧ word.n = 0x1 ∧ x = word.x ∧ y = word.y
  | and x y => word.family = 0x8 ∧ word.n = 0x2 ∧ x = word.x ∧ y = word.y
  | xor x y => word.family = 0x8 ∧ word.n = 0x3 ∧ x = word.x ∧ y = word.y
  | add x y => word.family = 0x8 ∧ word.n = 0x4 ∧ x = word.x ∧ y = word.y
  | subtract x y => word.family = 0x8 ∧ word.n = 0x5 ∧ x = word.x ∧ y = word.y
  | shiftRight x y => word.family = 0x8 ∧ word.n = 0x6 ∧ x = word.x ∧ y = word.y
  | subtractFrom x y => word.family = 0x8 ∧ word.n = 0x7 ∧ x = word.x ∧ y = word.y
  | shiftLeft x y => word.family = 0x8 ∧ word.n = 0xE ∧ x = word.x ∧ y = word.y
  | skipUnlessSame x y => word.family = 0x9 ∧ word.n = 0x0 ∧ x = word.x ∧ y = word.y
  | setIndex target => word.family = 0xA ∧ target = word.address
  | jumpOffset x base => word.family = 0xB ∧ x = word.x ∧ base = word.address
  | random x mask => word.family = 0xC ∧ x = word.x ∧ mask = word.byte
  | draw x y rows =>
    word.family = 0xD ∧ ¬ (mode = .superChip ∧ word.n = 0x0) ∧ x = word.x ∧ y = word.y ∧
      rows = word.n
  | skipIfKey x => word.family = 0xE ∧ word.y = 0x9 ∧ word.n = 0xE ∧ x = word.x
  | skipUnlessKey x => word.family = 0xE ∧ word.y = 0xA ∧ word.n = 0x1 ∧ x = word.x
  | readDelay x => word.family = 0xF ∧ word.y = 0x0 ∧ word.n = 0x7 ∧ x = word.x
  | awaitKey x => word.family = 0xF ∧ word.y = 0x0 ∧ word.n = 0xA ∧ x = word.x
  | setDelay x => word.family = 0xF ∧ word.y = 0x1 ∧ word.n = 0x5 ∧ x = word.x
  | setSound x => word.family = 0xF ∧ word.y = 0x1 ∧ word.n = 0x8 ∧ x = word.x
  | addIndex x => word.family = 0xF ∧ word.y = 0x1 ∧ word.n = 0xE ∧ x = word.x
  | glyph x => word.family = 0xF ∧ word.y = 0x2 ∧ word.n = 0x9 ∧ x = word.x
  | decimal x => word.family = 0xF ∧ word.y = 0x3 ∧ word.n = 0x3 ∧ x = word.x
  | store x => word.family = 0xF ∧ word.y = 0x5 ∧ word.n = 0x5 ∧ x = word.x
  | load x => word.family = 0xF ∧ word.y = 0x6 ∧ word.n = 0x5 ∧ x = word.x
  | scrollDown rows =>
    mode = .superChip ∧ word.family = 0x0 ∧ word.x = 0x0 ∧ word.y = 0xC ∧ rows = word.n
  | scrollRight => mode = .superChip ∧ word = 0x00FB
  | scrollLeft => mode = .superChip ∧ word = 0x00FC
  | exit => mode = .superChip ∧ word = 0x00FD
  | lowResolution => mode = .superChip ∧ word = 0x00FE
  | highResolution => mode = .superChip ∧ word = 0x00FF
  | drawWide x y =>
    mode = .superChip ∧ word.family = 0xD ∧ word.n = 0x0 ∧ x = word.x ∧ y = word.y
  | bigGlyph x =>
    mode = .superChip ∧ word.family = 0xF ∧ word.y = 0x3 ∧ word.n = 0x0 ∧ x = word.x
  | saveFlags x =>
    mode = .superChip ∧ word.family = 0xF ∧ word.y = 0x7 ∧ word.n = 0x5 ∧ x = word.x ∧ x ≤ 7
  | loadFlags x =>
    mode = .superChip ∧ word.family = 0xF ∧ word.y = 0x8 ∧ word.n = 0x5 ∧ x = word.x ∧ x ≤ 7
  | guard => word = 0xFFFF
  | illegal other => other = word

end Instruction

namespace Word

open Instruction

variable {mode : Mode} {word : Word}

theorem spelledBy_decodeSystem (family : word.family = 0x0) (x : word.x = 0x0) :
    (word.decodeSystem mode).SpelledBy mode word := by
  have spelled (y n : Nibble) (high : word.y = y) (low : word.n = n) (other : Word)
      (same : other.family = 0x0 ∧ other.x = 0x0 ∧ other.y = y ∧ other.n = n) : word = other := by
    rw [eq_iff_nibbles, family, x, high, low]
    exact ⟨same.1.symm, same.2.1.symm, same.2.2.1.symm, same.2.2.2.symm⟩
  unfold decodeSystem
  split
  case h_1 y n => exact spelled _ _ y n _ (by decide)
  case h_2 y n => exact spelled _ _ y n _ (by decide)
  case h_3 y =>
    split
    · exact ⟨‹_›, family, x, y, rfl⟩
    · rfl
  case h_9 => rfl
  all_goals
    rename_i y n
    split
    · exact ⟨‹_›, spelled _ _ y n _ (by decide)⟩
    · rfl

theorem spelledBy_decodeArithmetic (family : word.family = 0x8) :
    word.decodeArithmetic.SpelledBy mode word := by
  unfold decodeArithmetic
  split
  case h_10 => rfl
  all_goals exact ⟨family, ‹_›, rfl, rfl⟩

theorem spelledBy_decodeKey (family : word.family = 0xE) : word.decodeKey.SpelledBy mode word := by
  unfold decodeKey
  split
  case h_3 => rfl
  all_goals exact ⟨family, ‹_›, ‹_›, rfl⟩

theorem spelledBy_decodeDevice (family : word.family = 0xF) :
    (word.decodeDevice mode).SpelledBy mode word := by
  unfold decodeDevice
  split
  case h_7 =>
    split
    · exact ⟨‹_›, family, ‹_›, ‹_›, rfl⟩
    · rfl
  case h_11 =>
    split
    · rename_i extended
      exact ⟨extended.1, family, ‹_›, ‹_›, rfl, extended.2⟩
    · rfl
  case h_12 =>
    split
    · rename_i extended
      exact ⟨extended.1, family, ‹_›, ‹_›, rfl, extended.2⟩
    · rfl
  case h_13 y n =>
    split
    · rename_i x
      exact (word.eq_iff_nibbles 0xFFFF).mpr ⟨family, x, y, n⟩
    · rfl
  case h_14 => rfl
  all_goals exact ⟨family, ‹_›, ‹_›, rfl⟩

/-- A word is the word of the instruction that it is decoded to. -/
theorem spelledBy_decode (mode : Mode) (word : Word) : (word.decode mode).SpelledBy mode word := by
  rw [decode_eq_byFamily]
  unfold decodeByFamily
  split
  case h_1 family =>
    split
    · exact spelledBy_decodeSystem family ‹_›
    · rfl
  case h_6 family =>
    split
    · exact ⟨family, ‹_›, rfl, rfl⟩
    · rfl
  case h_9 family => exact spelledBy_decodeArithmetic family
  case h_10 family =>
    split
    · exact ⟨family, ‹_›, rfl, rfl⟩
    · rfl
  case h_14 family =>
    split
    · rename_i wide
      exact ⟨wide.1, family, wide.2, rfl, rfl⟩
    · exact ⟨family, ‹_›, rfl, rfl, rfl⟩
  case h_15 family => exact spelledBy_decodeKey family
  case h_16 => exact spelledBy_decodeDevice (by grind)
  case h_2 family => exact ⟨family, rfl⟩
  case h_3 family => exact ⟨family, rfl⟩
  case h_11 family => exact ⟨family, rfl⟩
  all_goals exact ⟨‹_›, rfl, rfl⟩

theorem spelledBy_of_decode {instruction : Instruction} (decoded : word.decode mode = instruction) :
    instruction.SpelledBy mode word := by
  rw [← decoded]
  exact spelledBy_decode mode word

/-- What spells an instruction is decoded to it. -/
theorem decode_of_spelledBy {instruction : Instruction} (spelled : instruction.SpelledBy mode word)
    (legal : instruction ≠ illegal word) : word.decode mode = instruction := by
  rw [decode_eq_byFamily]
  cases instruction with
  | illegal other => exact absurd (congrArg illegal spelled) legal
  | clearScreen | ret | guard =>
    subst spelled
    rfl
  | scrollRight | scrollLeft | exit | lowResolution | highResolution =>
    obtain ⟨rfl, rfl⟩ := spelled
    rfl
  | saveFlags x | loadFlags x =>
    obtain ⟨rfl, family, y, n, rfl, few⟩ := spelled
    simp only [decodeByFamily, decodeDevice, family, y, n, few, and_self, if_true]
  | _ =>
    simp only [SpelledBy] at spelled
    simp [decodeByFamily, decodeSystem, decodeArithmetic, decodeKey, decodeDevice, spelled]

end Word

end SuperChip
