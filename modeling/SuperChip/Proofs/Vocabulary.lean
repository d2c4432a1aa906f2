import SuperChip.Proofs.Spelling

set_option autoImplicit false

namespace SuperChip

namespace Word

/-- Whether a word belongs to the basic instruction set. -/
def isBasic (word : Word) : Bool :=
  match word.family with
  | 0x0 =>
    match word.x, word.y, word.n with
    | 0x0, 0xE, 0x0 | 0x0, 0xE, 0xE => true
    | _, _, _ => false
  | 0x5 | 0x9 => word.n == 0x0
  | 0x8 => word.n ≤ 0x7 || word.n == 0xE
  | 0xE =>
    match word.y, word.n with
    | 0x9, 0xE | 0xA, 0x1 => true
    | _, _ => false
  | 0xF =>
    match word.y, word.n with
    | 0x0, 0x7 | 0x0, 0xA | 0x1, 0x5 | 0x1, 0x8 | 0x1, 0xE | 0x2, 0x9 | 0x3, 0x3 | 0x5, 0x5
    | 0x6, 0x5 => true
    | _, _ => false
  | _ => true

/-- Whether Super-CHIP adds a word to the basic instruction set, or gives it another meaning. -/
def isAdded (word : Word) : Bool :=
  match word.family with
  | 0x0 => word.x == 0x0 && (word.y == 0xC || word.y == 0xF && 0xB ≤ word.n)
  | 0xD => word.n == 0x0
  | 0xF =>
    match word.y, word.n with
    | 0x3, 0x0 => true
    | 0x7, 0x5 | 0x8, 0x5 => word.x ≤ 0x7
    | _, _ => false
  | _ => false

end Word

/-- Whether an instruction set defines a word. The guard's word is not defined. -/
def Mode.defines : Mode → Word → Bool
  | chip8, word => word.isBasic
  | superChip, word => word.isBasic || word.isAdded

namespace Mode

theorem defines_ret (mode : Mode) : mode.defines 0x00EE = true := by cases mode <;> rfl

theorem defines_guard (mode : Mode) : mode.defines 0xFFFF = false := by cases mode <;> rfl

theorem defines_call (mode : Mode) {word : Word} (family : word.family = 2) :
    mode.defines word = true := by
  cases mode <;> simp only [defines, Word.isBasic, family, Bool.true_or]

end Mode

namespace Instruction

/-- Whether there is a state in which an instruction fails. -/
def mayFail : Instruction → Bool
  | ret | guard | call _ | illegal _ => true
  | _ => false

/-- Whether only Super-CHIP has an instruction. -/
def isExtended : Instruction → Bool
  | scrollDown _ | scrollRight | scrollLeft | exit | lowResolution | highResolution
  | drawWide _ _ | bigGlyph _ | saveFlags _ | loadFlags _ => true
  | _ => false

end Instruction

namespace Word

open Instruction

/-- Which words may fail, and what they are decoded to. -/
theorem decode_kinds (mode : Mode) (word : Word) :
    (word = 0x00EE ∧ word.decode mode = ret) ∨
    (word.family = 2 ∧ word.decode mode = call word.address) ∨
    (word = 0xFFFF ∧ word.decode mode = guard) ∨
    (mode.defines word = false ∧ word ≠ 0xFFFF ∧ word.decode mode = illegal word) ∨
    (mode.defines word = true ∧ (word.decode mode).mayFail = false) := by
  rw [word.eq_iff_nibbles 0x00EE, Ne, word.eq_iff_nibbles 0xFFFF, decode_eq_byFamily]
  change (word.family = 0 ∧ word.x = 0 ∧ word.y = 14 ∧ word.n = 14) ∧ _ ∨ _ ∨
    (word.family = 15 ∧ word.x = 15 ∧ word.y = 15 ∧ word.n = 15) ∧ _ ∨
    _ ∧ ¬ (word.family = 15 ∧ word.x = 15 ∧ word.y = 15 ∧ word.n = 15) ∧ _ ∨ _
  unfold decodeByFamily
  split
  case h_1 family =>
    split
    · rename_i x
      unfold decodeSystem
      split
      all_goals cases mode <;> simp [Mode.defines, isBasic, isAdded, mayFail, *]
      all_goals grind
    · cases mode <;> simp [Mode.defines, isBasic, isAdded, *]
  case h_9 family =>
    unfold decodeArithmetic
    split
    all_goals cases mode <;> simp [Mode.defines, isBasic, isAdded, mayFail, *]
    all_goals grind
  case h_15 family =>
    unfold decodeKey
    split
    all_goals cases mode <;> simp [Mode.defines, isBasic, isAdded, mayFail, *]
  case h_16 =>
    have family : word.family = 15 := by grind
    unfold decodeDevice
    split
    all_goals cases mode <;> simp [Mode.defines, isBasic, isAdded, mayFail, *]
    all_goals grind
  all_goals rename_i family
  all_goals cases mode <;> simp [Mode.defines, isBasic, isAdded, mayFail, family]
  all_goals by_cases n : word.n = 0 <;> simp [n]

theorem decode_ret (mode : Mode) : decode mode 0x00EE = ret := by cases mode <;> rfl

theorem decode_guard (mode : Mode) : decode mode 0xFFFF = guard := by cases mode <;> rfl

theorem decode_call (mode : Mode) {word : Word} (family : word.family = 2) :
    word.decode mode = call word.address := by
  simp only [decode_eq_byFamily, decodeByFamily, family]

theorem decode_random (mode : Mode) {word : Word} (family : word.family = 12) :
    word.decode mode = random word.x word.byte := by
  simp only [decode_eq_byFamily, decodeByFamily, family]

/-- The one word of the basic set that Super-CHIP reads otherwise is the sprite of no rows. -/
theorem decode_draw (mode : Mode) {word : Word} (family : word.family = 13) :
    word.decode mode =
      if mode = .superChip ∧ word.n = 0 then drawWide word.x word.y
      else draw word.x word.y word.n := by
  simp only [decode_eq_byFamily, decodeByFamily, family]

/-- The word of a key request names the register that the key is for. -/
theorem toNat_of_awaitKey {mode : Mode} {word : Word} {x : Register}
    (decoded : word.decode mode = awaitKey x) : word.toNat = 0xF00A + 256 * x.val := by
  obtain ⟨family, y, n, rfl⟩ := spelledBy_of_decode decoded
  rw [toNat_eq_nibbles, family, y, n]
  change 4096 * 15 + 256 * word.x.val + 16 * 0 + 10 = 0xF00A + 256 * word.x.val
  omega

theorem family_of_random {mode : Mode} {word : Word} {x : Register} {mask : UInt8}
    (decoded : word.decode mode = random x mask) : word.family = 12 :=
  (spelledBy_of_decode decoded).1

/-- Only Super-CHIP has an exit, and it has one word. -/
theorem eq_of_exit {mode : Mode} {word : Word} (decoded : word.decode mode = exit) :
    mode = .superChip ∧ word = 0x00FD :=
  spelledBy_of_decode decoded

/-- The two instruction sets read a word alike exactly if Super-CHIP does not add it. -/
theorem decode_eq_iff (word : Word) :
    word.decode .chip8 = word.decode .superChip ↔ word.isAdded = false := by
  simp only [decode_eq_byFamily, decodeByFamily, decodeSystem, decodeDevice, isAdded, reduceCtorEq,
    false_and, true_and, if_false, if_true]
  -- The two sets differ in the families 0, D and F only.
  split
  case h_1 family =>
    split
    · split <;> simp [*]
      all_goals grind
    · simp [*]
  case h_14 family =>
    by_cases n : word.n = 0 <;> simp [n, family]
  case h_16 =>
    have family : word.family = 15 := by grind
    split <;> simp [*]
  all_goals simp [*]

/-- The words that Super-CHIP adds are illegal in the basic set, where only the wide sprite has
another meaning. -/
theorem decode_of_added {word : Word} (added : word.isAdded = true) (other : word.family ≠ 0xD) :
    word.decode .chip8 = illegal word := by
  simp only [decode_eq_byFamily, decodeByFamily, decodeSystem, decodeDevice, reduceCtorEq,
    false_and, if_false]
  simp only [isAdded] at added
  split at added
  · rename_i family
    simp only [family]
    grind
  · contradiction
  · grind
  · cases added

theorem isExtended_decode_chip8 (word : Word) : (word.decode .chip8).isExtended = false := by
  simp only [decode_eq_byFamily, decodeByFamily, decodeSystem, decodeArithmetic, decodeKey,
    decodeDevice, reduceCtorEq, false_and, if_false]
  repeat' split
  all_goals rfl

end Word

end SuperChip
