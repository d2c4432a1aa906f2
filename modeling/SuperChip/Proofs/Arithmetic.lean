import SuperChip.Proofs.Building
import SuperChip.Proofs.Stepping

set_option autoImplicit false

namespace SuperChip

theorem toNat_difference (left right : UInt8) :
    ((left - right).toNat : Int) = (left.toNat - right.toNat : Int) % 256 := by
  have bound := right.toNat_lt
  rw [UInt8.toNat_sub]
  omega

namespace State

variable (before : State)

/-- What a word that computes a result and a flag makes of a state. The result is lost if it was meant
for register 15. -/
structure Computes (x : Register) (result : Int) (flag : Bool) (after : State) : Prop where
  flag : after.register 15 = if flag then 1 else 0
  result : x ≠ 15 → (after.register x).toNat = result
  others : ∀ r, r ≠ x → r ≠ 15 → after.register r = before.register r
  rest : after = { before with registers := after.registers, pc := before.pc + 2 }

/-- What a word that sets one register makes of a state. -/
structure Sets (x : Register) (value : UInt8) (after : State) : Prop where
  value : after.register x = value
  others : ∀ r, r ≠ x → after.register r = before.register r
  rest : after = { before with registers := after.registers, pc := before.pc + 2 }

theorem computes_setResult (x : Register) {value : UInt8} {bit flag : Bool} {result : Int}
    (same : value.toNat = result) (told : bit = flag) :
    before.Computes x result flag (before.setResult x value bit).next.state := by
  subst told
  have register (r : Register) := before.register_setResult x r value bit
  constructor
  · exact (register 15).trans (if_pos rfl)
  · intro other
    rw [← same]
    have kept := (register x).trans ((if_neg other).trans (if_pos rfl))
    exact congrArg (fun byte : UInt8 => (byte.toNat : Int)) kept
  · intro r other unflagged
    exact (register r).trans ((if_neg unflagged).trans (if_neg other))
  · rfl

theorem sets_setRegister (x : Register) (value : UInt8) :
    before.Sets x value (before.setRegister x value).next.state where
  value := (before.register_setRegister x x value).trans (if_pos rfl)
  others r other := (before.register_setRegister x r value).trans (if_neg other)
  rest := rfl

variable (x y : Register)

/-- The flag of a sum is the carry. -/
theorem computes_add :
    before.Computes x (((before.register x).toNat + (before.register y).toNat : Int) % 256)
      (255 < ((before.register x).toNat + (before.register y).toNat : Int)) (before.add x y).state := by
  apply before.computes_setResult x
  · rw [UInt8.toNat_add]
    omega
  · exact decide_eq_decide.mpr (by omega)

/-- The flag of a difference tells that nothing was borrowed. -/
theorem computes_subtract :
    before.Computes x (((before.register x).toNat - (before.register y).toNat : Int) % 256)
      ((before.register y).toNat ≤ ((before.register x).toNat : Int)) (before.subtract x y).state := by
  apply before.computes_setResult x (toNat_difference _ _)
  exact decide_eq_decide.mpr (by omega)

theorem computes_subtractFrom :
    before.Computes x (((before.register y).toNat - (before.register x).toNat : Int) % 256)
      ((before.register x).toNat ≤ ((before.register y).toNat : Int))
      (before.subtractFrom x y).state := by
  apply before.computes_setResult x (toNat_difference _ _)
  exact decide_eq_decide.mpr (by omega)

theorem toNat_shiftOperand :
    ((before.shiftOperand x y).toNat : Int) =
      if before.compatibility.shiftUsesVY then ((before.register y).toNat : Int)
      else (before.register x).toNat := by
  unfold shiftOperand
  split <;> rfl

/-- The flag of a half is the bit shifted out. -/
theorem computes_shiftRight :
    before.Computes x ((before.shiftOperand x y).toNat / 2)
      (((before.shiftOperand x y).toNat : Int) % 2 = 1) (before.shiftRight x y).state := by
  apply before.computes_setResult x
  · rw [UInt8.toNat_shiftRight]
    exact congrArg Nat.cast (Nat.shiftRight_eq_div_pow _ 1)
  · rw [Bool.eq_iff_iff, beq_iff_eq, decide_eq_true_iff]
    omega

/-- The flag of a double is the bit shifted out. -/
theorem computes_shiftLeft :
    before.Computes x (2 * (before.shiftOperand x y).toNat % 256)
      (128 ≤ ((before.shiftOperand x y).toNat : Int)) (before.shiftLeft x y).state := by
  apply before.computes_setResult x
  · rw [UInt8.toNat_shiftLeft]
    have doubled := Nat.shiftLeft_eq (before.shiftOperand x y).toNat 1
    change (((before.shiftOperand x y).toNat <<< 1 % 256 : Nat) : Int) = _
    omega
  · exact decide_eq_decide.mpr (by omega)

end State

namespace Machine

/-- What the words of families 7 and 8 make of a state, whichever registers they name. The operands are
the ones from before the word. The flag of a sum is the carry, the flag of a difference tells that
nothing was borrowed, and the flag of a shift is the bit shifted out. The other words leave register
15 alone unless it is the one they set. -/
theorem arithmetic_flagged (machine : Machine) (held : Held) (running : machine.status = .running) :
    let state := machine.state
    let word := machine.word
    let a : Int := (state.register word.x).toNat
    let b : Int := (state.register word.y).toNat
    let s : Int := if state.compatibility.shiftUsesVY then b else a
    let step := machine.step held
    (word.family = 0x8 →
      (word.n = 0x0 → step.Proceeds (state.Sets word.x (state.register word.y))) ∧
      (word.n = 0x1 →
        step.Proceeds (state.Sets word.x (state.register word.x ||| state.register word.y))) ∧
      (word.n = 0x2 →
        step.Proceeds (state.Sets word.x (state.register word.x &&& state.register word.y))) ∧
      (word.n = 0x3 →
        step.Proceeds (state.Sets word.x (state.register word.x ^^^ state.register word.y))) ∧
      (word.n = 0x4 → step.Proceeds (state.Computes word.x ((a + b) % 256) (255 < a + b))) ∧
      (word.n = 0x5 → step.Proceeds (state.Computes word.x ((a - b) % 256) (b ≤ a))) ∧
      (word.n = 0x6 → step.Proceeds (state.Computes word.x (s / 2) (s % 2 = 1))) ∧
      (word.n = 0x7 → step.Proceeds (state.Computes word.x ((b - a) % 256) (a ≤ b))) ∧
      (word.n = 0xE → step.Proceeds (state.Computes word.x (2 * s % 256) (128 ≤ s)))) ∧
    (word.family = 0x7 →
      step.Proceeds (state.Sets word.x (state.register word.x + word.byte))) := by
  intro state word a b s step
  have shifted : s = (state.shiftOperand word.x word.y).toNat :=
    (state.toNat_shiftOperand word.x word.y).symm
  rw [shifted]
  have proceeds (instruction : Instruction) {P : State → Prop} :=
    proceeds_of_spelledBy held running instruction (P := P)
  constructor
  · intro family
    refine ⟨?copy, ?or, ?and, ?xor, ?add, ?subtract, ?shiftRight, ?subtractFrom, ?shiftLeft⟩
    all_goals intro n
    case copy =>
      apply proceeds (.copy word.x word.y) ⟨family, n, rfl, rfl⟩ rfl
      exact state.sets_setRegister word.x _
    case or =>
      apply proceeds (.or word.x word.y) ⟨family, n, rfl, rfl⟩ rfl
      exact state.sets_setRegister word.x _
    case and =>
      apply proceeds (.and word.x word.y) ⟨family, n, rfl, rfl⟩ rfl
      exact state.sets_setRegister word.x _
    case xor =>
      apply proceeds (.xor word.x word.y) ⟨family, n, rfl, rfl⟩ rfl
      exact state.sets_setRegister word.x _
    case add =>
      apply proceeds (.add word.x word.y) ⟨family, n, rfl, rfl⟩ rfl
      exact state.computes_add word.x word.y
    case subtract =>
      apply proceeds (.subtract word.x word.y) ⟨family, n, rfl, rfl⟩ rfl
      exact state.computes_subtract word.x word.y
    case shiftRight =>
      apply proceeds (.shiftRight word.x word.y) ⟨family, n, rfl, rfl⟩ rfl
      exact state.computes_shiftRight word.x word.y
    case subtractFrom =>
      apply proceeds (.subtractFrom word.x word.y) ⟨family, n, rfl, rfl⟩ rfl
      exact state.computes_subtractFrom word.x word.y
    case shiftLeft =>
      apply proceeds (.shiftLeft word.x word.y) ⟨family, n, rfl, rfl⟩ rfl
      exact state.computes_shiftLeft word.x word.y
  · intro family
    apply proceeds (.addByte word.x word.byte) ⟨family, rfl, rfl⟩ rfl
    exact state.sets_setRegister _ _

/-- Register 15 added to itself ends as the carry, and the sum is lost. -/
theorem arithmetic_flagged_onto_flag :
    ∃ machine : Machine, machine.status = .running ∧ machine.word = 0x8FF4 ∧
      machine.state.register 15 = 200 ∧ ∀ held, (machine.step held).Proceeds fun after =>
        after.register 15 = 1 ∧ after.register 0 = machine.state.register 0 := by
  obtain ⟨start, events, success⟩ :
      ∃ machine events, build { program := #[0x8F, 0xF4] } = .ok (machine, events) := ⟨_, _, rfl⟩
  have running := running_of_build success
  have word : start.word = 0x8FF4 := word_of_build success
  let machine : Machine := { start with state := start.state.setRegister 15 200 }
  have operand : machine.state.register 15 = 200 := start.state.register_setRegister 15 15 200
  refine ⟨machine, running, word, operand, fun held => ?_⟩
  have family : machine.word.family = 0x8 := congrArg Word.family word
  have n : machine.word.n = 0x4 := congrArg Word.n word
  obtain ⟨_, _, _, _, add, _⟩ := (arithmetic_flagged machine held running).1 family
  obtain ⟨outcome, summed⟩ := add n
  have x : machine.word.x = 15 := congrArg Word.x word
  have y : machine.word.y = 15 := congrArg Word.y word
  rw [x, y, operand] at summed
  exact ⟨outcome, summed.flag, summed.others 0 (by decide) (by decide)⟩

end Machine

end SuperChip
