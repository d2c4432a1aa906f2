import SuperChip.Proofs.Stepping

set_option autoImplicit false

namespace SuperChip

/-- Why the word `word` makes an instruction set fail in a state, if it does. -/
inductive Word.FailsWith (word : Word) (state : State) : MachineError → Prop where
  | underflow (ret : word = 0x00EE) (empty : state.stack.depth = 0) :
      FailsWith word state (.stackUnderflow state.pc)
  | overflow (call : word.family = 2) (full : state.stack.depth = 16) :
      FailsWith word state (.stackOverflow state.pc)
  | guard (last : word = 0xFFFF) (behind : 0x1000 ≤ state.pc.toNat) :
      FailsWith word state (.flowGuard state.pc)
  | illegal (undefined : state.mode.defines word = false)
      (other : ¬ (word = 0xFFFF ∧ 0x1000 ≤ state.pc.toNat)) :
      FailsWith word state (.illegalWord word state.pc)

namespace Word

theorem failure?_decode_iff (word : Word) (state : State) (error : MachineError) :
    (word.decode state.mode).failure? state = some error ↔ word.FailsWith state error := by
  constructor
  · intro failure
    rcases word.decode_kinds state.mode with ⟨ret, decoded⟩ | ⟨call, decoded⟩ | ⟨last, decoded⟩ |
      ⟨undefined, other, decoded⟩ | ⟨_, safe⟩
    · simp only [decoded, Instruction.failure?, Option.ite_none_right_eq_some,
        Option.some.injEq] at failure
      obtain ⟨empty, rfl⟩ := failure
      exact .underflow ret empty
    · simp only [decoded, Instruction.failure?, Option.ite_none_right_eq_some,
        Option.some.injEq] at failure
      obtain ⟨full, rfl⟩ := failure
      exact .overflow call full
    · rw [decoded] at failure
      simp only [Instruction.failure?] at failure
      split at failure <;> cases failure
      · exact .guard last ‹_›
      · rename_i before
        rw [← last]
        refine .illegal ?_ fun behind => before behind.2
        rw [last]
        exact state.mode.defines_guard
    · rw [decoded] at failure
      cases failure
      exact .illegal undefined fun behind => other behind.1
    · cases decoded : word.decode state.mode <;> simp_all [Instruction.mayFail, Instruction.failure?]
  · intro fails
    cases fails with
    | underflow ret empty =>
      rw [ret, decode_ret]
      simp only [Instruction.failure?, empty, if_true]
    | overflow call full =>
      rw [decode_call _ call]
      simp only [Instruction.failure?, full, if_true]
    | guard last behind =>
      rw [last, decode_guard]
      simp only [Instruction.failure?, behind, if_true]
    | illegal undefined other =>
      rcases word.decode_kinds state.mode with ⟨ret, _⟩ | ⟨call, _⟩ | ⟨last, decoded⟩ |
        ⟨_, _, decoded⟩ | ⟨defined, _⟩
      · rw [ret, Mode.defines_ret] at undefined
        cases undefined
      · rw [Mode.defines_call _ call] at undefined
        cases undefined
      · have before : ¬ 0x1000 ≤ state.pc.toNat := fun behind => other ⟨last, behind⟩
        rw [decoded, last]
        simp only [Instruction.failure?, before, if_false]
      · rw [decoded]
        rfl
      · rw [defined] at undefined
        cases undefined

end Word

namespace Machine

/-- A step that fails leaves every register, the memory, the stack, the screen, the timers, the flags
and the generator as they are, and halts the machine with a record of the failure. It fails exactly
on a return from an empty stack, a call with a full stack, the guard's word behind memory, and any
other word that is not defined. -/
theorem step_fault (machine : Machine) (held : Held) (running : machine.status = .running) :
    (∀ error, (machine.step held).outcome = .error error →
      (machine.step held).machine =
        { machine with
          status := .halted ⟨error, machine.word, machine.state.pc⟩
          lastWord := machine.word }) ∧
    ∀ error, (machine.step held).outcome = .error error ↔
      machine.word.FailsWith machine.state error := by
  simp only [step_of_running held running, runInstruction_machine, runInstruction_outcome,
    ← Word.failure?_decode_iff]
  change (∀ error, _ → _) ∧ ∀ error, _ ↔ machine.instruction.failure? machine.state = some error
  cases failure : machine.instruction.failure? machine.state with
  | some cause =>
    rw [Instruction.execute_of_failure failure]
    constructor
    · intro error failed
      cases failed
      rfl
    · intro error
      simp [Except.map]
  | none =>
    obtain ⟨effect, result⟩ := (Instruction.does_execute failure held).result_ok
    rw [result]
    constructor
    · intro error failed
      cases failed
    · intro error
      simp [Except.map]

theorem step_fault_past_memory :
    let state := { State.powerOn .chip8 (.ofMode .chip8) .wrap none with pc := 0x2000 }
    let machine : Machine := ⟨state, .interpreter, .running, #[0x12, 0x00], 0⟩
    (machine.step fun _ => false).outcome = .error (.flowGuard 0x2000) ∧
      (machine.step fun _ => false).machine.state = state := by
  intro state machine
  have faults := machine.step_fault (fun _ => false) rfl
  have failed := (faults.2 (.flowGuard 0x2000)).mpr (.guard (by decide) (by decide))
  refine ⟨failed, ?_⟩
  rw [faults.1 _ failed]

end Machine

end SuperChip
