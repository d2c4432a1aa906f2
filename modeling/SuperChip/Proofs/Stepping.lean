import SuperChip.Machine
import SuperChip.Proofs.Dispatch.Agreement
import SuperChip.Proofs.Execution
import SuperChip.Proofs.Spelling

set_option autoImplicit false

namespace SuperChip

/-- The outcome of a step whose instruction asks the host for something. -/
def Effect.outcome : Effect → Outcome
  | next => .proceeded
  | redraw => .displayUpdated
  | awaitKey _ => .awaitingKey
  | exit => .exited

/-- A step that asks the host for nothing and leaves a state with a property. -/
structure Step.Proceeds (step : Step) (P : State → Prop) : Prop where
  outcome : step.outcome = .ok .proceeded
  state : P step.machine.state

/-- The answer to every step of a machine that stands still. -/
def Status.answer? : Status → Option (Except MachineError Outcome)
  | running => none
  | awaitingKey _ => some (.ok .awaitingKey)
  | halted fault => some (.error fault.error)
  | exited => some (.ok .exited)

theorem Status.answer?_eq_none_iff (status : Status) :
    status.answer? = none ↔ status = .running := by
  cases status <;> simp [answer?]

namespace Machine

def word (machine : Machine) : Word := machine.state.fetch machine.state.pc

def instruction (machine : Machine) : Instruction := machine.word.decode machine.state.mode

/-- How a machine stands after an instruction that it ran. -/
def statusAfter (machine : Machine) : Except MachineError Effect → Status
  | .ok (.awaitKey x) => .awaitingKey x
  | .ok .exit => .exited
  | .ok _ => machine.status
  | .error error => .halted ⟨error, machine.word, machine.state.pc⟩

variable (machine : Machine) (held : Held)

theorem result_of_exited {machine : Machine} {result : Except MachineError Effect}
    (exited : machine.statusAfter result = .exited) (unended : machine.status ≠ .exited) :
    result = .ok .exit := by
  unfold statusAfter at exited
  split at exited
  · cases exited
  · rfl
  · exact absurd exited unended
  · cases exited

theorem runInstruction_machine :
    (machine.runInstruction held).machine =
      { machine with
        state := (machine.instruction.execute machine.state held).state
        status := machine.statusAfter (machine.instruction.execute machine.state held).result
        lastWord := machine.word } := by
  have folded : (machine.state.fetch machine.state.pc).decode machine.state.mode =
    machine.instruction := rfl
  simp only [runInstruction, Strategy.resolve_eq, folded]
  cases (machine.instruction.execute machine.state held).result with
  | error error => rfl
  | ok effect => cases effect <;> rfl

theorem runInstruction_outcome :
    (machine.runInstruction held).outcome =
      (machine.instruction.execute machine.state held).result.map Effect.outcome := by
  have folded : (machine.state.fetch machine.state.pc).decode machine.state.mode =
    machine.instruction := rfl
  simp only [runInstruction, Strategy.resolve_eq, folded]
  cases (machine.instruction.execute machine.state held).result with
  | error error => rfl
  | ok effect => cases effect <;> rfl

theorem runInstruction_events :
    (machine.runInstruction held).events =
      .fetched machine.state.pc machine.word machine.instruction.mnemonic ::
        match (machine.instruction.execute machine.state held).result with
        | .ok .exit => [.exited machine.state.pc]
        | .error error => [.halted ⟨error, machine.word, machine.state.pc⟩]
        | _ => [] := by
  have folded : (machine.state.fetch machine.state.pc).decode machine.state.mode =
    machine.instruction := rfl
  simp only [runInstruction, Strategy.resolve_eq, folded]
  cases (machine.instruction.execute machine.state held).result with
  | error error => rfl
  | ok effect => cases effect <;> rfl

/-- An instruction reports the fetch of the word it was read from, and no other fetch. -/
theorem forall_fetched_iff (P : Word → Prop) :
    (∀ event ∈ (machine.runInstruction held).events,
      ∀ pc word mnemonic, event = .fetched pc word mnemonic → P word) ↔ P machine.word := by
  rw [runInstruction_events, List.forall_mem_cons]
  constructor
  · rintro ⟨fetched, _⟩
    exact fetched _ _ _ rfl
  · intro holds
    refine ⟨?_, ?_⟩
    · rintro _ _ _ ⟨⟩
      exact holds
    · split
      all_goals simp

variable {machine}

theorem step_of_running (running : machine.status = .running) :
    machine.step held = machine.runInstruction held := by
  simp only [step, running]

theorem outcome_of_standing {answer : Except MachineError Outcome}
    (standing : machine.status.answer? = some answer) : (machine.step held).outcome = answer := by
  unfold step
  cases status : machine.status with
  | running =>
    rw [status] at standing
    cases standing
  | _ =>
    rw [status] at standing
    exact Option.some.inj standing

/-- A running machine goes on running after an instruction that asks for nothing but a picture. -/
theorem step_of_going {state : State} {effect : Effect} (running : machine.status = .running)
    (executed : machine.instruction.execute machine.state held = ⟨state, .ok effect⟩)
    (goes : effect = .next ∨ effect = .redraw) :
    (machine.step held).machine =
      { machine with state, status := .running, lastWord := machine.word } := by
  rw [step_of_running held running, runInstruction_machine, executed]
  rcases goes with rfl | rfl <;> simp only [statusAfter, running]

/-- A step of a running machine leaves what the instruction leaves that its word spells. -/
theorem proceeds_of_spelledBy (running : machine.status = .running) (instruction : Instruction)
    {P : State → Prop}
    (spelled : instruction.SpelledBy machine.state.mode machine.word)
    (result : (instruction.execute machine.state held).result = .ok .next)
    (holds : P (instruction.execute machine.state held).state) :
    (machine.step held).Proceeds P := by
  have legal : instruction ≠ .illegal machine.word := by
    rintro rfl
    cases result
  have decoded : machine.instruction = instruction := Word.decode_of_spelledBy spelled legal
  constructor
  · rw [step_of_running held running, runInstruction_outcome, decoded, result]
    rfl
  · rw [step_of_running held running, runInstruction_machine, decoded]
    exact holds

/-- A running machine fails a step exactly if the instruction at its program counter fails. -/
theorem outcome_eq_error_iff (running : machine.status = .running) (error : MachineError) :
    (machine.step held).outcome = .error error ↔
      machine.instruction.failure? machine.state = some error := by
  rw [step_of_running held running, runInstruction_outcome]
  cases failure : machine.instruction.failure? machine.state with
  | some cause =>
    rw [Instruction.execute_of_failure failure]
    simp [Except.map]
  | none =>
    obtain ⟨effect, result⟩ := (Instruction.does_execute failure held).result_ok
    rw [result]
    simp [Except.map]

/-- A step that fails leaves the state as it is. -/
theorem state_of_error {error : MachineError} (running : machine.status = .running)
    (failed : (machine.step held).outcome = .error error) :
    (machine.step held).machine.state = machine.state := by
  have failure := (outcome_eq_error_iff held running error).mp failed
  rw [step_of_running held running, runInstruction_machine, Instruction.execute_of_failure failure]

theorem step_of_standing (standing : machine.status ≠ .running) :
    (machine.step held).machine = machine := by
  unfold step
  split
  · contradiction
  all_goals rfl

variable (machine)

/-- How a machine stands after a step tells the outcome of the step, unless it goes on running. -/
theorem step_answers :
    match (machine.step held).machine.status.answer? with
    | some answer => (machine.step held).outcome = answer
    | none => (machine.step held).outcome = .ok .proceeded ∨
        (machine.step held).outcome = .ok .displayUpdated := by
  by_cases running : machine.status = .running
  · rw [step_of_running held running, runInstruction_machine, runInstruction_outcome]
    cases (machine.instruction.execute machine.state held).result with
    | error error => rfl
    | ok effect =>
      cases effect with
      | next =>
        simp only [statusAfter, running]
        exact .inl rfl
      | redraw =>
        simp only [statusAfter, running]
        exact .inr rfl
      | awaitKey x => rfl
      | exit => rfl
  · rw [step_of_standing held running]
    cases answer : machine.status.answer? with
    | some _ => exact outcome_of_standing held answer
    | none =>
      cases status : machine.status with
      | running => exact absurd status running
      | _ =>
        rw [status] at answer
        cases answer

end Machine

end SuperChip
