import SuperChip.Proofs.Building
import SuperChip.Proofs.Faults
import SuperChip.Proofs.Reachable

set_option autoImplicit false

namespace SuperChip

namespace MachineError

/-- Where the error of an instruction arose. -/
def pc? : MachineError → Option UInt16
  | stackOverflow pc | stackUnderflow pc | illegalWord _ pc | flowGuard pc => some pc
  | _ => none

/-- The word that an error names. -/
def word? : MachineError → Option Word
  | illegalWord word _ => some word
  | _ => none

end MachineError

theorem Word.FailsWith.names {word : Word} {state : State} {error : MachineError}
    (fails : word.FailsWith state error) :
    error.pc? = some state.pc ∧ ∀ named, error.word? = some named → named = word := by
  cases fails with
  | illegal undefined other => exact ⟨rfl, fun _ named => (Option.some.inj named).symm⟩
  | _ => exact ⟨rfl, fun _ named => by cases named⟩

namespace Instruction

theorem Does.of_awaitKey {state : State} {instruction : Instruction} {executed : Executed}
    {x : Register} (does : instruction.Does state executed)
    (awaits : executed.result = .ok (.awaitKey x)) :
    instruction = awaitKey x ∧ executed.state = state := by
  cases does with
  | awaits y =>
    cases awaits
    exact ⟨rfl, rfl⟩
  | _ => cases awaits

theorem Does.of_exit {state : State} {instruction : Instruction} {executed : Executed}
    (does : instruction.Does state executed) (exits : executed.result = .ok .exit) :
    instruction = exit ∧ executed.state = state := by
  cases does with
  | exits => exact ⟨rfl, rfl⟩
  | _ => cases exits

theorem failure?_withTimers (instruction : Instruction) (state : State) (timers : Timers) :
    instruction.failure? { state with timers } = instruction.failure? state := by
  cases instruction <;> rfl

end Instruction

namespace Machine

/-- Whether the instruction at the program counter accounts for a status. -/
inductive Warrants (machine : Machine) : Status → Prop where
  | running : Warrants machine .running
  | awaiting {x : Register} (last : machine.lastWord = machine.word)
      (asks : machine.instruction = .awaitKey x) : Warrants machine (.awaitingKey x)
  | halted {error : MachineError} (last : machine.lastWord = machine.word)
      (fails : machine.instruction.failure? machine.state = some error) :
      Warrants machine (.halted ⟨error, machine.word, machine.state.pc⟩)
  | exited (last : machine.lastWord = machine.word) (ends : machine.instruction = .exit) :
      Warrants machine .exited

variable {c : Configuration} {machine : Machine}

theorem Warrants.withTimers {status : Status} (warrants : machine.Warrants status)
    (timers : Timers) : (machine.withTimers timers).Warrants status := by
  cases warrants with
  | running => exact .running
  | awaiting last asks => exact .awaiting last asks
  | halted last fails =>
    have same := machine.instruction.failure?_withTimers machine.state timers
    exact @halted (machine.withTimers timers) _ last (same.trans fails)
  | exited last ends => exact .exited last ends

/-- A step of a running machine leads to a status that the instruction accounts for: it asked for a
key, failed or ended the program, and left the state as it was, or the machine goes on running. -/
theorem warrants_runInstruction (running : machine.status = .running) (held : Held) :
    (machine.runInstruction held).machine.Warrants (machine.runInstruction held).machine.status := by
  rw [runInstruction_machine]
  cases failure : machine.instruction.failure? machine.state with
  | some error =>
    rw [Instruction.execute_of_failure failure]
    exact .halted rfl failure
  | none =>
    have does := Instruction.does_execute failure held
    obtain ⟨effect, result⟩ := does.result_ok
    rw [result]
    cases effect with
    | next =>
      simp only [statusAfter, running]
      exact .running
    | redraw =>
      simp only [statusAfter, running]
      exact .running
    | awaitKey x =>
      obtain ⟨asks, same⟩ := does.of_awaitKey result
      rw [same]
      exact .awaiting rfl asks
    | exit =>
      obtain ⟨ends, same⟩ := does.of_exit result
      rw [same]
      exact .exited rfl ends

theorem warrants_of_reachable (reachable : Reachable c machine) :
    machine.Warrants machine.status := by
  apply Reachable.keeps (P := fun machine => machine.Warrants machine.status) _ _ _ _ _ reachable
  · intro machine events success
    rw [running_of_build success]
    exact .running
  · intro machine held _ warrants
    by_cases running : machine.status = .running
    · rw [step_of_running held running]
      exact warrants_runInstruction running held
    · rw [step_of_standing held running]
      exact warrants
  · intro machine key _ warrants
    unfold resume
    split
    · exact .running
    · exact warrants
  · intro machine timers _ warrants
    exact warrants.withTimers timers
  · intro machine next events _ _ success
    obtain ⟨state, _, rfl⟩ := of_reset success
    exact .running

/-- Only the instruction at its program counter makes a machine fail a step, also when it has failed
before. -/
theorem Warrants.failure_of_outcome (warrants : machine.Warrants machine.status) {held : Held}
    {error : MachineError} (failed : (machine.step held).outcome = .error error) :
    machine.instruction.failure? machine.state = some error := by
  by_cases running : machine.status = .running
  · exact (outcome_eq_error_iff held running error).mp failed
  · generalize status : machine.status = standing at warrants
    cases warrants with
    | running => exact absurd status running
    | halted last fails =>
      simp only [step, status, Except.error.injEq] at failed
      rw [← failed]
      exact fails
    | _ => simp [step, status] at failed

/-- What a machine that stands still shows. -/
structure Shows (machine : Machine) : Prop where
  /-- The record of a halt is about the word at the program counter, and so is the error in it. -/
  halted : ∀ fault, machine.status = .halted fault →
    fault.pc = machine.state.pc ∧ fault.word = machine.lastWord ∧ fault.word = machine.word ∧
    fault.error.pc? = some fault.pc ∧ ∀ named, fault.error.word? = some named → named = fault.word
  awaiting : ∀ x, machine.status = .awaitingKey x →
    x.val ≤ 15 ∧ machine.word.toNat = 0xF00A + 256 * x.val ∧ machine.lastWord = machine.word
  exited : machine.status = .exited →
    machine.state.mode = .superChip ∧ machine.word = 0x00FD ∧ machine.lastWord = 0x00FD

theorem Warrants.shows (warrants : machine.Warrants machine.status) : machine.Shows := by
  constructor
  · intro fault halted
    rw [halted] at warrants
    cases warrants with
    | halted last fails =>
      have names := ((machine.word.failure?_decode_iff machine.state _).mp fails).names
      exact ⟨rfl, last.symm, rfl, names⟩
  · intro x awaiting
    rw [awaiting] at warrants
    cases warrants with
    | awaiting last asks =>
      exact ⟨Nat.le_of_lt_succ x.isLt, Word.toNat_of_awaitKey asks, last⟩
  · intro exited
    rw [exited] at warrants
    cases warrants with
    | exited last ends =>
      obtain ⟨mode, word⟩ := Word.eq_of_exit ends
      exact ⟨mode, word, last.trans word⟩

/-- Steps one after the other, each with the keys held at the time: the machine after them, and what
came of each. -/
def steps (machine : Machine) : List Held → Machine × List (Except MachineError Outcome)
  | [] => (machine, [])
  | held :: rest =>
    let step := machine.step held
    let (final, more) := step.machine.steps rest
    (final, step.outcome :: more)

theorem steps_of_standing {answer : Except MachineError Outcome}
    (standing : machine.status.answer? = some answer) (held : List Held) :
    machine.steps held = (machine, held.map fun _ => answer) := by
  have stands : machine.status ≠ .running := by
    rw [Ne, ← Status.answer?_eq_none_iff, standing]
    exact Option.some_ne_none answer
  induction held with
  | nil => rfl
  | cons first rest ih =>
    simp only [steps, step_of_standing first stands, outcome_of_standing first standing, ih,
      List.map_cons]

theorem resume_of_awaiting {x : Register} (awaiting : machine.status = .awaitingKey x)
    (key : UInt8) :
    machine.resume key =
      ({ machine with
          state := { machine.state with
            registers := machine.state.registers.set x.val (key &&& 0xF) x.isLt
            pc := machine.state.pc + 2 }
          status := .running }, true) := by
  simp only [resume, awaiting, State.deliverKey, Key.byte_ofByte]
  rfl

theorem resume_of_unasked (unasked : ∀ x, machine.status ≠ .awaitingKey x) (key : UInt8) :
    machine.resume key = (machine, false) := by
  unfold resume
  split
  · exact absurd ‹_› (unasked _)
  · rfl

end Machine

/-- Whether a program is over. -/
def Status.Ended : Status → Prop
  | halted _ | exited => True
  | _ => False

theorem Status.Ended.stands {status : Status} (ended : status.Ended) :
    status ≠ .running ∧ ∀ x, status ≠ .awaitingKey x := by
  cases status <;> simp_all [Status.Ended]

namespace Machine

/-- The machines that come from another one without a reset. -/
inductive Unreset (machine : Machine) : Machine → Prop where
  | start : Unreset machine machine
  | step {later : Machine} (held : Held) (unreset : Unreset machine later) :
      Unreset machine (later.step held).machine
  | tick {later : Machine} (unreset : Unreset machine later) : Unreset machine later.tick.1
  | resume {later : Machine} (key : UInt8) (unreset : Unreset machine later) :
      Unreset machine (later.resume key).1
  | withTimers {later : Machine} (timers : Timers) (unreset : Unreset machine later) :
      Unreset machine (later.withTimers timers)
  | run {σ : Type} (host : Host σ) (count : Nat) (s : σ) {later : Machine}
      (unreset : Unreset machine later) : Unreset machine (later.run host count s).2.1

variable {c : Configuration} {machine : Machine}

/-- When a program is over, only the timers can still change, unless the machine is reset. -/
theorem Unreset.of_ended {later : Machine} (unreset : machine.Unreset later)
    (ended : machine.status.Ended) : ∃ timers, later = machine.withTimers timers := by
  obtain ⟨stands, unasked⟩ := ended.stands
  have steps (held : Held) (timers : Timers) :
      ((machine.withTimers timers).step held).machine = machine.withTimers timers :=
    step_of_standing held stands
  have resumes (key : UInt8) (timers : Timers) :
      ((machine.withTimers timers).resume key).1 = machine.withTimers timers :=
    congrArg Prod.fst (@resume_of_unasked (machine.withTimers timers) unasked key)
  induction unreset with
  | start => exact ⟨machine.state.timers, rfl⟩
  | step held _ ih =>
    obtain ⟨timers, rfl⟩ := ih
    exact ⟨timers, steps held timers⟩
  | tick _ ih =>
    obtain ⟨timers, rfl⟩ := ih
    exact ⟨timers.tick.1, rfl⟩
  | resume key _ ih =>
    obtain ⟨timers, rfl⟩ := ih
    exact ⟨timers, resumes key timers⟩
  | withTimers timers _ ih =>
    obtain ⟨older, rfl⟩ := ih
    exact ⟨timers, rfl⟩
  | run host count s _ ih =>
    obtain ⟨timers, rfl⟩ := ih
    refine ⟨timers, run_keeps (· = machine.withTimers timers) host ?_ ?_ count s rfl⟩
    · rintro _ held rfl
      exact steps held timers
    · rintro _ key rfl
      exact resumes key timers

/-- Every machine that stands still shows why. However often it is stepped, it answers the same and
does not change. It takes a key exactly if it awaits one, and then goes on behind the request with
the key in the register asked for; a program that is over stays so until the machine is reset. -/
theorem stands_as_shown (reachable : Reachable c machine) :
    machine.Shows ∧
    (machine.status ≠ .running → ∃ answer, machine.status.answer? = some answer ∧
      ∀ held : List Held, machine.steps held = (machine, held.map fun _ => answer)) ∧
    (∀ key, (machine.resume key).2 = true ↔ ∃ x, machine.status = .awaitingKey x) ∧
    (∀ key x, machine.status = .awaitingKey x →
      (machine.resume key).1 =
        { machine with
          state := { machine.state with
            registers := machine.state.registers.set x.val (key &&& 0xF) x.isLt
            pc := machine.state.pc + 2 }
          status := .running }) ∧
    (∀ key, (∀ x, machine.status ≠ .awaitingKey x) → (machine.resume key).1 = machine) ∧
    (machine.status.Ended → ∀ later, machine.Unreset later →
      ∃ timers, later = machine.withTimers timers) ∧
    ∀ next events, machine.reset = .ok (next, events) → next.status = .running := by
  refine ⟨(warrants_of_reachable reachable).shows, ?_, ?_, ?_, ?_, ?_, ?_⟩
  · intro stands
    rw [Ne, ← Status.answer?_eq_none_iff] at stands
    obtain ⟨answer, standing⟩ := Option.ne_none_iff_exists'.mp stands
    exact ⟨answer, standing, steps_of_standing standing⟩
  · intro key
    constructor
    · intro taken
      apply Classical.byContradiction
      intro unasked
      rw [resume_of_unasked (fun x awaiting => unasked ⟨x, awaiting⟩)] at taken
      cases taken
    · rintro ⟨x, awaiting⟩
      rw [resume_of_awaiting awaiting]
  · intro key x awaiting
    rw [resume_of_awaiting awaiting]
  · intro key unasked
    rw [resume_of_unasked unasked]
  · intro ended later unreset
    exact unreset.of_ended ended
  · intro next events success
    obtain ⟨state, _, rfl⟩ := of_reset success
    rfl

theorem stands_as_shown_awaiting_and_halted :
    (∃ machine, Reachable { program := #[0xF3, 0x0A] } machine ∧
      machine.status = .awaitingKey 3 ∧ machine.lastWord = machine.word ∧
      (machine.resume 0x25).1.state.registers = machine.state.registers.set 3 5) ∧
    ∃ machine, Reachable { program := #[0x00, 0x00] } machine ∧
      (∃ fault, machine.status = .halted fault ∧ fault.error.pc? = some machine.state.pc) ∧
      ∀ later, machine.Unreset later → ∃ timers, later = machine.withTimers timers := by
  constructor
  · obtain ⟨machine, events, success⟩ :
        ∃ machine events, build { program := #[0xF3, 0x0A] } = .ok (machine, events) := ⟨_, _, rfl⟩
    have asks : machine.instruction = .awaitKey 3 := by
      rw [instruction, Machine.word, word_of_build success]
      cases machine.state.mode <;> rfl
    have awaiting : (machine.step fun _ => false).machine.status = .awaitingKey 3 := by
      rw [step_of_running _ (running_of_build success), runInstruction_machine, asks]
      rfl
    have reachable := Reachable.step (fun _ => false) (.built success)
    obtain ⟨shows, _, _, takes, _⟩ := stands_as_shown reachable
    refine ⟨_, reachable, awaiting, (shows.awaiting 3 awaiting).2.2, ?_⟩
    rw [takes 0x25 3 awaiting]
    rfl
  · obtain ⟨machine, events, success⟩ :
        ∃ machine events, build { program := #[0x00, 0x00] } = .ok (machine, events) := ⟨_, _, rfl⟩
    have fails : machine.instruction = .illegal 0 := by
      rw [instruction, Machine.word, word_of_build success]
      cases machine.state.mode <;> rfl
    have halted : (machine.step fun _ => false).machine.status =
        .halted ⟨.illegalWord 0 machine.state.pc, machine.word, machine.state.pc⟩ := by
      rw [step_of_running _ (running_of_build success), runInstruction_machine, fails]
      rfl
    have reachable := Reachable.step (fun _ => false) (.built success)
    obtain ⟨shows, _, _, _, _, ended, _⟩ := stands_as_shown reachable
    obtain ⟨place, _, _, names, _⟩ := shows.halted _ halted
    refine ⟨_, reachable, ⟨_, halted, names.trans (congrArg some place)⟩, ended ?_⟩
    rw [halted]
    trivial

end Machine

end SuperChip
