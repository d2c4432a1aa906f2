import SuperChip.Proofs.Building
import SuperChip.Proofs.Reachable

set_option autoImplicit false

namespace SuperChip

/-- An instruction that was executed: its word, and where it stood. -/
structure Visit where
  pc : UInt16
  word : Word
  deriving DecidableEq, Repr

namespace Machine

/-- The instruction that a step executes, if it executes one. -/
def visits (machine : Machine) (held : Held) : List Visit :=
  match machine.status, (machine.step held).outcome with
  | .running, .ok _ => [⟨machine.state.pc, machine.state.fetch machine.state.pc⟩]
  | _, _ => []

/-- The ways of a machine without a reset, with the instructions executed on them. -/
inductive Passes (machine : Machine) : List Visit → Machine → Prop where
  | stay : Passes machine [] machine
  | step {visits : List Visit} {later : Machine} (held : Held) (passes : Passes machine visits later) :
      Passes machine (visits ++ later.visits held) (later.step held).machine
  | tick {visits : List Visit} {later : Machine} (passes : Passes machine visits later) :
      Passes machine visits later.tick.1
  | resume {visits : List Visit} {later : Machine} (key : UInt8)
      (passes : Passes machine visits later) : Passes machine visits (later.resume key).1
  | withTimers {visits : List Visit} {later : Machine} (timers : Timers)
      (passes : Passes machine visits later) : Passes machine visits (later.withTimers timers)

/-- The machines of a configuration that have executed nothing yet: built or reset just now. -/
inductive Fresh (c : Configuration) (machine : Machine) : Prop where
  | built {events : List Event} (success : build c = .ok (machine, events))
  | reset {older : Machine} {events : List Event} (reachable : Reachable c older)
      (success : older.reset = .ok (machine, events))

variable {c : Configuration} {first machine : Machine} {visits : List Visit}

theorem visits_of_ok {held : Held} {outcome : Outcome} (running : machine.status = .running)
    (success : (machine.step held).outcome = .ok outcome) :
    machine.visits held = [⟨machine.state.pc, machine.state.fetch machine.state.pc⟩] := by
  simp only [visits, running, success]

theorem visits_of_error {held : Held} {error : MachineError}
    (failed : (machine.step held).outcome = .error error) : machine.visits held = [] := by
  simp only [visits, failed]
  cases machine.status <;> rfl

theorem visits_of_standing (held : Held) (standing : machine.status ≠ .running) :
    machine.visits held = [] := by
  unfold visits
  split
  · contradiction
  · rfl

/-- A run under any host is such a way. -/
theorem Passes.run {σ : Type} (passes : first.Passes visits machine) (host : Host σ) (count : Nat)
    (s : σ) : ∃ more, first.Passes (visits ++ more) (machine.run host count s).2.1 := by
  apply run_keeps (fun later => ∃ more, first.Passes (visits ++ more) later) host
  · rintro later held ⟨more, passes⟩
    have stepped := Passes.step held passes
    rw [List.append_assoc] at stepped
    exact ⟨_, stepped⟩
  · rintro later key ⟨more, passes⟩
    exact ⟨more, passes.resume key⟩
  · refine ⟨[], ?_⟩
    rw [List.append_nil]
    exact passes

theorem Fresh.reachable (fresh : Fresh c machine) : Reachable c machine := by
  cases fresh with
  | built success => exact .built success
  | reset reachable success => exact .reset reachable success

theorem Passes.reachable (passes : first.Passes visits machine) (reachable : Reachable c first) :
    Reachable c machine := by
  induction passes with
  | stay => exact reachable
  | step held _ ih => exact .step held ih
  | tick _ ih => exact .tick ih
  | resume key _ ih => exact .resume key ih
  | withTimers timers _ ih => exact .withTimers timers ih

theorem exists_passes (reachable : Reachable c machine) :
    ∃ first visits, Fresh c first ∧ first.Passes visits machine := by
  apply Reachable.keeps (P := fun machine => ∃ first visits, Fresh c first ∧
    first.Passes visits machine) _ _ _ _ _ reachable
  · intro machine events success
    exact ⟨machine, [], .built success, .stay⟩
  · rintro machine held _ ⟨first, visits, fresh, passes⟩
    exact ⟨first, _, fresh, passes.step held⟩
  · rintro machine key _ ⟨first, visits, fresh, passes⟩
    exact ⟨first, visits, fresh, passes.resume key⟩
  · rintro machine timers _ ⟨first, visits, fresh, passes⟩
    exact ⟨first, visits, fresh, passes.withTimers timers⟩
  · rintro machine next events reachable _ success
    exact ⟨next, [], .reset reachable success, .stay⟩

end Machine

end SuperChip
