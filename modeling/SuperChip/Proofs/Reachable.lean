import SuperChip.Run

set_option autoImplicit false

namespace SuperChip.Machine

section Runs

variable {σ : Type} (P : Machine → Prop) (host : Host σ)
  (steps : ∀ {machine : Machine} (held : Held), P machine → P (machine.step held).machine)
  (resumes : ∀ {machine : Machine} (key : UInt8), P machine → P (machine.resume key).1)

include steps resumes

theorem turns_keeps (count : Nat) (s : σ) {machine : Machine} (holds : P machine) :
    P (machine.turns host count s).2.1 := by
  induction count generalizing s machine with
  | zero => exact holds
  | succ count ih =>
    have stepped := steps (host.held (host.stopping s).2) holds
    simp only [turns]
    split
    · exact holds
    · split
      · exact stepped
      · exact ih _ stepped
      · exact ih _ stepped
      · exact stepped
      · split
        · exact stepped
        · unfold awaitKey
          split
          · exact ih _ (resumes _ stepped)
          · exact stepped
          · exact stepped

/-- What steps and key deliveries keep, a run keeps under any host. -/
theorem run_keeps (count : Nat) (s : σ) {machine : Machine} (holds : P machine) :
    P (machine.run host count s).2.1 :=
  turns_keeps P host steps resumes count _ holds

end Runs

/-- The machines that come from a configuration: built, and then stepped, ticked, resumed, run and
reset in any order, with the timers written at any time. -/
inductive Reachable (c : Configuration) : Machine → Prop where
  | built {machine : Machine} {events : List Event} (success : build c = .ok (machine, events)) :
      Reachable c machine
  | step {machine : Machine} (held : Held) (reachable : Reachable c machine) :
      Reachable c (machine.step held).machine
  | tick {machine : Machine} (reachable : Reachable c machine) : Reachable c machine.tick.1
  | resume {machine : Machine} (key : UInt8) (reachable : Reachable c machine) :
      Reachable c (machine.resume key).1
  | reset {machine next : Machine} {events : List Event} (reachable : Reachable c machine)
      (success : machine.reset = .ok (next, events)) : Reachable c next
  | withTimers {machine : Machine} (timers : Timers) (reachable : Reachable c machine) :
      Reachable c (machine.withTimers timers)
  | run {σ : Type} (host : Host σ) (count : Nat) (s : σ) {machine : Machine}
      (reachable : Reachable c machine) : Reachable c (machine.run host count s).2.1

/-- What holds of a machine as it is built, and is kept by steps, key deliveries, timer writes and
resets of reachable machines, holds of all of them. -/
theorem Reachable.keeps {c : Configuration} {P : Machine → Prop}
    (builds : ∀ {machine : Machine} {events : List Event},
      build c = .ok (machine, events) → P machine)
    (steps : ∀ {machine : Machine} (held : Held), Reachable c machine → P machine →
      P (machine.step held).machine)
    (resumes : ∀ {machine : Machine} (key : UInt8), Reachable c machine → P machine →
      P (machine.resume key).1)
    (writes : ∀ {machine : Machine} (timers : Timers), Reachable c machine → P machine →
      P (machine.withTimers timers))
    (resets : ∀ {machine next : Machine} {events : List Event}, Reachable c machine → P machine →
      machine.reset = .ok (next, events) → P next)
    {machine : Machine} (reachable : Reachable c machine) : P machine := by
  induction reachable with
  | built success => exact builds success
  | step held reachable ih => exact steps held reachable ih
  | tick reachable ih => exact writes _ reachable ih
  | resume key reachable ih => exact resumes key reachable ih
  | reset reachable success ih => exact resets reachable ih success
  | withTimers timers reachable ih => exact writes timers reachable ih
  | run host count s reachable ih =>
    -- The machines within a run are reachable too, so a run keeps both.
    have kept := run_keeps (fun machine => Reachable c machine ∧ P machine) host
      (fun held both => ⟨.step held both.1, steps held both.1 both.2⟩)
      (fun key both => ⟨.resume key both.1, resumes key both.1 both.2⟩)
      count s ⟨reachable, ih⟩
    exact kept.2

end SuperChip.Machine
