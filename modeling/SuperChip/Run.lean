import SuperChip.Machine

set_option autoImplicit false

/-!
A run steps until the host asks it to stop, an instruction fails, the program exits, or the keypad closes
while a key is awaited. The host is a record of functions on a state of its own, so any behaviour of the
stop flag and of the keypad is a host.
-/

namespace SuperChip

/-- What surrounds a machine that runs. -/
structure Host (σ : Type) where
  /-- The keys held while the next instruction runs. -/
  held : σ → Held
  stopping : σ → Bool × σ
  wait : σ → Wait × σ
  notice : σ → Event → σ
  present : σ → Frame → σ

inductive Ending where
  | stopped
  /-- An instruction failed, now or before. -/
  | failed (error : MachineError)
  | exited
  /-- The keypad closed while a key was awaited. -/
  | closed
  /-- The run has not ended: it waits for a key that has not come yet. -/
  | parked
  /-- The run has not ended: it has used up the turns it was given. -/
  | unfinished
  deriving DecidableEq, Repr

namespace Machine

variable {σ : Type}

/-- The wait of a machine that awaits a key: the run goes on with the key, ends because none will
come, or stays parked. -/
def awaitKey (host : Host σ) (goOn : σ → Machine → σ × Machine × Ending) (s : σ)
    (machine : Machine) : σ × Machine × Ending :=
  match host.wait s with
  | (.key code, s) => goOn s (machine.resume code).1
  | (.closed, s) => (host.notice s .keypadClosed, machine, .closed)
  | (.parked, s) => (s, machine, .parked)

/-- The turns of a run, at most as many as the first argument says. -/
def turns (host : Host σ) : Nat → σ → Machine → σ × Machine × Ending
  | 0, s, machine => (s, machine, .unfinished)
  | count + 1, s, machine =>
    let (stop, s) := host.stopping s
    if stop then (s, machine, .stopped)
    else
      let step := machine.step (host.held s)
      let s := step.events.foldl host.notice s
      match step.outcome with
      | .error error => (s, step.machine, .failed error)
      | .ok .proceeded => turns host count s step.machine
      | .ok .displayUpdated => turns host count (host.present s step.machine.frame) step.machine
      | .ok .exited => (s, step.machine, .exited)
      | .ok .awaitingKey =>
        let (stop, s) := host.stopping s
        if stop then (s, step.machine, .stopped)
        else awaitKey host (turns host count) s step.machine

/-- Another look of a parked run at the keypad, and at most `count` turns after it. -/
def wake (host : Host σ) (count : Nat) (s : σ) (machine : Machine) : σ × Machine × Ending :=
  awaitKey host (turns host count) s machine

/-- A run of at most `count` turns. -/
def run (host : Host σ) (count : Nat) (s : σ) (machine : Machine) : σ × Machine × Ending :=
  turns host count (host.present s machine.frame) machine

end Machine

end SuperChip
