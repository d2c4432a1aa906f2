import SuperChip.Machine

set_option autoImplicit false

/-!
Two threads that share a stop flag and a keypad: one runs a machine, the other feeds the keypad and
shuts down at the end. The machine's thread looks at the flag, steps, looks again if a key is
awaited, and then waits: holding the lock of the keypad it takes the answer or, if there is none,
parks until it is notified. The input's thread raises the flag, then closes the keypad, then
notifies whoever is parked. A parked thread may also wake up for no reason. Which thread moves next is
anybody's choice, so a history is a list of moves.
-/

namespace SuperChip.Shutdown

/-- Where the thread that runs the machine stands. -/
inductive Runner where
  | looking
  | stepping
  /-- About to look at the flag again, with a key awaited. -/
  | lookingAgain
  /-- About to take the lock of the keypad. -/
  | locking
  /-- Parked, and notified or not. -/
  | parked (notified : Bool)
  | finished
  deriving DecidableEq, Repr

/-- Where the thread that feeds the keypad stands. -/
inductive Feeder where
  | feeding
  | raised
  /-- The keypad is closed, but nobody was notified yet. -/
  | closed
  | finished
  deriving DecidableEq, Repr

/-- Both threads and what they share. -/
structure World where
  machine : Machine
  keypad : Keypad
  stop : Bool
  runner : Runner
  feeder : Feeder

/-- A move of one of the threads. -/
inductive Move where
  /-- The runner does what it is about to do. -/
  | run
  /-- The parked runner wakes up although nobody notified it. -/
  | wakeUp
  | press (key : Key)
  | release (key : Key)
  | raise
  | close
  | notify
  deriving DecidableEq, Repr

namespace Runner

/-- A runner after a notification, which only a parked one notices. -/
def notified : Runner → Runner
  | parked _ => parked true
  | runner => runner

/-- Where a runner goes on after a step. -/
def afterStep : Except MachineError Outcome → Runner
  | .ok .proceeded | .ok .displayUpdated => looking
  | .ok .awaitingKey => lookingAgain
  | .ok .exited | .error _ => finished

end Runner

namespace World

/-- The start of a run, with nothing typed yet. -/
def start (machine : Machine) : World := ⟨machine, .empty, false, .looking, .feeding⟩

/-- The runner's next move, if it has one. -/
def run? (world : World) : Option World :=
  match world.runner with
  | .looking => some { world with runner := if world.stop then .finished else .stepping }
  | .stepping =>
    let step := world.machine.step world.keypad.isDown
    some { world with machine := step.machine, runner := .afterStep step.outcome }
  | .lookingAgain => some { world with runner := if world.stop then .finished else .locking }
  | .locking =>
    match world.keypad.wait with
    | (.key code, keypad) =>
      some { world with machine := (world.machine.resume code).1, keypad, runner := .looking }
    | (.closed, keypad) => some { world with keypad, runner := .finished }
    | (.parked, keypad) => some { world with keypad, runner := .parked false }
  | .parked true => some { world with runner := .locking }
  | .parked false | .finished => none

/-- What a move leads to, if the thread can make it. -/
def move? (world : World) : Move → Option World
  | .run => world.run?
  | .wakeUp =>
    match world.runner with
    | .parked _ => some { world with runner := .locking }
    | _ => none
  | .press key =>
    if world.feeder = .feeding then
      some { world with keypad := world.keypad.press key, runner := world.runner.notified }
    else none
  | .release key =>
    if world.feeder = .feeding then some { world with keypad := world.keypad.release key }
    else none
  | .raise =>
    if world.feeder = .feeding then some { world with stop := true, feeder := .raised } else none
  | .close =>
    if world.feeder = .raised then
      some { world with keypad := world.keypad.close, feeder := .closed }
    else none
  | .notify =>
    if world.feeder = .closed then
      some { world with runner := world.runner.notified, feeder := .finished }
    else none

/-- What a history leads to, if every move of it can be made. -/
def follow? (world : World) (moves : List Move) : Option World := moves.foldlM move? world

/-- Whether a move begins a step of the machine. -/
def beginsStep (world : World) (move : Move) : Bool :=
  move == .run && world.runner == .stepping

end World

end SuperChip.Shutdown
