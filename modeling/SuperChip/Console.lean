import SuperChip.Run

set_option autoImplicit false

namespace SuperChip

/-- Where a machine's keys come from. -/
inductive KeySource where
  /-- No key is ever held and every wait ends at once. -/
  | absent
  /-- A keypad that the host presses. -/
  | shared (keypad : Keypad)
  /-- Exactly these keys are held; each wait takes the next answer, and ends when there is none. -/
  | scripted (down : List UInt8) (answers : List UInt8)
  deriving DecidableEq

namespace KeySource

def held : KeySource → Held
  | absent, _ => false
  | shared keypad, key => keypad.isDown key
  | scripted down _, key => down.contains (UInt8.ofNat key.val)

def wait : KeySource → Wait × KeySource
  | absent => (.closed, absent)
  | shared keypad =>
    let (answer, keypad) := keypad.wait
    (answer, shared keypad)
  | scripted down [] => (.closed, scripted down [])
  | scripted down (code :: rest) => (.key code, scripted down rest)

/-- Changes the keypad that the host presses, if there is one. -/
def change (source : KeySource) (f : Keypad → Keypad) : KeySource :=
  match source with
  | shared keypad => shared (f keypad)
  | _ => source

end KeySource

/-- When a run is to be stopped. -/
structure Limits where
  /-- The stop flag is up from the start. -/
  stopped : Bool := false
  /-- Stop once this many pictures were presented. -/
  frames : Option Nat := none
  /-- Stop once an instruction was fetched here. -/
  address : Option Nat := none
  /-- Stop once this many instructions were fetched. -/
  fetches : Nat := 1000
  deriving DecidableEq, Repr

/-- What a limited run keeps: its keys, the stop flag, and what it has seen so far, latest
first. -/
structure Recorder where
  keys : KeySource
  stopping : Bool
  fetched : Nat
  frames : List Frame
  events : List Event

namespace Limits

/-- The flag and the count after an event. -/
def notice (limits : Limits) (recorder : Recorder) (event : Event) : Recorder :=
  let recorder := { recorder with events := event :: recorder.events }
  match event with
  | .fetched pc _ _ =>
    let fetched := recorder.fetched + 1
    let reached := limits.address == some pc.toNat || limits.fetches ≤ fetched
    { recorder with fetched, stopping := recorder.stopping || reached }
  | _ => recorder

/-- The flag after a picture. -/
def present (limits : Limits) (recorder : Recorder) (frame : Frame) : Recorder :=
  let frames := frame :: recorder.frames
  { recorder with frames, stopping := recorder.stopping || limits.frames == some frames.length }

/-- The host that stops a run at its limits. -/
def host (limits : Limits) : Host Recorder where
  held recorder := recorder.keys.held
  stopping recorder := (recorder.stopping, recorder)
  wait recorder :=
    let (answer, keys) := recorder.keys.wait
    (answer, { recorder with keys })
  notice := limits.notice
  present := limits.present

/-- Turns enough to reach the limits: every turn fetches, except the first of a machine that awaits
a key. -/
def turns (limits : Limits) : Nat := limits.fetches + 2

end Limits

/-- A machine with its keys. -/
structure Console where
  machine : Machine
  keys : KeySource

/-- What a host does to a console. -/
inductive Action where
  | step
  | tick
  | resume (key : UInt8)
  | reset
  | press (key : Key)
  | release (key : Key)
  | releaseAll
  | close
  | setDelay (value : UInt8)
  | setSound (value : UInt8)
  | setTimers (timers : Timers)
  /-- Lets the timers tick, with so many nanoseconds between ticks, until both have run out. -/
  | drain (period : Nat)
  | run (limits : Limits)
  deriving DecidableEq, Repr

/-- What an action answers. -/
inductive Response where
  | done
  | outcome (result : Except MachineError Outcome)
  | flag (value : Bool)
  | reset (result : Except MachineError Unit)
  | beeps (count : Nat)
  | ran (ending : Ending) (frames : List Frame)

namespace Console

def onTimers (console : Console) (change : Timers → Timers) : Console :=
  { console with
    machine := console.machine.withTimers (change console.machine.state.timers) }

/-- A run that ends at its limits. -/
def run (console : Console) (limits : Limits) : Console × Response × List Event :=
  let start : Recorder := ⟨console.keys, limits.stopped, 0, [], []⟩
  let (recorder, machine, ending) := console.machine.run limits.host limits.turns start
  (⟨machine, recorder.keys⟩, .ran ending recorder.frames.reverse, recorder.events.reverse)

/-- Performs an action: the console after it, its answer, and what the machine reported. What the
timers report while they tick is not part of it. -/
def perform (console : Console) : Action → Console × Response × List Event
  | .step =>
    let step := console.machine.step console.keys.held
    ({ console with machine := step.machine }, .outcome step.outcome, step.events)
  | .tick =>
    let (machine, beep) := console.machine.tick
    ({ console with machine }, .flag beep, [])
  | .resume key =>
    let (machine, awaited) := console.machine.resume key
    ({ console with machine }, .flag awaited, [])
  | .reset =>
    match console.machine.reset with
    | .ok (machine, events) => ({ console with machine }, .reset (.ok ()), events)
    | .error error => (console, .reset (.error error), [])
  | .press key => ({ console with keys := console.keys.change (·.press key) }, .done, [])
  | .release key => ({ console with keys := console.keys.change (·.release key) }, .done, [])
  | .releaseAll => ({ console with keys := console.keys.change (·.releaseAll) }, .done, [])
  | .close => ({ console with keys := console.keys.change (·.close) }, .done, [])
  | .setDelay value => (console.onTimers (·.setDelay value), .done, [])
  | .setSound value => (console.onTimers (·.setSound value), .done, [])
  | .setTimers timers => (console.onTimers fun _ => timers, .done, [])
  | .drain period =>
    let (timers, count) := console.machine.state.timers.drain
    ({ console with machine := console.machine.withTimers timers }, .beeps count,
      [.timersStarted period, .timersStopped])
  | .run limits => console.run limits

/-- Performs actions one after the other: the console after them, and what each of them gave. -/
def performAll (console : Console) : List Action → Console × List (Response × List Event)
  | [] => (console, [])
  | action :: rest =>
    let (next, given) := console.perform action
    let (final, more) := next.performAll rest
    (final, given :: more)

end Console

end SuperChip
