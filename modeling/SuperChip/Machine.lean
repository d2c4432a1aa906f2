import SuperChip.Event

set_option autoImplicit false

namespace SuperChip

inductive Status where
  | running
  | awaitingKey (x : Register)
  | halted (fault : Fault)
  | exited
  deriving DecidableEq, Repr

structure Configuration where
  program : Array UInt8 := #[]
  font : Option (Array UInt8) := none
  mode : Mode := .superChip
  /-- Overrides what the instruction set does by itself. -/
  compatibility : Option Compatibility := none
  policy : Wrap := .wrap
  strategy : Strategy := .table
  /-- Without a seed the random words are left to chance. -/
  seed : Option UInt64 := none
  source : RandomSource := .standard 0

/-- The random words of the machine that is built. -/
def Configuration.stream (c : Configuration) : Nat → UInt32 := c.source.stream c.seed

/-- A state, the program it was built with, and how it stands. -/
structure Machine where
  state : State
  strategy : Strategy
  status : Status
  program : Array UInt8
  lastWord : Word

/-- What came of a step that did not fail. -/
inductive Outcome where
  | proceeded
  | displayUpdated
  | awaitingKey
  | exited
  deriving DecidableEq, Repr

/-- A step: the machine after it, its outcome, and what it reported. -/
structure Step where
  machine : Machine
  outcome : Except MachineError Outcome
  events : List Event

namespace Machine

/-- Milliseconds between instructions unless a host asks for another pace. -/
def standardPace : Nat := 16

/-- Builds a machine. The font is checked before the program. -/
def build (c : Configuration) : Except MachineError (Machine × List Event) := do
  let compatibility := c.compatibility.getD (.ofMode c.mode)
  let blank := State.powerOn c.mode compatibility c.policy c.seed c.source
  let lettered ←
    match c.font with
    | some font => blank.setFont font
    | none => .ok blank
  let state ← lettered.loadProgram c.program
  return (⟨state, c.strategy, .running, c.program, 0⟩,
    [.loaded c.program.size, .built c.mode c.strategy c.policy compatibility])

def reset (machine : Machine) : Except MachineError (Machine × List Event) := do
  let state ← machine.state.loadProgram machine.program
  return ({ machine with state, status := .running, lastWord := 0 },
    [.loaded machine.program.size])

def frame (machine : Machine) : Frame := machine.state.screen.frame

/-- The record of a halt, if the machine has halted. -/
def fault? (machine : Machine) : Option Fault :=
  match machine.status with
  | .halted fault => some fault
  | _ => none

/-- Runs the instruction at the program counter, whatever the machine's status. -/
def runInstruction (machine : Machine) (held : Held) : Step :=
  let pc := machine.state.pc
  let word := machine.state.fetch pc
  let (mnemonic, run) := machine.strategy.resolve machine.state.mode word
  let fetched := Event.fetched pc word mnemonic
  let executed := run machine.state held
  let after := { machine with state := executed.state, lastWord := word }
  match executed.result with
  | .ok .next => ⟨after, .ok .proceeded, [fetched]⟩
  | .ok .redraw => ⟨after, .ok .displayUpdated, [fetched]⟩
  | .ok (.awaitKey x) => ⟨{ after with status := .awaitingKey x }, .ok .awaitingKey, [fetched]⟩
  | .ok .exit => ⟨{ after with status := .exited }, .ok .exited, [fetched, .exited pc]⟩
  | .error error =>
    let fault := Fault.mk error word pc
    ⟨{ after with status := .halted fault }, .error error, [fetched, .halted fault]⟩

/-- One step. Only a running machine changes. -/
def step (machine : Machine) (held : Held) : Step :=
  match machine.status with
  | .running => machine.runInstruction held
  | .awaitingKey _ => ⟨machine, .ok .awaitingKey, []⟩
  | .halted fault => ⟨machine, .error fault.error, []⟩
  | .exited => ⟨machine, .ok .exited, []⟩

/-- Delivers a key that is awaited, and tells whether one was. -/
def resume (machine : Machine) (key : UInt8) : Machine × Bool :=
  match machine.status with
  | .awaitingKey x =>
    ({ machine with state := machine.state.deliverKey x key, status := .running }, true)
  | _ => (machine, false)

def withTimers (machine : Machine) (timers : Timers) : Machine :=
  { machine with state := { machine.state with timers } }

/-- One tick of the timers, and whether it beeps. -/
def tick (machine : Machine) : Machine × Bool :=
  let (timers, beep) := machine.state.timers.tick
  (machine.withTimers timers, beep)

end Machine

end SuperChip
