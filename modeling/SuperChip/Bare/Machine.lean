import SuperChip.Bare.State
import SuperChip.Machine

set_option autoImplicit false

namespace SuperChip

/-- The instruction of a mnemonic with the operands that a word has in its places. -/
def Mnemonic.read (mnemonic : Mnemonic) (word : Word) : Instruction :=
  match mnemonic with
  | clearScreen => .clearScreen
  | ret => .ret
  | jump => .jump word.address
  | call => .call word.address
  | skipIfByte => .skipIfByte word.x word.byte
  | skipUnlessByte => .skipUnlessByte word.x word.byte
  | skipIfSame => .skipIfSame word.x word.y
  | skipUnlessSame => .skipUnlessSame word.x word.y
  | setByte => .setByte word.x word.byte
  | addByte => .addByte word.x word.byte
  | copy => .copy word.x word.y
  | or => .or word.x word.y
  | and => .and word.x word.y
  | xor => .xor word.x word.y
  | add => .add word.x word.y
  | subtract => .subtract word.x word.y
  | shiftRight => .shiftRight word.x word.y
  | subtractFrom => .subtractFrom word.x word.y
  | shiftLeft => .shiftLeft word.x word.y
  | setIndex => .setIndex word.address
  | jumpOffset => .jumpOffset word.x word.address
  | random => .random word.x word.byte
  | draw => .draw word.x word.y word.n
  | skipIfKey => .skipIfKey word.x
  | skipUnlessKey => .skipUnlessKey word.x
  | readDelay => .readDelay word.x
  | awaitKey => .awaitKey word.x
  | setDelay => .setDelay word.x
  | setSound => .setSound word.x
  | addIndex => .addIndex word.x
  | glyph => .glyph word.x
  | decimal => .decimal word.x
  | store => .store word.x
  | load => .load word.x
  | scrollDown => .scrollDown word.n
  | scrollRight => .scrollRight
  | scrollLeft => .scrollLeft
  | exit => .exit
  | lowResolution => .lowResolution
  | highResolution => .highResolution
  | drawWide => .drawWide word.x word.y
  | bigGlyph => .bigGlyph word.x
  | saveFlags => .saveFlags word.x
  | loadFlags => .loadFlags word.x
  | guard => .guard
  | illegal => .illegal word

namespace Bare

inductive Status where
  | running
  | awaitingKey (x : Nat)
  | halted (fault : Fault)
  | exited

structure Machine where
  state : State
  strategy : Strategy
  status : Status
  lastWord : Word

structure Step where
  machine : Machine
  outcome : Except MachineError Outcome
  events : List Event

/-- What can be done to a machine. -/
inductive Move where
  | step (held : Held)
  | resume (key : UInt8)
  | setTimers (timers : Timers)

/-- The instruction that a word stands for: decoded, or with the mnemonic of its table entry. -/
def resolve? (strategy : Strategy) (mode : Mode) (word : Word) : Option Instruction :=
  match strategy with
  | .interpreter => some (word.decode mode)
  | .table => do
    let entry ← (Table.ofMode mode).toArray[word.toNat]?
    return entry.mnemonic.read word

namespace Machine

def frame? (machine : Machine) : Option Frame := machine.state.screen.frame?

/-- Runs the instruction at the program counter, whatever the machine's status. -/
def runInstruction? (machine : Machine) (down : Array Bool) : Option Step := do
  let pc := machine.state.pc
  let word := machine.state.fetch pc
  let instruction ← resolve? machine.strategy machine.state.mode word
  let fetched := Event.fetched pc word instruction.mnemonic
  let executed ← machine.state.execute? instruction down
  let after := { machine with state := executed.state, lastWord := word }
  return match executed.result with
    | .ok .next => ⟨after, .ok .proceeded, [fetched]⟩
    | .ok .redraw => ⟨after, .ok .displayUpdated, [fetched]⟩
    | .ok (.awaitKey x) => ⟨{ after with status := .awaitingKey x }, .ok .awaitingKey, [fetched]⟩
    | .ok .exit => ⟨{ after with status := .exited }, .ok .exited, [fetched, .exited pc]⟩
    | .error error =>
      let fault := Fault.mk error word pc
      ⟨{ after with status := .halted fault }, .error error, [fetched, .halted fault]⟩

/-- One step; `down` tells of each key whether it is held. -/
def step? (machine : Machine) (down : Array Bool) : Option Step :=
  match machine.status with
  | .running => machine.runInstruction? down
  | .awaitingKey _ => some ⟨machine, .ok .awaitingKey, []⟩
  | .halted fault => some ⟨machine, .error fault.error, []⟩
  | .exited => some ⟨machine, .ok .exited, []⟩

/-- Delivers a key that is awaited, and tells whether one was. -/
def resume? (machine : Machine) (key : UInt8) : Option (Machine × Bool) :=
  match machine.status with
  | .awaitingKey x => do
    let state ← machine.state.deliverKey? x key
    return ({ machine with state, status := .running }, true)
  | _ => some (machine, false)

def move? (machine : Machine) : Move → Option Machine
  | .step held => do
    let step ← machine.step? (Array.ofFn held)
    return step.machine
  | .resume key => do
    let (resumed, _) ← machine.resume? key
    return resumed
  | .setTimers timers => some { machine with state := { machine.state with timers } }

def follow? (machine : Machine) (moves : List Move) : Option Machine := moves.foldlM move? machine

end Machine

end Bare

def Status.bare : Status → Bare.Status
  | running => .running
  | awaitingKey x => .awaitingKey x.val
  | halted fault => .halted fault
  | exited => .exited

/-- A machine over plain arrays, without what a step does not need. -/
def Machine.bare (machine : Machine) : Bare.Machine :=
  ⟨machine.state.bare, machine.strategy, machine.status.bare, machine.lastWord⟩

def Step.bare (step : Step) : Bare.Step := ⟨step.machine.bare, step.outcome, step.events⟩

end SuperChip
