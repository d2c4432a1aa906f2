import SuperChip.CallStack
import SuperChip.Fault
import SuperChip.Memory
import SuperChip.Mode
import SuperChip.Random
import SuperChip.Screen
import SuperChip.Timers

set_option autoImplicit false

namespace SuperChip

/-- Registers, memory, stack, timers, screen and user flags, with the choices made at the start. -/
structure State where
  registers : Vector UInt8 16
  index : UInt16
  pc : UInt16
  stack : CallStack
  timers : Timers
  memory : Memory
  screen : Screen
  flags : Vector UInt8 8
  generator : Generator
  mode : Mode
  compatibility : Compatibility
  font : Font

namespace State

/-- Back to power-on: all counters, registers and pixels zero, the fonts in memory, and the program
counter at the program start. The generator goes on, and the choices made at the start stand. -/
def reset (state : State) : State :=
  { state with
    registers := Vector.replicate 16 0
    index := 0
    pc := Memory.programStart
    stack := .empty
    timers := .zero
    memory := .blank state.font
    screen := .blank state.screen.wrap
    flags := Vector.replicate 8 0 }

def powerOn (mode : Mode) (compatibility : Compatibility) (policy : Wrap) (seed : Option UInt64)
    (source : RandomSource := .standard 0) : State where
  registers := Vector.replicate 16 0
  index := 0
  pc := Memory.programStart
  stack := .empty
  timers := .zero
  memory := .blank Font.standard
  screen := .blank policy
  flags := Vector.replicate 8 0
  generator := .ofStream (source.stream seed)
  mode := mode
  compatibility := compatibility
  font := Font.standard

/-- Takes another small font, which memory shows after the next reset. -/
def setFont (state : State) (bytes : Array UInt8) : Except MachineError State :=
  match Font.ofBytes? bytes with
  | some font => .ok { state with font }
  | none => .error (.fontSize bytes.size 80)

/-- Resets and copies a program to its start. A program that is refused changes nothing. -/
def loadProgram (state : State) (program : Array UInt8) : Except MachineError State :=
  if program.size = 0 then .error .programEmpty
  else if Memory.programLimit < program.size then
    .error (.programTooLarge program.size Memory.programLimit)
  else
    let fresh := state.reset
    .ok { fresh with memory := fresh.memory.withProgram program }

def fetch (state : State) (address : UInt16) : Word := state.memory.fetch address

end State

end SuperChip
