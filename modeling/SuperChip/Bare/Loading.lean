import SuperChip.Bare.State

set_option autoImplicit false

namespace SuperChip.Bare

variable {α : Type}

/-- Copies an array into the places from `start` on, if all of them are there. -/
def copyTo? (cells source : Array α) (start : Nat) : Option (Array α) := do
  let goal ← Window.part? ⟨0, cells.size⟩ start (start + source.size)
  return cells.mapIdx fun place cell =>
    if goal.Has place then source[place - start]?.getD cell else cell

/-- A state with the small font that its next reset copies into memory. -/
structure Loader where
  state : State
  font : Array UInt8

/-- A loader after it was asked for something, and whether that was refused. -/
structure Loaded where
  loader : Loader
  result : Except MachineError Unit

/-- What can be done to a state. -/
inductive Handling where
  | setFont (bytes : Array UInt8)
  | loadProgram (program : Array UInt8)
  | reset
  | run (word : Word) (held : Held)
  | deliver (x : Register) (key : UInt8)
  | setTimers (timers : Timers)

/-- Clears memory, copies the two fonts to their places and fills the guard. -/
def blankMemory? (memory font bigFont : Array UInt8) : Option (Array UInt8) := do
  let lettered ← copyTo? (fill memory ⟨0, memory.size⟩ 0) font Memory.fontStart.toNat
  let lettered ← copyTo? lettered bigFont Memory.bigFontStart.toNat
  let guard ← Window.part? ⟨0, memory.size⟩ Memory.size memory.size
  return fill lettered guard 0xFF

namespace Loader

def setFont (loader : Loader) (bytes : Array UInt8) : Loaded :=
  if bytes.size = 80 then ⟨{ loader with font := bytes }, .ok ()⟩
  else ⟨loader, .error (.fontSize bytes.size 80)⟩

def reset? (loader : Loader) : Option Loader := do
  let memory ← blankMemory? loader.state.memory loader.font Font.big.toArray
  return { loader with
    state := { loader.state with
      registers := Array.replicate 16 0
      index := 0
      pc := Memory.programStart
      slots := Array.replicate 16 0
      depth := 0
      flags := Array.replicate 8 0
      timers := .zero
      screen := loader.state.screen.setGeometry .standard
      memory } }

/-- Resets and copies a program to its start, unless the program is empty or too long. -/
def loadProgram? (loader : Loader) (program : Array UInt8) : Option Loaded :=
  if program.size = 0 then some ⟨loader, .error .programEmpty⟩
  else if Memory.programLimit < program.size then
    some ⟨loader, .error (.programTooLarge program.size Memory.programLimit)⟩
  else do
    let fresh ← loader.reset?
    let memory ← copyTo? fresh.state.memory program Memory.programStart.toNat
    return ⟨{ fresh with state := { fresh.state with memory } }, .ok ()⟩

def handle? (loader : Loader) : Handling → Option Loader
  | .setFont bytes => some (loader.setFont bytes).loader
  | .loadProgram program => do
    let loaded ← loader.loadProgram? program
    return loaded.loader
  | .reset => loader.reset?
  | .run word held => do
    let executed ← loader.state.execute? (word.decode loader.state.mode) (Array.ofFn held)
    return { loader with state := executed.state }
  | .deliver x key => do
    let state ← loader.state.deliverKey? x key
    return { loader with state }
  | .setTimers timers => some { loader with state := { loader.state with timers } }

def follow? (loader : Loader) (handlings : List Handling) : Option Loader :=
  handlings.foldlM handle? loader

end Loader

end SuperChip.Bare

namespace SuperChip.State

/-- A state with its vectors as plain arrays. -/
def loader (state : State) : Bare.Loader := ⟨state.bare, state.font.toArray⟩

/-- What a state has become of that was asked for something: it is the one asked for, or as it was. -/
def answered (before : State) : Except MachineError State → Bare.Loaded
  | .ok after => ⟨after.loader, .ok ()⟩
  | .error error => ⟨before.loader, .error error⟩

end SuperChip.State
