import SuperChip.Bare.Screen
import SuperChip.Execution

set_option autoImplicit false

namespace SuperChip

namespace Bare

/-- The part of a state that instructions work on, in plain arrays. -/
structure State where
  registers : Array UInt8
  index : UInt16
  pc : UInt16
  slots : Array UInt16
  depth : Nat
  timers : Timers
  memory : Array UInt8
  screen : Screen
  flags : Array UInt8
  generator : Generator
  mode : Mode
  compatibility : Compatibility

inductive Effect where
  | next
  | redraw
  | awaitKey (x : Nat)
  | exit

structure Executed where
  state : State
  result : Except MachineError Effect

/-- The byte at `address`, wrapped to the addressable part. -/
def readByte? (memory : Array UInt8) (address : UInt16) : Option UInt8 :=
  memory[address.toNat % 0x1000]?

/-- Stores a byte at `address`, wrapped to the addressable part. -/
def writeByte? (memory : Array UInt8) (address : UInt16) (value : UInt8) : Option (Array UInt8) :=
  put? memory (address.toNat % 0x1000) value

/-- Stores the first bytes of an array one after the other from `start` on. -/
def writeBytes? (memory : Array UInt8) (start : UInt16) (values : Array UInt8) (count : Nat) :
    Option (Array UInt8) :=
  (List.range count).foldlM (fun memory i => do
    let value ← values[i]?
    writeByte? memory (start + UInt16.ofNat i) value) memory

namespace State

/-- The word at `address`; behind the guard all bytes are `0xFF`. -/
def fetch (state : State) (address : UInt16) : Word :=
  Word.ofBytes (state.memory[address.toNat]?.getD 0xFF)
    (state.memory[address.toNat + 1]?.getD 0xFF)

def advance (state : State) (step : UInt16) : State := { state with pc := state.pc + step }

def next (state : State) : Executed := ⟨state.advance 2, .ok .next⟩

def redraw (state : State) : Executed := ⟨state.advance 2, .ok .redraw⟩

def skipIf (state : State) (condition : Bool) : Executed :=
  ⟨state.advance (if condition then 4 else 2), .ok .next⟩

def goTo (state : State) (address : UInt16) : State :=
  { state with pc := UInt16.ofNat (address.toNat % 4096) }

def jump (state : State) (target : UInt16) : Executed := ⟨state.goTo target, .ok .next⟩

def register? (state : State) (x : Nat) : Option UInt8 := state.registers[x]?

def setRegister? (state : State) (x : Nat) (value : UInt8) : Option State := do
  let registers ← put? state.registers x value
  return { state with registers }

/-- Sets a register and goes on. -/
def set? (state : State) (x : Nat) (value : UInt8) : Option Executed := do
  let written ← state.setRegister? x value
  return written.next

/-- Sets a register to a result and then register 15 to a flag, and goes on. -/
def setResult? (state : State) (x : Nat) (value : UInt8) (flag : Bool) : Option Executed := do
  let written ← state.setRegister? x value
  written.set? 15 (if flag then 1 else 0)

def ret? (state : State) : Option Executed :=
  if state.depth = 0 then some ⟨state, .error (.stackUnderflow state.pc)⟩
  else do
    let depth ← sub? state.depth 1
    let address ← state.slots[depth]?
    return ⟨{ state with depth }.goTo address, .ok .next⟩

def call? (state : State) (target : UInt16) : Option Executed :=
  if 16 ≤ state.depth then some ⟨state, .error (.stackOverflow state.pc)⟩
  else do
    let slots ← put? state.slots state.depth (state.pc + 2)
    return ⟨{ state with slots, depth := state.depth + 1 }.goTo target, .ok .next⟩

/-- Sets a register to what comes of the values of two. -/
def combine? (state : State) (x y : Nat) (f : UInt8 → UInt8 → UInt8) : Option Executed := do
  let left ← state.register? x
  let right ← state.register? y
  state.set? x (f left right)

/-- Sets a register to what comes of the values of two, and register 15 to a flag. -/
def combineFlagged? (state : State) (x y : Nat) (f : UInt8 → UInt8 → UInt8)
    (flag : UInt8 → UInt8 → Bool) : Option Executed := do
  let left ← state.register? x
  let right ← state.register? y
  state.setResult? x (f left right) (flag left right)

/-- Sets a register to what comes of the operand of a shift, and register 15 to a flag. -/
def shift? (state : State) (x y : Nat) (f : UInt8 → UInt8) (flag : UInt8 → Bool) :
    Option Executed := do
  let value ← state.register? (if state.compatibility.shiftUsesVY then y else x)
  state.setResult? x (f value) (flag value)

def jumpOffset? (state : State) (x : Nat) (base : UInt16) : Option Executed := do
  let offset ← state.register? (if state.compatibility.jumpUsesVX then x else 0)
  return state.jump (base + offset.toUInt16)

def random? (state : State) (x : Nat) (mask : UInt8) : Option Executed :=
  let (word, generator) := state.generator.next
  { state with generator }.set? x (word.toUInt8 &&& mask)

/-- Draws a sprite of `count` bytes from the index on. -/
def draw? (state : State) (x y count : Nat) (wide : Bool) : Option Executed := do
  let bytes ← (List.range count).mapM fun i =>
    readByte? state.memory (state.index + UInt16.ofNat i)
  let left ← state.register? x
  let top ← state.register? y
  let (screen, collision) ← state.screen.draw? left top bytes wide
  let drawn ← { state with screen }.setRegister? 15 (if collision then 1 else 0)
  return drawn.redraw

/-- Skips the next instruction if a key stands as asked. -/
def skipOnKey? (state : State) (down : Array Bool) (x : Nat) (asked : Bool) : Option Executed := do
  let value ← state.register? x
  let held ← down[value.toNat % 16]?
  return state.skipIf (held == asked)

def setTimers? (state : State) (x : Nat) (change : Timers → UInt8 → Timers) : Option Executed := do
  let value ← state.register? x
  return { state with timers := change state.timers value }.next

def addIndex? (state : State) (x : Nat) : Option Executed := do
  let value ← state.register? x
  let sum := state.index + value.toUInt16
  let index := if state.compatibility.maskIndex then UInt16.ofNat (sum.toNat % 4096) else sum
  return { state with index }.next

def pointAtGlyph? (state : State) (x : Nat) (start : UInt16) (size : Nat) : Option Executed := do
  let value ← state.register? x
  return { state with index := UInt16.ofNat (start.toNat + value.toNat % 16 * size) }.next

def decimal? (state : State) (x : Nat) : Option Executed := do
  let value ← state.register? x
  let memory ← writeBytes? state.memory state.index (SuperChip.State.decimalDigits value).toArray 3
  return { state with memory }.next

def indexAfterCopy (state : State) (x : Nat) : UInt16 :=
  if state.compatibility.loadStoreIncrement then state.index + UInt16.ofNat (x + 1)
  else state.index

def store? (state : State) (x : Nat) : Option Executed := do
  let memory ← writeBytes? state.memory state.index state.registers (x + 1)
  return { state with memory, index := state.indexAfterCopy x }.next

def load? (state : State) (x : Nat) : Option Executed := do
  let registers ← (List.range (x + 1)).foldlM (fun registers i => do
    let value ← readByte? state.memory (state.index + UInt16.ofNat i)
    put? registers i value) state.registers
  return { state with registers, index := state.indexAfterCopy x }.next

/-- Goes on with the screen that an operation gives. -/
def repaint? (state : State) (change : Screen → Option Screen) : Option Executed := do
  let screen ← change state.screen
  return { state with screen }.redraw

def saveFlags? (state : State) (x : Nat) : Option Executed := do
  let flags ← copyFront? state.flags state.registers (x + 1)
  return { state with flags }.next

def loadFlags? (state : State) (x : Nat) : Option Executed := do
  let registers ← copyFront? state.registers state.flags (x + 1)
  return { state with registers }.next

def illegal (state : State) (word : Word) : Executed :=
  ⟨state, .error (.illegalWord word state.pc)⟩

def guard (state : State) : Executed :=
  if 0x1000 ≤ state.pc.toNat then ⟨state, .error (.flowGuard state.pc)⟩ else state.illegal 0xFFFF

/-- Delivers the key that an instruction asked for. -/
def deliverKey? (state : State) (x : Nat) (key : UInt8) : Option State := do
  let written ← state.setRegister? x (UInt8.ofNat (Key.ofByte key).val)
  return written.advance 2

/-- Runs an instruction; `down` tells of each key whether it is held. -/
def execute? (state : State) (instruction : Instruction) (down : Array Bool) : Option Executed :=
  match instruction with
  | .clearScreen => state.repaint? fun screen => some screen.clear
  | .ret => state.ret?
  | .jump target => some (state.jump target)
  | .call target => state.call? target
  | .skipIfByte x value => do return state.skipIf ((← state.register? x) == value)
  | .skipUnlessByte x value => do return state.skipIf ((← state.register? x) != value)
  | .skipIfSame x y => do return state.skipIf ((← state.register? x) == (← state.register? y))
  | .skipUnlessSame x y => do return state.skipIf ((← state.register? x) != (← state.register? y))
  | .setByte x value => state.set? x value
  | .addByte x value => do state.set? x ((← state.register? x) + value)
  | .copy x y => do state.set? x (← state.register? y)
  | .or x y => state.combine? x y (· ||| ·)
  | .and x y => state.combine? x y (· &&& ·)
  | .xor x y => state.combine? x y (· ^^^ ·)
  | .add x y => state.combineFlagged? x y (· + ·) fun a b => 255 < a.toNat + b.toNat
  | .subtract x y => state.combineFlagged? x y (· - ·) fun a b => b.toNat ≤ a.toNat
  | .subtractFrom x y => state.combineFlagged? x y (fun a b => b - a) fun a b => a.toNat ≤ b.toNat
  | .shiftRight x y => state.shift? x y (· >>> 1) fun value => value.toNat % 2 == 1
  | .shiftLeft x y => state.shift? x y (· <<< 1) fun value => 128 ≤ value.toNat
  | .setIndex target => some { state with index := target }.next
  | .jumpOffset x base => state.jumpOffset? x base
  | .random x mask => state.random? x mask
  | .draw x y rows => state.draw? x y rows false
  | .drawWide x y => state.draw? x y 32 true
  | .skipIfKey x => state.skipOnKey? down x true
  | .skipUnlessKey x => state.skipOnKey? down x false
  | .readDelay x => state.set? x state.timers.delay
  | .awaitKey x => some ⟨state, .ok (.awaitKey x)⟩
  | .setDelay x => state.setTimers? x Timers.setDelay
  | .setSound x => state.setTimers? x Timers.setSound
  | .addIndex x => state.addIndex? x
  | .glyph x => state.pointAtGlyph? x Memory.fontStart Font.glyphSize
  | .bigGlyph x => state.pointAtGlyph? x Memory.bigFontStart Font.bigGlyphSize
  | .decimal x => state.decimal? x
  | .store x => state.store? x
  | .load x => state.load? x
  | .scrollDown rows => state.repaint? (·.scrollDown? rows)
  | .scrollRight => state.repaint? (·.scrollRight? 4)
  | .scrollLeft => state.repaint? (·.scrollLeft? 4)
  | .exit => some ⟨state, .ok .exit⟩
  | .lowResolution => state.repaint? fun screen => some (screen.setGeometry .standard)
  | .highResolution => state.repaint? fun screen => some (screen.setGeometry .extended)
  | .saveFlags x => state.saveFlags? x
  | .loadFlags x => state.loadFlags? x
  | .guard => some state.guard
  | .illegal word => some (state.illegal word)

end State

end Bare

/-- The part of a state that instructions work on, with its vectors as plain arrays. -/
def State.bare (state : State) : Bare.State where
  registers := state.registers.toArray
  index := state.index
  pc := state.pc
  slots := state.stack.slots.toArray
  depth := state.stack.depth.val
  timers := state.timers
  memory := state.memory.bytes.toArray
  screen := state.screen.bare
  flags := state.flags.toArray
  generator := state.generator
  mode := state.mode
  compatibility := state.compatibility

def Effect.bare : Effect → Bare.Effect
  | next => .next
  | redraw => .redraw
  | awaitKey x => .awaitKey x.val
  | exit => .exit

def Executed.bare (executed : Executed) : Bare.Executed :=
  ⟨executed.state.bare, executed.result.map Effect.bare⟩

end SuperChip
