import SuperChip.Decoding
import SuperChip.Keypad
import SuperChip.State

set_option autoImplicit false

/-!
Each instruction is a step from one state to the next that reads its operands, writes its result before
register 15, and then moves the program counter; or it fails, and says why beside the state it leaves.
-/

namespace SuperChip

/-- What the host has to do after an instruction. -/
inductive Effect where
  | next
  | redraw
  | awaitKey (x : Register)
  | exit
  deriving DecidableEq, Repr

/-- The keys held while an instruction runs. -/
abbrev Held := Key → Bool

/-- The state an instruction leaves, whether or not it fails, and what the host has to do or why the
instruction failed. -/
structure Executed where
  state : State
  result : Except MachineError Effect

namespace State

/-- Moves the program counter by `step` bytes. -/
def advance (state : State) (step : UInt16) : State := { state with pc := state.pc + step }

/-- On to the next instruction. -/
def next (state : State) : Executed := ⟨state.advance 2, .ok .next⟩

/-- On to the next instruction, with a changed picture. -/
def redraw (state : State) : Executed := ⟨state.advance 2, .ok .redraw⟩

/-- Over the next instruction if the condition holds, else on to it. -/
def skipIf (state : State) (condition : Bool) : Executed :=
  ⟨state.advance (if condition then 4 else 2), .ok .next⟩

/-- Goes on at the low twelve bits of an address. -/
def goTo (state : State) (address : UInt16) : State :=
  { state with pc := UInt16.ofNat (address.toNat % 4096) }

def register (state : State) (x : Register) : UInt8 := state.registers[x]

def setRegister (state : State) (x : Register) (value : UInt8) : State :=
  { state with registers := state.registers.set x value }

/-- Sets a register to a result and then register 15 to a flag. -/
def setResult (state : State) (x : Register) (value : UInt8) (flag : Bool) : State :=
  (state.setRegister x value).setRegister 15 (if flag then 1 else 0)

def clearScreen (state : State) : Executed :=
  { state with screen := state.screen.clear }.redraw

/-- Goes back behind the latest call. -/
def ret (state : State) : Executed :=
  match state.stack.pop? with
  | some (address, stack) => ⟨{ state with stack }.goTo address, .ok .next⟩
  | none => ⟨state, .error (.stackUnderflow state.pc)⟩

def jump (state : State) (target : UInt16) : Executed := ⟨state.goTo target, .ok .next⟩

/-- Goes on at an address and remembers the next instruction. -/
def call (state : State) (target : UInt16) : Executed :=
  match state.stack.push? (state.pc + 2) with
  | some stack => ⟨{ state with stack }.goTo target, .ok .next⟩
  | none => ⟨state, .error (.stackOverflow state.pc)⟩

def setByte (state : State) (x : Register) (value : UInt8) : Executed :=
  (state.setRegister x value).next

/-- Adds an immediate value to a register and leaves register 15 alone. -/
def addByte (state : State) (x : Register) (value : UInt8) : Executed :=
  (state.setRegister x (state.register x + value)).next

def copy (state : State) (x y : Register) : Executed :=
  (state.setRegister x (state.register y)).next

def or (state : State) (x y : Register) : Executed :=
  (state.setRegister x (state.register x ||| state.register y)).next

def and (state : State) (x y : Register) : Executed :=
  (state.setRegister x (state.register x &&& state.register y)).next

def xor (state : State) (x y : Register) : Executed :=
  (state.setRegister x (state.register x ^^^ state.register y)).next

/-- Adds two registers; the flag is the carry. -/
def add (state : State) (x y : Register) : Executed :=
  let (a, b) := (state.register x, state.register y)
  (state.setResult x (a + b) (255 < a.toNat + b.toNat)).next

/-- Subtracts the second register from the first; the flag says that nothing was borrowed. -/
def subtract (state : State) (x y : Register) : Executed :=
  let (a, b) := (state.register x, state.register y)
  (state.setResult x (a - b) (b.toNat ≤ a.toNat)).next

/-- Subtracts the first register from the second; the flag says that nothing was borrowed. -/
def subtractFrom (state : State) (x y : Register) : Executed :=
  let (a, b) := (state.register x, state.register y)
  (state.setResult x (b - a) (a.toNat ≤ b.toNat)).next

/-- The operand of a shift. -/
def shiftOperand (state : State) (x y : Register) : UInt8 :=
  if state.compatibility.shiftUsesVY then state.register y else state.register x

/-- Halves the operand; the flag is the bit shifted out. -/
def shiftRight (state : State) (x y : Register) : Executed :=
  let value := state.shiftOperand x y
  (state.setResult x (value >>> 1) (value.toNat % 2 == 1)).next

/-- Doubles the operand; the flag is the bit shifted out. -/
def shiftLeft (state : State) (x y : Register) : Executed :=
  let value := state.shiftOperand x y
  (state.setResult x (value <<< 1) (128 ≤ value.toNat)).next

def setIndex (state : State) (target : UInt16) : Executed := { state with index := target }.next

/-- Goes on at an address plus a register. -/
def jumpOffset (state : State) (x : Register) (base : UInt16) : Executed :=
  let offset := state.register (if state.compatibility.jumpUsesVX then x else 0)
  ⟨state.goTo (base + offset.toUInt16), .ok .next⟩

/-- Sets a register to the low byte of the next random word under a mask. -/
def random (state : State) (x : Register) (mask : UInt8) : Executed :=
  let (word, generator) := state.generator.next
  ({ state with generator }.setRegister x (word.toUInt8 &&& mask)).next

/-- Draws a sprite at the place that two registers name; the flag says that a lit pixel was turned
off. -/
def drawSprite (state : State) (x y : Register) (sprite : Sprite) : Executed :=
  let (screen, collision) := state.screen.draw (state.register x) (state.register y) sprite
  ({ state with screen }.setRegister 15 (if collision then 1 else 0)).redraw

/-- Draws a sprite eight pixels wide from the bytes at the index. -/
def draw (state : State) (x y : Register) (rows : Fin 16) : Executed :=
  state.drawSprite x y (.narrow (state.memory.readMany state.index rows.val))

/-- Draws a sprite of sixteen by sixteen pixels from the bytes at the index. -/
def drawWide (state : State) (x y : Register) : Executed :=
  state.drawSprite x y (.wide (state.memory.readMany state.index 32))

def readDelay (state : State) (x : Register) : Executed :=
  (state.setRegister x state.timers.delay).next

/-- Asks for a key and stays where it is until one is delivered. -/
def awaitKey (state : State) (x : Register) : Executed := ⟨state, .ok (.awaitKey x)⟩

/-- Delivers the key that an instruction asked for. -/
def deliverKey (state : State) (x : Register) (key : UInt8) : State :=
  (state.setRegister x (UInt8.ofNat (Key.ofByte key).val)).advance 2

def setDelay (state : State) (x : Register) : Executed :=
  { state with timers := state.timers.setDelay (state.register x) }.next

def setSound (state : State) (x : Register) : Executed :=
  { state with timers := state.timers.setSound (state.register x) }.next

/-- Adds a register to the index, which wraps at sixteen or at twelve bits. -/
def addIndex (state : State) (x : Register) : Executed :=
  let sum := state.index + (state.register x).toUInt16
  let index := if state.compatibility.maskIndex then UInt16.ofNat (sum.toNat % 4096) else sum
  { state with index }.next

/-- Points the index at the glyph of a digit, `size` bytes to a glyph from `start` on. -/
def pointAtGlyph (state : State) (x : Register) (start : UInt16) (size : Nat) : Executed :=
  let digit := (state.register x).toNat % 16
  { state with index := UInt16.ofNat (start.toNat + digit * size) }.next

def glyph (state : State) (x : Register) : Executed :=
  state.pointAtGlyph x Memory.fontStart Font.glyphSize

def bigGlyph (state : State) (x : Register) : Executed :=
  state.pointAtGlyph x Memory.bigFontStart Font.bigGlyphSize

/-- The hundreds, tens and ones of a byte. -/
def decimalDigits (value : UInt8) : List UInt8 := [value / 100, value / 10 % 10, value % 10]

/-- Stores the decimal digits of a register at the index. -/
def decimal (state : State) (x : Register) : Executed :=
  { state with
    memory := state.memory.writeMany state.index (decimalDigits (state.register x)) }.next

/-- The index after registers up to `x` were copied. -/
def indexAfterCopy (state : State) (x : Register) : UInt16 :=
  if state.compatibility.loadStoreIncrement then state.index + UInt16.ofNat (x.val + 1)
  else state.index

/-- Stores the registers up to `x` at the index. -/
def store (state : State) (x : Register) : Executed :=
  { state with
    memory := state.memory.writeMany state.index (state.registers.toList.take (x.val + 1))
    index := state.indexAfterCopy x }.next

/-- Loads the registers up to `x` from the index. -/
def load (state : State) (x : Register) : Executed :=
  { state with
    registers := Vector.ofFn fun r =>
      if r ≤ x then state.memory.read (state.index + UInt16.ofNat r.val) else state.register r
    index := state.indexAfterCopy x }.next

def scrollDown (state : State) (rows : Fin 16) : Executed :=
  { state with screen := state.screen.scrollDown rows.val }.redraw

/-- Moves the picture four pixels to the right. -/
def scrollRight (state : State) : Executed :=
  { state with screen := state.screen.scrollRight 4 }.redraw

/-- Moves the picture four pixels to the left. -/
def scrollLeft (state : State) : Executed :=
  { state with screen := state.screen.scrollLeft 4 }.redraw

def exit (state : State) : Executed := ⟨state, .ok .exit⟩

/-- Takes a geometry and a dark picture. -/
def setGeometry (state : State) (geometry : Geometry) : Executed :=
  { state with screen := state.screen.setGeometry geometry }.redraw

/-- Saves the registers up to `x` in the user flags. -/
def saveFlags (state : State) (x : Register) : Executed :=
  { state with
    flags := Vector.ofFn fun i =>
      if i.val ≤ x.val then state.registers[i.val] else state.flags[i] }.next

/-- Takes the registers up to `x` back from the user flags. -/
def loadFlags (state : State) (x : Register) : Executed :=
  { state with
    registers := Vector.ofFn fun r =>
      if saved : r.val < 8 ∧ r.val ≤ x.val then state.flags[r.val] else state.register r }.next

/-- Fails: the word is not defined. -/
def illegal (state : State) (word : Word) : Executed :=
  ⟨state, .error (.illegalWord word state.pc)⟩

/-- Fails: behind addressable memory the word `0xFFFF` is the guard, within it the word is not
defined. -/
def guard (state : State) : Executed :=
  if 0x1000 ≤ state.pc.toNat then ⟨state, .error (.flowGuard state.pc)⟩ else state.illegal 0xFFFF

end State

/-- Runs a decoded instruction. -/
def Instruction.execute (instruction : Instruction) (state : State) (held : Held) : Executed :=
  match instruction with
  | clearScreen => state.clearScreen
  | ret => state.ret
  | jump target => state.jump target
  | call target => state.call target
  | skipIfByte x value => state.skipIf (state.register x == value)
  | skipUnlessByte x value => state.skipIf (state.register x != value)
  | skipIfSame x y => state.skipIf (state.register x == state.register y)
  | skipUnlessSame x y => state.skipIf (state.register x != state.register y)
  | setByte x value => state.setByte x value
  | addByte x value => state.addByte x value
  | copy x y => state.copy x y
  | or x y => state.or x y
  | and x y => state.and x y
  | xor x y => state.xor x y
  | add x y => state.add x y
  | subtract x y => state.subtract x y
  | shiftRight x y => state.shiftRight x y
  | subtractFrom x y => state.subtractFrom x y
  | shiftLeft x y => state.shiftLeft x y
  | setIndex target => state.setIndex target
  | jumpOffset x base => state.jumpOffset x base
  | random x mask => state.random x mask
  | draw x y rows => state.draw x y rows
  | skipIfKey x => state.skipIf (held (Key.ofByte (state.register x)))
  | skipUnlessKey x => state.skipIf (!held (Key.ofByte (state.register x)))
  | readDelay x => state.readDelay x
  | awaitKey x => state.awaitKey x
  | setDelay x => state.setDelay x
  | setSound x => state.setSound x
  | addIndex x => state.addIndex x
  | glyph x => state.glyph x
  | decimal x => state.decimal x
  | store x => state.store x
  | load x => state.load x
  | scrollDown rows => state.scrollDown rows
  | scrollRight => state.scrollRight
  | scrollLeft => state.scrollLeft
  | exit => state.exit
  | lowResolution => state.setGeometry .standard
  | highResolution => state.setGeometry .extended
  | drawWide x y => state.drawWide x y
  | bigGlyph x => state.bigGlyph x
  | saveFlags x => state.saveFlags x
  | loadFlags x => state.loadFlags x
  | guard => state.guard
  | illegal word => state.illegal word

end SuperChip
