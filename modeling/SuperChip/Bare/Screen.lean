import SuperChip.Bare.Access
import SuperChip.Screen

set_option autoImplicit false

namespace SuperChip

namespace Bare

/-- The byte of a dark pixel. -/
def pixelOff : UInt8 := 0

/-- The byte of a lit pixel. -/
def pixelOn : UInt8 := 0xFF

def pixelByte (lit : Bool) : UInt8 := if lit then pixelOn else pixelOff

/-- The pixels of the largest picture, a byte each. -/
structure Screen where
  pixels : Array UInt8
  geometry : Geometry
  wrap : Wrap

/-- A finished picture: `width * height` bytes, row by row. -/
structure Frame where
  width : Nat
  height : Nat
  pixels : Array UInt8

/-- The pixels of a row of a sprite, from its one byte or its two bytes. -/
def row? (bytes : List UInt8) (wide : Bool) : Option UInt16 := do
  let left ← bytes[0]?
  if wide then
    let right ← bytes[1]?
    return UInt16.ofNat (left.toNat * 256 + right.toNat)
  else return UInt16.ofNat (left.toNat * 256)

/-- The rows of a sprite, of one byte each or of two. -/
def rows? (bytes : List UInt8) (wide : Bool) : Option (List UInt16) :=
  let size := if wide then 2 else 1
  (List.range (bytes.length / size)).mapM fun number =>
    row? ((bytes.drop (number * size)).take size) wide

namespace Screen

def width (screen : Screen) : Nat := screen.geometry.width

def height (screen : Screen) : Nat := screen.geometry.height

def frame? (screen : Screen) : Option Frame := do
  let visible ← Window.front? screen.pixels (screen.width * screen.height)
  return ⟨screen.width, screen.height, screen.pixels.extract visible.start visible.length⟩

def clear (screen : Screen) : Screen :=
  { screen with pixels := screen.pixels.map fun _ => pixelOff }

def setGeometry (screen : Screen) (geometry : Geometry) : Screen := { screen with geometry }.clear

/-- Turns over a pixel, and tells whether it was lit. -/
def flip? (screen : Screen) (place : Nat) : Option (Screen × Bool) := do
  let pixel ← screen.pixels[place]?
  let pixels ← put? screen.pixels place (pixel ^^^ pixelOn)
  return ({ screen with pixels }, pixel != pixelOff)

/-- The column that a sprite pixel falls in; none if it is dropped behind the right edge, which is no
failure. -/
def across (screen : Screen) (column : Nat) : Option Nat :=
  if column < screen.width then some column
  else
    match screen.wrap with
    | .wrap => some (column % screen.width)
    | .clip => none

/-- Draws a row of a sprite, `count` pixels from number `column` on. The first pixel that is dropped
ends the row. -/
def drawRow? (ox line : Nat) (row : UInt16) : Nat → Nat → Screen → Option (Screen × Bool)
  | _, 0, screen => some (screen, false)
  | column, count + 1, screen =>
    if Sprite.rowBit row column then
      match screen.across (ox + column) with
      | none => some (screen, false)
      | some px => do
        let (next, hit) ← screen.flip? (line * screen.width + px)
        let (final, hits) ← drawRow? ox line row (column + 1) count next
        return (final, hit || hits)
    else drawRow? ox line row (column + 1) count screen

/-- Draws the rows of a sprite from number `number` on, `count` pixels each. -/
def drawRows? (ox oy count : Nat) : Nat → List UInt16 → Screen → Option (Screen × Bool)
  | _, [], screen => some (screen, false)
  | number, row :: rest, screen => do
    let line := (oy + number) % screen.height
    let (next, hit) ← drawRow? ox line row 0 count screen
    let (final, hits) ← drawRows? ox oy count (number + 1) rest next
    return (final, hit || hits)

/-- Draws a sprite from its bytes, and tells whether it turned off a lit pixel. -/
def draw? (screen : Screen) (x y : UInt8) (bytes : List UInt8) (wide : Bool) :
    Option (Screen × Bool) := do
  let rows ← rows? bytes wide
  drawRows? (x.toNat % screen.width) (y.toNat % screen.height) (if wide then 16 else 8) 0 rows screen

/-- Moves the picture down; a distance of a whole screen or more leaves nothing. -/
def scrollDown? (screen : Screen) (rows : Nat) : Option Screen :=
  if screen.height ≤ rows then some screen.clear
  else do
    let visible ← Window.front? screen.pixels (screen.width * screen.height)
    let kept ← sub? screen.height rows
    let pixels ← shift? screen.pixels visible 0 (kept * screen.width) (rows * screen.width)
      0 (rows * screen.width) pixelOff
    return { screen with pixels }

/-- Changes the lines of the picture one after the other. -/
def onLines? (screen : Screen) (change : Array UInt8 → Window → Option (Array UInt8)) :
    Option Screen := do
  let visible ← Window.front? screen.pixels (screen.width * screen.height)
  let lines ← visible.lines? screen.width
  let pixels ← lines.foldlM change screen.pixels
  return { screen with pixels }

def scrollRight? (screen : Screen) (columns : Nat) : Option Screen :=
  let columns := min columns screen.width
  screen.onLines? fun pixels line => do
    let kept ← sub? screen.width columns
    shift? pixels line 0 kept columns 0 columns pixelOff

def scrollLeft? (screen : Screen) (columns : Nat) : Option Screen :=
  let columns := min columns screen.width
  screen.onLines? fun pixels line => do
    let kept ← sub? screen.width columns
    shift? pixels line columns line.length 0 kept line.length pixelOff

end Screen

end Bare

/-- A screen with its pixels in a plain array of bytes. -/
def Screen.bare (screen : Screen) : Bare.Screen :=
  ⟨screen.pixels.toArray.map Bare.pixelByte, screen.geometry, screen.wrap⟩

def Frame.bare (frame : Frame) : Bare.Frame :=
  ⟨frame.width, frame.height, frame.pixels.map Bare.pixelByte⟩

end SuperChip
