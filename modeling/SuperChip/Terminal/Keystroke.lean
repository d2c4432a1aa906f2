import SuperChip.Keypad
import SuperChip.Text.Quoted

set_option autoImplicit false

/-!
Keystrokes of a terminal: which characters stand for keys of the keypad, which strokes quit, and
which stroke a character stands for. The keypad lies on the left of a keyboard:

    1 2 3 4        1 2 3 C
    q w e r   for  4 5 6 D
    a s d f        7 8 9 E
    z x c v        A 0 B F
-/

namespace SuperChip

/-- The character that stands for each key of the keypad, in lower case. -/
def Key.layout : List (Char × Key) := [
  ('1', 0x1), ('2', 0x2), ('3', 0x3), ('4', 0xC),
  ('q', 0x4), ('w', 0x5), ('e', 0x6), ('r', 0xD),
  ('a', 0x7), ('s', 0x8), ('d', 0x9), ('f', 0xE),
  ('z', 0xA), ('x', 0x0), ('c', 0xB), ('v', 0xF)]

/-- The key a character stands for, in either case. -/
def Key.ofChar? (c : Char) : Option Key := Key.layout.lookup c.toLower

namespace Terminal

inductive KeyCode where
  | escape
  | enter
  | tab
  | backspace
  /-- A key that types no character, such as an arrow. -/
  | special
  | char (c : Char)
  deriving DecidableEq, Repr

/-- The keys held along with a stroke. -/
structure Modifiers where
  control : Bool := false
  shift : Bool := false
  alt : Bool := false
  deriving DecidableEq, Repr

/-- Whether a key went down, was repeated, or came up. -/
inductive StrokeKind where
  | press
  | again
  | release
  deriving DecidableEq, Repr

structure Keystroke where
  code : KeyCode
  modifiers : Modifiers := {}
  kind : StrokeKind := .press
  deriving DecidableEq, Repr

namespace Keystroke

/-- Whether a stroke asks the program to end: the escape key, or `c` with the control key. -/
def isQuit (stroke : Keystroke) : Bool :=
  stroke.code == .escape || (stroke.code == .char 'c' && stroke.modifiers.control)

/-- The stroke of a character that is typed on its own. -/
def ofChar (c : Char) : Keystroke :=
  if c = '\x00' then ⟨.char ' ', { control := true }, .press⟩
  else if c = '\t' then ⟨.tab, {}, .press⟩
  else if c = '\r' then ⟨.enter, {}, .press⟩
  else if c = '\x1b' then ⟨.escape, {}, .press⟩
  else if c = '\x7f' then ⟨.backspace, {}, .press⟩
  else if c.toNat < 0x1b then
    ⟨.char (Char.ofNat (c.toNat - 1 + 'a'.toNat)), { control := true }, .press⟩
  else if c.toNat < 0x20 then
    ⟨.char (Char.ofNat (c.toNat - 0x1c + '4'.toNat)), { control := true }, .press⟩
  else ⟨.char c, { shift := c.isUpper }, .press⟩

/-- The stroke with the alt key held. -/
def withAlt (stroke : Keystroke) : Keystroke :=
  { stroke with modifiers := { stroke.modifiers with alt := true } }

end Keystroke

end Terminal

end SuperChip
