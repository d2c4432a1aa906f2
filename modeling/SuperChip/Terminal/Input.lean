import SuperChip.Terminal.Pump
import SuperChip.Text.Decimal

set_option autoImplicit false

/-!
What a terminal sends. A character stands for the stroke that types it; an escape character begins
a sequence for what no character stands for: other keys, strokes told with their number and the keys
held along, the mouse, pasted text, and the terminal's answers to questions. A sequence is the
shortest beginning of the input that is complete; one that is never completed stands for nothing.
-/

namespace SuperChip.Terminal

/-- What the beginning of an input stands for. -/
inductive Reading where
  | unfinished
  /-- Nothing that a program is told of. -/
  | nothing
  | event (poll : Poll)
  deriving DecidableEq, Repr

/-- The modifiers that a number stands for, a bit for each, counted from one. -/
def Modifiers.ofNumber (number : Nat) : Modifiers where
  shift := (number - 1).testBit 0
  alt := (number - 1).testBit 1
  control := (number - 1).testBit 2

/-- The kind of stroke that a number stands for. -/
def StrokeKind.ofNumber (number : Nat) : StrokeKind :=
  if number = 2 then again else if number = 3 then release else press

namespace KeyCode

/-- The keys of a number pad in the order of their numbers. -/
def numberPad : List KeyCode :=
  "0123456789./*-+".toList.map char ++ [enter, char '=', char ',']

/-- The number of the first key of a number pad. -/
def numberPadStart : Nat := 57399

/-- The first and the last of successive numbers of keys that type no character. -/
def specialNumbers : List (Nat × Nat) := [(57358, 57363), (57376, 57398), (57417, 57454)]

/-- The character with a number, if there is one. -/
def character? (number : Nat) : Option Char :=
  if number < 0xD800 ∨ (0xDFFF < number ∧ number < 0x110000) then some (Char.ofNat number) else none

def ofCharacter (c : Char) : KeyCode :=
  if c = '\x1b' then escape
  else if c = '\r' then enter
  else if c = '\t' then tab
  else if c = '\x7f' then backspace
  else char c

/-- The key with a number. -/
def ofNumber? (number : Nat) : Option KeyCode :=
  if specialNumbers.any fun (first, last) => first ≤ number && number ≤ last then some special
  else
    match if numberPadStart ≤ number then numberPad[number - numberPadStart]? else none with
    | some key => some key
    | none => (character? number).map ofCharacter

end KeyCode

/-- The modifiers that hold while the key with a number is struck: a modifier key holds its own. -/
def Modifiers.along (modifiers : Modifiers) (number : Nat) : Modifiers where
  shift := modifiers.shift || number = 57441 || number = 57447
  control := modifiers.control || number = 57442 || number = 57448
  alt := modifiers.alt || number = 57443 || number = 57449

namespace Keystroke

/-- The stroke that numbers tell of: the key's number, with other numbers of it behind colons; the
number of the modifiers, with that of the kind of stroke behind a colon; and more, which does not
count. The second number of a key is the one it has with shift. -/
def ofNumbers? (text : String) : Option Keystroke :=
  let fields := (text.splitOn ";").map (·.splitOn ":")
  let field (index part limit : Nat) : Option Nat :=
    (fields[index]? >>= (·[part]?)) >>= Text.natural? limit
  match field 0 0 UInt32.size with
  | none => none
  | some number =>
    let modifiers := Modifiers.along (.ofNumber ((field 1 0 256).getD 1)) number
    let kind := StrokeKind.ofNumber (((field 1 0 256).bind fun _ => field 1 1 256).getD 1)
    (KeyCode.ofNumber? number).map fun code =>
      match if modifiers.shift then field 0 1 UInt32.size >>= KeyCode.character? else none with
      | some shifted => ⟨.char shifted, { modifiers with shift := false }, kind⟩
      | none => ⟨code, modifiers, kind⟩

end Keystroke

namespace Reading

/-- A stroke of a key that types no character. -/
def special : Reading := event (.stroke ⟨.special, {}, .press⟩)

/-- Last characters of the sequences of keys that type no character. -/
def specialFinals : List Char := ['A', 'B', 'C', 'D', 'F', 'H', 'P', 'Q', 'R', 'S']

/-- A sequence that begins with a digit. It goes on to a final character, or, behind the mark of
pasted text, to the mark of its end. -/
def ofNumbered (body : List Char) : Reading :=
  let final := body.getLastD ' '
  if !('@' ≤ final && final ≤ '~') then unfinished
  else if "200~".toList.isPrefixOf body then
    if "\x1b[201~".toList.isSuffixOf body then event .other else unfinished
  else if final = 'u' then
    match Keystroke.ofNumbers? (String.ofList body.dropLast) with
    | some stroke => event (.stroke stroke)
    | none => nothing
  else if final = 'M' then event .other
  else if final = 'R' then nothing
  else if final = '~' || specialFinals.contains final then special
  else nothing

def byteCount (text : List Char) : Nat := (String.ofList text).utf8ByteSize

/-- A sequence behind an escape character and a bracket. -/
def ofSequence : List Char → Reading
  | [] => unfinished
  | '[' :: [] => unfinished
  | '[' :: c :: _ => if 'A' ≤ c && c ≤ 'E' then special else nothing
  | 'M' :: place => if byteCount place < 3 then unfinished else event .other
  | '<' :: place =>
    if place.getLast? = some 'M' || place.getLast? = some 'm' then event .other else unfinished
  | '?' :: answer =>
    if answer.getLast? = some 'c' || (answer.getLast? = some 'u' && answer ≠ ['u']) then nothing
    else unfinished
  | c :: rest =>
    if c.isDigit then ofNumbered (c :: rest)
    else if c = 'I' || c = 'O' then event .other
    else if c = 'Z' || (c ≠ 'R' && specialFinals.contains c) then special
    else nothing

/-- The beginning of an input; `last` says that no more of the input is there. -/
def ofText (last : Bool) : List Char → Reading
  | [] => unfinished
  | ['\x1b'] => if last then event (.stroke (.ofChar '\x1b')) else unfinished
  | '\x1b' :: '\x1b' :: _ => event (.stroke (.ofChar '\x1b'))
  | '\x1b' :: '[' :: body => ofSequence body
  | '\x1b' :: 'O' :: [] => unfinished
  | '\x1b' :: 'O' :: c :: _ => if specialFinals.contains c then special else nothing
  | '\x1b' :: c :: _ => event (.stroke (Keystroke.ofChar c).withAlt)
  | c :: _ => event (.stroke (.ofChar c))

end Reading

namespace Poll

/-- What an input stands for behind a beginning that is not complete. -/
def ofTextBehind (begun : List Char) : List Char → List Poll
  | [] => []
  | c :: rest =>
    match Reading.ofText rest.isEmpty (begun ++ [c]) with
    | .unfinished => ofTextBehind (begun ++ [c]) rest
    | .nothing => ofTextBehind [] rest
    | .event poll => poll :: ofTextBehind [] rest

def ofText (text : List Char) : List Poll := ofTextBehind [] text

end Poll

end SuperChip.Terminal
