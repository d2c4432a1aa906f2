set_option autoImplicit false

/-!
Text without the control sequences of a terminal, as a log shows it. An escape character begins a
sequence, and the characters behind it say of which form: an escape sequence, a control sequence
with parameters, a device control string, or another string of controls. Nothing of them shows, and
of the other control characters only white space does.

White space shows in a control sequence too, without ending it, and so does the text right behind
it, up to the next control character; there the sequence goes on.
-/

namespace SuperChip.Text

/-- Where a reader stands in what leads up to the final character of a control sequence. -/
inductive Heading where
  | opening
  | parameters
  | intermediates
  | malformed
  deriving DecidableEq, Repr

/-- Where a reader stands in a text with control sequences. -/
inductive Passage where
  | text
  /-- Behind an escape character. -/
  | escape
  /-- Behind an escape character and intermediate characters. -/
  | escapeTail
  /-- In a control sequence. -/
  | control (heading : Heading)
  /-- In the heading of a device control string. -/
  | device (heading : Heading)
  /-- In a string that a string terminator ends. -/
  | string
  /-- In a command to the operating system, which the bell ends. -/
  | command
  deriving DecidableEq, Repr

/-- Whether a character is an intermediate one of a sequence. -/
def isIntermediate (c : Char) : Bool := ' ' ≤ c && c ≤ '/'

/-- Whether a character is a parameter of a sequence or sets parameters apart. -/
def isParameter (c : Char) : Bool := '0' ≤ c && c ≤ '?'

/-- Whether a character may stand only in front of all other parameters. -/
def isPrivateMarker (c : Char) : Bool := '<' ≤ c && c ≤ '?'

/-- Whether a character ends a control sequence. -/
def isFinal (c : Char) : Bool := '@' ≤ c && c ≤ '~'

/-- Whether a control character is white space, which shows. -/
def isSpacing (c : Char) : Bool := c == '\t' || c == '\n' || c == '\x0c' || c == '\r'

/-- Whether a character holds a string terminator, a byte of 9C, when it is written in bytes. -/
def holdsTerminator (c : Char) : Bool := (String.utf8EncodeChar c).contains 0x9C

/-- The heading with another parameter or intermediate character; every other one leaves it. -/
def Heading.next (heading : Heading) (c : Char) : Heading :=
  match heading with
  | malformed => malformed
  | opening =>
    if isIntermediate c then intermediates else if isParameter c then parameters else opening
  | parameters =>
    if isIntermediate c then intermediates else if isPrivateMarker c then malformed else parameters
  | intermediates => if isParameter c then malformed else intermediates

namespace Passage

/-- What the character behind an escape character begins. -/
def begun (c : Char) : Passage :=
  if c = '[' then control .opening
  else if c = 'P' then device .opening
  else if c = ']' then command
  else if c = 'X' || c = '^' || c = '_' then string
  else if isIntermediate c then escapeTail
  else if isParameter c || isFinal c then text
  else escape

/-- The passage behind a character. Two of the control characters end every sequence, and an escape
character begins another one. -/
def next (passage : Passage) (c : Char) : Passage :=
  if c = '\x18' || c = '\x1a' then text
  else if c = '\x1b' then escape
  else
    match passage with
    | text => text
    | escape => begun c
    | escapeTail => if isParameter c || isFinal c then text else escapeTail
    | control heading => if isFinal c then text else control (heading.next c)
    | device heading =>
      if isFinal c || heading.next c = .malformed then string else device (heading.next c)
    | string => if holdsTerminator c then text else string
    | command => if c = '\x07' then text else command

/-- Whether a character shows in a passage. -/
def shows (passage : Passage) (c : Char) : Bool :=
  match passage with
  | text => isIntermediate c || isParameter c || isFinal c || isSpacing c || 0x80 ≤ c.toNat
  | escape | escapeTail | control _ => isSpacing c
  | device _ | string | command => false

/-- The characters that show. Behind one that shows the next is looked at as if outside every
sequence; a character beyond ASCII there ends the sequence. -/
def shown (passage : Passage) (showing : Bool) : List Char → List Char
  | [] => []
  | c :: rest =>
    if (if showing then text else passage).shows c then
      c :: shown (if 0x80 ≤ c.toNat then text else passage) true rest
    else shown (passage.next c) false rest

end Passage

/-- A text without control sequences and without control characters other than white space. -/
def plain (text : String) : String := String.ofList (Passage.text.shown false text.toList)

end SuperChip.Text
