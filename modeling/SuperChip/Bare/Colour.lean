import SuperChip.Colour

set_option autoImplicit false

namespace SuperChip.Bare

/-- What a text has behind a mark, if the mark is what it starts with. -/
def stripPrefix? (mark text : String) : Option String :=
  (mark.toList.isPrefixOf? text.toList).map String.ofList

/-- The bytes of a text from number `first` up to number `last`, if the text has so many and neither
number lies inside a character. -/
def slice? (text : String) (first last : Nat) : Option String := do
  let start ← text.pos? ⟨first⟩
  let stop ← text.pos? ⟨last⟩
  let part ← text.slice? start stop
  return part.copy

def isHexDigit (c : Char) : Bool :=
  ('0' ≤ c && c ≤ '9') || ('A' ≤ c && c ≤ 'F') || ('a' ≤ c && c ≤ 'f')

/-- The byte that hexadecimal digits stand for, perhaps behind a plus sign. -/
def hexByte? (text : String) : Option UInt8 :=
  let digits := match text.toList with
    | '+' :: rest => rest
    | all => all
  if digits.isEmpty then none
  else do
    let values ← digits.mapM Text.hexDigit?
    let value := values.foldl (fun total digit => 16 * total + digit.val) 0
    if value < 256 then some (UInt8.ofNat value) else none

/-- The byte of the two digits from number `first` on. -/
def channel? (text digits : String) (first : Nat) : ExceptT ColourError Option UInt8 :=
  ExceptT.mk do
    let pair ← slice? digits first (first + 2)
    match hexByte? pair with
    | some value => return .ok value
    | none => return .error ⟨text⟩

/-- The colour that a text spells, or the error that it spells none. There is neither if a cut
fails. -/
def colour? (text : String) : ExceptT ColourError Option Colour := do
  let digits := ((stripPrefix? "0x" text).or (stripPrefix? "#" text)).getD text
  if digits.utf8ByteSize ≠ 6 ∨ ¬ digits.toList.all isHexDigit then
    throw ⟨text⟩
  let red ← channel? text digits 0
  let green ← channel? text digits 2
  let blue ← channel? text digits 4
  return ⟨red, green, blue⟩

end SuperChip.Bare
