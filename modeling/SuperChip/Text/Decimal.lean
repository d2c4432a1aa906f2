set_option autoImplicit false

namespace SuperChip.Text

def digit? (c : Char) : Option Nat := if c.isDigit then some (c.toNat - '0'.toNat) else none

/-- The number below the limit that a text stands for, perhaps behind a plus sign. -/
def natural? (limit : Nat) (text : String) : Option Nat :=
  let digits := match text.toList with
    | '+' :: rest => rest
    | all => all
  if digits.isEmpty then none
  else
    match digits.mapM digit? with
    | some values =>
      let value := values.foldl (fun total digit => 10 * total + digit) 0
      if value < limit then some value else none
    | none => none

end SuperChip.Text
