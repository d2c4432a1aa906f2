import SuperChip.Nibble

set_option autoImplicit false

namespace SuperChip.Text

/-- The lower case hexadecimal digits of `value`, at least `width` of them. -/
def hexadecimal (width value : Nat) : String :=
  String.ofList ((Nat.toDigits 16 value).leftpad width '0')

/-- The value of a hexadecimal digit, in either case. -/
def hexDigit? (c : Char) : Option Nibble :=
  if '0' ≤ c ∧ c ≤ '9' then some (Fin.ofNat 16 (c.toNat - '0'.toNat))
  else if 'a' ≤ c ∧ c ≤ 'f' then some (Fin.ofNat 16 (c.toNat - 'a'.toNat + 10))
  else if 'A' ≤ c ∧ c ≤ 'F' then some (Fin.ofNat 16 (c.toNat - 'A'.toNat + 10))
  else none

/-- The given numbers in hexadecimal, each at least `width` digits wide, between brackets. -/
def hexadecimalList (width : Nat) (values : List Nat) : String :=
  "[" ++ String.intercalate ", " (values.map (hexadecimal width)) ++ "]"

end SuperChip.Text
