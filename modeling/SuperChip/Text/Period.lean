set_option autoImplicit false

namespace SuperChip.Text

/-- `value` units of ten to the power of `places` parts each, without zeros at the end of the fraction. -/
def decimalFraction (places value : Nat) : String :=
  let unit := Nat.pow 10 places
  let digits := (Nat.toDigits 10 (value % unit)).leftpad places '0'
  let fraction := (digits.reverse.dropWhile (· == '0')).reverse
  (value / unit).repr ++
    (if fraction.isEmpty then "" else "." ++ String.ofList fraction)

/-- A length of time in the largest of these units of which there is at least one. -/
def period (nanoseconds : Nat) : String :=
  if 1000000000 ≤ nanoseconds then decimalFraction 9 nanoseconds ++ "s"
  else if 1000000 ≤ nanoseconds then decimalFraction 6 nanoseconds ++ "ms"
  else if 1000 ≤ nanoseconds then decimalFraction 3 nanoseconds ++ "µs"
  else decimalFraction 0 nanoseconds ++ "ns"

end SuperChip.Text
