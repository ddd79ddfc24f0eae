import MultiCluster.Json.Basic
import MultiCluster.Text.Shortest

/-!
# JSON numbers as machine numbers

A number that is written as an integer and fits into 64 bits is kept exactly. Any other number is taken for a
64-bit floating-point number: its leading digits, as many as fit into 64 bits, times or over a power of ten.
-/

namespace MultiCluster.Json

/-- The leading digits of a number that fit into 64 bits, and how many digits are left off. -/
def leadingDigits (n : Nat) : Nat × Nat :=
  let ds := Text.Decimal.digits n
  let first (k : Nat) := Nat.ofDigitChars 10 (ds.take k) 0
  if n < Text.Decimal.wordLimit then (n, 0)
  else if first 20 < Text.Decimal.wordLimit then (first 20, ds.length - 20)
  else (first 19, ds.length - 19)

/-- The power of ten with an exponent. -/
def tenTo (k : Nat) : Float :=
  Float.ofScientific 1 false k

/-- A floating-point number times a power of ten, infinite if the power is. The quotient by a power beyond the range
of floating-point numbers is taken in two steps. -/
def scaleFloat (x : Float) (exponent : Int) : Float :=
  if 308 < exponent then 1 / 0
  else if 0 ≤ exponent then x * tenTo exponent.toNat
  else if -308 ≤ exponent then x / tenTo (-exponent).toNat
  else if -616 ≤ exponent then x / tenTo 308 / tenTo (-exponent - 308).toNat
  else 0

/-- The magnitude of a number as a floating-point number. -/
def magnitude (mantissa : Nat) (exponent : Int) : Float :=
  let (digits, dropped) := leadingDigits mantissa
  if digits = 0 then 0 else scaleFloat (Float.ofNat digits) (exponent + dropped)

/-- The floating-point number that a value is. -/
def asFloat? : Json → Option Float
  | integer n => some (if n < 0 then -magnitude n.natAbs 0 else magnitude n.natAbs 0)
  | decimal negative mantissa exponent =>
    some (if negative then -magnitude mantissa exponent else magnitude mantissa exponent)
  | _ => none

/-- The shortest decimal for the floating-point number that a number is taken for; a number that is too large for one
stays as it is. -/
def shortened (negative : Bool) (mantissa : Nat) (exponent : Int) : Json :=
  let x := magnitude mantissa exponent
  let shortest := if x.isFinite then Text.Shortest.ofFloat x else ⟨mantissa, exponent⟩
  decimal negative shortest.digits shortest.exponent

end MultiCluster.Json
