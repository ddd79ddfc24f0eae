import MultiCluster.Text.Decimal
import MultiCluster.Timing.Duration

/-!
# The shortest decimal of a floating-point number

A positive 64-bit floating-point number stands for an interval of real numbers, the ones that round to it. Its
shortest decimal is the one with the fewest digits in that interval, and of several the nearest to the number.
-/

namespace MultiCluster.Text.Shortest

/-- The real numbers that round to a floating-point number, in units of `10 ^ exponent`. -/
structure Interval where
  exponent : Int
  low : Nat
  /-- The floating-point number itself. -/
  value : Nat
  high : Nat
  /-- Whether the two ends belong to the interval. -/
  closed : Bool

/-- A decimal, `digits * 10 ^ exponent`. -/
structure Scaled where
  digits : Nat
  exponent : Int
  deriving Repr

namespace Interval

/-- Whether a number lies in the interval. -/
def contains (i : Interval) (n : Nat) : Bool :=
  (i.low < n && n < i.high) || (i.closed && (n == i.low || n == i.high))

/-- The multiple of a step that lies in the interval, and of two the nearer one, as a number of steps. A tie goes
to the even one. -/
def nearest? (i : Interval) (step : Nat) : Option Nat :=
  [roundDiv i.value step, i.value / step, i.value / step + 1].find? fun d => i.contains (d * step)

/-- The first of the steps `10 ^ k`, `10 ^ (k - 1)`, … with a multiple in the interval: the multiple as a number of
steps, and the power of ten. -/
def search (i : Interval) : Nat → Nat × Nat
  | 0 => (i.value, 0)
  | k + 1 =>
    match i.nearest? (Nat.pow 10 (k + 1)) with
    | some d => (d, k + 1)
    | none => i.search k

/-- The shortest decimal in the interval. -/
def shortest (i : Interval) : Scaled :=
  let (d, k) := i.search ((Decimal.digits i.value).length - 1)
  if d % 10 = 0 then ⟨d / 10, i.exponent + k + 1⟩ else ⟨d, i.exponent + k⟩

/-- The interval around `significand * 2 ^ exponent`, whose ends lie half a unit of the significand away, and below
only a quarter if `narrow`. -/
def around (significand : Nat) (exponent : Int) (narrow : Bool) : Interval :=
  let scale (factor : Nat) (power : Int) : Interval :=
    { exponent := power
      low := (4 * significand - if narrow then 1 else 2) * factor
      value := 4 * significand * factor
      high := (4 * significand + 2) * factor
      closed := significand % 2 == 0 }
  if 2 ≤ exponent then scale (Nat.pow 2 (exponent - 2).toNat) 0
  else scale (Nat.pow 5 (2 - exponent).toNat) (exponent - 2)

end Interval

/-- The shortest decimal of the magnitude of a finite floating-point number. -/
def ofFloat (x : Float) : Scaled :=
  let bits := x.toBits.toNat
  let exponent := (bits >>> 52) % 2048
  let fraction := bits % (1 <<< 52)
  let significand := if exponent = 0 then fraction else fraction + (1 <<< 52)
  if 0 < significand then
    (Interval.around significand (max exponent 1 - 1075) (fraction == 0 && 1 < exponent)).shortest
  else ⟨0, 0⟩

end MultiCluster.Text.Shortest
