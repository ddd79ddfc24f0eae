/-!
# Durations

Durations are kept in nanoseconds. Growing a delay by a factor goes through its number of seconds as a binary
floating-point number; the result is rounded to the nearest nanosecond, a half to the even neighbour.
-/

namespace MultiCluster

/-- A length of time. -/
structure Duration where
  nanos : Nat
  deriving DecidableEq, Repr, Inhabited

/-- The quotient of two numbers, rounded to the nearest integer, a half to the even neighbour. -/
def roundDiv (n d : Nat) : Nat :=
  let q := n / d
  let r := n % d
  if d < 2 * r ∨ (d = 2 * r ∧ q % 2 = 1) then q + 1 else q

namespace Duration

/-- A whole number of milliseconds. -/
def ofMillis (n : Nat) : Duration :=
  ⟨n * 1000000⟩

/-- The number of milliseconds, rounded up. -/
def ceilMillis (d : Duration) : Nat :=
  (d.nanos + 999999) / 1000000

/-- The number of seconds. -/
def seconds (d : Duration) : Float :=
  Float.ofNat (d.nanos / 1000000000) + Float.ofNat (d.nanos % 1000000000) / Float.ofNat 1000000000

/-- The number of seconds that a nonnegative finite floating-point number is, rounded to the nearest
nanosecond; none for any other number. -/
def ofSeconds (x : Float) : Duration :=
  let bits := x.toBits.toNat
  let sign := bits >>> 63
  let exponent := (bits >>> 52) % 2048
  let significand := bits % (1 <<< 52) + (1 <<< 52)
  if sign = 1 ∨ exponent = 0 ∨ exponent = 2047 then ⟨0⟩
  else if exponent < 1075 then ⟨roundDiv (significand * 1000000000) (1 <<< (1075 - exponent))⟩
  else ⟨(significand <<< (exponent - 1075)) * 1000000000⟩

/-- A duration multiplied by a factor, and no longer than a cap. -/
def grow (d : Duration) (factor : Float) (cap : Duration) : Duration :=
  let grown := d.seconds * factor
  ofSeconds (if grown < cap.seconds then grown else cap.seconds)

end Duration

/-- A pause between two requests: a base duration, and the range from which the factor it is multiplied with is
drawn at random. An empty range stands for its lower end. -/
structure Pause where
  base : Duration
  least : Float
  most : Float

/-- The shortest time that a pause may take. -/
def Pause.shortest (p : Pause) : Duration :=
  Duration.ofSeconds (p.base.seconds * p.least)

end MultiCluster
