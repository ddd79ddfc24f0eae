/-!
# Numbers inside addresses

A number with a bounded count of digits, at the beginning of a text.
-/

namespace MultiCluster.Net

/-- The value of a hexadecimal digit. -/
def digitValue? (radix : Nat) (c : Char) : Option Nat :=
  let value :=
    if c.isDigit then some (c.toNat - 48)
    else if 'a' ≤ c ∧ c ≤ 'f' then some (c.toNat - 87)
    else if 'A' ≤ c ∧ c ≤ 'F' then some (c.toNat - 55)
    else none
  value.filter (· < radix)

/-- The values of the digits at the beginning of a text, and what follows them. -/
def spanDigits (radix : Nat) : List Char → List Nat × List Char
  | [] => ([], [])
  | c :: cs =>
    match digitValue? radix c with
    | none => ([], c :: cs)
    | some d => let (ds, rest) := spanDigits radix cs; (d :: ds, rest)

/-- The value of a list of digits. -/
def ofDigits (radix : Nat) (ds : List Nat) : Nat :=
  ds.foldl (fun n d => n * radix + d) 0

/-- Reads all digits at the beginning of a text: one to `width` of them, with a value below `limit`. -/
def readNumber (radix width limit : Nat) (cs : List Char) : Option (Nat × List Char) :=
  let (ds, rest) := spanDigits radix cs
  if ds.isEmpty ∨ width < ds.length ∨ limit ≤ ofDigits radix ds then none
  else some (ofDigits radix ds, rest)

/-- Reads one given character. -/
def readChar (c : Char) : List Char → Option (List Char)
  | [] => none
  | d :: ds => if c = d then some ds else none

end MultiCluster.Net
