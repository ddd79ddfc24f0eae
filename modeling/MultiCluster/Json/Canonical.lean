import MultiCluster.Json.Number

/-!
# Canonical documents

In a canonical document the members of each object stand in the order of their keys, no key occurs twice, and each
number is an integer of 64 bits or the shortest decimal of a floating-point number.
-/

namespace MultiCluster.Json

/-- Puts a member among members in the order of their keys, unless the key is there already. -/
def insertMember (key : String) (value : Json) : List (String × Json) → List (String × Json)
  | [] => [(key, value)]
  | m :: ms =>
    if key < m.1 then (key, value) :: m :: ms
    else if key = m.1 then m :: ms
    else m :: insertMember key value ms

mutual

/-- The canonical document of a value. -/
def canonical : Json → Json
  | integer n =>
    if -9223372036854775808 ≤ n ∧ n < 18446744073709551616 then integer n else shortened (n < 0) n.natAbs 0
  | decimal negative mantissa exponent => shortened negative mantissa exponent
  | array items => array (canonicalItems items)
  | object members => object (canonicalMembers members)
  | j => j

/-- The canonical items of an array. -/
def canonicalItems : List Json → List Json
  | [] => []
  | j :: js => canonical j :: canonicalItems js

/-- The canonical members of an object; the last of several members with one key stays. -/
def canonicalMembers : List (String × Json) → List (String × Json)
  | [] => []
  | m :: ms => insertMember m.1 (canonical m.2) (canonicalMembers ms)

end

end MultiCluster.Json
