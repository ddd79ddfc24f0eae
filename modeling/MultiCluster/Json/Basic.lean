/-!
# JSON values

Values keep what their text says: the order of an object's members, repeated keys, and whether a number was
written as an integer. A lookup by key answers the last member with that key.
-/

namespace MultiCluster

/-- A JSON value. -/
inductive Json where
  | null
  | bool (b : Bool)
  /-- A number written without fraction and exponent. -/
  | integer (n : Int)
  /-- Any other number, `mantissa * 10 ^ exponent` with its sign; negative zero is one of them. -/
  | decimal (negative : Bool) (mantissa : Nat) (exponent : Int)
  | text (s : String)
  | array (items : List Json)
  | object (members : List (String × Json))
  /-- A text, or an object one of whose keys is a text, with an unpaired surrogate: it denotes no value and may
  only stand where a value is skipped. -/
  | illFormed
  deriving Inhabited

namespace Json

/-- The text that a value is. -/
def asText? : Json → Option String
  | text s => some s
  | _ => none

/-- The truth value that a value is. -/
def asBool? : Json → Option Bool
  | bool b => some b
  | _ => none

/-- The natural number below `limit` that a value is. -/
def asNat? (limit : Nat) : Json → Option Nat
  | integer n => if 0 ≤ n ∧ n < limit then some n.toNat else none
  | _ => none

/-- The signed 64-bit integer that a value is. -/
def asInt64? : Json → Option Int64
  | integer n => if -9223372036854775808 ≤ n ∧ n < 9223372036854775808 then some (Int64.ofInt n) else none
  | _ => none

/-- The 64-bit word that a value is. -/
def asWord? (j : Json) : Option UInt64 :=
  (j.asNat? 18446744073709551616).map UInt64.ofNat

/-- The items of an array, and none of any other value. -/
def items : Json → List Json
  | array xs => xs
  | _ => []

/-- The members of an object. -/
def asObject? : Json → Option (List (String × Json))
  | object ms => some ms
  | _ => none

/-- The last member of an object with a key. -/
def member? (key : String) : Json → Option Json
  | object ms => (ms.reverse.find? fun m => m.1 == key).map Prod.snd
  | _ => none

/-- The last member of an object with a key, or `null`. -/
def get (j : Json) (key : String) : Json :=
  (j.member? key).getD null

/-- A missing or `null` member is none. -/
def given? (j : Json) (key : String) : Option Json :=
  match j.member? key with
  | some null => none
  | found => found

/-- A text, or `null` for none. -/
def ofText? : Option String → Json
  | some s => text s
  | none => null

/-- A 64-bit word. -/
def ofWord (n : UInt64) : Json :=
  integer n.toNat

/-- A signed 64-bit integer. -/
def ofInt64 (n : Int64) : Json :=
  integer n.toInt

/-- A natural number. -/
def ofNat (n : Nat) : Json :=
  integer n

/-- An array of texts. -/
def ofTexts (ss : List String) : Json :=
  array (ss.map text)

/-- An object of texts. -/
def ofPairs (ps : List (String × String)) : Json :=
  object (ps.map fun p => (p.1, text p.2))

/-- A word reads back from its number. -/
theorem asWord?_ofWord (n : UInt64) : (ofWord n).asWord? = some n := by
  have h : n.toNat < 18446744073709551616 := n.toNat_lt
  have h' : (n.toNat : Int) < 18446744073709551616 := by omega
  simp [ofWord, asWord?, asNat?, h']

end Json

end MultiCluster
