import MultiCluster.Net.Network

/-!
# Networks of either family

Which texts name an IPv4 or an IPv6 network. An IPv6 address is eight groups of up to four hexadecimal digits;
one run of groups may be left out, and the last two groups may be written as an IPv4 address.
-/

namespace MultiCluster.Net

/-- Runs a reader behind a colon, or at once for the first group. -/
def afterColon (isFirst : Bool) (read : List Char → Option (α × List Char)) (cs : List Char) :
    Option (α × List Char) :=
  if isFirst then read cs else (readChar ':' cs).bind read

/-- Reads up to `limit` groups, `count` of which are read already. Returns how many groups were read, whether
they ended with an IPv4 address, and what follows. -/
def readGroups (count : Nat) : (limit : Nat) → List Char → Nat × Bool × List Char
  | 0, cs => (count, false, cs)
  | limit + 1, cs =>
    let address := if 0 < limit then afterColon (count == 0) Network.readAddress cs else none
    match address with
    | some (_, rest) => (count + 2, true, rest)
    | none =>
      match afterColon (count == 0) (readNumber 16 4 65536) cs with
      | some (_, rest) => readGroups (count + 1) limit rest
      | none => (count, false, cs)

/-- Reads an IPv6 address and returns what follows. -/
def readLongAddress (cs : List Char) : Option (List Char) :=
  match readGroups 0 8 cs with
  | (8, _, rest) => some rest
  | (_, true, _) => none
  | (count, false, rest) => do
    let rest ← readChar ':' rest
    let rest ← readChar ':' rest
    return (readGroups 0 (8 - count) rest).2.2

/-- Whether a text names an IPv6 network. -/
def isLongCidr (cs : List Char) : Bool :=
  let found := do
    let cs ← readLongAddress cs
    let cs ← readChar '/' cs
    readNumber 10 3 129 cs
  match found with
  | some (_, []) => true
  | _ => false

/-- Whether a text names a network of either family. -/
def isCidr (s : String) : Bool :=
  (Network.ofText? s).isSome || isLongCidr s.toList

end MultiCluster.Net
