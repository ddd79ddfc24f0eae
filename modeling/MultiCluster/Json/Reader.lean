import MultiCluster.Json.Basic
import MultiCluster.Text.Decimal

/-!
# Reading JSON

Reading a JSON value, nested to any depth. An escape that names an unpaired surrogate is well-formed as syntax and
denotes no text; such a text is read as `Json.illFormed`.
-/

namespace MultiCluster.Json

/-- The four characters that may stand between tokens. -/
def isSpace (c : Char) : Bool :=
  c == ' ' || c == '\n' || c == '\t' || c == '\r'

/-- A text without the spaces at its beginning. -/
def skipSpaces (cs : List Char) : List Char :=
  cs.dropWhile isSpace

/-! ### Texts -/

/-- A part of a quoted text: a character, or a 16-bit unit named by an escape. -/
inductive Piece where
  | char (c : Char)
  | unit (n : Nat)

/-- The value of a hexadecimal digit. -/
def hexValue? (c : Char) : Option Nat :=
  if c.isDigit then some (c.toNat - 48)
  else if 'a' ≤ c ∧ c ≤ 'f' then some (c.toNat - 87)
  else if 'A' ≤ c ∧ c ≤ 'F' then some (c.toNat - 55)
  else none

/-- The value of four hexadecimal digits. -/
def hexUnit? (a b c d : Char) : Option Nat := do
  let a ← hexValue? a
  let b ← hexValue? b
  let c ← hexValue? c
  let d ← hexValue? d
  return a * 4096 + b * 256 + c * 16 + d

/-- The character that a one-letter escape names. -/
def escaped? : Char → Option Char
  | '"' => some '"'
  | '\\' => some '\\'
  | '/' => some '/'
  | 'b' => some '\x08'
  | 'f' => some '\x0c'
  | 'n' => some '\n'
  | 'r' => some '\r'
  | 't' => some '\t'
  | _ => none

/-- Reads the parts of a text up to its closing quote, and returns what follows the quote. -/
def readPieces : List Char → Option (List Piece × List Char)
  | [] => none
  | '"' :: rest => some ([], rest)
  | '\\' :: 'u' :: a :: b :: c :: d :: rest => do
    let n ← hexUnit? a b c d
    let (ps, rest) ← readPieces rest
    return (.unit n :: ps, rest)
  | '\\' :: e :: rest => do
    let c ← escaped? e
    let (ps, rest) ← readPieces rest
    return (.char c :: ps, rest)
  | c :: rest =>
    if c.toNat < 0x20 ∨ c = '\\' then none
    else do
      let (ps, rest) ← readPieces rest
      return (.char c :: ps, rest)

/-- The first half of a surrogate pair. -/
def isHighSurrogate (n : Nat) : Bool :=
  0xD800 ≤ n && n < 0xDC00

/-- The second half of a surrogate pair. -/
def isLowSurrogate (n : Nat) : Bool :=
  0xDC00 ≤ n && n < 0xE000

/-- The characters of a text; none if one of its surrogates is unpaired. -/
def joinPieces : List Piece → Option (List Char)
  | [] => some []
  | .char c :: ps => (joinPieces ps).map (c :: ·)
  | .unit h :: .unit l :: ps =>
    if isHighSurrogate h && isLowSurrogate l then
      (joinPieces ps).map (Char.ofNat (0x10000 + (h - 0xD800) * 0x400 + (l - 0xDC00)) :: ·)
    else if isHighSurrogate h || isLowSurrogate h then none
    else (joinPieces (.unit l :: ps)).map (Char.ofNat h :: ·)
  | .unit h :: ps =>
    if isHighSurrogate h || isLowSurrogate h then none else (joinPieces ps).map (Char.ofNat h :: ·)

/-- Reads a text after its opening quote; the text is none if a surrogate is unpaired. -/
def readText (cs : List Char) : Option (Option String × List Char) := do
  let (ps, rest) ← readPieces cs
  return ((joinPieces ps).map String.ofList, rest)

/-! ### Numbers -/

/-- The digits at the beginning of a text, and what follows them. -/
def spanDigits (cs : List Char) : List Char × List Char :=
  (cs.takeWhile Char.isDigit, cs.dropWhile Char.isDigit)

/-- Reads the digits before the point: one zero, or digits that begin with another one. -/
def readWhole (cs : List Char) : Option (List Char × List Char) :=
  match spanDigits cs with
  | ([], _) => none
  | ('0' :: _ :: _, _) => none
  | found => some found

/-- Reads the part of a number from the point on. -/
def readFraction : List Char → Option (Option (List Char) × List Char)
  | '.' :: cs =>
    match spanDigits cs with
    | ([], _) => none
    | (ds, rest) => some (some ds, rest)
  | cs => some (none, cs)

/-- Reads the digits of an exponent. -/
def readExponentDigits (cs : List Char) : Option (Nat × List Char) :=
  match spanDigits cs with
  | ([], _) => none
  | (ds, rest) => some (Nat.ofDigitChars 10 ds 0, rest)

/-- Reads the exponent of a number. -/
def readExponent : List Char → Option (Option Int × List Char)
  | e :: cs =>
    if e = 'e' ∨ e = 'E' then
      match cs with
      | '-' :: cs => (readExponentDigits cs).map fun r => (some (-(r.1 : Int)), r.2)
      | '+' :: cs => (readExponentDigits cs).map fun r => (some (r.1 : Int), r.2)
      | cs => (readExponentDigits cs).map fun r => (some (r.1 : Int), r.2)
    else some (none, e :: cs)
  | [] => some (none, [])

/-- The number with the given sign, digits and exponent. -/
def numberOf (negative : Bool) (whole : List Char) (fraction : Option (List Char)) (exponent : Option Int) :
    Json :=
  match fraction, exponent with
  | none, none =>
    let n := Nat.ofDigitChars 10 whole 0
    if negative && n == 0 then decimal true 0 0 else integer (if negative then -(n : Int) else n)
  | _, _ =>
    let ds := fraction.getD []
    decimal negative (Nat.ofDigitChars 10 (whole ++ ds) 0) (exponent.getD 0 - ds.length)

/-- Reads a number after its sign. -/
def readUnsigned (negative : Bool) (cs : List Char) : Option (Json × List Char) := do
  let (whole, cs) ← readWhole cs
  let (fraction, cs) ← readFraction cs
  let (exponent, cs) ← readExponent cs
  return (numberOf negative whole fraction exponent, cs)

/-- Reads a number. -/
def readNumber : List Char → Option (Json × List Char)
  | '-' :: cs => readUnsigned true cs
  | cs => readUnsigned false cs

/-! ### Values -/

/-- The object with the given members; a key that denotes no text leaves it ill-formed. -/
def objectOf (ms : List (Option String × Json)) : Json :=
  match ms.mapM fun m => m.1.map fun k => (k, m.2) with
  | some ms => object ms
  | none => illFormed

mutual

/-- Reads a value that stands at the beginning of a text, nested no deeper than the first argument. -/
def readValue : Nat → List Char → Option (Json × List Char)
  | 0, _ => none
  | fuel + 1, cs =>
    match cs with
    | [] => none
    | '"' :: cs => (readText cs).map fun r => (r.1.elim illFormed text, r.2)
    | '[' :: cs =>
      match skipSpaces cs with
      | ']' :: cs => some (array [], cs)
      | cs => (readItems fuel cs).map fun r => (array r.1, r.2)
    | '\x7b' :: cs =>
      match skipSpaces cs with
      | '\x7d' :: cs => some (object [], cs)
      | cs => (readMembers fuel cs).map fun r => (objectOf r.1, r.2)
    | 'n' :: 'u' :: 'l' :: 'l' :: cs => some (null, cs)
    | 't' :: 'r' :: 'u' :: 'e' :: cs => some (bool true, cs)
    | 'f' :: 'a' :: 'l' :: 's' :: 'e' :: cs => some (bool false, cs)
    | cs => readNumber cs

/-- Reads the items of an array that has one, up to its closing bracket. -/
def readItems : Nat → List Char → Option (List Json × List Char)
  | 0, _ => none
  | fuel + 1, cs => do
    let (item, cs) ← readValue fuel cs
    match skipSpaces cs with
    | ']' :: cs => return ([item], cs)
    | ',' :: cs =>
      let (items, cs) ← readItems fuel (skipSpaces cs)
      return (item :: items, cs)
    | _ => none

/-- Reads the members of an object that has one, up to its closing brace. -/
def readMembers : Nat → List Char → Option (List (Option String × Json) × List Char)
  | 0, _ => none
  | fuel + 1, cs => do
    let '"' :: cs := cs | none
    let (key, cs) ← readText cs
    let ':' :: cs := skipSpaces cs | none
    let (value, cs) ← readValue fuel (skipSpaces cs)
    match skipSpaces cs with
    | '\x7d' :: cs => return ([(key, value)], cs)
    | ',' :: cs =>
      let (members, cs) ← readMembers fuel (skipSpaces cs)
      return ((key, value) :: members, cs)
    | _ => none

end

/-- Reads a text that holds one value and nothing else but spaces. -/
def readChars? (cs : List Char) : Option Json := do
  let (j, rest) ← readValue (cs.length + 1) (skipSpaces cs)
  if (skipSpaces rest).isEmpty then some j else none

/-- Reads a text that holds one value and nothing else but spaces. -/
def read? (s : String) : Option Json :=
  readChars? s.toList

end MultiCluster.Json
