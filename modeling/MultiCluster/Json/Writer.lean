import MultiCluster.Json.Basic
import MultiCluster.Text.Decimal
import MultiCluster.Text.Quoted

/-!
# Writing JSON

Two styles: compact, without a space, and indented, where each item of a nonempty array or object stands on a
line of its own, two columns to the right of its container.
-/

namespace MultiCluster.Json

open Text (hexDigits)

/-- How the items of a container are separated. -/
inductive Style where
  | compact
  | indented
  deriving DecidableEq, Repr

/-- What stands before an item at a depth. -/
def Style.lineBreak : Style → Nat → List Char
  | .compact, _ => []
  | .indented, depth => '\n' :: List.replicate (2 * depth) ' '

/-- What stands between a key and its value. -/
def Style.colon : Style → List Char
  | .compact => [':']
  | .indented => [':', ' ']

/-- One character as it stands in a quoted text: the quote, the backslash and the controls are escaped. -/
def escapeChar (c : Char) : List Char :=
  if c = '"' then ['\\', '"']
  else if c = '\\' then ['\\', '\\']
  else if c = '\x08' then ['\\', 'b']
  else if c = '\x0c' then ['\\', 'f']
  else if c = '\n' then ['\\', 'n']
  else if c = '\r' then ['\\', 'r']
  else if c = '\t' then ['\\', 't']
  else if c.toNat < 0x20 then
    ['\\', 'u', '0', '0', Nat.digitChar (c.toNat / 16), Nat.digitChar (c.toNat % 16)]
  else [c]

/-- A quoted text. -/
def writeText (s : String) : List Char :=
  '"' :: s.toList.flatMap escapeChar ++ ['"']

/-- An integer. -/
def writeInteger (n : Int) : List Char :=
  if n < 0 then '-' :: Text.Decimal.digits n.natAbs else Text.Decimal.digits n.natAbs

/-- A number of zeros. -/
def zeros (n : Nat) : List Char :=
  List.replicate n '0'

/-- The digits of a decimal with the point in or beside them: among the first sixteen digits, or at most four zeros
in front of them. A decimal with its point elsewhere has one digit before the point, and an exponent. -/
def writeMagnitude (mantissa : Nat) (exponent : Int) : List Char :=
  let digits := Text.Decimal.digits mantissa
  let point := digits.length + exponent
  if 0 ≤ exponent ∧ point ≤ 16 then digits ++ zeros exponent.toNat ++ ['.', '0']
  else if 0 < point ∧ point ≤ 16 then digits.take point.toNat ++ '.' :: digits.drop point.toNat
  else if -5 < point ∧ point ≤ 0 then '0' :: '.' :: zeros (-point).toNat ++ digits
  else
    let fraction := if digits.length = 1 then [] else '.' :: digits.drop 1
    digits.take 1 ++ fraction ++ 'e' :: writeInteger (point - 1)

mutual

/-- A value whose container, if it has one, is at `depth - 1`. -/
def write (style : Style) (depth : Nat) : Json → List Char
  | null => ['n', 'u', 'l', 'l']
  | bool true => ['t', 'r', 'u', 'e']
  | bool false => ['f', 'a', 'l', 's', 'e']
  | integer n => writeInteger n
  | decimal negative mantissa exponent =>
    if negative then '-' :: writeMagnitude mantissa exponent else writeMagnitude mantissa exponent
  | text s => writeText s
  | array [] => ['[', ']']
  | array (x :: xs) =>
    '[' :: style.lineBreak (depth + 1) ++ write style (depth + 1) x ++ writeItems style (depth + 1) xs ++
      style.lineBreak depth ++ [']']
  | object [] => ['\x7b', '\x7d']
  | object (m :: ms) =>
    '\x7b' :: style.lineBreak (depth + 1) ++ writeText m.1 ++ style.colon ++ write style (depth + 1) m.2 ++
      writeMembers style (depth + 1) ms ++ style.lineBreak depth ++ ['\x7d']
  | illFormed => ['n', 'u', 'l', 'l']

/-- The items of an array after its first. -/
def writeItems (style : Style) (depth : Nat) : List Json → List Char
  | [] => []
  | x :: xs => ',' :: style.lineBreak depth ++ write style depth x ++ writeItems style depth xs

/-- The members of an object after its first. -/
def writeMembers (style : Style) (depth : Nat) : List (String × Json) → List Char
  | [] => []
  | m :: ms =>
    ',' :: style.lineBreak depth ++ writeText m.1 ++ style.colon ++ write style depth m.2 ++
      writeMembers style depth ms

end

/-- The text of a value without a space. -/
def compact (j : Json) : String :=
  String.ofList (write .compact 0 j)

/-- The text of a value on several lines. -/
def indented (j : Json) : String :=
  String.ofList (write .indented 0 j)

end MultiCluster.Json
