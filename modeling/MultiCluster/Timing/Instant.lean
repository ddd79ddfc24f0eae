import MultiCluster.Text.Blank
import MultiCluster.Text.Decimal
import MultiCluster.Timing.Calendar

/-!
# Instants

A point in time, to the second, in universal time. Its text names a date, a time of the day, and by how much that
time is ahead of universal time. Reading is lenient: white space may stand around the parts, leading zeros may be
missing, and a fraction of a second is dropped. Writing has one form.
-/

namespace MultiCluster

/-- A point in time, in universal time. -/
structure Instant where
  date : Date
  /-- The minutes since midnight. -/
  minute : Nat
  /-- The seconds of the minute; 60 is a leap second. -/
  second : Nat
  deriving DecidableEq, Repr

namespace Instant

open Text (isBlank)

/-- The minutes of a day. -/
def minutesPerDay : Nat := 1440

/-- Whether a year can be represented. -/
def isYear (year : Int) : Bool :=
  -262143 ≤ year && year ≤ 262142

/-- The instant whose date and time are given in a zone that is ahead of universal time by some minutes, less than a
day. -/
def ofLocal (date : Date) (minute second : Nat) (ahead : Int) : Instant :=
  let shifted := (minute : Int) - ahead
  if shifted < 0 then ⟨date.previous, (shifted + minutesPerDay).toNat, second⟩
  else if shifted < minutesPerDay then ⟨date, shifted.toNat, second⟩
  else ⟨date.next, (shifted - minutesPerDay).toNat, second⟩

/-! ### Reading -/

/-- A step of reading: what was read, and the rest of the text. -/
abbrev Step (α : Type) := List Char → Option (α × List Char)

/-- Reads digits, at least one and no more than `width`. -/
def digits (width : Nat) : Step Nat := fun cs =>
  let ds := (cs.take width).takeWhile Char.isDigit
  if ds.isEmpty then none else some (Nat.ofDigitChars 10 ds 0, cs.drop ds.length)

/-- Skips white space. -/
def skipBlanks (cs : List Char) : List Char :=
  cs.dropWhile isBlank

/-- Reads a year: four digits at most, or any number of digits behind a sign. -/
def year : Step Int := fun cs =>
  match skipBlanks cs with
  | '-' :: cs => (digits cs.length cs).map fun r => (-(r.1 : Int), r.2)
  | '+' :: cs => (digits cs.length cs).map fun r => ((r.1 : Int), r.2)
  | cs => (digits 4 cs).map fun r => ((r.1 : Int), r.2)

/-- Reads a number of one or two digits behind a mark. -/
def numberAfter (mark : Char) : Step Nat := fun cs =>
  match skipBlanks cs with
  | c :: cs => if c = mark then digits 2 (skipBlanks cs) else none
  | [] => none

/-- Reads the mark between date and time. -/
def separator : Step Unit := fun
  | 'T' :: cs | 't' :: cs | ' ' :: cs => some ((), cs)
  | _ => none

/-- Skips the fraction of a second. -/
def fraction : Step Unit := fun
  | '.' :: cs => (digits cs.length cs).map fun r => ((), r.2)
  | cs => some ((), cs)

/-- The value of a digit below a limit. -/
def digitBelow? (limit : Nat) (c : Char) : Option Nat :=
  (Text.Decimal.digitValue? c).filter (· < limit)

/-- Reads the hours and minutes of an offset, each of two digits, as minutes. -/
def offsetMinutes : Step Nat := fun
  | h :: h' :: cs => do
    let h ← digitBelow? 10 h
    let h' ← digitBelow? 10 h'
    match cs.dropWhile fun c => c == ':' || isBlank c with
    | m :: m' :: cs =>
      let m ← digitBelow? 6 m
      let m' ← digitBelow? 10 m'
      return ((h * 10 + h') * 60 + m * 10 + m', cs)
    | _ => none
  | _ => none

/-- Reads by how many minutes a zone is ahead of universal time. -/
def offset : Step Int := fun cs =>
  match skipBlanks cs with
  | 'Z' :: cs | 'z' :: cs => some (0, cs)
  | '+' :: cs => (offsetMinutes cs).map fun r => ((r.1 : Int), r.2)
  | '-' :: cs | '\u2212' :: cs => (offsetMinutes cs).map fun r => (-(r.1 : Int), r.2)
  | u :: t :: c :: cs => if [u, t, c].map Char.toUpper = ['U', 'T', 'C'] then some (0, cs) else none
  | _ => none

/-- Reads an instant. -/
def ofChars? (cs : List Char) : Option Instant := do
  let (year, cs) ← year cs
  let (month, cs) ← numberAfter '-' cs
  let (day, cs) ← numberAfter '-' cs
  let ((), cs) ← separator cs
  let (hour, cs) ← digits 2 (skipBlanks cs)
  let (minute, cs) ← numberAfter ':' cs
  let (second, cs) ← numberAfter ':' cs
  let ((), cs) ← fraction cs
  let (ahead, cs) ← offset cs
  let date : Date := ⟨year, month, day⟩
  let instant := ofLocal date (hour * 60 + minute) second ahead
  guard (date.IsValid ∧ isYear year ∧ hour < 24 ∧ minute < 60 ∧ second ≤ 60)
  guard (ahead.natAbs < minutesPerDay ∧ isYear instant.date.year ∧ cs.all isBlank)
  return instant

/-- Reads an instant. -/
def ofText? (s : String) : Option Instant :=
  ofChars? s.toList

/-! ### Writing -/

/-- A number with leading zeros up to a width. -/
def padded (width n : Nat) : List Char :=
  let ds := Text.Decimal.digits n
  List.replicate (width - ds.length) '0' ++ ds

/-- A year in four digits, with a sign if it needs more or is negative. -/
def yearChars (year : Int) : List Char :=
  if year < 0 then '-' :: padded 4 year.natAbs
  else if 9999 < year then '+' :: padded 4 year.natAbs
  else padded 4 year.natAbs

/-- The text of an instant. -/
def toText (i : Instant) : String :=
  String.ofList <|
    yearChars i.date.year ++ '-' :: padded 2 i.date.month ++ '-' :: padded 2 i.date.day ++
    'T' :: padded 2 (i.minute / 60) ++ ':' :: padded 2 (i.minute % 60) ++ ':' :: padded 2 i.second ++ ['Z']

end Instant

end MultiCluster
