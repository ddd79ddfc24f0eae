/-!
# Unsigned decimal numbers

Reading a text as an unsigned decimal number below a limit. One plus sign may lead and leading zeros are
allowed; the first offence from the left decides the flaw that is reported. `readDigits_eq_ok` says that digits
whose value stays below the limit are read to that value.
-/

namespace MultiCluster.Text.Decimal

/-- Why a text is not an unsigned decimal number below the limit. -/
inductive Flaw where
  | empty
  | invalidDigit
  | tooLarge
  deriving DecidableEq, Repr

/-- The wording of a flaw. -/
def Flaw.message : Flaw → String
  | .empty => "cannot parse integer from empty string"
  | .invalidDigit => "invalid digit found in string"
  | .tooLarge => "number too large to fit in target type"

/-- The value of a decimal digit. -/
def digitValue? (c : Char) : Option Nat :=
  if c.isDigit then some (c.toNat - '0'.toNat) else none

/-- Reads digits after the ones that make up `value`. -/
def readDigits (limit value : Nat) : List Char → Except Flaw Nat
  | [] => .ok value
  | c :: cs =>
    match digitValue? c with
    | none => .error .invalidDigit
    | some d => if 10 * value + d < limit then readDigits limit (10 * value + d) cs else .error .tooLarge

/-- Reads an unsigned number below `limit`. -/
def readChars (limit : Nat) : List Char → Except Flaw Nat
  | [] => .error .empty
  | ['+'] => .error .invalidDigit
  | '+' :: cs => readDigits limit 0 cs
  | cs => readDigits limit 0 cs

/-- Reads an unsigned number below `limit`. -/
def read (limit : Nat) (s : String) : Except Flaw Nat :=
  readChars limit s.toList

/-- The number of values of a 64-bit word. -/
def wordLimit : Nat := 18446744073709551616

/-- The number of values of a 32-bit word. -/
def halfLimit : Nat := 4294967296

/-- The digits of a number, without leading zeros. -/
def digits (n : Nat) : List Char :=
  Nat.toDigits 10 n

theorem digitValue?_eq_some {c : Char} (h : c.isDigit = true) :
    digitValue? c = some (c.toNat - '0'.toNat) := by
  simp [digitValue?, h]

private theorem le_ofDigitChars (cs : List Char) (value : Nat) : value ≤ Nat.ofDigitChars 10 cs value := by
  induction cs generalizing value with
  | nil => simp
  | cons c cs ih =>
    rw [Nat.ofDigitChars_cons]
    exact Nat.le_trans (by omega) (ih _)

/-- Digits whose value stays below the limit are read to that value. -/
theorem readDigits_eq_ok {limit : Nat} (cs : List Char) {value : Nat} (hd : ∀ c ∈ cs, c.isDigit = true)
    (hl : Nat.ofDigitChars 10 cs value < limit) :
    readDigits limit value cs = .ok (Nat.ofDigitChars 10 cs value) := by
  induction cs generalizing value with
  | nil => simp [readDigits]
  | cons c cs ih =>
    rw [Nat.ofDigitChars_cons] at hl ⊢
    have hc := digitValue?_eq_some (hd c (by simp))
    have hlt := Nat.lt_of_le_of_lt (le_ofDigitChars cs _) hl
    simp only [readDigits, hc, hlt, ↓reduceIte]
    exact ih (fun d hm => hd d (List.mem_cons_of_mem _ hm)) hl

end MultiCluster.Text.Decimal
