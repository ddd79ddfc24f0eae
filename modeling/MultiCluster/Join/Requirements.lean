import MultiCluster.Failure
import MultiCluster.Text.Blank
import MultiCluster.Text.Decimal

/-!
# Requirements

What a cluster must fulfil to be joined: its API server must not be older than version 1.15. A version that
cannot be read does not fulfil the requirement.
-/

namespace MultiCluster.Requirements

/-- Reads one part of a version; blanks around it and plus signs at its end are ignored. -/
def versionPart? (s : String) : Option Nat :=
  match Text.Decimal.readChars Text.Decimal.halfLimit (Text.dropEnd (· == '+') (Text.trimChars s.toList)) with
  | .ok n => some n
  | .error _ => none

/-- The requirement that a version does not fulfil, if there is one. -/
def checkVersion (major minor : String) : Option String :=
  match versionPart? major, versionPart? minor with
  | some ma, some mi =>
    if 1 < ma ∨ (ma = 1 ∧ 15 ≤ mi) then none
    else some ("Kubernetes " ++ toString ma ++ "." ++ toString mi ++ " is older than the minimum supported 1.15")
  | _, _ => some ("unrecognised Kubernetes version " ++ Text.quoted major ++ "." ++ Text.quoted minor)

/-- Fails with all requirements that are not fulfilled. -/
def ensureMet (unmet : List String) : Except Failure Unit :=
  if unmet.isEmpty then .ok () else .error (.requirements ("; ".intercalate unmet))

end MultiCluster.Requirements
