import MultiCluster.Text.Quoted

/-!
# Failures

The causes for which an operation fails, with one wording each, and the three classes that callers tell apart:
a conflict with another writer, a missing object, and a failure that a later attempt may not meet again.
-/

namespace MultiCluster

/-- How a request to an API server failed. -/
inductive ApiFailure where
  /-- The server answered with an error status. -/
  | status (state message reason : String) (code : Nat)
  /-- The server was not reached. -/
  | transport (text : String)
  /-- The answer is not an object of the expected kind. -/
  | unreadable
  /-- The object has no name, so that nothing was sent. -/
  | nameless
  /-- A name cannot stand in the path of a request, so that nothing was sent. -/
  | unsendable
  deriving DecidableEq, Repr

/-- The wording of a failed request. -/
def ApiFailure.message : ApiFailure → String
  | .status state message reason code =>
    "ApiError: " ++ message ++ ": " ++ reason ++ " (ErrorResponse \x7b status: " ++ Text.quoted state ++
      ", message: " ++ Text.quoted message ++ ", reason: " ++ Text.quoted reason ++ ", code: " ++
      toString code ++ " \x7d)"
  | .transport text => "ServiceError: " ++ text
  | .unreadable => "Error deserializing response: <detail>"
  | .nameless => "Failed to build request: failed to validate request: A non-empty name is required"
  | .unsendable => "Failed to build request: failed to build request: invalid uri character"

/-- The status code of the server's answer. -/
def ApiFailure.code? : ApiFailure → Option Nat
  | .status _ _ _ code => some code
  | _ => none

/-- Whether the server answered that the object does not exist. -/
def ApiFailure.isAbsent : ApiFailure → Bool
  | .status _ _ reason _ => reason == "NotFound"
  | _ => false

/-- Why an operation failed. -/
inductive Failure where
  | kubernetes (cause : ApiFailure)
  /-- A value supplied by the user is not of the required form. -/
  | malformed (field message : String)
  | notFound (object name : String)
  /-- A requested block shares addresses with another cluster's. -/
  | overlap (requested existing cluster : String)
  | outOfBounds (requested supernet : String)
  /-- No block of the size is free. -/
  | exhausted (blockSize : Nat) (supernet : String)
  /-- A conditional write met a version that is no longer current. -/
  | conflict (resource : String)
  | conflictRetriesExhausted (resource : String) (attempts : Nat)
  | timeout (operation : String) (attempts : Nat)
  /-- Neither configuration nor discovery named a range. -/
  | noCidr (kind : String)
  | requirements (message : String)
  | discovery (probe message : String)
  | registration (cluster message : String)
  | serialization (message : String)
  | internal (context message : String)
  deriving DecidableEq, Repr

namespace Failure

/-- The wording of a failure. -/
def message : Failure → String
  | kubernetes cause => "kubernetes error: " ++ cause.message
  | malformed field message => "malformed " ++ field ++ ": " ++ message
  | notFound object name => object ++ " " ++ name ++ " not found"
  | overlap requested existing cluster =>
    "global CIDR " ++ requested ++ " overlaps " ++ existing ++ " assigned to cluster " ++ cluster
  | outOfBounds requested supernet =>
    "global CIDR " ++ requested ++ " is not contained in supernet " ++ supernet
  | exhausted blockSize supernet =>
    "no free block of " ++ toString blockSize ++ " addresses left in supernet " ++ supernet
  | conflict resource => "conflicting concurrent update of " ++ resource
  | conflictRetriesExhausted resource attempts =>
    "gave up updating " ++ resource ++ " after " ++ toString attempts ++ " conflicting attempts"
  | timeout operation attempts =>
    "timed out waiting for " ++ operation ++ " after " ++ toString attempts ++ " attempts"
  | noCidr kind => "no " ++ kind ++ " CIDR was discovered and none was configured"
  | requirements message => "cluster requirements not met: " ++ message
  | discovery probe message => "network discovery failed in probe " ++ probe ++ ": " ++ message
  | registration cluster message => "registration of cluster " ++ cluster ++ " failed: " ++ message
  | serialization message => "serialization error: " ++ message
  | internal context message => "internal error [" ++ context ++ "]: " ++ message

/-- The name of the class of a failure. -/
def kind : Failure → String
  | kubernetes _ => "Kubernetes"
  | malformed _ _ => "MalformedInput"
  | notFound _ _ => "NotFound"
  | overlap _ _ _ => "Overlap"
  | outOfBounds _ _ => "OutOfBounds"
  | exhausted _ _ => "ExhaustedSpace"
  | conflict _ => "Conflict"
  | conflictRetriesExhausted _ _ => "ConflictRetriesExhausted"
  | timeout _ _ => "Timeout"
  | noCidr _ => "NoCIDRFound"
  | requirements _ => "Requirements"
  | discovery _ _ => "Discovery"
  | registration _ _ => "Registration"
  | serialization _ => "Serialization"
  | internal _ _ => "Internal"

/-- Another writer changed the object first. -/
def isConflict : Failure → Bool
  | conflict _ => true
  | kubernetes cause => cause.code? == some 409
  | _ => false

/-- The object does not exist. -/
def isNotFound : Failure → Bool
  | notFound _ _ => true
  | kubernetes cause => cause.code? == some 404
  | _ => false

/-- The same request may succeed later: the server refused it for a reason other than the request itself, or
another writer got there first. -/
def isRetryable : Failure → Bool
  | kubernetes (.status _ _ _ code) => !(400 ≤ code && code < 500) || code == 409
  | kubernetes _ => true
  | conflict _ => true
  | internal _ _ => true
  | _ => false

end Failure

theorem bind_eq_ok_cases {α β : Type} {x : Except Failure α} {f : α → Except Failure β} {b : β}
    (h : x >>= f = .ok b) : ∃ a, x = .ok a ∧ f a = .ok b := by
  cases x with
  | error e => cases h
  | ok a => exact ⟨a, rfl, h⟩

/-- A computation in two parts fails as its first part does, or as its second part does. -/
theorem bind_eq_error_cases {α β : Type} {x : Except Failure α} {f : α → Except Failure β} {e : Failure}
    (h : x >>= f = .error e) : x = .error e ∨ ∃ a, x = .ok a ∧ f a = .error e := by
  cases x with
  | error e' =>
    cases h
    exact .inl rfl
  | ok a => exact .inr ⟨a, rfl, h⟩

end MultiCluster
