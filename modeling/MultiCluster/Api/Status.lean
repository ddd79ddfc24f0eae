import MultiCluster.Failure
import MultiCluster.Json.Decode
import MultiCluster.Json.Writer

/-!
# Error answers

An API server says why it refused a request by a status code and a document that describes the status. An answer
whose document is no such description is described by its code and by the text of the document.
-/

namespace MultiCluster.Api

/-- The phrase that goes with the status code of an error. -/
def reasonPhrase? : Nat → Option String
  | 400 => some "Bad Request"
  | 401 => some "Unauthorized"
  | 402 => some "Payment Required"
  | 403 => some "Forbidden"
  | 404 => some "Not Found"
  | 405 => some "Method Not Allowed"
  | 406 => some "Not Acceptable"
  | 407 => some "Proxy Authentication Required"
  | 408 => some "Request Timeout"
  | 409 => some "Conflict"
  | 410 => some "Gone"
  | 411 => some "Length Required"
  | 412 => some "Precondition Failed"
  | 413 => some "Payload Too Large"
  | 414 => some "URI Too Long"
  | 415 => some "Unsupported Media Type"
  | 416 => some "Range Not Satisfiable"
  | 417 => some "Expectation Failed"
  | 418 => some "I'm a teapot"
  | 421 => some "Misdirected Request"
  | 422 => some "Unprocessable Entity"
  | 423 => some "Locked"
  | 424 => some "Failed Dependency"
  | 425 => some "Too Early"
  | 426 => some "Upgrade Required"
  | 428 => some "Precondition Required"
  | 429 => some "Too Many Requests"
  | 431 => some "Request Header Fields Too Large"
  | 451 => some "Unavailable For Legal Reasons"
  | 500 => some "Internal Server Error"
  | 501 => some "Not Implemented"
  | 502 => some "Bad Gateway"
  | 503 => some "Service Unavailable"
  | 504 => some "Gateway Timeout"
  | 505 => some "HTTP Version Not Supported"
  | 506 => some "Variant Also Negotiates"
  | 507 => some "Insufficient Storage"
  | 508 => some "Loop Detected"
  | 510 => some "Not Extended"
  | 511 => some "Network Authentication Required"
  | _ => none

/-- A status code with its phrase. -/
def statusLine (code : Nat) : String :=
  toString code ++ " " ++ (reasonPhrase? code).getD "<unknown status code>"

/-- The number of values of a status code. -/
def codeLimit : Nat := 65536

/-- Whether an answer with a status code reports an error. -/
def isErrorCode (code : Nat) : Bool :=
  400 ≤ code && code < 600

/-- Reads the description of a status. -/
def describedStatus? (body : Json) : Option ApiFailure := do
  let f ← body.fields? ["status", "message", "reason", "code"]
  let state ← f.required "status" Json.asText?
  let message ← f.orElse "message" "" Json.asText?
  let reason ← f.orElse "reason" "" Json.asText?
  let code ← f.required "code" (Json.asNat? codeLimit)
  return .status state message reason code

/-- The status of an answer whose document does not describe one. -/
def undescribedStatus (code : Nat) (body : Json) : ApiFailure :=
  .status (statusLine code) (Text.quoted body.compact) "Failed to parse error data" code

/-- The failure that an error answer means. -/
def statusFailure (code : Nat) (body : Json) : ApiFailure :=
  (describedStatus? body).getD (undescribedStatus code body)

end MultiCluster.Api
