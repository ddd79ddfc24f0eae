import MultiCluster.Api.Wire
import MultiCluster.Operator.Reconcile
import MultiCluster.Replay.Script

/-!
# A described API server

A server given by its answers to single requests, which keeps a log of the requests. A request without an answer
is answered by the status that nothing was found.
-/

namespace MultiCluster.Replay

/-- An answer of a server: a status code with a document, or none at all. -/
inductive ServerAnswer where
  | status (code : Nat) (body : Json)
  | transport (text : String)

/-- The answer to a request that is not described. -/
def ServerAnswer.notFound : ServerAnswer :=
  .status 404 <| .object [("kind", .text "Status"), ("status", .text "Failure"), ("message", .text "not found"),
    ("reason", .text "NotFound"), ("code", .integer 404)]

/-- A server, with what was asked of it and what was published, latest first. -/
structure Server where
  /-- The answers to requests, by the lines that identify them. -/
  answers : List (String × Script ServerAnswer)
  log : List (Operator.Site × Api.Request) := []
  events : List Event := []

namespace Server

/-- The answer of a server to a request, by the number of the same requests before. -/
def find (s : Server) (line : String) : ServerAnswer :=
  match s.answers.lookup line with
  | none => .notFound
  | some script => script.entry .notFound (s.log.countP fun r => r.2.line == line)

/-- Answers a call from one of the clusters. -/
def answerCall (site : Operator.Site) (c : Api.Call) (s : Server) : Except ApiFailure c.Result × Server :=
  match c.send with
  | .error e => (.error e, s)
  | .ok request =>
    let result := match s.find request.line with
      | .status code body => c.readAnswer code body
      | .transport text => .error (.transport text)
    (result, { s with log := (site, request) :: s.log })

/-- A server as the world of its clients. -/
def world : Program.World Api.interface Server where
  answer c s := s.answerCall .own c

/-- Answers a request of a reconciliation. -/
def answer : (q : Operator.Query) → Server → q.Reply × Server
  | .call site c, s => s.answerCall site c
  | .publish event, s => ((), { s with events := event :: s.events })

/-- A server as the world of a reconciliation. -/
def operatorWorld : Program.World Operator.interface Server where
  answer q s := answer q s

end Server

end MultiCluster.Replay
