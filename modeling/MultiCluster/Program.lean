import MultiCluster.Failure
import MultiCluster.Timing.Duration

/-!
# Programs that make requests

A program is a tree: it is done with a value, or it makes a request and goes on with the answer, or it pauses.
What answers the requests is not part of the program, so that one program can be run against a store in memory,
against an API server, step by step between the steps of other programs, or against answers that are only
described.

Main statements: programs form a lawful monad, and `run_bind` says that running one program after another threads
the state of the world.
-/

namespace MultiCluster

/-- What a program may ask for, and what kind of answer each request gets. -/
structure Interface where
  Query : Type
  Reply : Query → Type

/-- A program over an interface. -/
inductive Program (I : Interface) (α : Type) : Type where
  | done (a : α)
  | ask (q : I.Query) (next : I.Reply q → Program I α)
  | pause (p : Pause) (next : Program I α)
  /-- The program goes on for longer than anyone counts, and has no value. -/
  | unfinished

namespace Program

variable {I J : Interface} {α β γ σ : Type}

instance : Inhabited (Program I α) := ⟨unfinished⟩

/-- One program, and then another that depends on its value. -/
def bind : Program I α → (α → Program I β) → Program I β
  | done a, f => f a
  | ask q next, f => ask q fun r => (next r).bind f
  | pause p next, f => pause p (next.bind f)
  | unfinished, _ => unfinished

instance : Monad (Program I) where
  pure := done
  bind := bind

/-- The program that makes one request and returns the answer. -/
def request (q : I.Query) : Program I (I.Reply q) :=
  ask q done

theorem bind_done (p : Program I α) : p.bind done = p := by
  induction p with
  | done a => rfl
  | ask q next ih => simp [bind, ih]
  | pause p next ih => simp [bind, ih]
  | unfinished => rfl

theorem bind_assoc (p : Program I α) (f : α → Program I β) (g : β → Program I γ) :
    (p.bind f).bind g = p.bind fun a => (f a).bind g := by
  induction p with
  | done a => rfl
  | ask q next ih => simp [bind, ih]
  | pause p next ih => simp [bind, ih]
  | unfinished => rfl

instance : LawfulMonad (Program I) := LawfulMonad.mk' _
  bind_done
  (fun _ _ => rfl)
  bind_assoc

/-! ### Running -/

/-- What answers the requests of a program: it answers from a state and changes it, also while the program
pauses. -/
structure World (I : Interface) (σ : Type) where
  answer : (q : I.Query) → σ → I.Reply q × σ
  rest : Pause → σ → σ := fun _ s => s

/-- Runs a program in a world from a state. The value is none for an unfinished program. -/
def run (w : World I σ) : Program I α → σ → Option α × σ
  | done a, s => (some a, s)
  | ask q next, s => (next (w.answer q s).1).run w (w.answer q s).2
  | pause p next, s => next.run w (w.rest p s)
  | unfinished, s => (none, s)

/-- Running one program after another threads the state. -/
theorem run_bind (w : World I σ) (p : Program I α) (f : α → Program I β) (s : σ) :
    (p.bind f).run w s =
      match p.run w s with
      | (some a, s') => (f a).run w s'
      | (none, s') => (none, s') := by
  induction p generalizing s with
  | done a => rfl
  | ask q next ih => exact ih _ _
  | pause p next ih => exact ih _
  | unfinished => rfl

/-- The program over another interface in which each request is answered by a program. -/
def interpret (answer : (q : I.Query) → Program J (I.Reply q)) : Program I α → Program J α
  | done a => done a
  | ask q next => (answer q).bind fun r => (next r).interpret answer
  | pause p next => pause p (next.interpret answer)
  | unfinished => unfinished

end Program

/-- A program that may fail. -/
abbrev Task (I : Interface) (α : Type) := ExceptT Failure (Program I) α

namespace Task

variable {I J : Interface} {α β : Type}

/-- The task that a program with a success or a failure as its value is. -/
def ofProgram (p : Program I (Except Failure α)) : Task I α :=
  ExceptT.mk p

/-- The program of a task. -/
def toProgram (t : Task I α) : Program I (Except Failure α) :=
  ExceptT.run t

/-- The task that succeeds or fails at once. -/
def ofExcept (r : Except Failure α) : Task I α :=
  ExceptT.mk (.done r)

/-- The task with its failures renamed. -/
def mapFailure (f : Failure → Failure) (t : Task I α) : Task I α :=
  ofProgram (t.toProgram.bind fun
    | .ok a => .done (.ok a)
    | .error e => .done (.error (f e)))

/-- One task after another is one program after another, unless the first one fails. -/
theorem toProgram_bind (t : Task I α) (f : α → Task I β) :
    (t >>= f).toProgram = t.toProgram.bind fun
      | .ok a => (f a).toProgram
      | .error e => .done (.error e) := by
  refine congrArg (Program.bind t.toProgram) (funext fun r => ?_)
  cases r <;> rfl

end Task

end MultiCluster
