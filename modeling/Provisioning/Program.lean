import Provisioning.Failure

/-!
Programs that ask.  A program either is done, with a value or a failure, or asks one question and
goes on with the answer, or with the failure that came in its place.  What an answer is and what it
changes is not part of a program: a handler says so, and one program can be run against any.
A sequence of programs stops at the first failure that is not attended to.
-/
namespace Provisioning

structure Interface where
  Question : Type
  Answer : Question → Type

inductive Program (I : Interface) (α : Type) where
  | done (result : Except Failure α)
  | ask (question : I.Question) (next : Except Failure (I.Answer question) → Program I α)

/-- What comes of a question or a whole program: besides a value or a failure, whoever answers
may break off for good. -/
inductive Reply (α : Type) where
  | answered (a : α)
  | refused (f : Failure)
  | aborted (message : String)
  deriving Repr

/-- Answers every question, in a world that changes. -/
abbrev Handler (I : Interface) (σ : Type) := (q : I.Question) → σ → Reply (I.Answer q) × σ

namespace Program

def bind (p : Program I α) (f : α → Program I β) : Program I β :=
  match p with
  | done (.ok a) => f a
  | done (.error e) => done (.error e)
  | ask q next => ask q fun r => bind (next r) f

instance : Monad (Program I) where
  pure a := done (.ok a)
  bind := bind

def request (q : I.Question) : Program I (I.Answer q) := ask q done

def fail (f : Failure) : Program I α := done (.error f)

def ofExcept (r : Except Failure α) : Program I α := done r

/-- Go on after a failure, with the failure as a value. -/
def attempt : Program I α → Program I (Except Failure α)
  | done r => done (.ok r)
  | ask q next => ask q fun r => attempt (next r)

def each (f : α → Program I β) : List α → Program I (List β)
  | [] => pure []
  | a :: rest => do
    let b ← f a
    let bs ← each f rest
    pure (b :: bs)

def run (h : Handler I σ) : Program I α → σ → Reply α × σ
  | done (.ok a), s => (.answered a, s)
  | done (.error f), s => (.refused f, s)
  | ask q next, s =>
    match h q s with
    | (.answered a, s) => run h (next (.ok a)) s
    | (.refused f, s) => run h (next (.error f)) s
    | (.aborted m, s) => (.aborted m, s)

def asked (h : Handler I σ) : Program I α → σ → List I.Question
  | done _, _ => []
  | ask q next, s =>
    q :: match h q s with
      | (.answered a, s) => asked h (next (.ok a)) s
      | (.refused f, s) => asked h (next (.error f)) s
      | (.aborted _, _) => []

end Program

/-- Questions of `I` put as questions of `J`. -/
structure Embedding (I J : Interface) where
  question : I.Question → J.Question
  answer : (q : I.Question) → J.Answer (question q) → I.Answer q

/-- The same program with its questions put to another interface. -/
def Program.through (e : Embedding I J) : Program I α → Program J α
  | done r => done r
  | ask q next => ask (e.question q) fun r => through e (next (r.map (e.answer q)))

end Provisioning
