import Provisioning.Text.Quoted
import Provisioning.Text.Blank

/-!
Expected failures are values.  A failure is an ordered list of problems with at least one in
it.  Merging appends, a context is put before every description and leaves the causes alone,
and collecting results keeps every problem of every failure in order.
-/
namespace Provisioning

/-- A description for people, with the text of the error behind it when there is one. -/
structure Problem where
  description : String
  cause : Option String := none
  deriving DecidableEq, Repr

namespace Problem

def withCause (description cause : String) : Problem :=
  ⟨description ++ ". Details: " ++ cause, some cause⟩

def ofError (message : String) : Problem := ⟨message, some message⟩

def inContext (context : String) (p : Problem) : Problem :=
  { p with description := context ++ ": " ++ p.description }

/-- Problems are the same when their descriptions are; causes do not count. -/
def same (p q : Problem) : Bool := p.description == q.description

def causeText : Option String → String
  | none => "None"
  | some c => "Some(" ++ Text.quoted c ++ ")"

def inspect (p : Problem) : String :=
  "Problem \x7b description: " ++ Text.quoted p.description ++ ", cause: " ++ causeText p.cause ++ " \x7d"

end Problem

structure Failure where
  first : Problem
  rest : List Problem := []
  deriving DecidableEq, Repr

namespace Failure

def problems (f : Failure) : List Problem := f.first :: f.rest

def ofProblem (p : Problem) : Failure := ⟨p, []⟩

def single (description : String) : Failure := ofProblem ⟨description, none⟩

/-- There is no failure without a problem. -/
def ofProblems? : List Problem → Option Failure
  | [] => none
  | p :: ps => some ⟨p, ps⟩

def merge (f g : Failure) : Failure := ⟨f.first, f.rest ++ g.problems⟩

def inContext (context : String) (f : Failure) : Failure :=
  ⟨f.first.inContext context, f.rest.map (Problem.inContext context)⟩

def descriptions (f : Failure) : List String := f.problems.map (·.description)

def render (f : Failure) : String := Text.joinWith "\n" f.descriptions

def same (f g : Failure) : Bool := f.descriptions == g.descriptions

def inspect (f : Failure) : String :=
  "FailedOperation \x7b problems: [" ++ Text.joinWith ", " (f.problems.map Problem.inspect) ++ "] \x7d"

theorem problems_merge (f g : Failure) : (f.merge g).problems = f.problems ++ g.problems := rfl

theorem problems_inContext (c : String) (f : Failure) :
    (f.inContext c).problems = f.problems.map (Problem.inContext c) := rfl

end Failure

/-- All values in order when nothing failed, else every problem of every failure in order. -/
def accumulate (results : List (Except Failure α)) : Except Failure (List α) :=
  let values := results.filterMap fun r => match r with | .ok a => some a | .error _ => none
  let problems := results.flatMap fun r => match r with | .ok _ => [] | .error f => f.problems
  match Failure.ofProblems? problems with
  | some f => .error f
  | none => .ok values

inductive SourceError where
  | configuration (message : String)
  | descriptor (message : String)
  | serialization (message : String)
  deriving DecidableEq, Repr

def SourceError.message : SourceError → String
  | .configuration m => "Configuration error: " ++ m
  | .descriptor m => "The descriptor is not a valid component descriptor: " ++ m
  | .serialization m => "Serialization error: " ++ m

def SourceError.problem (e : SourceError) : Problem := Problem.ofError e.message

/-- Put a description before an error met at the edge of the platform. -/
def Failure.wrap (description cause : String) : Failure :=
  ofProblem (Problem.withCause description cause)

end Provisioning
