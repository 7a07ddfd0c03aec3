import Provisioning.Json.Text
import Provisioning.Text.Quoted

/-!
Log entries and how they are written: as one JSON object a line, or as words for people.
-/
namespace Provisioning.Log

/-- Levels from the least to the most detailed; `off` lets nothing pass. -/
inductive Level where
  | off
  | error
  | warn
  | info
  | debug
  | trace
  deriving DecidableEq, Repr

namespace Level

def rank : Level → Nat
  | off => 0
  | error => 1
  | warn => 2
  | info => 3
  | debug => 4
  | trace => 5

def name : Level → String
  | off => "OFF"
  | error => "ERROR"
  | warn => "WARN"
  | info => "INFO"
  | debug => "DEBUG"
  | trace => "TRACE"

def all : List Level := [off, error, warn, info, debug, trace]

/-- An entry of level `l` passes when as much detail as that is asked for. -/
def admits (asked l : Level) : Bool := l.rank ≤ asked.rank

end Level

inductive Detail where
  | bare (s : String)
  | quoted (s : String)
  | number (n : Nat)
  deriving DecidableEq, Repr

structure Entry where
  level : Level
  message : String
  fields : List (String × Option Detail)
  deriving DecidableEq, Repr

structure Stamp where
  time : String
  thread : Nat
  process : Nat
  deriving DecidableEq, Repr

def target : String := "provisioner_core::logging"

inductive Style where
  | json
  | words
  deriving DecidableEq, Repr

def Detail.words : Detail → String
  | .bare s => s
  | .quoted s => Text.quoted s
  | .number n => toString n

def Detail.toJson : Detail → Json
  | .bare s | .quoted s => .text s
  | .number n => .int n

namespace Entry

def given (e : Entry) : List (String × Detail) :=
  e.fields.filterMap fun (name, d?) => d?.map (name, ·)

def twoDigits (n : Nat) : String := if n < 10 then s!"0{n}" else toString n

def padded (name : String) : String := String.ofList (List.replicate (5 - name.length) ' ') ++ name

def words (stamp : Stamp) (e : Entry) : String :=
  stamp.time ++ " " ++ padded e.level.name ++ " ThreadId(" ++ twoDigits stamp.thread ++ ") " ++ target ++
    ": " ++ e.message ++ String.join (e.given.map fun (name, d) => " " ++ name ++ "=" ++ d.words)

def toJson (stamp : Stamp) (e : Entry) : Json :=
  .object [
    ("fields", Json.ofMembers (("message", .text e.message) :: e.given.map fun (name, d) => (name, d.toJson))),
    ("level", .text e.level.name),
    ("target", .text target),
    ("threadId", .text s!"ThreadId({stamp.thread})"),
    ("timestamp", .text stamp.time)]

def write (style : Style) (stamp : Stamp) (e : Entry) : String :=
  match style with
  | .json => (e.toJson stamp).compact
  | .words => e.words stamp

end Entry

def started (process : Nat) (environment : String) : Entry :=
  ⟨.info, "Structured logging initialized",
    [("pid", some (.number process)), ("environment", some (.bare environment))]⟩

structure JobOperation where
  operation : String
  token : String
  component : Option String
  status : String
  details : Option String

def JobOperation.entry (time : String) (j : JobOperation) : Entry :=
  ⟨.info, "JOB_OPERATION",
    [("operation", some (.bare j.operation)), ("token", some (.bare j.token)),
     ("component_id", j.component.map .quoted), ("status", some (.bare j.status)),
     ("details", j.details.map .quoted), ("timestamp", some (.bare time))]⟩

structure ResourceOperation where
  operation : String
  kind : String
  name : String
  id : Option String
  scope : String
  details : Option String

def ResourceOperation.entry (time : String) (r : ResourceOperation) : Entry :=
  ⟨.info, "RESOURCE_OPERATION",
    [("operation", some (.bare r.operation)), ("kind", some (.bare r.kind)),
     ("name", some (.bare r.name)), ("resource_id", r.id.map .quoted),
     ("scope", some (.bare r.scope)), ("details", r.details.map .quoted),
     ("timestamp", some (.bare time))]⟩

end Provisioning.Log
