import Provisioning.Chain.Execution
import Provisioning.Record.JobStore

/-!
The engine takes requests, hands out tokens and keeps the record behind each.  Submitting only
records the job as running and queues its work; the work is done later, in the order of submission,
and writes the one final record of the job: completed with what came of it, or failed with the
problems, or failed because whoever answered broke off.  Access requests are worked off at once.
-/
namespace Provisioning

inductive Work where
  | request (r : Request) (d : Direction)
  | readBack (r : ReadBackRequest)
  deriving DecidableEq, Repr

def Work.program (s : Settings) : Work → Remote Completion
  | request r d => r.execute s d
  | readBack r => r.execute s

structure Task where
  token : JobToken
  work : Work
  deriving DecidableEq, Repr

/-- What the engine works with: its settings, the tokens that it hands out one after another, and
who answers its calls. -/
structure Engine (σ : Type) where
  settings : Settings
  tokenOf : Nat → JobToken
  handler : Handler remote σ

structure EngineState (σ : Type) where
  world : σ
  store : JobStore := {}
  queue : List Task := []
  issued : Nat := 0
  now : Timestamp

def JobRecord.finish (r : JobRecord) (now : Timestamp) : Reply Completion → JobRecord
  | .answered c =>
    let done := r.complete c.message c.info now
    match c.updates with
    | some updates => done.withUpdates updates
    | none => done
  | .refused f => r.fail f.render now
  | .aborted message => r.fail ("Provisioning aborted by an internal error: " ++ message) now

namespace Engine

def register (e : Engine σ) (s : EngineState σ) : JobToken × EngineState σ :=
  let token := e.tokenOf s.issued
  (token, { s with store := (s.store.put (.running token s.now)).2, issued := s.issued + 1 })

def submitWork (e : Engine σ) (work : Work) (s : EngineState σ) : JobToken × EngineState σ :=
  let (token, s) := e.register s
  (token, { s with queue := s.queue ++ [⟨token, work⟩] })

def submit (e : Engine σ) (r : Request) (d : Direction) (s : EngineState σ) :
    JobToken × EngineState σ :=
  e.submitWork (.request r d) s

def submitReadBack (e : Engine σ) (r : ReadBackRequest) (s : EngineState σ) :
    JobToken × EngineState σ :=
  e.submitWork (.readBack r) s

def complete (e : Engine σ) (token : JobToken) (p : Remote Completion) (s : EngineState σ) :
    EngineState σ :=
  let (reply, world) := p.run e.handler s.world
  let final := (s.store.get token s.now).finish s.now reply
  { s with world, store := (s.store.put final).2 }

def runNext (e : Engine σ) (s : EngineState σ) : EngineState σ :=
  match s.queue with
  | [] => s
  | t :: rest => e.complete t.token (t.work.program e.settings) { s with queue := rest }

def drain (e : Engine σ) (s : EngineState σ) : EngineState σ :=
  s.queue.foldl (fun s _ => e.runNext s) s

def status (_ : Engine σ) (t : JobToken) (s : EngineState σ) : JobRecord := s.store.get t s.now

/-- Set the readers of an output port at once, and give the final record. -/
def updateAccess (e : Engine σ) (r : AccessRequest) (s : EngineState σ) : JobRecord × EngineState σ :=
  let (token, s) := e.register s
  let s := e.complete token (r.execute e.settings) s
  (e.status token s, s)

def validate (e : Engine σ) (r : Request) : Verdict := r.validate e.settings.templates

end Engine
end Provisioning
