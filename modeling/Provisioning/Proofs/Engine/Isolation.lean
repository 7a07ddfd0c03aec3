import Provisioning.Proofs.Chain.Isolation
import Provisioning.Proofs.Engine.Admission

/-!
Workspaces that keep to themselves.  How a job ends, what it asks for and what it leaves behind in its
workspace does not depend on what is in other workspaces, nor on whether there are any.
-/
namespace Provisioning

open Platform

namespace Engine

variable {e : Engine Platform} {s x : EngineState Platform} {p q : Platform} {w : String}

/-- Two platforms may differ in every other workspace, in the log, in the roles and in the time: one
operation about a workspace on which they agree ends alike on both, asks both for the same, gives the same
roles, and leaves them to agree as before.  That the workspace is kept under its own name holds on every
platform that can come about. -/
theorem step_abreast_of_alike (alike : p.Alike w q) (named : p.NamedAt w) (meets : e.Meets s p)
    (also : e.Meets x q) (event event' : Event Platform) {y z : Execution}
    (done : y ∈ e.executions event s) (done' : z ∈ e.executions event' x)
    (same : y.operation = z.operation) (target : y.operation.workspace? e.settings = some w) :
    let record := e.status y.token (e.step event s)
    let other := e.status z.token (e.step event' x)
    (record.status.isTerminal = true ∧ record.Agrees other) ∧
      (y.operation.program e.settings).asked Platform.handler p =
        (z.operation.program e.settings).asked Platform.handler q ∧
      Abreast w p q (e.step event s).world (e.step event' x).world := by
  intro record other
  have tells := meets.tells event done
  have tells' := also.tells event' done'
  have run := meets.run_execution event done
  have run' := also.run_execution event' done'
  obtain ⟨reply, asked, abreast⟩ := y.operation.runs_abreast target alike named
  rw [← same] at run' ⊢
  rw [run, run'] at reply abreast
  have replies : y.reply = z.reply := reply
  rw [← replies] at tells'
  exact ⟨⟨tells.terminal, JobRecord.agrees_of_tells tells tells'⟩, asked, abreast⟩

end Engine

namespace Platform

def secondNightly : Platform := (Seed.job "x" ⟨"nightly", .null⟩).plant nightlyPlatform

/-- A platform with another workspace that is not ready and has a table in it, at another time. -/
def secondWorkspace : Platform :=
  (Seed.time 7).plant ((Seed.table "x" "c.s.t").plant ((Seed.workspace "x" .creating).plant nightlyPlatform))

theorem secondNightly_reachable : Reachable secondNightly :=
  .seeded _ (.seeded _ (.seeded _ (.seeded _ .empty trivial) trivial) trivial) trivial

theorem secondNightly_alike : secondNightly.Alike "w" secondWorkspace :=
  ⟨rfl, rfl, rfl, rfl, rfl, rfl, rfl⟩

end Platform

namespace Engine

theorem nightly_step_abreast :
    let state := submittedState nightlyRequest .provision
    let last := nightlyEngine.runNext (state secondNightly)
    let other := nightlyEngine.runNext (state secondWorkspace)
    let token := nightlyEngine.tokenOf 0
    let program := nightlyRequest.execute nightlySettings .provision
    secondNightly.workspaces "x" ≠ secondWorkspace.workspaces "x" ∧
      secondNightly.Alike "w" secondWorkspace ∧
      (nightlyEngine.status token last).status.isTerminal = true ∧
      (nightlyEngine.status token last).Agrees (nightlyEngine.status token other) ∧
      program.asked Platform.handler secondNightly = program.asked Platform.handler secondWorkspace ∧
      Abreast "w" secondNightly secondWorkspace last.world other.world := by
  intro state last other token program
  have elsewhere : secondNightly.workspaces "x" ≠ secondWorkspace.workspaces "x" := by
    intro same
    cases same
  have done := fun p => List.mem_singleton_self (nightlyEngine.perform token
    (.work (.request nightlyRequest .provision)) (state p))
  obtain ⟨⟨terminal, agrees⟩, asked, abreast⟩ := step_abreast_of_alike secondNightly_alike
    (named_of_reachable secondNightly_reachable "w")
    (submittedState_meets nightlyRequest .provision secondNightly)
    (submittedState_meets nightlyRequest .provision secondWorkspace) .runNext .runNext
    (done _) (done _) rfl (nightlyRequest_workspace .provision)
  exact ⟨elsewhere, secondNightly_alike, terminal, agrees, asked, abreast⟩

end Engine
end Provisioning
