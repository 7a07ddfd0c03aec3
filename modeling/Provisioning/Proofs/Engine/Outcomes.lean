import Provisioning.Proofs.Chain.Readers
import Provisioning.Proofs.Chain.Removal
import Provisioning.Proofs.Engine.Lifecycle

/-!
What the record of a job has to do with the platform.  An engine does the task whose turn it is on the
platform as it finds it, and the record of the job tells how that went.  So all that a removal of a
workload or a setting of readers can come to is told by a record, and leaves the platform to match.
-/
namespace Provisioning

open Platform

/-- An engine has come to this state, after whatever it was asked for, and has this platform before it. -/
structure Engine.Meets (e : Engine Platform) (s : EngineState Platform) (p : Platform) : Prop where
  direct : e.handler = Platform.handler
  distinct : Function.Injective e.tokenOf
  reached : ∃ start now events, s = e.after events { world := start, now }
  world : s.world = p

namespace Engine

variable {e : Engine Platform} {s : EngineState Platform} {p : Platform}

namespace Meets

/-- What a record tells of a job that was worked off it tells for good. -/
theorem tells_after (meets : e.Meets s p) (event : Event Platform) {x : Execution}
    (done : x ∈ e.executions event s) (later : List (Event Platform)) :
    (e.status x.token (e.after later (e.step event s))).Tells x.reply := by
  obtain ⟨start, now, events, rfl⟩ := meets.reached
  have kept := Ledger.kept_ledger meets.distinct start now events
  have same : (e.ledger start now events).state = e.after events { world := start, now } :=
    e.state_foldl_enter events _
  rw [← same] at done ⊢
  have life := e.lifecycle_of_kept meets.distinct (Ledger.kept_enter meets.distinct kept event)
  have among : x ∈ (e.enter (e.ledger start now events) event).executed := by
    rw [e.executed_enter]
    exact List.mem_append_right _ done
  have final := life.final x among later
  rw [show e.step event (e.ledger start now events).state =
    (e.enter (e.ledger start now events) event).state from rfl, final]
  exact life.told x among

theorem tells (meets : e.Meets s p) (event : Event Platform) {x : Execution}
    (done : x ∈ e.executions event s) : (e.status x.token (e.step event s)).Tells x.reply :=
  meets.tells_after event done []

theorem world_runNext (meets : e.Meets s p) {t : Task} {rest : List Task} (next : s.queue = t :: rest) :
    (e.runNext s).world = ((t.work.program e.settings).run Platform.handler p).2 := by
  rw [← meets.direct, ← meets.world]
  simp only [runNext, next, complete]

theorem world_request (meets : e.Meets s p) {token : JobToken} {r : Request} {direction : Direction}
    {rest : List Task} (next : s.queue = ⟨token, .request r direction⟩ :: rest) :
    (e.runNext s).world = ((r.execute e.settings direction).run Platform.handler p).2 :=
  meets.world_runNext next

/-- What is worked off is run on the platform that is met. -/
theorem run_execution (meets : e.Meets s p) (event : Event Platform) {x : Execution}
    (done : x ∈ e.executions event s) :
    (x.operation.program e.settings).run Platform.handler p = (x.reply, (e.step event s).world) := by
  rw [← meets.direct, ← meets.world]
  cases event with
  | updateAccess r =>
    cases List.mem_singleton.mp done
    rfl
  | runNext =>
    simp only [executions] at done
    cases next : s.queue with
    | nil =>
      rw [next] at done
      cases done
    | cons t rest =>
      rw [next] at done
      cases List.mem_singleton.mp done
      simp only [step, runNext, next, complete, perform]
      rfl
  | submit | submitReadBack | poll | pass | change => cases done

/-- The next task is done on the platform that is met, and its record tells how that went. -/
theorem runs_next (meets : e.Meets s p) {t : Task} {rest : List Task} (next : s.queue = t :: rest) :
    ∃ reply, (reply, (e.runNext s).world) = (t.work.program e.settings).run Platform.handler p ∧
      (e.status t.token (e.runNext s)).Tells reply := by
  have done : e.perform t.token (.work t.work) s ∈ e.executions .runNext s := by
    simp only [executions, next, List.mem_singleton]
  exact ⟨_, (meets.run_execution .runNext done).symm, meets.tells .runNext done⟩

theorem world_updateAccess (meets : e.Meets s p) (r : AccessRequest) :
    (e.updateAccess r s).2.world = ((r.execute e.settings).run Platform.handler p).2 := by
  rw [← meets.direct, ← meets.world]
  rfl

theorem record_updateAccess (r : AccessRequest) :
    (e.updateAccess r s).1 = e.status (e.tokenOf s.issued) (e.step (.updateAccess r) s) := by
  simp only [step, updateAccess, register]

theorem runs_access (meets : e.Meets s p) (r : AccessRequest) :
    ∃ reply, (reply, (e.updateAccess r s).2.world) = (r.execute e.settings).run Platform.handler p ∧
      (e.updateAccess r s).1.Tells reply := by
  have done := List.mem_singleton_self (e.perform (e.tokenOf s.issued) (.access r) s)
  refine ⟨_, (meets.run_execution (.updateAccess r) done).symm, ?_⟩
  rw [record_updateAccess r]
  exact meets.tells (.updateAccess r) done

end Meets

/-- The removal of a job, a pipeline or a workflow, on whatever platform and whatever is rejected: every
object of the name is tried in the order of the lookup, exactly those stay whose deletion is rejected,
each is one problem, and only where none stays and the data goes too are the repositories tried. -/
theorem runNext_unprovision_removed {δ α : Type} (reachable : Reachable p) (failures : List String)
    (meets : e.Meets s (p.injecting failures)) {token : JobToken} {r : Request} {rest : List Task}
    (next : s.queue = ⟨token, .request r .unprovision⟩ :: rest) {a : Accepted}
    (accepted : r.accept e.settings.templates = .ok a) {shelf : Shelf δ α} {kind : ResourceKind}
    {name : String} {w : Workload} (main : a.classified.Main shelf kind name w) :
    ∃ reply, w.Removed shelf kind name r.removeData (p.injecting failures) (reply, (e.runNext s).world) ∧
      (e.status token (e.runNext s)).Tells reply := by
  have ordered : p.Ordered := ordered_of_reachable reachable
  have named : p.Named := named_of_reachable reachable
  have numbered : p.Numbered := numbered_of_reachable reachable
  obtain ⟨reply, run, tells⟩ := meets.runs_next next
  have removed := Request.run_removal (p := p.injecting failures) accepted main ordered named numbered
  refine ⟨reply, ?_, tells⟩
  rw [run]
  exact removed

end Engine

theorem nightlyRequest_accepted : ∃ a spec, nightlyRequest.accept nightlySettings.templates = .ok a ∧
    a.classified = .job spec ∧ spec.workspace = "w" ∧ spec.name = "nightly" := by
  have read : (nightlyRequest.accept nightlySettings.templates).toOption.any (fun a =>
      match a.classified with
      | .job spec => spec.workspace == "w" && spec.name == "nightly"
      | _ => false) = true := by
    rw [nightlyRequest, Request.accept_ofList]
    decide +kernel
  obtain ⟨a, accepted, read⟩ := Request.accepts_of_check read
  cases classified : a.classified with
  | job spec =>
    simp only [classified, Bool.and_eq_true, beq_iff_eq] at read
    exact ⟨a, spec, accepted, classified, read.1, read.2⟩
  | _ => simp [classified] at read

namespace Engine

theorem nightlyEngine_settings : nightlyEngine.settings = nightlySettings := rfl

def submittedState (r : Request) (d : Direction) (p : Platform) : EngineState Platform :=
  nightlyEngine.after [.change fun _ => p, .submit r d] { world := {}, now := .epoch }

theorem submittedState_meets (r : Request) (d : Direction) (p : Platform) :
    nightlyEngine.Meets (submittedState r d p) p where
  direct := rfl
  distinct := nightlyEngine_distinct
  reached := ⟨_, _, _, rfl⟩
  world := rfl

theorem submittedState_queue (r : Request) (d : Direction) (p : Platform) :
    (submittedState r d p).queue = [⟨nightlyEngine.tokenOf 0, .request r d⟩] := rfl

/-- The engine as it meets this platform and is asked for the removal of the nightly job. -/
def nightlyState (p : Platform) : EngineState Platform :=
  nightlyEngine.after [.change fun _ => p, .submit nightlyRequest .unprovision] { world := {}, now := .epoch }

theorem nightlyState_meets (p : Platform) : nightlyEngine.Meets (nightlyState p) p :=
  submittedState_meets nightlyRequest .unprovision p

theorem nightlyState_queue (p : Platform) :
    (nightlyState p).queue = [⟨nightlyEngine.tokenOf 0, .request nightlyRequest .unprovision⟩] := rfl

theorem stuckNightly_unprovision_removed : ∃ a spec reply,
    nightlyRequest.accept nightlySettings.templates = .ok a ∧ a.classified = .job spec ∧
    spec.workload.Removed Shelf.jobs .job "nightly" false stuckNightly
      (reply, (nightlyEngine.runNext (nightlyState stuckNightly)).world) ∧
    (nightlyEngine.status (nightlyEngine.tokenOf 0)
      (nightlyEngine.runNext (nightlyState stuckNightly))).Tells reply ∧
    ((nightlyEngine.runNext (nightlyState stuckNightly)).world.data "w").jobs.keys = ["2"] := by
  obtain ⟨a, spec, accepted, classified, place, called⟩ := nightlyRequest_accepted
  have main : a.classified.Main Shelf.jobs .job "nightly" spec.workload := by
    rw [classified, ← called]
    exact .job spec
  have meets := nightlyState_meets stuckNightly
  have queue := nightlyState_queue stuckNightly
  obtain ⟨reply, removed, tells⟩ := runNext_unprovision_removed twiceNightly_reachable ["job.delete:2"] meets queue
    accepted main
  refine ⟨a, spec, reply, accepted, classified, removed, tells, ?_⟩
  rw [meets.world_request queue, nightlyEngine_settings]
  exact nightly_removal_leaves_second

/-- Setting the readers of an output port, on whatever platform and whatever is rejected: nothing happens
before the grants are read; after that the privilege is held by the readers that nothing was in the
way of, and by those of its former holders who keep it or could not be deprived of it. -/
theorem updateAccess_readersSet {e : Engine Platform} {s : EngineState Platform} {p : Platform}
    (reachable : Reachable p) (failures : List String)
    (meets : e.Meets s (p.injecting failures)) (r : AccessRequest) {a : Accepted}
    (accepted : (Request.ofDescriptor r.descriptor).accept e.settings.templates = .ok a)
    {spec : OutputPortSpec} (port : a.classified = .outputPort spec) :
    ∃ reply, spec.ReadersSet e.settings.permissions.outputPort.consumers a r.refs (p.injecting failures)
        (reply, (e.updateAccess r s).2.world) ∧ (e.updateAccess r s).1.Tells reply := by
  have named : p.Named := named_of_reachable reachable
  obtain ⟨reply, run, tells⟩ := meets.runs_access r
  have set := AccessRequest.run_setReaders (p := p.injecting failures) accepted port named
  refine ⟨reply, ?_, tells⟩
  rw [run]
  exact set

end Engine

def salesDescription : Request := .ofDescriptor <| String.ofList <| List.flatMap String.toList
  ["dataProduct:\n", " id: d\n", " name: n\n", " environment: e\n", " dataProductOwner: user:a_b\n",
    " devGroup: group:g\n", " components:\n", " - id: c\n", "   name: c\n", "   kind: outputport\n",
    "   useCaseTemplateId: t\n", "   specific:\n", "    workspace: w\n", "    catalogName: c\n",
    "    schemaName: s\n", "    viewName: v\n", "    sourceTable:\n", "     catalogName: c\n",
    "     schemaName: s\n", "     tableName: t\n", "componentIdToProvision: c"]

/-- A request to let two users read its view, and one reference that is none. -/
def salesRequest : AccessRequest := ⟨["user:a_b", "nobody", "user:c_d"], salesDescription.descriptor⟩

theorem Request.ofDescriptor_descriptor (descriptor : String) :
    ofDescriptor (ofDescriptor descriptor).descriptor = ofDescriptor descriptor := rfl

theorem salesRequest_described : Request.ofDescriptor salesRequest.descriptor = salesDescription := by
  unfold salesRequest salesDescription
  exact Request.ofDescriptor_descriptor _

def Classified.port? : Classified → Option OutputPortSpec
  | .outputPort spec => some spec
  | _ => none

theorem Request.accepts_port_of_check {r : Request} {t : Templates} {check : Accepted → OutputPortSpec → Bool}
    (checked : (r.accept t).toOption.any (fun a => a.classified.port?.any (check a)) = true) :
    ∃ a spec, r.accept t = .ok a ∧ a.classified = .outputPort spec ∧ check a spec = true := by
  obtain ⟨a, accepted, read⟩ := Request.accepts_of_check checked
  cases classified : a.classified with
  | outputPort spec =>
    rw [classified] at read
    exact ⟨a, spec, accepted, classified, read⟩
  | _ => simp [classified, Classified.port?] at read

theorem salesDescription_accepted : ∃ a spec,
    salesDescription.accept nightlySettings.templates = .ok a ∧ a.classified = .outputPort spec ∧
    (spec.workspace = "w" ∧ spec.viewName = "c.s.v") ∧ a.owner.externalId = "a@b" ∧
    a.devGroup.externalId = "g" := by
  have read : (salesDescription.accept nightlySettings.templates).toOption.any (fun a =>
      a.classified.port?.any fun spec => (spec.workspace == "w" && spec.viewName == "c.s.v") &&
        (a.owner.externalId == "a@b" && a.devGroup.externalId == "g")) = true := by
    rw [salesDescription, Request.accept_ofList]
    decide +kernel
  obtain ⟨a, spec, accepted, port, read⟩ := Request.accepts_port_of_check read
  simp only [Bool.and_eq_true, beq_iff_eq] at read
  exact ⟨a, spec, accepted, port, read⟩

theorem salesRequest_accepted : ∃ a spec,
    (Request.ofDescriptor salesRequest.descriptor).accept nightlySettings.templates = .ok a ∧
    a.classified = .outputPort spec ∧ spec.workspace = "w" ∧ spec.viewName = "c.s.v" := by
  rw [salesRequest_described]
  obtain ⟨a, spec, accepted, port, ⟨place, called⟩, -⟩ := salesDescription_accepted
  exact ⟨a, spec, accepted, port, place, called⟩

namespace Platform

def salesPlatform : Platform :=
  (Seed.grant "w" "c.s.v" ⟨"e@f", .select⟩).plant
    ((Seed.grant "w" "c.s.v" ⟨"i@j", .select⟩).plant nightlyPlatform)

theorem salesPlatform_reachable : Reachable salesPlatform :=
  .seeded _ (.seeded _ (.seeded _ (.seeded _ (.seeded _ .empty trivial) trivial) trivial) trivial) trivial

def stuckSales : Platform := salesPlatform.injecting ["catalog.revoke:i@j"]

theorem sales_leaves_two :
    (((salesRequest.execute nightlySettings).run handler stuckSales).2.data "w").grants "c.s.v" =
      [⟨"i@j", .select⟩, ⟨"a@b", .select⟩] := by
  rw [AccessRequest.execute, salesRequest_described, salesDescription, Request.accept_ofList]
  decide +kernel

end Platform

namespace Engine

theorem sales_updateAccess_readersSet : ∃ a spec reply,
    (Request.ofDescriptor salesRequest.descriptor).accept nightlySettings.templates = .ok a ∧
    a.classified = .outputPort spec ∧
    spec.ReadersSet nightlySettings.permissions.outputPort.consumers a salesRequest.refs stuckSales
      (reply, (nightlyEngine.updateAccess salesRequest (nightlyState stuckSales)).2.world) ∧
    (nightlyEngine.updateAccess salesRequest (nightlyState stuckSales)).1.Tells reply ∧
    ((nightlyEngine.updateAccess salesRequest (nightlyState stuckSales)).2.world.data "w").grants "c.s.v" =
      [⟨"i@j", .select⟩, ⟨"a@b", .select⟩] := by
  obtain ⟨a, spec, accepted, port, -, -⟩ := salesRequest_accepted
  have meets := nightlyState_meets stuckSales
  obtain ⟨reply, set, tells⟩ := updateAccess_readersSet salesPlatform_reachable ["catalog.revoke:i@j"] meets
    salesRequest accepted port
  refine ⟨a, spec, reply, accepted, port, set, tells, ?_⟩
  rw [meets.world_updateAccess salesRequest, nightlyEngine_settings]
  exact sales_leaves_two

end Engine
end Provisioning
