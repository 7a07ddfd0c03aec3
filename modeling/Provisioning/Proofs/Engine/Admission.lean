import Provisioning.Proofs.Chain.Custody
import Provisioning.Proofs.Engine.Outcomes
import Provisioning.Proofs.Program.Asked

/-!
Workspaces that are not ready are left alone.  Whatever an operation asks for beyond the way to its
workspace, it asks while that workspace is there and in state Succeeded.  Where the workspace is in
another state, whether it was found so or was made so just now, the operation fails without a session,
without a role and without a change to anything in it.
-/
namespace Provisioning

open Program Platform

variable {β : Type} {w : String} {v : WorkspaceInfo} {p : Platform}

namespace Platform

structure Unmoved (w : String) (p q : Platform) : Prop where
  data : q.data = p.data
  roles : q.roles = p.roles
  others : ∀ x, x ≠ w → q.workspaces x = p.workspaces x

theorem unmoved_refl (p : Platform) : p.Unmoved w p := ⟨rfl, rfl, fun _ _ => rfl⟩

theorem unmoved_trans (p q r : Platform) (first : p.Unmoved w q) (second : q.Unmoved w r) :
    p.Unmoved w r where
  data := second.data.trans first.data
  roles := second.roles.trans first.roles
  others x other := (second.others x other).trans (first.others x other)

theorem unmoved_handler {c : Call} (looks : lookedUp? c = some w) (p : Platform) :
    p.Unmoved w (handler c p).2 := by
  rcases handler_snd c p with noted | answered
  · rw [noted]
    exact ⟨rfl, rfl, fun _ _ => rfl⟩
  · rw [answered]
    cases c with
    | createIfAbsent name region params =>
      cases looks
      simp only [answer]
      split
      · exact ⟨rfl, rfl, fun _ _ => rfl⟩
      · exact ⟨rfl, rfl, fun _ other => updated_other _ _ other⟩
    | findWorkspace name => exact ⟨rfl, rfl, fun _ _ => rfl⟩
    | assignRole _ _ _ | openSession _ | inside _ _ => cases looks

theorem unmoved_run {program : Remote β} (looks : program.Asks fun c => lookedUp? c = some w)
    (p : Platform) : p.Unmoved w (program.run handler p).2 :=
  keeps_of_asks unmoved_refl unmoved_trans (fun _ looks => unmoved_handler looks) looks p

theorem stays_run (program : Remote β) (there : p.workspaces w = some v) :
    (program.run handler p).2.workspaces w = some v :=
  (retains_any program p).workspaces w v there

theorem stays_of_run {program : Remote β} {reply : Reply β} {q : Platform}
    (run : program.run handler p = (reply, q)) (there : p.workspaces w = some v) :
    q.workspaces w = some v := by
  have stays := stays_run program there
  rw [run] at stays
  exact stays

end Platform

/-- Every call is on the way to the workspace, or the workspace is ready and the call is made in it or
for it. -/
theorem ready_of_enters {program : Remote β} {target : Option String} (enters : Enters target program)
    (named : p.Named) : ∀ x ∈ program.trace handler p, ∃ w, target = some w ∧ (lookedUp? x.1 = some w ∨
      ∃ v, x.2.workspaces w = some v ∧ v.name = w ∧ v.state.isSucceeded = true ∧ x.1.Concerns v) := by
  cases enters with
  | refused => exact fun _ member => nomatch member
  | looked looks next =>
    rename_i w way inside
    intro x member
    refine ⟨w, rfl, ?_⟩
    rcases mem_trace_bind member with early | ⟨a, q, answered, late⟩
    · exact .inl (forall_trace (P := fun _ => True) (fun _ _ _ _ => trivial) looks trivial x early).1
    · rcases next p q a answered with ⟨-, ends⟩ | ⟨v, ready, concerns⟩
      · have nothing := forall_trace (P := fun _ => True) (fun _ _ _ _ => trivial) ends trivial x late
        exact nothing.1.elim
      · -- no call changes the workspace or takes it away, so it is as ready later as it was found
        have stays : ∀ (c : Call) (q : Platform), c.Concerns v → q.workspaces w = some v →
            (handler c q).2.workspaces w = some v := fun c q _ there =>
          (retains_handler c.within_all q).workspaces w v there
        obtain ⟨concerned, there⟩ :=
          forall_trace (P := fun q : Platform => q.workspaces w = some v) stays concerns ready.1 x late
        exact .inr ⟨v, there, name_of_hasReady (named w) answered ready, requireReady_eq_ok.mp ready.2,
          concerned⟩

/-- A workspace that is not ready, from the start or since it was made, is not entered. -/
theorem barred_of_enters {program : Remote β} (enters : Enters (some w) program)
    (unready : v.state.isSucceeded = false)
    (here : p.workspaces w = some v ∨
      p.workspaces w = none ∧ (program.run handler p).2.workspaces w = some v) :
    (∀ b, (program.run handler p).1 ≠ .answered b) ∧
      (∀ c ∈ program.asked handler p, lookedUp? c = some w) ∧
      p.Unmoved w (program.run handler p).2 := by
  cases enters with
  | refused _ f =>
    refine ⟨?_, ?_, p.unmoved_refl⟩
    · intro b same
      cases same
    · intro c member
      cases member
  | looked looks next =>
    rename_i α way inside
    -- had the way answered, it would have found a ready workspace of this name, or none
    have stopped : ∀ a q, way.run handler p ≠ (.answered a, q) := by
      intro a q answered
      rw [run_bind_of_answered answered] at here
      rcases next p q a answered with ⟨none, ends⟩ | ⟨u, ready, -⟩
      · have still : ((inside a).run handler q).2 = q :=
          keeps_of_asks (R := fun p q => q = p) (fun _ => rfl)
            (fun _ _ _ first second => second.trans first) (fun _ => False.elim) ends q
        rcases here with before | ⟨-, after⟩
        · rw [stays_of_run answered before] at none
          cases none
        · rw [still, none] at after
          cases after
      · have same : u = v := by
          rcases here with before | ⟨-, after⟩
          · exact Option.some.inj (ready.1.symm.trans (stays_of_run answered before))
          · exact Option.some.inj ((stays_run (inside a) ready.1).symm.trans after)
        rw [← same, requireReady_eq_ok.mp ready.2] at unready
        cases unready
    have asked := forall_asked looks p (h := handler)
    have unmoved := unmoved_run looks p
    rw [run_bind, asked_bind]
    generalize way.run handler p = x at stopped unmoved ⊢
    rcases x with ⟨a | f | m, q⟩
    · exact absurd rfl (stopped a q)
    all_goals
      refine ⟨fun _ => nofun, ?_, unmoved⟩
      change ∀ c ∈ way.asked handler p ++ [], _
      rw [List.append_nil]
      exact asked

/-- The workload that provisioning sets up; there is none for a workflow without a name. -/
def Classified.workload? : Classified → Option Workload
  | .job spec => some spec.workload
  | .pipeline spec => some spec.workload
  | .workflow spec => spec.requiredName.toOption.map fun _ => spec.workload
  | .outputPort _ | .unsupported _ => none

theorem Accepted.execute_eq_prepare {a : Accepted} {work : Workload} (s : Settings)
    (workload : a.classified.workload? = some work) :
    ∃ f, a.execute s .provision = work.prepare s a >>= f := by
  unfold execute
  cases class_ : a.classified with
  | job spec =>
    rw [class_] at workload
    cases workload
    exact ⟨_, rfl⟩
  | pipeline spec =>
    rw [class_] at workload
    cases workload
    exact ⟨_, rfl⟩
  | workflow spec =>
    rw [class_, Classified.workload?] at workload
    dsimp only
    unfold WorkflowSpec.provision
    cases required : spec.requiredName with
    | error f =>
      rw [required] at workload
      cases workload
    | ok name =>
      rw [required] at workload
      cases workload
      exact ⟨_, rfl⟩
  | outputPort spec =>
    rw [class_] at workload
    cases workload
  | unsupported reason =>
    rw [class_] at workload
    cases workload

def WorkspaceSettings.creationKey (s : WorkspaceSettings) (name : String) : String :=
  Call.key (.createIfAbsent name s.region s.params)

/-- A workspace that does not come into being ready is made all the same. -/
theorem run_ensureWorkspace_of_unready {s : WorkspaceSettings} (managed : s.managed = true)
    (missing : p.workspaces w = none) (accepted : p.rejects (s.creationKey w) = false)
    (unready : p.newWorkspaceState.isSucceeded = false) :
    (ensureWorkspace s w).run handler p =
      (.refused (notReady (p.newWorkspace w s.region p.newWorkspaceState)),
        (p.logged [s.creationKey w]).spendId.putWorkspace
          (p.newWorkspace w s.region p.newWorkspaceState)) := by
  have obtained : (obtainWorkspace s w).run handler p =
      (.answered (p.newWorkspace w s.region p.newWorkspaceState),
        (p.logged [s.creationKey w]).spendId.putWorkspace
          (p.newWorkspace w s.region p.newWorkspaceState)) := by
    have none : (p.logged [s.creationKey w]).workspaces w = none := missing
    unfold WorkspaceSettings.creationKey at accepted none
    rw [obtainWorkspace, if_pos managed, Remote.createWorkspace, run_request, handler_eq, accepted]
    simp only [answer, none]
    rfl
  have state : (p.newWorkspace w s.region p.newWorkspaceState).state = p.newWorkspaceState := rfl
  rw [ensureWorkspace, run_bind_of_answered obtained, requireReady, state, unready]
  rfl

namespace Operation

structure TurnedAway (o : Operation) (s : Settings) (w : String) (p after : Platform) (r : JobRecord) :
    Prop where
  failed : r.status = .failed
  calls : ∀ c ∈ (o.program s).asked handler p, lookedUp? c = some w
  unmoved : p.Unmoved w after

/-- How an operation stands to the workspace that it is about, from what `p` was before to what `after`
is then, and to the record of the job. -/
structure Heeds (o : Operation) (s : Settings) (p after : Platform) (r : JobRecord) : Prop where
  ready : ∀ x ∈ (o.program s).trace handler p, ∃ w, o.workspace? s = some w ∧ (lookedUp? x.1 = some w ∨
    ∃ v, x.2.workspaces w = some v ∧ v.name = w ∧ v.state.isSucceeded = true ∧ x.1.Concerns v)
  barred : ∀ w v, o.workspace? s = some w → p.workspaces w = some v → v.state.isSucceeded = false →
    o.TurnedAway s w p after r
  /-- It has been made by this very operation. -/
  unready : ∀ w v, o.workspace? s = some w → p.workspaces w = none → after.workspaces w = some v →
    v.state.isSucceeded = false → o.TurnedAway s w p after r
  made : ∀ request a work, o = .work (.request request .provision) →
    request.accept s.templates = .ok a → a.classified.workload? = some work →
    s.workspace.managed = true → p.workspaces work.workspace = none →
    p.rejects (s.workspace.creationKey work.workspace) = false → p.newWorkspaceState.isSucceeded = false →
    r.status = .failed ∧ after =
      (p.logged [s.workspace.creationKey work.workspace]).spendId.putWorkspace
        (p.newWorkspace work.workspace s.workspace.region p.newWorkspaceState)
  kept : ∀ x v, p.workspaces x = some v → after.workspaces x = some v

theorem turnedAway {o : Operation} {s : Settings} {after : Platform} {r : JobRecord}
    {reply : Reply Completion} (target : o.workspace? s = some w) (run : (o.program s).run handler p = (reply, after))
    (tells : r.Tells reply) (unready : v.state.isSucceeded = false)
    (here : p.workspaces w = some v ∨ p.workspaces w = none ∧ after.workspaces w = some v) :
    o.TurnedAway s w p after r := by
  have enters := o.enters s
  rw [target] at enters
  have world : after = ((o.program s).run handler p).2 := by rw [run]
  rw [world] at here ⊢
  obtain ⟨silent, calls, unmoved⟩ := barred_of_enters enters unready here
  rw [run] at silent
  exact ⟨JobRecord.Tells.failed tells silent, calls, unmoved⟩

theorem heeds_of_run (named : p.Named) {o : Operation} {s : Settings} {after : Platform} {r : JobRecord}
    {reply : Reply Completion} (run : (o.program s).run handler p = (reply, after))
    (tells : r.Tells reply) : o.Heeds s p after r where
  ready := ready_of_enters (o.enters s) named
  barred _ _ target there unready := turnedAway target run tells unready (.inl there)
  unready _ _ target missing made unready := turnedAway target run tells unready (.inr ⟨missing, made⟩)
  made := by
    rintro request a work rfl accepted workload managed missing answered unready
    obtain ⟨f, prepares⟩ := a.execute_eq_prepare s workload
    have program : Operation.program s (.work (.request request .provision)) =
        work.prepare s a >>= f := by
      rw [← prepares]
      exact Request.execute_of_accept accepted .provision
    have refused := run_ensureWorkspace_of_unready managed missing answered unready
    rw [program, work.prepare_bind s a, run_bind, refused] at run
    cases run
    exact ⟨JobRecord.Tells.failed tells fun _ => nofun, rfl⟩
  kept _ _ there := stays_of_run run there

end Operation

namespace Engine

variable {e : Engine Platform} {s : EngineState Platform}

/-- Whatever was seeded, done and injected before: an operation that an engine works off asks for nothing
but its workspace unless that is ready, and fails on its way where it is there and not ready. -/
theorem heeds_step_of_execution (reachable : Reachable p) (failures : List String)
    (meets : e.Meets s (p.injecting failures)) (event : Event Platform) {x : Execution}
    (done : x ∈ e.executions event s) :
    x.operation.Heeds e.settings (p.injecting failures) (e.step event s).world
      (e.status x.token (e.step event s)) := by
  have named : p.Named := named_of_reachable reachable
  exact Operation.heeds_of_run (p := p.injecting failures) named (meets.run_execution event done)
    (meets.tells event done)

end Engine

namespace Platform

/-- A platform on which the workspace of the nightly job is still coming into being. -/
def unreadyPlatform : Platform :=
  (Seed.workspace "w" .creating).plant ((Seed.group "g").plant ((Seed.user "a@b").plant {}))

theorem unreadyPlatform_reachable : Reachable unreadyPlatform :=
  .seeded _ (.seeded _ (.seeded _ .empty trivial) trivial) trivial

end Platform

namespace Engine

theorem nightlyRequest_workspace (direction : Direction) :
    Operation.workspace? nightlySettings (.work (.request nightlyRequest direction)) = some "w" := by
  obtain ⟨a, spec, accepted, classified, place, -⟩ := nightlyRequest_accepted
  rw [Operation.workspace?, Request.workspace?, accepted, ← place]
  simp only [Except.toOption, Option.bind, classified, Classified.workspace?]

theorem heeds_unready_nightly : ∃ x,
    x ∈ nightlyEngine.executions .runNext (submittedState nightlyRequest .provision unreadyPlatform) ∧
    x.operation.Heeds nightlySettings unreadyPlatform
      (nightlyEngine.runNext (submittedState nightlyRequest .provision unreadyPlatform)).world
      (nightlyEngine.status x.token
        (nightlyEngine.runNext (submittedState nightlyRequest .provision unreadyPlatform))) ∧
    x.operation.workspace? nightlySettings = some "w" ∧
    (nightlyEngine.status x.token
      (nightlyEngine.runNext (submittedState nightlyRequest .provision unreadyPlatform))).status =
        .failed := by
  have meets := submittedState_meets nightlyRequest .provision unreadyPlatform
  have done := List.mem_singleton_self (nightlyEngine.perform (nightlyEngine.tokenOf 0)
    (.work (.request nightlyRequest .provision)) (submittedState nightlyRequest .provision unreadyPlatform))
  have heeds := heeds_step_of_execution unreadyPlatform_reachable [] meets .runNext done
  have target := nightlyRequest_workspace .provision
  exact ⟨_, done, heeds, target, (heeds.barred "w" _ target rfl rfl).failed⟩

end Engine
end Provisioning
