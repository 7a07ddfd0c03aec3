import Provisioning.Proofs.Chain.Readiness
import Provisioning.Proofs.Chain.Replacement

/-!
Reading a workflow back.  It asks for the workspace, for a session with it, for the jobs of the name and
for the one job that bears it, and no such call changes anything.  So the platform stays as it was but for
the log, and whether something comes back, and what, is told by what was there.
-/
namespace Provisioning

open Platform Program

/-! Calls that read -/

def Call.Reads (c : Call) : Prop := ∀ p : Platform, (answer c p).2 = p

namespace Platform

theorem handler_of_reads {c : Call} (reads : c.Reads) (p : Platform) :
    (handler c p).2 = p.logged [c.key] := by
  rw [handler_eq]
  split
  · rfl
  · exact reads _

/-- A run that only reads leaves the keys of its calls in the log, and nothing else. -/
theorem run_of_reads {α : Type} {program : Remote α} {p : Platform}
    (poses : program.Poses handler Call.Reads p) :
    (program.run handler p).2 = p.logged ((program.asked handler p).map Call.key) := by
  -- every answer leads on with one more key in the log, so the platform is generalized
  induction program generalizing p with
  | done r => cases r <;> exact p.logged_nil.symm
  | ask c next ih =>
    simp only [Poses, trace, List.forall_mem_cons] at poses
    obtain ⟨reads, later⟩ := poses
    have first := handler_of_reads reads p
    simp only [run, asked]
    generalize handler c p = x at first later ⊢
    rcases x with ⟨a | f | m, q⟩
    · rw [ih (.ok a) later, show q = _ from first, logged_logged]
      rfl
    · rw [ih (.error f) later, show q = _ from first, logged_logged]
      rfl
    · exact first

theorem answered_reading_iff {c : Call} {a b : c.Answer} {p q : Platform}
    (reads : answer c (p.logged [c.key]) = (.ok a, p.logged [c.key])) :
    (request (I := remote) c).run handler p = (.answered b, q) ↔
      p.rejects c.key = false ∧ b = a ∧ q = p.logged [c.key] := by
  rw [run_request, handler_of_reading reads]
  cases p.rejects c.key <;> simp [eq_comm]

/-! The way in -/

variable {p q : Platform} {name : String}

theorem answered_findWorkspace_iff {found : Option WorkspaceInfo} :
    (Remote.findWorkspace name).run handler p = (.answered found, q) ↔
      p.rejects (Call.key (.findWorkspace name)) = false ∧ found = p.workspaces name ∧
        q = p.logged [Call.key (.findWorkspace name)] := answered_reading_iff rfl

theorem answered_existingWorkspace_iff {w : WorkspaceInfo} :
    (existingWorkspace name).run handler p = (.answered w, q) ↔
      p.Finds name w ∧ q = p.logged [Call.key (.findWorkspace name)] := by
  unfold existingWorkspace
  constructor
  · intro answered
    obtain ⟨found, _, looked, answered⟩ := answered_bind_iff.mp answered
    obtain ⟨accepted, there, rfl⟩ := answered_findWorkspace_iff.mp looked
    cases found with
    | none => cases answered
    | some v =>
      obtain ⟨_, _, required, answered⟩ := answered_bind_iff.mp answered
      obtain ⟨ready, rfl⟩ := answered_ofExcept_iff.mp required
      cases answered
      exact ⟨⟨accepted, there.symm, requireReady_eq_ok.mp ready⟩, rfl⟩
  · rintro ⟨⟨accepted, there, ready⟩, rfl⟩
    refine answered_bind_iff.mpr
      ⟨some w, _, answered_findWorkspace_iff.mpr ⟨accepted, there.symm, rfl⟩, ?_⟩
    exact answered_bind_iff.mpr
      ⟨(), _, answered_ofExcept_iff.mpr ⟨requireReady_eq_ok.mpr ready, rfl⟩, rfl⟩

theorem answered_start_iff {w : WorkspaceInfo} {session : Session} :
    (Session.start w).run handler p = (.answered session, q) ↔
      p.rejects (Call.key (.openSession w.name)) = false ∧ session = ⟨w⟩ ∧
        q = p.logged [Call.key (.openSession w.name)] := by
  rw [run_start]
  cases p.rejects (Call.key (.openSession w.name)) <;> simp [eq_comm]

theorem logged_entrance (p : Platform) (name : String) :
    (p.logged [Call.key (.findWorkspace name)]).logged [Call.key (.openSession name)] =
      p.logged (entrance name) := logged_logged p _ _

end Platform

def enterExisting (name : String) : Remote Session := existingWorkspace name >>= Session.start

theorem Platform.answered_enterExisting_iff {p q : Platform} (named : p.Named) {name : String}
    {session : Session} : (enterExisting name).run handler p = (.answered session, q) ↔
      ∃ w, p.Admits name w ∧ session = ⟨w⟩ ∧ q = p.logged (entrance name) := by
  unfold enterExisting
  rw [answered_bind_iff]
  constructor
  · rintro ⟨w, between, looked, started⟩
    obtain ⟨found, rfl⟩ := answered_existingWorkspace_iff.mp looked
    obtain ⟨opened, rfl, rfl⟩ := answered_start_iff.mp started
    rw [named name w found.there] at opened ⊢
    exact ⟨w, { found with opened }, rfl, logged_entrance p name⟩
  · rintro ⟨w, admitted, rfl, rfl⟩
    refine ⟨w, _, answered_existingWorkspace_iff.mpr ⟨admitted.toFinds, rfl⟩, answered_start_iff.mpr ?_⟩
    rw [named name w admitted.there]
    exact ⟨admitted.opened, rfl, (logged_entrance p name).symm⟩

namespace WorkflowAddress

/-! The job -/

def matching (target : WorkflowAddress) (p : Platform) : Keyed StoredJob :=
  (p.data target.workspace).jobs.filter fun e => e.2.definition.name == target.workflow

def listing (target : WorkflowAddress) : Call :=
  .inside target.workspace (.jobs (.listByName target.workflow))

def reading (target : WorkflowAddress) (id : String) : Call := .inside target.workspace (.jobs (.get id))

/-- There is a way to the workflow: into the workspace, and from there to the one job of the name. -/
structure Readable (target : WorkflowAddress) (p : Platform) (w : WorkspaceInfo) (id : String)
    (job : StoredJob) : Prop where
  admitted : p.Admits target.workspace w
  listed : p.rejects target.listing.key = false
  alone : target.matching p = [(id, job)]
  read : p.rejects (target.reading id).key = false

def readJob (target : WorkflowAddress) (session : Session) : Remote Json := do
  let found ← session.jobs (Objects.listByName target.workflow)
  let reference ← Program.ofExcept (target.only found)
  match ← session.jobs (Objects.get reference.id) with
  | some live => pure (proposal live)
  | none => Program.fail target.notFound

variable {target : WorkflowAddress} {session : Session} {p q : Platform}

theorem readBack_eq (target : WorkflowAddress) :
    target.readBack = enterExisting target.workspace >>= target.readJob := (bind_assoc ..).symm

theorem only_eq_ok_iff {found : List ResourceRef} {reference : ResourceRef} :
    target.only found = .ok reference ↔ found = [reference] := by
  rcases found with _ | ⟨first, _ | ⟨second, rest⟩⟩ <;> simp [only]

theorem answered_listing_iff (own : session.workspace.name = target.workspace)
    {found : List ResourceRef} :
    (session.jobs (Objects.listByName target.workflow)).run handler p = (.answered found, q) ↔
      p.rejects target.listing.key = false ∧ found = (target.matching p).map jobReference ∧
        q = p.logged [target.listing.key] := by
  obtain ⟨workspace, workflow⟩ := target
  subst own
  rw [Objects.listByName, Session.jobs_eq_ask]
  exact answered_reading_iff rfl

theorem answered_reading_job_iff (own : session.workspace.name = target.workspace) {id : String}
    {live : Option (RemoteResource JobDefinition)} :
    (session.jobs (Objects.get id)).run handler p = (.answered live, q) ↔
      p.rejects (target.reading id).key = false ∧
        live = ((p.data target.workspace).jobs.find? id).map (fun job => jobResource (id, job)) ∧
        q = p.logged [(target.reading id).key] := by
  obtain ⟨workspace, workflow⟩ := target
  subst own
  rw [Objects.get, Session.jobs_eq_ask]
  exact answered_reading_iff rfl

theorem answered_readJob_iff (ordered : p.Ordered) (own : session.workspace.name = target.workspace)
    {v : Json} : (target.readJob session).run handler p = (.answered v, q) ↔
      ∃ id job, p.rejects target.listing.key = false ∧ target.matching p = [(id, job)] ∧
        p.rejects (target.reading id).key = false ∧ v = proposal (jobResource (id, job)) ∧
        q = p.logged [target.listing.key, (target.reading id).key] := by
  unfold readJob
  constructor
  · intro answered
    obtain ⟨found, _, asked, answered⟩ := answered_bind_iff.mp answered
    obtain ⟨listed, rfl, rfl⟩ := (answered_listing_iff own).mp asked
    obtain ⟨reference, _, chosen, answered⟩ := answered_bind_iff.mp answered
    obtain ⟨one, rfl⟩ := answered_ofExcept_iff.mp chosen
    obtain ⟨⟨id, job⟩, alone, rfl⟩ := List.map_eq_singleton_iff.mp (only_eq_ok_iff.mp one)
    obtain ⟨live, _, asked, answered⟩ := answered_bind_iff.mp answered
    obtain ⟨read, rfl, rfl⟩ := (answered_reading_job_iff own).mp asked
    have there := WorkflowSpec.found_of_alone ordered alone
    refine ⟨id, job, listed, alone, read, ?_⟩
    simp only [jobReference, data_logged, there, Option.map_some, run_pure] at answered
    cases answered
    exact ⟨rfl, logged_logged p _ _⟩
  · rintro ⟨id, job, listed, alone, read, rfl, rfl⟩
    have there := WorkflowSpec.found_of_alone ordered alone
    refine answered_bind_iff.mpr ⟨_, _, (answered_listing_iff own).mpr ⟨listed, rfl, rfl⟩, ?_⟩
    refine answered_bind_iff.mpr ⟨jobReference (id, job), _, answered_ofExcept_iff.mpr ⟨?_, rfl⟩, ?_⟩
    · rw [alone]
      rfl
    refine answered_bind_iff.mpr ⟨_, _, (answered_reading_job_iff own).mpr ⟨read, rfl, rfl⟩, ?_⟩
    simp only [jobReference, data_logged, there, Option.map_some, run_pure, logged_logged]
    rfl

/-- The read-back answers exactly when there is a way to the workflow, and then with what is there. -/
theorem answered_readBack_iff (named : p.Named) (ordered : p.Ordered) {v : Json} :
    target.readBack.run handler p = (.answered v, q) ↔
      ∃ w id job, target.Readable p w id job ∧ v = proposal (jobResource (id, job)) ∧
        q = p.logged (entrance target.workspace ++ [target.listing.key, (target.reading id).key]) := by
  rw [readBack_eq]
  constructor
  · intro answered
    obtain ⟨session, _, entered, answered⟩ := answered_bind_iff.mp answered
    obtain ⟨w, admitted, rfl, rfl⟩ := (answered_enterExisting_iff named).mp entered
    have own : w.name = target.workspace := named _ _ admitted.there
    obtain ⟨id, job, listed, alone, read, rfl, rfl⟩ :=
      (answered_readJob_iff (p := p.logged _) ordered own).mp answered
    exact ⟨w, id, job, ⟨admitted, listed, alone, read⟩, rfl, logged_logged p _ _⟩
  · rintro ⟨w, id, job, ⟨admitted, listed, alone, read⟩, rfl, rfl⟩
    have own : w.name = target.workspace := named _ _ admitted.there
    refine answered_bind_iff.mpr
      ⟨⟨w⟩, _, (answered_enterExisting_iff named).mpr ⟨w, admitted, rfl, rfl⟩, ?_⟩
    exact (answered_readJob_iff (p := p.logged _) ordered own).mpr
      ⟨id, job, listed, alone, read, rfl, (logged_logged p _ _).symm⟩

/-! What is asked -/

structure ReadsAmong (jobs : Keyed StoredJob) (c : Call) : Prop where
  reads : c.Reads
  single : ∀ workspace id, c = .inside workspace (.jobs (.get id)) → jobs.length = 1

variable {jobs : Keyed StoredJob}

theorem enterExisting_asks (name : String) : (enterExisting name).Asks (ReadsAmong jobs) := by
  refine asks_bind (asks_bind (asks_request ?_) fun found => ?_) fun w =>
    asks_bind (asks_request ?_) fun _ => asks_done _
  · exact ⟨fun _ => rfl, fun _ _ same => nomatch same⟩
  · cases found with
    | none => exact asks_done _
    | some w => exact asks_bind (asks_done _) fun _ => asks_done _
  · exact ⟨fun _ => rfl, fun _ _ same => nomatch same⟩

theorem readJob_poses (own : session.workspace.name = target.workspace) :
    (target.readJob session).Poses handler (ReadsAmong (target.matching p)) p := by
  unfold readJob
  refine poses_bind (poses_of_asks (asks_through (asks_request ?_)) p) fun found _ asked => ?_
  · exact ⟨fun _ => rfl, fun _ _ same => nomatch same⟩
  obtain ⟨-, rfl, rfl⟩ := (answered_listing_iff own).mp asked
  refine poses_bind (poses_of_asks (asks_done _) _) fun reference _ chosen => ?_
  obtain ⟨one, rfl⟩ := answered_ofExcept_iff.mp chosen
  -- a reference is chosen only where it was the only one found
  have single : (target.matching p).length = 1 := by
    simpa using congrArg List.length (only_eq_ok_iff.mp one)
  refine poses_bind (poses_of_asks (asks_through (asks_request ?_)) _) fun live _ _ => ?_
  · exact ⟨fun _ => rfl, fun _ _ _ => single⟩
  · cases live <;> exact poses_of_asks (asks_done _) _

theorem readBack_poses (named : p.Named) :
    target.readBack.Poses handler (ReadsAmong (target.matching p)) p := by
  rw [readBack_eq]
  refine poses_bind (poses_of_asks (enterExisting_asks _) p) fun session q entered => ?_
  obtain ⟨w, admitted, rfl, rfl⟩ := (answered_enterExisting_iff named).mp entered
  exact readJob_poses (p := p.logged (entrance target.workspace)) (named _ _ admitted.there)

end WorkflowAddress

namespace ReadBackRequest

variable {r : ReadBackRequest} {s : Settings} {p q : Platform}

theorem execute_poses (named : p.Named) :
    (r.execute s).Poses handler (WorkflowAddress.ReadsAmong (r.target.matching p)) p := by
  unfold execute
  split
  · exact poses_bind (WorkflowAddress.readBack_poses named) fun _ _ _ => poses_of_asks (asks_done _) _
  · exact poses_of_asks (asks_done _) _

theorem asked_of_unlisted (unlisted : r.templateId ∉ s.templates.workflow) :
    (r.execute s).asked handler p = [] := by
  unfold execute
  rw [if_neg fun listed => unlisted (List.contains_iff_mem.mp listed)]
  rfl

theorem answered_execute_iff (named : p.Named) (ordered : p.Ordered) {c : Completion} :
    (r.execute s).run handler p = (.answered c, q) ↔
      r.templateId ∈ s.templates.workflow ∧ ∃ w id job, r.target.Readable p w id job ∧
        c = .proposing s!"Workflow '{r.target.workflow}' read back from workspace '{r.target.workspace}'"
          (WorkflowAddress.proposal (jobResource (id, job))) ∧
        q = p.logged (entrance r.target.workspace ++ [r.target.listing.key, (r.target.reading id).key]) := by
  unfold execute
  by_cases listed : r.templateId ∈ s.templates.workflow
  · rw [if_pos (List.contains_iff_mem.mpr listed), answered_bind_iff]
    constructor
    · rintro ⟨updates, _, answered, told⟩
      obtain ⟨w, id, job, readable, rfl, rfl⟩ :=
        (WorkflowAddress.answered_readBack_iff named ordered).mp answered
      cases told
      exact ⟨listed, w, id, job, readable, rfl, rfl⟩
    · rintro ⟨-, w, id, job, readable, rfl, rfl⟩
      exact ⟨_, _, (WorkflowAddress.answered_readBack_iff named ordered).mpr
        ⟨w, id, job, readable, rfl, rfl⟩, rfl⟩
  · rw [if_neg fun contained => listed (List.contains_iff_mem.mp contained)]
    simp [listed]

end ReadBackRequest
end Provisioning
