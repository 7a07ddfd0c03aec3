import Provisioning.Proofs.Definition.Workflow
import Provisioning.Proofs.Platform.History

/-!
What the platform notes by itself.  In every state that it can come to, a workspace bears the name
under which it is kept, and beside its definition a job has no fields but those that the platform
assigns.
-/
namespace Provisioning

def WorkspaceData.Plain (d : WorkspaceData) : Prop :=
  ∀ e ∈ d.jobs, ∀ m ∈ e.2.serverFields, m.1 ∈ volatileFields

theorem WorkspaceData.plain_insert {d : WorkspaceData} (plain : d.Plain) {id : String}
    {job : StoredJob} (assigned : ∀ m ∈ job.serverFields, m.1 ∈ volatileFields) :
    WorkspaceData.Plain { d with jobs := Keyed.insert id job d.jobs } := by
  intro e member
  rcases Keyed.mem_insert member with rfl | old
  · exact assigned
  · exact plain e old

theorem WorkspaceData.plain_of_change {e : Effect} (noWrite : e ≠ .writeJob) {d d' : WorkspaceData}
    (change : Change e d d') (plain : d.Plain) : d'.Plain := by
  cases change with
  | job id job => exact absurd rfl noWrite
  | noJob id => exact fun entry member => plain entry (List.mem_filter.mp member).1
  | _ => exact plain

theorem Call.jobs_of_writeJob {c : Call} (writes : c.effect = .writeJob) :
    ∃ w jobs, c = .inside w (.jobs jobs) := by
  cases c with
  | inside w c =>
    cases c with
    | jobs c => exact ⟨w, c, rfl⟩
    | pipelines c | views c | catalog c | repositories c => cases c <;> cases writes
    | identity c => cases writes
  | _ => cases writes

namespace Platform

theorem assigned_newJob (p : Platform) (d : JobDefinition) :
    ∀ m ∈ (p.newJob d).serverFields, m.1 ∈ volatileFields := by
  simp [newJob, jobFields, volatileFields]

def Plain (p : Platform) : Prop := ∀ w, (p.data w).Plain

theorem plain_modifyData {p : Platform} (plain : p.Plain) {w : String}
    {f : WorkspaceData → WorkspaceData} (change : (f (p.data w)).Plain) :
    (p.modifyData w f).Plain := fun x =>
  forall_data_modifyData (P := fun d e => d.Plain → e.Plain) (fun _ => id) p w (fun _ => change) x
    (plain x)

theorem plain_answerJobs (w : String) (c : ObjectCall JobDefinition) {p : Platform}
    (plain : p.Plain) : (answerJobs w c p).2.Plain := by
  cases c with
  | listByName _ | get _ => exact plain
  | create d =>
    simp only [answerJobs]
    refine plain_modifyData (p := p.spendId) plain ?_
    exact WorkspaceData.plain_insert (plain w) (p.assigned_newJob d)
  | update id d =>
    simp only [answerJobs]
    cases found : (p.data w).jobs.find? id with
    | none => exact plain
    | some job =>
      have assigned := plain w (id, job) (Keyed.mem_of_find? found)
      dsimp only
      refine plain_modifyData plain ?_
      exact WorkspaceData.plain_insert (plain w) assigned
  | delete id =>
    simp only [answerJobs]
    refine plain_modifyData plain ?_
    exact fun entry member => plain w entry (List.mem_filter.mp member).1

theorem plain_handler (c : Call) (p : Platform) (plain : p.Plain) : (handler c p).2.Plain := by
  by_cases writes : c.effect = .writeJob
  · obtain ⟨w, jobs, rfl⟩ := Call.jobs_of_writeJob writes
    rcases handler_snd (.inside w (.jobs jobs)) p with noted | answered
    · rw [noted]
      exact plain
    · rw [answered]
      exact plain_answerJobs w jobs plain
  · exact fun w => WorkspaceData.plain_of_change writes (change_handler p w c) (plain w)

theorem plain_plant (x : Seed) (p : Platform) (plain : p.Plain) : (x.plant p).Plain := by
  cases x with
  | job w d =>
    simp only [Seed.plant, seedJob]
    refine plain_modifyData (p := p.spendId) plain ?_
    exact WorkspaceData.plain_insert (plain w) (p.assigned_newJob d)
  | pipeline w d =>
    simp only [Seed.plant, seedPipeline]
    exact plain_modifyData (p := p.spendId) plain (by exact plain w)
  | view w _ | table w _ | grant w _ _ =>
    simp only [Seed.plant, seedView, seedTable, seedGrant]
    exact plain_modifyData plain (by exact plain w)
  | workspaceState name state =>
    simp only [Seed.plant, setWorkspaceState]
    split <;> exact plain
  | _ => exact plain

theorem plain_of_reachable {allowed : Seed → Prop} {p : Platform}
    (reachable : ReachableBy allowed p) : p.Plain :=
  reachable_invariant (fun _ _ member => nomatch member) (fun x p _ => plain_plant x p)
    plain_handler reachable

/-- What is kept under this name, if it is a workspace, bears it. -/
def NamedAt (name : String) (p : Platform) : Prop := ∀ w, p.workspaces name = some w → w.name = name

def Named (p : Platform) : Prop := ∀ name w, p.workspaces name = some w → w.name = name

theorem namedAt_putWorkspace {name : String} {p : Platform} (named : p.NamedAt name) {w : WorkspaceInfo} :
    (p.putWorkspace w).NamedAt name := by
  intro v there
  change updated p.workspaces w.name (some w) name = some v at there
  by_cases same : name = w.name
  · subst same
    rw [updated_same] at there
    cases there
    rfl
  · rw [updated_other _ _ same] at there
    exact named v there

theorem named_putWorkspace {p : Platform} (named : p.Named) {w : WorkspaceInfo} :
    (p.putWorkspace w).Named := fun name => namedAt_putWorkspace (named name)

theorem namedAt_handler {name : String} (c : Call) (p : Platform) (named : p.NamedAt name) :
    (handler c p).2.NamedAt name := by
  rcases handler_snd c p with noted | answered
  · rw [noted]
    exact named
  · rw [answered]
    cases c with
    | createIfAbsent _ region params =>
      simp only [answer]
      split
      · exact named
      · exact namedAt_putWorkspace (p := (p.record _).spendId) named
    | findWorkspace _ | openSession _ => exact named
    | assignRole scope principal role =>
      simp only [answer]
      split <;> exact named
    | inside w c =>
      intro v there
      have kept := congrArg Platform.workspaces (kept_answerInner w (p.record c.key) c)
      exact named v (congrFun kept name ▸ there)

theorem named_handler (c : Call) (p : Platform) (named : p.Named) : (handler c p).2.Named :=
  fun name => namedAt_handler c p (named name)

theorem named_plant (x : Seed) (p : Platform) (named : p.Named) : (x.plant p).Named := by
  cases x with
  | workspace name state => exact named_putWorkspace (p := p.spendId) named
  | workspaceState name state =>
    simp only [Seed.plant, setWorkspaceState]
    cases there : p.workspaces name with
    | none => exact named
    | some w =>
      have own : w.name = name := named name w there
      subst own
      dsimp only
      exact named_putWorkspace (w := { w with state }) named
  | _ => exact named

theorem named_of_reachable {allowed : Seed → Prop} {p : Platform}
    (reachable : ReachableBy allowed p) : p.Named :=
  reachable_invariant (fun _ _ there => nomatch there) (fun x p _ => named_plant x p) named_handler
    reachable

end Platform
end Provisioning
