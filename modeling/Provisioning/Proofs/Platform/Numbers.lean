import Mathlib
import Provisioning.Proofs.Platform.History

/-!
Ids are never given twice.  In every state that the platform can come to, jobs, pipelines and
repositories are kept under numbers that the counter has passed, and a repository bears the id under
which it is kept; so the id that comes next is nobody's.
-/
namespace Provisioning

def Keyed.Numbered {α : Type} (n : Nat) (m : Keyed α) : Prop := ∀ e ∈ m, ∃ k ≤ n, e.1 = toString k

namespace Keyed

variable {α : Type} {m : Keyed α} {n : Nat}

theorem Numbered.mono (numbered : m.Numbered n) {n' : Nat} (later : n ≤ n') : m.Numbered n' := by
  intro e member
  obtain ⟨k, low, written⟩ := numbered e member
  exact ⟨k, by omega, written⟩

theorem numbered_insert (numbered : m.Numbered n) {k : Nat} (low : k ≤ n) (a : α) :
    (insert (toString k) a m).Numbered n := by
  intro e member
  rcases mem_insert member with rfl | old
  · exact ⟨k, low, rfl⟩
  · exact numbered e old

theorem numbered_erase (numbered : m.Numbered n) (key : String) : (erase key m).Numbered n := by
  intro e member
  exact numbered e (List.mem_filter.mp member).1

theorem fresh_of_numbered (numbered : m.Numbered n) {e : String × α} (member : e ∈ m) :
    e.1 ≠ toString (n + 1) := by
  intro same
  obtain ⟨k, low, written⟩ := numbered e member
  have equal : k = n + 1 := Nat.repr_inj.mp (written.symm.trans same)
  omega

end Keyed

namespace WorkspaceData

structure Numbered (n : Nat) (d : WorkspaceData) : Prop where
  jobs : d.jobs.Numbered n
  pipelines : d.pipelines.Numbered n
  repositories : d.repositories.Numbered n
  own : ∀ e ∈ d.repositories, e.2.id = e.1

variable {n : Nat} {d : WorkspaceData}

theorem Numbered.mono (numbered : d.Numbered n) {n' : Nat} (later : n ≤ n') : d.Numbered n' where
  jobs := numbered.jobs.mono later
  pipelines := numbered.pipelines.mono later
  repositories := numbered.repositories.mono later
  own := numbered.own

/-- Only what puts something under an id has to do with numbers. -/
theorem numbered_of_change {e : Effect} {d' : WorkspaceData} (change : Change e d d')
    (noId : e ∉ [Effect.writeJob, .writePipeline, .makeRepository]) (numbered : d.Numbered n) :
    d'.Numbered n := by
  cases change with
  | job | pipeline | repository => simp at noId
  | noJob id => exact { numbered with jobs := Keyed.numbered_erase numbered.jobs id }
  | noPipeline id => exact { numbered with pipelines := Keyed.numbered_erase numbered.pipelines id }
  | noRepository id =>
    constructor
    · exact numbered.jobs
    · exact numbered.pipelines
    · exact Keyed.numbered_erase numbered.repositories id
    · exact fun e member => numbered.own e (List.mem_filter.mp member).1
  | _ => exact { numbered with }

end WorkspaceData

namespace Platform

def Numbered (p : Platform) : Prop := ∀ w, (p.data w).Numbered p.lastId

theorem numbered_spendId {p : Platform} (numbered : p.Numbered) : p.spendId.Numbered := by
  intro w
  have later : p.lastId ≤ p.spendId.lastId := Nat.le_succ _
  exact (numbered w).mono later

theorem numbered_modifyData {p : Platform} (numbered : p.Numbered) {w : String}
    {f : WorkspaceData → WorkspaceData} (change : (f (p.data w)).Numbered p.lastId) :
    (p.modifyData w f).Numbered := fun x =>
  forall_data_modifyData (P := fun d e => d.Numbered p.lastId → e.Numbered p.lastId) (fun _ => id) p w
    (fun _ => change) x (numbered x)

theorem numbered_putJob {p : Platform} (numbered : p.Numbered) (w : String) (job : StoredJob) :
    (p.spendId.modifyData w fun data =>
      { data with jobs := Keyed.insert p.nextId job data.jobs }).Numbered := by
  have spent := numbered_spendId numbered
  exact numbered_modifyData spent
    { spent w with jobs := Keyed.numbered_insert (spent w).jobs (Nat.le_refl _) job }

theorem numbered_putPipeline {p : Platform} (numbered : p.Numbered) (w : String)
    (d : PipelineDefinition) : (p.spendId.modifyData w fun data =>
      { data with pipelines := Keyed.insert p.nextId d data.pipelines }).Numbered := by
  have spent := numbered_spendId numbered
  exact numbered_modifyData spent
    { spent w with pipelines := Keyed.numbered_insert (spent w).pipelines (Nat.le_refl _) d }

theorem numbered_answerJobs (w : String) (c : ObjectCall JobDefinition) {p : Platform}
    (numbered : p.Numbered) : (answerJobs w c p).2.Numbered := by
  cases c with
  | listByName _ | get _ => exact numbered
  | create d => exact numbered_putJob numbered w (p.newJob d)
  | update id d =>
    simp only [answerJobs]
    cases found : (p.data w).jobs.find? id with
    | none => exact numbered
    | some job =>
      obtain ⟨k, low, written⟩ := (numbered w).jobs (id, job) (Keyed.mem_of_find? found)
      have key : id = toString k := written
      subst key
      exact numbered_modifyData numbered
        { numbered w with jobs := Keyed.numbered_insert (numbered w).jobs low _ }
  | delete id =>
    exact numbered_modifyData numbered
      { numbered w with jobs := Keyed.numbered_erase (numbered w).jobs id }

theorem numbered_answerPipelines (w : String) (c : ObjectCall PipelineDefinition) {p : Platform}
    (numbered : p.Numbered) : (answerPipelines w c p).2.Numbered := by
  cases c with
  | listByName _ | get _ => exact numbered
  | create d => exact numbered_putPipeline numbered w d
  | update id d =>
    simp only [answerPipelines]
    cases found : (p.data w).pipelines.find? id with
    | none => exact numbered
    | some old =>
      obtain ⟨k, low, written⟩ := (numbered w).pipelines (id, old) (Keyed.mem_of_find? found)
      have key : id = toString k := written
      subst key
      exact numbered_modifyData numbered
        { numbered w with pipelines := Keyed.numbered_insert (numbered w).pipelines low _ }
  | delete id =>
    exact numbered_modifyData numbered
      { numbered w with pipelines := Keyed.numbered_erase (numbered w).pipelines id }

theorem numbered_answerRepositories (w : String) (c : RepositoryCall) {p : Platform}
    (numbered : p.Numbered) : (answerRepositories w c p).2.Numbered := by
  cases c with
  | listByPath path => exact numbered
  | create url path provider =>
    simp only [answerRepositories]
    split
    · exact numbered
    · have spent := numbered_spendId numbered
      refine numbered_modifyData spent ?_
      constructor
      · exact (spent w).jobs
      · exact (spent w).pipelines
      · exact Keyed.numbered_insert (spent w).repositories (Nat.le_refl _) _
      · intro e member
        rcases Keyed.mem_insert member with rfl | old
        · rfl
        · exact (numbered w).own e old
  | delete id =>
    have change := WorkspaceData.Change.noRepository (d := p.data w) id
    exact numbered_modifyData numbered
      (WorkspaceData.numbered_of_change change (by decide) (numbered w))

theorem lastId_answer (c : Call) (p : Platform)
    (noId : c.effect ∉ [Effect.writeJob, .writePipeline, .makeRepository]) :
    p.lastId ≤ (answer c p).2.lastId := by
  cases c with
  | createIfAbsent name region params =>
    simp only [answer]
    split
    · exact Nat.le_refl _
    · exact Nat.le_succ _
  | findWorkspace _ | openSession _ => exact Nat.le_refl _
  | assignRole scope principal role =>
    simp only [answer]
    split <;> exact Nat.le_refl _
  | inside w c =>
    cases c with
    | jobs c | pipelines c =>
      cases c <;> first
        | exact Nat.le_refl _
        | simp [Call.effect, InnerCall.effect, ObjectCall.effect] at noId
    | views c =>
      cases c with
      | create d =>
        simp only [answer, answerInner, answerViews]
        split <;> exact Nat.le_refl _
      | _ => exact Nat.le_refl _
    | catalog c =>
      cases c with
      | ensureSchema catalog schema =>
        simp only [answer, answerInner, answerCatalog]
        split <;> exact Nat.le_refl _
      | _ => exact Nat.le_refl _
    | repositories c =>
      cases c <;> first
        | exact Nat.le_refl _
        | simp [Call.effect, InnerCall.effect] at noId
    | identity c => cases c <;> exact Nat.le_refl _

theorem numbered_handler (c : Call) (p : Platform) (numbered : p.Numbered) :
    (handler c p).2.Numbered := by
  rcases handler_snd c p with noted | answered
  · rw [noted]
    exact numbered
  · rw [answered]
    by_cases noId : c.effect ∈ [Effect.writeJob, .writePipeline, .makeRepository]
    · cases c with
      | inside w c =>
        cases c with
        | jobs c => exact numbered_answerJobs w c numbered
        | pipelines c => exact numbered_answerPipelines w c numbered
        | repositories c => exact numbered_answerRepositories w c numbered
        | views c | catalog c | identity c =>
          cases c <;> simp [Call.effect, InnerCall.effect, ObjectCall.effect] at noId
      | _ => simp [Call.effect] at noId
    · intro w
      have changed := WorkspaceData.numbered_of_change (change_answer (p.record c.key) w c) noId
        (numbered w)
      exact changed.mono (lastId_answer c (p.record c.key) noId)

theorem numbered_plant (x : Seed) (p : Platform) (numbered : p.Numbered) : (x.plant p).Numbered := by
  cases x with
  | job w d => exact numbered_putJob numbered w (p.newJob d)
  | pipeline w d => exact numbered_putPipeline numbered w d
  | workspace name state =>
    intro w
    exact numbered_spendId numbered w
  | workspaceState name state =>
    simp only [Seed.plant, setWorkspaceState]
    split <;> exact numbered
  | table w _ | view w _ | grant w _ _ => exact numbered_modifyData numbered { numbered w with }
  | _ => exact numbered

theorem numbered_of_reachable {allowed : Seed → Prop} {p : Platform}
    (reachable : ReachableBy allowed p) : p.Numbered := by
  refine reachable_invariant ?_ (fun x p _ => numbered_plant x p) numbered_handler reachable
  intro w
  constructor
  · exact fun e member => nomatch member
  · exact fun e member => nomatch member
  · exact fun e member => nomatch member
  · exact fun e member => nomatch member

end Platform
end Provisioning
