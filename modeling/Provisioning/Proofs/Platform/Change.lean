import Provisioning.Proofs.Platform.Growth

/-!
All that a call can do to the data of a workspace.  What every call preserves of such data is shown
change by change.
-/
namespace Provisioning

inductive WorkspaceData.Change : Effect → WorkspaceData → WorkspaceData → Prop where
  | none {e d} : Change e d d
  | permission {d} (entry : SecuredObject × String × PermissionLevel) :
      Change .nothing d { d with permissions := d.permissions ++ [entry] }
  | job {d} (id : String) (job : StoredJob) :
      Change .writeJob d { d with jobs := Keyed.insert id job d.jobs }
  | noJob {d} (id : String) : Change .removeJob d { d with jobs := Keyed.erase id d.jobs }
  | pipeline {d} (id : String) (definition : PipelineDefinition) :
      Change .writePipeline d { d with pipelines := Keyed.insert id definition d.pipelines }
  | noPipeline {d} (id : String) :
      Change .removePipeline d { d with pipelines := Keyed.erase id d.pipelines }
  | view {d} (id : String) (definition : ViewDefinition) :
      Change .writeView d { d with views := Keyed.insert id definition d.views }
  | noView {d} (id : String) : Change .removeView d
      { d with views := Keyed.erase id d.views, grants := updated d.grants id [] }
  | catalog {d} (name : String) :
      Change .makeCatalog d { d with catalogs := addOnce name d.catalogs }
  | schema {d} (name : String) : Change .makeCatalog d { d with schemas := addOnce name d.schemas }
  | grant {d} (view : String) (g : Grant) :
      Change .grant d { d with grants := updated d.grants view (addOnce g (d.grants view)) }
  | noGrant {d} (view : String) (g : Grant) : Change .revoke d
      { d with grants := updated d.grants view ((d.grants view).filter (· != g)) }
  | repository {d} (id : String) (repo : RepoInfo) (free : ∀ e ∈ d.repositories, e.2.path ≠ repo.path) :
      Change .makeRepository d { d with repositories := Keyed.insert id repo d.repositories }
  | noRepository {d} (id : String) :
      Change .removeRepository d { d with repositories := Keyed.erase id d.repositories }

namespace Platform

open WorkspaceData (Change)

variable (w : String) (p : Platform) (x : String)

theorem change_modifyData {e : Effect} {f : WorkspaceData → WorkspaceData}
    (change : Change e (p.data w) (f (p.data w))) : Change e (p.data x) ((p.modifyData w f).data x) :=
  forall_data_modifyData (fun _ => .none) p w change x

theorem change_answerJobs (c : ObjectCall JobDefinition) :
    Change (c.effect .writeJob .removeJob) (p.data x) ((answerJobs w c p).2.data x) := by
  cases c with
  | listByName _ | get _ => exact .none
  | create d =>
    simp only [answerJobs]
    exact change_modifyData w p.spendId x (.job _ _)
  | update id d =>
    simp only [answerJobs]
    cases (p.data w).jobs.find? id with
    | none => exact .none
    | some job =>
      dsimp only
      exact change_modifyData w p x (.job _ _)
  | delete id =>
    simp only [answerJobs]
    exact change_modifyData w p x (.noJob _)

theorem change_answerPipelines (c : ObjectCall PipelineDefinition) :
    Change (c.effect .writePipeline .removePipeline) (p.data x) ((answerPipelines w c p).2.data x) := by
  cases c with
  | listByName _ | get _ => exact .none
  | create d =>
    simp only [answerPipelines]
    exact change_modifyData w p.spendId x (.pipeline _ _)
  | update id d =>
    simp only [answerPipelines]
    cases (p.data w).pipelines.find? id with
    | none => exact .none
    | some old =>
      dsimp only
      exact change_modifyData w p x (.pipeline _ _)
  | delete id =>
    simp only [answerPipelines]
    exact change_modifyData w p x (.noPipeline _)

theorem change_answerViews (c : ObjectCall ViewDefinition) :
    Change (c.effect .writeView .removeView) (p.data x) ((answerViews w c p).2.data x) := by
  cases c with
  | listByName _ | get _ => exact .none
  | create d =>
    simp only [answerViews]
    split
    · dsimp only
      exact change_modifyData w p x (.view _ _)
    · exact .none
  | update id d =>
    simp only [answerViews]
    exact change_modifyData w p x (.view _ _)
  | delete id =>
    simp only [answerViews]
    exact change_modifyData w p x (.noView _)

theorem change_answerCatalog (c : CatalogCall) :
    Change (InnerCall.catalog c).effect (p.data x) ((answerCatalog w c p).2.data x) := by
  cases c with
  | tableExists _ | listGrants _ => exact .none
  | ensureCatalog catalog =>
    simp only [answerCatalog]
    exact change_modifyData w p x (.catalog _)
  | ensureSchema catalog schema =>
    simp only [answerCatalog]
    split
    · dsimp only
      exact change_modifyData w p x (.schema _)
    · exact .none
  | grant fullName principal privilege =>
    simp only [answerCatalog]
    exact change_modifyData w p x (.grant _ _)
  | revoke fullName principal privilege =>
    simp only [answerCatalog]
    exact change_modifyData w p x (.noGrant _ _)

theorem change_answerRepositories (c : RepositoryCall) :
    Change (InnerCall.repositories c).effect (p.data x) ((answerRepositories w c p).2.data x) := by
  cases c with
  | listByPath path => exact .none
  | create url path provider =>
    simp only [answerRepositories]
    split
    · exact .none
    · rename_i free
      dsimp only
      refine change_modifyData w p.spendId x (.repository _ _ ?_)
      intro e member same
      apply free
      have value : e.2 ∈ (p.data w).repositories.values := List.mem_map_of_mem member
      exact List.any_eq_true.mpr ⟨e.2, value, beq_iff_eq.mpr same⟩
  | delete id =>
    simp only [answerRepositories]
    exact change_modifyData w p x (.noRepository _)

theorem change_answer (c : Call) : Change c.effect (p.data x) ((answer c p).2.data x) := by
  cases c with
  | createIfAbsent name region params =>
    simp only [answer]
    split <;> exact .none
  | findWorkspace name => exact .none
  | assignRole scope principal role =>
    simp only [answer]
    split <;> exact .none
  | openSession workspace => exact .none
  | inside w c =>
    cases c with
    | jobs c => exact change_answerJobs w p x c
    | pipelines c => exact change_answerPipelines w p x c
    | views c => exact change_answerViews w p x c
    | catalog c => exact change_answerCatalog w p x c
    | repositories c => exact change_answerRepositories w p x c
    | identity c =>
      cases c with
      | resolve principal => exact .none
      | assignPermission object principal level =>
        simp only [answer, answerInner, answerIdentity]
        exact change_modifyData w p x (.permission _)

/-- Inside a workspace an answer changes data, and it may spend an id. -/
theorem kept_answerInner (c : InnerCall) : (answerInner w c p).2 =
    { p with data := (answerInner w c p).2.data, lastId := (answerInner w c p).2.lastId } := by
  cases c with
  | jobs c =>
    cases c with
    | update id d =>
      simp only [answerInner, answerJobs]
      split <;> rfl
    | _ => rfl
  | pipelines c =>
    cases c with
    | update id d =>
      simp only [answerInner, answerPipelines]
      split <;> rfl
    | _ => rfl
  | views c =>
    cases c with
    | create d =>
      simp only [answerInner, answerViews]
      split <;> rfl
    | _ => rfl
  | catalog c =>
    cases c with
    | ensureSchema catalog schema =>
      simp only [answerInner, answerCatalog]
      split <;> rfl
    | _ => rfl
  | repositories c =>
    cases c with
    | create url path provider =>
      simp only [answerInner, answerRepositories]
      split <;> rfl
    | _ => rfl
  | identity c => cases c <;> rfl

/-- The directory, the clock, the log, what is rejected and how workspaces come into being are never
changed by an answer. -/
theorem kept_answer (c : Call) : (answer c p).2 = { p with
    workspaces := (answer c p).2.workspaces
    data := (answer c p).2.data
    roles := (answer c p).2.roles
    lastId := (answer c p).2.lastId } := by
  cases c with
  | createIfAbsent name region params =>
    simp only [answer]
    split <;> rfl
  | findWorkspace name => rfl
  | assignRole scope principal role =>
    simp only [answer]
    split <;> rfl
  | openSession workspace => rfl
  | inside w c =>
    have kept := kept_answerInner w p c
    simp only [answer]
    generalize (answerInner w c p).2 = q at kept ⊢
    rw [kept]

theorem workspaces_answer {c : Call} (other : c.effect ≠ .makeWorkspace) :
    (answer c p).2.workspaces = p.workspaces := by
  cases c with
  | createIfAbsent name region params => exact absurd rfl other
  | findWorkspace name => rfl
  | assignRole scope principal role =>
    simp only [answer]
    split <;> rfl
  | openSession workspace => rfl
  | inside w c =>
    have kept := congrArg Platform.workspaces (kept_answerInner w p c)
    exact kept

theorem change_handler (c : Call) : Change c.effect (p.data x) ((handler c p).2.data x) := by
  rcases handler_snd c p with noted | answered
  · rw [noted]
    exact .none
  · rw [answered]
    exact change_answer (p.record c.key) x c

end Platform
end Provisioning
