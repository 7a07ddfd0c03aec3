import Provisioning.Proofs.Keyed.MapValues
import Provisioning.Proofs.Platform.Change
import Provisioning.Proofs.Program.Heedless

/-!
Platforms that agree on one workspace.  They have the same in it, the same directory, the same to be
rejected and the same id to give next; in everything else, and in the times at which jobs were made,
they may differ.  To a call that is about no other workspace they give the same answer, the dates of
jobs aside, and they agree again after it.
-/
namespace Provisioning

def undatedFields (fields : Json.Members) : Json.Members := Keyed.erase "created_time" fields

def StoredJob.undated (job : StoredJob) : StoredJob :=
  { job with serverFields := undatedFields job.serverFields }

def RemoteResource.undated (r : RemoteResource JobDefinition) : RemoteResource JobDefinition :=
  { r with serverFields := undatedFields r.serverFields }

def WorkspaceData.undated (d : WorkspaceData) : WorkspaceData :=
  { d with jobs := Keyed.mapValues StoredJob.undated d.jobs }

def Call.undated : (c : Call) → c.Answer → c.Answer
  | .inside _ (.jobs (.get _)), found => found.map RemoteResource.undated
  | _, a => a

def Call.About (w : String) : Call → Prop
  | .createIfAbsent name _ _ | .findWorkspace name => name = w
  | .inside x _ => x = w
  | .assignRole _ _ _ | .openSession _ => True

theorem Reply.map_ofExcept {α β : Type} (f : α → β) (r : Except Failure α) :
    (ofExcept r).map f = ofExcept (r.map f) := by
  cases r <;> rfl

namespace Platform

structure Alike (w : String) (p q : Platform) : Prop where
  workspace : p.workspaces w = q.workspaces w
  data : (p.data w).undated = (q.data w).undated
  users : p.users = q.users
  groups : p.groups = q.groups
  newWorkspaceState : p.newWorkspaceState = q.newWorkspaceState
  failures : p.failures = q.failures
  lastId : p.lastId = q.lastId

variable {w : String} {p q : Platform}

namespace Alike

theorem rejects (alike : p.Alike w q) (key : String) : p.rejects key = q.rejects key := by
  rw [Platform.rejects, Platform.rejects, alike.failures]

theorem knows (alike : p.Alike w q) (principal : PrincipalRef) : p.knows principal = q.knows principal := by
  unfold Platform.knows
  rw [alike.users, alike.groups]

theorem nextId (alike : p.Alike w q) : p.nextId = q.nextId := by
  rw [Platform.nextId, Platform.nextId, alike.lastId]

theorem record (alike : p.Alike w q) (key : String) : (p.record key).Alike w (q.record key) :=
  { alike with }

theorem spendId (alike : p.Alike w q) : p.spendId.Alike w q.spendId :=
  { alike with lastId := congrArg (· + 1) alike.lastId }

theorem modifyData (alike : p.Alike w q) {f g : WorkspaceData → WorkspaceData}
    (same : (f (p.data w)).undated = (g (q.data w)).undated) :
    (p.modifyData w f).Alike w (q.modifyData w g) :=
  { alike with
    data := by
      rw [data_modifyData_same, data_modifyData_same]
      exact same }

theorem change (alike : p.Alike w q) {f : WorkspaceData → WorkspaceData}
    (dateless : ∀ d, (f d).undated = f d.undated) : (p.modifyData w f).Alike w (q.modifyData w f) :=
  alike.modifyData <| by rw [dateless, dateless, alike.data]

end Alike

/-- What two platforms answer is the same as far as it is seen, and leaves them alike. -/
structure AnswersLike {α : Type} (w : String) (seen : α → α) (x y : Except Failure α × Platform) :
    Prop where
  answer : x.1.map seen = y.1.map seen
  alike : x.2.Alike w y.2

namespace AnswersLike

variable {α : Type} {seen : α → α} (r : Except Failure α)

theorem read (alike : p.Alike w q) : AnswersLike w seen (r, p) (r, q) := ⟨rfl, alike⟩

theorem changed (alike : p.Alike w q) {f : WorkspaceData → WorkspaceData}
    (dateless : ∀ d, (f d).undated = f d.undated) :
    AnswersLike w seen (r, p.modifyData w f) (r, q.modifyData w f) := ⟨rfl, alike.change dateless⟩

end AnswersLike

open AnswersLike

theorem references_undated (name : String) (jobs : Keyed StoredJob) :
    ((jobs.mapValues StoredJob.undated).filter fun e => e.2.definition.name == name).map jobReference =
      (jobs.filter fun e => e.2.definition.name == name).map jobReference := by
  rw [Keyed.mapValues, List.filter_map, List.map_map]
  rfl

theorem undated_insert (d : WorkspaceData) (id : String) (job : StoredJob) :
    { d with jobs := Keyed.insert id job d.jobs }.undated =
      { d.undated with jobs := Keyed.insert id job.undated d.undated.jobs } := by
  simp only [WorkspaceData.undated, Keyed.mapValues_insert]

theorem undated_erase (d : WorkspaceData) (id : String) :
    { d with jobs := Keyed.erase id d.jobs }.undated =
      { d.undated with jobs := Keyed.erase id d.undated.jobs } := by
  simp only [WorkspaceData.undated, Keyed.mapValues_erase]

theorem Alike.putJob (alike : p.Alike w q) (id : String) {job other : StoredJob}
    (same : job.undated = other.undated) :
    (p.modifyData w fun d => { d with jobs := Keyed.insert id job d.jobs }).Alike w
      (q.modifyData w fun d => { d with jobs := Keyed.insert id other d.jobs }) :=
  alike.modifyData <| by rw [undated_insert, undated_insert, same, alike.data]

/-- The time is all that the two could note differently about a new job. -/
theorem Alike.newJob (alike : p.Alike w q) (d : JobDefinition) :
    (p.newJob d).undated = (q.newJob d).undated := by
  unfold Platform.newJob StoredJob.undated jobFields
  rw [alike.nextId]
  rfl

theorem answersLike_jobs (alike : p.Alike w q) (c : ObjectCall JobDefinition) :
    AnswersLike w (Call.undated (.inside w (.jobs c))) (answerJobs w c p) (answerJobs w c q) := by
  have jobs : (p.data w).jobs.mapValues StoredJob.undated = (q.data w).jobs.mapValues StoredJob.undated :=
    (congrArg WorkspaceData.jobs alike.data :)
  have found : ∀ id, ((p.data w).jobs.find? id).map StoredJob.undated =
      ((q.data w).jobs.find? id).map StoredJob.undated := fun id => by
    rw [← Keyed.find?_mapValues, jobs, Keyed.find?_mapValues]
  -- both find a job under an id or neither does, and what they find differs in its date alone
  cases c with
  | listByName name =>
    simp only [answerJobs]
    rw [← references_undated, jobs, references_undated]
    exact read _ alike
  | get id =>
    refine ⟨?_, alike⟩
    have same := found id
    simp only [answerJobs]
    generalize (p.data w).jobs.find? id = x at same ⊢
    generalize (q.data w).jobs.find? id = y at same ⊢
    rcases x with _ | job <;> rcases y with _ | other
    case none.none => rfl
    case some.some =>
      exact congrArg (fun j : StoredJob => Except.ok
        (some (⟨⟨id, j.definition.name⟩, j.definition, j.serverFields⟩ : RemoteResource JobDefinition)))
        (Option.some.inj same)
    all_goals cases same
  | create d =>
    simp only [answerJobs, alike.nextId]
    exact ⟨rfl, alike.spendId.putJob _ (alike.newJob d)⟩
  | update id d =>
    have same := found id
    simp only [answerJobs]
    generalize (p.data w).jobs.find? id = x at same ⊢
    generalize (q.data w).jobs.find? id = y at same ⊢
    rcases x with _ | job <;> rcases y with _ | other
    case none.none => exact read _ alike
    case some.some =>
      exact ⟨rfl, alike.putJob id
        (congrArg (fun j : StoredJob => { j with definition := d }) (Option.some.inj same))⟩
    all_goals cases same
  | delete id =>
    simp only [answerJobs]
    rw [← Keyed.contains_mapValues StoredJob.undated, jobs, Keyed.contains_mapValues]
    exact changed _ alike fun d => undated_erase d id

theorem answersLike_pipelines (alike : p.Alike w q) (c : ObjectCall PipelineDefinition) :
    AnswersLike w (Call.undated (.inside w (.pipelines c))) (answerPipelines w c p)
      (answerPipelines w c q) := by
  have pipelines : (p.data w).pipelines = (q.data w).pipelines :=
    (congrArg WorkspaceData.pipelines alike.data :)
  cases c with
  | listByName _ | get _ =>
    simp only [answerPipelines, pipelines]
    exact read _ alike
  | create d =>
    simp only [answerPipelines, alike.nextId]
    exact changed _ alike.spendId fun _ => rfl
  | update id d =>
    simp only [answerPipelines, pipelines]
    cases (q.data w).pipelines.find? id with
    | some _ => exact changed _ alike fun _ => rfl
    | none => exact read _ alike
  | delete id =>
    simp only [answerPipelines, pipelines]
    exact changed _ alike fun _ => rfl

theorem answersLike_views (alike : p.Alike w q) (c : ObjectCall ViewDefinition) :
    AnswersLike w (Call.undated (.inside w (.views c))) (answerViews w c p) (answerViews w c q) := by
  have views : (p.data w).views = (q.data w).views := (congrArg WorkspaceData.views alike.data :)
  have tables : (p.data w).tables = (q.data w).tables := (congrArg WorkspaceData.tables alike.data :)
  cases c with
  | listByName _ | get _ =>
    simp only [answerViews, views]
    exact read _ alike
  | create d =>
    simp only [answerViews, tables]
    split
    · exact changed _ alike fun _ => rfl
    · exact read _ alike
  | update _ _ | delete _ =>
    simp only [answerViews, views]
    exact changed _ alike fun _ => rfl

theorem answersLike_catalog (alike : p.Alike w q) (c : CatalogCall) :
    AnswersLike w (Call.undated (.inside w (.catalog c))) (answerCatalog w c p) (answerCatalog w c q) := by
  have catalogs : (p.data w).catalogs = (q.data w).catalogs :=
    (congrArg WorkspaceData.catalogs alike.data :)
  have tables : (p.data w).tables = (q.data w).tables := (congrArg WorkspaceData.tables alike.data :)
  have grants : (p.data w).grants = (q.data w).grants := (congrArg WorkspaceData.grants alike.data :)
  cases c with
  | ensureCatalog _ | grant _ _ _ | revoke _ _ _ => exact changed _ alike fun _ => rfl
  | ensureSchema catalog schema =>
    simp only [answerCatalog, catalogs]
    split
    · exact changed _ alike fun _ => rfl
    · exact read _ alike
  | tableExists _ | listGrants _ =>
    simp only [answerCatalog, tables, grants]
    exact read _ alike

theorem answersLike_repositories (alike : p.Alike w q) (c : RepositoryCall) :
    AnswersLike w (Call.undated (.inside w (.repositories c))) (answerRepositories w c p)
      (answerRepositories w c q) := by
  have repositories : (p.data w).repositories = (q.data w).repositories :=
    (congrArg WorkspaceData.repositories alike.data :)
  cases c with
  | create url path provider =>
    simp only [answerRepositories, repositories, alike.nextId]
    split
    · exact read _ alike
    · exact changed _ alike.spendId fun _ => rfl
  | listByPath path =>
    simp only [answerRepositories, repositories]
    exact read _ alike
  | delete id =>
    simp only [answerRepositories, repositories]
    exact changed _ alike fun _ => rfl

theorem answersLike_identity (alike : p.Alike w q) (c : IdentityCall) :
    AnswersLike w (Call.undated (.inside w (.identity c))) (answerIdentity w c p) (answerIdentity w c q) := by
  cases c with
  | resolve principal =>
    simp only [answerIdentity, alike.knows]
    exact read _ alike
  | assignPermission object principal level => exact changed _ alike fun _ => rfl

theorem answersLike_inner (alike : p.Alike w q) (c : InnerCall) :
    AnswersLike w (Call.undated (.inside w c)) (answerInner w c p) (answerInner w c q) := by
  cases c with
  | jobs c => exact answersLike_jobs alike c
  | pipelines c => exact answersLike_pipelines alike c
  | views c => exact answersLike_views alike c
  | catalog c => exact answersLike_catalog alike c
  | repositories c => exact answersLike_repositories alike c
  | identity c => exact answersLike_identity alike c

theorem Alike.putWorkspace (alike : p.Alike w q) (v : WorkspaceInfo) (own : v.name = w) :
    (p.putWorkspace v).Alike w (q.putWorkspace v) :=
  { alike with
    workspace := by
      subst own
      exact (updated_same _ _ _).trans (updated_same _ _ _).symm }

theorem answersLike_answer (alike : p.Alike w q) {c : Call} (about : c.About w) :
    AnswersLike w c.undated (answer c p) (answer c q) := by
  cases c with
  | createIfAbsent name region params =>
    cases about
    have made : p.newWorkspace w region p.newWorkspaceState = q.newWorkspace w region q.newWorkspaceState := by
      rw [Platform.newWorkspace, Platform.newWorkspace, alike.nextId, alike.newWorkspaceState]
    simp only [answer, alike.workspace, made]
    cases q.workspaces w with
    | some v => exact read _ alike
    | none => exact ⟨rfl, alike.spendId.putWorkspace _ rfl⟩
  | findWorkspace name =>
    cases about
    simp only [answer, alike.workspace]
    exact read _ alike
  | assignRole scope principal role =>
    simp only [answer, alike.knows]
    split
    · exact ⟨rfl, { alike with }⟩
    · exact read _ alike
  | openSession workspace => exact read _ alike
  | inside x c =>
    cases about
    exact answersLike_inner alike c

def rolesGiven (p : Platform) : Call → List (String × String × String)
  | .assignRole scope principal role =>
    if p.knows principal then [(scope, principal.externalId, role)] else []
  | _ => []

theorem roles_answer (c : Call) (p : Platform) : (answer c p).2.roles = p.roles ++ p.rolesGiven c := by
  cases c with
  | createIfAbsent name region params =>
    simp only [answer, rolesGiven, List.append_nil]
    split <;> rfl
  | assignRole scope principal role =>
    simp only [answer, rolesGiven]
    split
    · rfl
    · exact (List.append_nil _).symm
  | findWorkspace _ | openSession _ => exact (List.append_nil _).symm
  | inside w c =>
    have kept : (answerInner w c p).2.roles = p.roles := (congrArg Platform.roles (kept_answerInner w p c) :)
    exact kept.trans (List.append_nil _).symm

/-- From two platforms two others have come about that are alike, and by the same additions to the roles
and to the log. -/
structure Abreast (w : String) (p q after other : Platform) : Prop where
  alike : after.Alike w other
  roles : ∃ given, after.roles = p.roles ++ given ∧ other.roles = q.roles ++ given
  calls : ∃ keys, after.calls = p.calls ++ keys ∧ other.calls = q.calls ++ keys

theorem abreast_of_alike (alike : p.Alike w q) : Abreast w p q p q where
  alike := alike
  roles := ⟨[], (List.append_nil _).symm, (List.append_nil _).symm⟩
  calls := ⟨[], (List.append_nil _).symm, (List.append_nil _).symm⟩

/-- What comes next is put behind what has been added before. -/
theorem Abreast.add {α : Type} {a b a₁ b₁ a₂ b₂ : List α}
    (first : ∃ more, a₁ = a ++ more ∧ b₁ = b ++ more) {more : List α} (next : a₂ = a₁ ++ more)
    (also : b₂ = b₁ ++ more) : ∃ more, a₂ = a ++ more ∧ b₂ = b ++ more := by
  obtain ⟨before, rfl, rfl⟩ := first
  exact ⟨before ++ more, by rw [next, List.append_assoc], by rw [also, List.append_assoc]⟩

theorem abreast_record {after other : Platform} (abreast : Abreast w p q after other) (key : String) :
    Abreast w p q (after.record key) (other.record key) where
  alike := abreast.alike.record key
  roles := abreast.roles
  calls := Abreast.add abreast.calls rfl rfl

theorem abreast_answer {after other : Platform} (abreast : Abreast w p q after other) {c : Call}
    (about : c.About w) : Abreast w p q (answer c after).2 (answer c other).2 where
  alike := (answersLike_answer abreast.alike about).alike
  roles := by
    have same : after.rolesGiven c = other.rolesGiven c := by
      cases c <;> simp only [rolesGiven, abreast.alike.knows]
    exact Abreast.add abreast.roles (roles_answer c after) (same ▸ roles_answer c other)
  calls := by
    rw [kept_answer after c, kept_answer other c]
    exact abreast.calls

/-- A call about no other workspace is answered alike by platforms that agree on this one. -/
theorem answersAlike_abreast (w : String) (p q : Platform) :
    Program.AnswersAlike handler Call.undated (Call.About w) (Abreast w p q) := by
  intro c after other about abreast
  have noted := abreast_record abreast c.key
  have rejects := abreast.alike.rejects c.key
  cases decision : other.rejects c.key with
  | true =>
    rw [handler_rejected (rejects.trans decision), handler_rejected decision]
    exact ⟨rfl, noted⟩
  | false =>
    rw [handler_accepted (rejects.trans decision), handler_accepted decision]
    refine ⟨?_, abreast_answer noted about⟩
    rw [Reply.map_ofExcept, Reply.map_ofExcept, (answersLike_answer noted.alike about).answer]

end Platform
end Provisioning
