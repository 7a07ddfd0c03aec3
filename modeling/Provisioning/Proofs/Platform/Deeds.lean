import Mathlib.Data.List.Induction
import Mathlib.Logic.Function.Basic
import Provisioning.Proofs.Platform.History

/-!
What lives on a platform, place by place, and what is done to it.  An act seeds the platform or calls it.
What an act does can be read off its answer: it leaves something at one place, or takes away what lives
there, or does nothing.  After any history there lives at every place what was left there last.
-/
namespace Provisioning

inductive Nook where
  | job (id : String)
  | pipeline (id : String)
  | repository (id : String)
  deriving DecidableEq, Repr

inductive Place where
  | workspace (name : String)
  | inside (workspace : String) (nook : Nook)
  deriving DecidableEq, Repr

inductive Live where
  | workspace (w : WorkspaceInfo)
  | job (id : String) (d : JobDefinition)
  | pipeline (id : String) (d : PipelineDefinition)
  | repository (r : RepoInfo)
  deriving Repr

def Live.id : Live → String
  | workspace w => w.id
  | job id _ | pipeline id _ => id
  | repository r => r.id

def WorkspaceData.live? (d : WorkspaceData) : Nook → Option Live
  | .job id => (d.jobs.find? id).map fun job => .job id job.definition
  | .pipeline id => (d.pipelines.find? id).map (.pipeline id)
  | .repository id => (d.repositories.find? id).map .repository

def Platform.live? (p : Platform) : Place → Option Live
  | .workspace name => (p.workspaces name).map .workspace
  | .inside w nook => (p.data w).live? nook

/-! Deeds -/

abbrev Deed (κ : Type) := κ × Option Live

def redone {κ : Type} [DecidableEq κ] (lives : κ → Option Live) : Option (Deed κ) → κ → Option Live
  | none => lives
  | some (x, l) => Function.update lives x l

def ObjectCall.deed? {δ : Type} (nook : String → Nook) (live : String → δ → Live) :
    (c : ObjectCall δ) → Reply c.Answer → Option (Deed Nook)
  | .create d, .answered r => some (nook r.id, some (live r.id d))
  | .update id d, .answered _ => some (nook id, some (live id d))
  | .delete id, .answered _ => some (nook id, none)
  | _, _ => none

def RepositoryCall.deed? : (c : RepositoryCall) → Reply c.Answer → Option (Deed Nook)
  | .create _ _ _, .answered (.created r) => some (.repository r.id, some (.repository r))
  | .delete id, .answered _ => some (.repository id, none)
  | _, _ => none

def InnerCall.deed? : (c : InnerCall) → Reply c.Answer → Option (Deed Nook)
  | .jobs c, reply => c.deed? .job .job reply
  | .pipelines c, reply => c.deed? .pipeline .pipeline reply
  | .repositories c, reply => c.deed? reply
  | _, _ => none

def Deed.inside (w : String) (d : Deed Nook) : Deed Place := (.inside w d.1, d.2)

def Call.deed? : (c : Call) → Reply c.Answer → Option (Deed Place)
  | .createIfAbsent name _ _, .answered w => some (.workspace name, some (.workspace w))
  | .inside w c, reply => (c.deed? reply).map (.inside w)
  | _, _ => none

def Seed.deed? : Seed → Platform → Option (Deed Place)
  | workspace name state, p => some (.workspace name, some (.workspace (p.seedWorkspace name state).1))
  | workspaceState name state, p =>
    (p.workspaces name).map fun w => (.workspace name, some (.workspace { w with state }))
  | job w d, p => some (.inside w (.job (p.seedJob w d).1), some (.job (p.seedJob w d).1 d))
  | pipeline w d, p =>
    some (.inside w (.pipeline (p.seedPipeline w d).1), some (.pipeline (p.seedPipeline w d).1 d))
  | _, _ => none

/-! The data of a workspace -/

namespace WorkspaceData

variable {d : WorkspaceData} {id : String}

theorem live?_jobs {jobs : Keyed StoredJob} {a : Option StoredJob}
    (found : ∀ other, jobs.find? other = if other = id then a else d.jobs.find? other) :
    { d with jobs }.live? = Function.update d.live? (.job id) (a.map fun job => .job id job.definition) := by
  refine Function.eq_update_iff.mpr ⟨by simp [live?, found], ?_⟩
  rintro (other | other | other) apart
  · have differ : other ≠ id := fun same => apart (same ▸ rfl)
    simp [live?, found, differ]
  · rfl
  · rfl

theorem live?_pipelines {pipelines : Keyed PipelineDefinition} {a : Option PipelineDefinition}
    (found : ∀ other, pipelines.find? other = if other = id then a else d.pipelines.find? other) :
    { d with pipelines }.live? = Function.update d.live? (.pipeline id) (a.map (.pipeline id)) := by
  refine Function.eq_update_iff.mpr ⟨by simp [live?, found], ?_⟩
  rintro (other | other | other) apart
  · rfl
  · have differ : other ≠ id := fun same => apart (same ▸ rfl)
    simp [live?, found, differ]
  · rfl

theorem live?_repositories {repositories : Keyed RepoInfo} {a : Option RepoInfo}
    (found : ∀ other, repositories.find? other = if other = id then a else d.repositories.find? other) :
    { d with repositories }.live? = Function.update d.live? (.repository id) (a.map .repository) := by
  refine Function.eq_update_iff.mpr ⟨by simp [live?, found], ?_⟩
  rintro (other | other | other) apart
  · rfl
  · rfl
  · have differ : other ≠ id := fun same => apart (same ▸ rfl)
    simp [live?, found, differ]

def placing : List Effect :=
  [.writeJob, .removeJob, .writePipeline, .removePipeline, .makeRepository, .removeRepository]

theorem live?_of_change {e : Effect} (apart : e ∉ placing) {d d' : WorkspaceData} (change : Change e d d') :
    d'.live? = d.live? := by
  cases change with
  | job | noJob | pipeline | noPipeline | repository | noRepository => simp [placing] at apart
  | _ => funext nook; cases nook <;> rfl

end WorkspaceData

/-! Answers and seeds -/

namespace Platform

variable (p : Platform) (w : String)

@[simp] theorem live?_record (key : String) : (p.record key).live? = p.live? := by
  funext x
  cases x <;> rfl

theorem live?_modifyData {f : WorkspaceData → WorkspaceData} {nook : Nook} {l : Option Live}
    (done : (f (p.data w)).live? = Function.update (p.data w).live? nook l) :
    (p.modifyData w f).live? = Function.update p.live? (.inside w nook) l := by
  refine Function.eq_update_iff.mpr ⟨?_, ?_⟩
  · simp [live?, data_modifyData_same, done]
  · rintro (name | ⟨v, other⟩) apart
    · rfl
    · by_cases here : v = w
      · subst here
        have differ : other ≠ nook := fun same => apart (same ▸ rfl)
        simp [live?, data_modifyData_same, done, differ]
      · simp [live?, data_modifyData_other p f here]

theorem live?_modifyData_of_same {f : WorkspaceData → WorkspaceData}
    (same : (f (p.data w)).live? = (p.data w).live?) : (p.modifyData w f).live? = p.live? := by
  funext x
  cases x with
  | workspace name => rfl
  | inside v nook =>
    by_cases here : v = w
    · subst here
      simp [live?, data_modifyData_same, same]
    · simp [live?, data_modifyData_other p f here]

theorem live?_workspaces (name : String) (info : WorkspaceInfo) :
    { p with workspaces := updated p.workspaces name (some info) }.live? =
      Function.update p.live? (.workspace name) (some (.workspace info)) := by
  refine Function.eq_update_iff.mpr ⟨by simp [live?, updated], ?_⟩
  rintro (other | ⟨v, nook⟩) apart
  · have differ : other ≠ name := fun same => apart (same ▸ rfl)
    simp [live?, updated, differ]
  · rfl

section Collections

variable (id : String)

theorem live?_putJob (job : StoredJob) :
    (p.modifyData w fun data => { data with jobs := Keyed.insert id job data.jobs }).live? =
      Function.update p.live? (.inside w (.job id)) (some (.job id job.definition)) :=
  live?_modifyData p w (WorkspaceData.live?_jobs fun other => Keyed.find?_insert id other job _)

theorem live?_dropJob : (p.modifyData w fun data => { data with jobs := Keyed.erase id data.jobs }).live? =
    Function.update p.live? (.inside w (.job id)) none :=
  live?_modifyData p w (WorkspaceData.live?_jobs fun other => Keyed.find?_erase id other _)

theorem live?_putPipeline (d : PipelineDefinition) :
    (p.modifyData w fun data => { data with pipelines := Keyed.insert id d data.pipelines }).live? =
      Function.update p.live? (.inside w (.pipeline id)) (some (.pipeline id d)) :=
  live?_modifyData p w (WorkspaceData.live?_pipelines fun other => Keyed.find?_insert id other d _)

theorem live?_dropPipeline :
    (p.modifyData w fun data => { data with pipelines := Keyed.erase id data.pipelines }).live? =
      Function.update p.live? (.inside w (.pipeline id)) none :=
  live?_modifyData p w (WorkspaceData.live?_pipelines fun other => Keyed.find?_erase id other _)

theorem live?_putRepository (repo : RepoInfo) :
    (p.modifyData w fun data => { data with repositories := Keyed.insert id repo data.repositories }).live? =
      Function.update p.live? (.inside w (.repository id)) (some (.repository repo)) :=
  live?_modifyData p w (WorkspaceData.live?_repositories fun other => Keyed.find?_insert id other repo _)

theorem live?_dropRepository :
    (p.modifyData w fun data => { data with repositories := Keyed.erase id data.repositories }).live? =
      Function.update p.live? (.inside w (.repository id)) none :=
  live?_modifyData p w (WorkspaceData.live?_repositories fun other => Keyed.find?_erase id other _)

end Collections

theorem live?_answerJobs (c : ObjectCall JobDefinition) : (answerJobs w c p).2.live? =
    redone p.live? ((c.deed? .job .job (.ofExcept (answerJobs w c p).1)).map (.inside w)) := by
  cases c with
  | listByName _ | get _ => rfl
  | create d => exact live?_putJob p.spendId w p.nextId (p.newJob d)
  | update id d =>
    simp only [answerJobs]
    cases (p.data w).jobs.find? id with
    | none => rfl
    | some job => exact live?_putJob p w id { job with definition := d }
  | delete id => exact live?_dropJob p w id

theorem live?_answerPipelines (c : ObjectCall PipelineDefinition) : (answerPipelines w c p).2.live? =
    redone p.live? ((c.deed? .pipeline .pipeline (.ofExcept (answerPipelines w c p).1)).map (.inside w)) := by
  cases c with
  | listByName _ | get _ => rfl
  | create d => exact live?_putPipeline p.spendId w p.nextId d
  | update id d =>
    simp only [answerPipelines]
    cases (p.data w).pipelines.find? id with
    | none => rfl
    | some old => exact live?_putPipeline p w id d
  | delete id => exact live?_dropPipeline p w id

theorem live?_answerRepositories (c : RepositoryCall) : (answerRepositories w c p).2.live? =
    redone p.live? ((c.deed? (.ofExcept (answerRepositories w c p).1)).map (.inside w)) := by
  cases c with
  | listByPath _ => rfl
  | create url path provider =>
    simp only [answerRepositories]
    split
    · rfl
    · exact live?_putRepository p.spendId w p.nextId _
  | delete id => exact live?_dropRepository p w id

theorem live?_answer_of_apart {c : Call} (apart : c.effect ∉ WorkspaceData.placing)
    (other : c.effect ≠ .makeWorkspace) : (answer c p).2.live? = p.live? := by
  funext x
  cases x with
  | workspace name => exact congrArg (fun f => (f name).map Live.workspace) (workspaces_answer p other)
  | inside v nook => exact congrFun (WorkspaceData.live?_of_change apart (change_answer p v c)) nook

theorem live?_answer (c : Call) :
    (answer c p).2.live? = redone p.live? (c.deed? (.ofExcept (answer c p).1)) := by
  cases c with
  | createIfAbsent name region params =>
    simp only [answer]
    cases found : p.workspaces name with
    | none => exact live?_workspaces p.spendId name _
    | some info =>
      -- what is there is left there
      have there : p.live? (.workspace name) = some (.workspace info) := by simp [live?, found]
      exact (Function.update_eq_self_iff.mpr there.symm).symm
  | findWorkspace _ | assignRole _ _ _ | openSession _ =>
    refine live?_answer_of_apart p ?_ ?_ <;> simp [Call.effect, WorkspaceData.placing]
  | inside w c =>
    cases c with
    | jobs c => exact live?_answerJobs p w c
    | pipelines c => exact live?_answerPipelines p w c
    | repositories c => exact live?_answerRepositories p w c
    | views c | catalog c | identity c =>
      refine live?_answer_of_apart p ?_ ?_ <;> cases c <;>
        simp [Call.effect, InnerCall.effect, ObjectCall.effect, WorkspaceData.placing]

theorem deed?_refused (c : Call) (f : Failure) : c.deed? (.refused f) = none := by
  cases c with
  | inside w c => cases c <;> first | rfl | (rename_i c; cases c <;> rfl)
  | _ => rfl

theorem live?_handler (c : Call) : (handler c p).2.live? = redone p.live? (c.deed? (handler c p).1) := by
  cases decision : p.rejects c.key with
  | true => rw [handler_rejected decision, deed?_refused, live?_record, redone]
  | false => rw [handler_accepted decision, live?_answer, live?_record]

theorem live?_plant (x : Seed) : (x.plant p).live? = redone p.live? (x.deed? p) := by
  cases x with
  | workspace name state => exact live?_workspaces p.spendId name _
  | workspaceState name state =>
    simp only [Seed.plant, setWorkspaceState, Seed.deed?]
    cases p.workspaces name with
    | none => rfl
    | some info => exact live?_workspaces p name { info with state }
  | job w d => exact live?_putJob p.spendId w p.nextId (p.newJob d)
  | pipeline w d => exact live?_putPipeline p.spendId w p.nextId d
  | table w _ | view w _ | grant w _ _ =>
    simp only [Seed.plant, seedTable, seedView, seedGrant, Seed.deed?, redone]
    refine live?_modifyData_of_same p w ?_
    funext nook
    cases nook <;> rfl
  | _ => rfl

end Platform

/-! Histories -/

inductive Act where
  | seeded (x : Seed)
  | called (c : Call)

namespace Act

/-- The platform after the act; a call that is refused is an act like any other. -/
def after : Act → Platform → Platform
  | seeded x, p => x.plant p
  | called c, p => (Platform.handler c p).2

def deed? : Act → Platform → Option (Deed Place)
  | seeded x, p => x.deed? p
  | called c, p => c.deed? (Platform.handler c p).1

theorem live?_after (a : Act) (p : Platform) : (a.after p).live? = redone p.live? (a.deed? p) := by
  cases a with
  | seeded x => exact p.live?_plant x
  | called c => exact p.live?_handler c

end Act

/-- The platform that these acts have led to, the first of them done on an empty one. -/
def Platform.ofActs (acts : List Act) : Platform := acts.foldl (fun p a => a.after p) {}

/-- What is told of acts one after another, each told in the state in which it found the platform. -/
def Act.told {β : Type} (tell : Act → Platform → List β) : Platform → List Act → List β
  | _, [] => []
  | p, a :: rest => tell a p ++ told tell (a.after p) rest

namespace Platform

variable (acts : List Act) (a : Act)

theorem ofActs_append : ofActs (acts ++ [a]) = a.after (ofActs acts) := by
  rw [ofActs, List.foldl_append]
  rfl

theorem told_append {β : Type} (tell : Act → Platform → List β) :
    Act.told tell {} (acts ++ [a]) = Act.told tell {} acts ++ tell a (ofActs acts) := by
  have further : ∀ p, Act.told tell p (acts ++ [a]) =
      Act.told tell p acts ++ tell a (acts.foldl (fun p a => a.after p) p) := by
    induction acts with
    | nil => intro p; simp [Act.told]
    | cons first rest ih => intro p; simp [Act.told, ih]
  exact further {}

def deeds : List (Deed Place) := Act.told (fun a p => (a.deed? p).toList) {} acts

theorem invariant_ofActs {P : Platform → Prop} (empty : P {}) (seed : ∀ (x : Seed) p, P p → P (x.plant p))
    (call : ∀ c p, P p → P (handler c p).2) : P (ofActs acts) := by
  induction acts using List.reverseRecOn with
  | nil => exact empty
  | append_singleton acts a ih =>
    rw [ofActs_append]
    cases a with
    | seeded x => exact seed x _ ih
    | called c => exact call c _ ih

end Platform

def Deed.last? (x : Place) (ds : List (Deed Place)) : Option Live :=
  (ds.filter (·.1 == x)).getLast?.bind (·.2)

theorem Deed.last?_append (x : Place) (ds : List (Deed Place)) (d : Deed Place) :
    last? x (ds ++ [d]) = if x = d.1 then d.2 else last? x ds := by
  rw [last?, last?, List.filter_append]
  by_cases here : x = d.1
  · simp [here]
  · simp [here, Ne.symm here]

/-- What lives at a place is what was left there last. -/
theorem Platform.live?_ofActs (acts : List Act) (x : Place) :
    (ofActs acts).live? x = Deed.last? x (deeds acts) := by
  induction acts using List.reverseRecOn with
  | nil =>
    rcases x with name | ⟨w, nook⟩
    · rfl
    · cases nook <;> rfl
  | append_singleton acts a ih =>
    rw [ofActs_append, Act.live?_after, deeds, told_append]
    cases a.deed? (ofActs acts) with
    | none =>
      rw [Option.toList_none, List.append_nil]
      exact ih
    | some d =>
      obtain ⟨y, l⟩ := d
      rw [Option.toList_some, Deed.last?_append, redone]
      by_cases here : x = y
      · rw [here, Function.update_self, if_pos rfl]
      · rw [Function.update_of_ne here, if_neg here]
        exact ih

end Provisioning
