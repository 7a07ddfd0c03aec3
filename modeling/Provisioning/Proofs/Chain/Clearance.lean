import Provisioning.Proofs.Chain.Removal

/-!
The removal of a main object and of what goes with it, as a function of what it sees of the platform:
whether the workspace can be entered, which objects carry the name, and which repositories at the path
cannot be deleted.  All else that a removal meets has no part in what is told, and of the repositories
that can be deleted nothing but the calls are left.
-/
namespace Provisioning

open Platform Program

/-! Collections -/

/-- Where in a workspace a main object stands; workflows are kept among the jobs. -/
inductive Collection where
  | jobs
  | pipelines
  | views
  deriving DecidableEq, Repr

namespace Collection

@[reducible] def Definition : Collection → Type
  | jobs => JobDefinition
  | pipelines => PipelineDefinition
  | views => ViewDefinition

@[reducible] def Entry : Collection → Type
  | jobs => StoredJob
  | pipelines => PipelineDefinition
  | views => ViewDefinition

def shelf : (c : Collection) → Shelf c.Definition c.Entry
  | jobs => Shelf.jobs
  | pipelines => Shelf.pipelines
  | views => Shelf.views

def clear : Collection → (String → Bool) → WorkspaceData → WorkspaceData
  | jobs => WorkspaceData.clearJobs
  | pipelines => WorkspaceData.clearPipelines
  | views => WorkspaceData.clearViews

theorem clears : (c : Collection) → c.shelf.Clears c.clear
  | jobs => Shelf.clears_jobs
  | pipelines => Shelf.clears_pipelines
  | views => Shelf.clears_views

variable {c other : Collection} (gone also : String → Bool) (d : WorkspaceData)

theorem clear_clear (c other : Collection) :
    c.clear gone (other.clear also d) = other.clear also (c.clear gone d) := by
  by_cases same : c = other
  · subst same
    rw [c.clears.again, c.clears.again]
    exact congrArg (c.clear · d) (funext fun id => Bool.or_comm _ _)
  · cases c <;> cases other <;> first | rfl | exact absurd rfl same

theorem repositories_clear (c : Collection) : (c.clear gone d).repositories = d.repositories := by
  cases c <;> rfl

theorem loseRepositories_clear (c : Collection) (path : String) (stuck : RepoInfo → Bool) :
    (c.clear gone d).loseRepositories path stuck = c.clear gone (d.loseRepositories path stuck) := by
  cases c <;> rfl

theorem named_loseRepositories (c : Collection) (name path : String) (stuck : RepoInfo → Bool) :
    c.shelf.named name (d.loseRepositories path stuck) = c.shelf.named name d := by
  cases c <;> rfl

theorem called_unique {name named : String} {e : String × c.Entry} (first : c.shelf.called name e = true)
    (second : c.shelf.called named e = true) : name = named := by
  cases c <;> exact (eq_of_beq first).symm.trans (eq_of_beq second)

variable {gone d}

theorem named_clear_other (apart : c ≠ other) (name : String) :
    c.shelf.named name (other.clear gone d) = c.shelf.named name d := by
  cases c <;> cases other <;> first | rfl | exact absurd rfl apart

/-- What goes of a collection takes nothing of another name along. -/
theorem named_clear {name : String} (spares : ∀ e ∈ c.shelf.named name d, gone e.1 = false) :
    c.shelf.named name (c.clear gone d) = c.shelf.named name d := by
  unfold Shelf.named at spares ⊢
  rw [c.clears.entries, List.filter_filter]
  refine List.filter_congr fun e member => ?_
  cases called : c.shelf.called name e with
  | false => rfl
  | true => simp [spares e (List.mem_filter.mpr ⟨member, called⟩)]

end Collection

inductive Gate where
  | missing
  | barred (keys : List String) (f : Failure)
  | opened (w : WorkspaceInfo)

namespace Platform

variable {p q : Platform}

def gate (p : Platform) (name : String) : Gate :=
  if p.rejects (Call.key (.findWorkspace name)) then
    .barred [Call.key (.findWorkspace name)] (rejection (Call.key (.findWorkspace name)))
  else match p.workspaces name with
    | none => .missing
    | some w =>
      if w.state.isSucceeded then
        if p.rejects (Call.key (.openSession name)) then
          .barred (entrance name) (rejection (Call.key (.openSession name)))
        else .opened w
      else .barred [Call.key (.findWorkspace name)] (notReady w)

theorem gate_of_lacks {name : String} (lacks : p.Lacks name) : p.gate name = .missing := by
  simp [gate, lacks.accepted, lacks.missing]

theorem gate_of_bars {name : String} {keys : List String} {f : Failure} (bars : p.Bars name keys f) :
    p.gate name = .barred keys f := by
  cases bars with
  | lookup rejected => simp [gate, rejected]
  | state w accepted there unready => simp [gate, accepted, there, unready]
  | session w found rejected => simp [gate, found.accepted, found.there, found.ready, rejected]

theorem gate_of_admits {name : String} {w : WorkspaceInfo} (admits : p.Admits name w) :
    p.gate name = .opened w := by
  simp [gate, admits.accepted, admits.there, admits.ready, admits.opened]

theorem rejects_congr (failures : q.failures = p.failures) : q.rejects = p.rejects := by
  funext key
  unfold rejects
  rw [failures]

theorem gate_congr (failures : q.failures = p.failures) (workspaces : q.workspaces = p.workspaces)
    (name : String) : q.gate name = p.gate name := by
  unfold gate
  rw [rejects_congr failures, workspaces]

end Platform

/-- A removal: the objects of a name and then, where a path is given, the repositories there. -/
structure Clearance where
  workspace : String
  collection : Collection
  name : String
  kind : ResourceKind
  path? : Option String
  skipped : Completion
  removed : String → Nat → Completion

namespace Clearance

variable (c : Clearance)

def finish (session : Session) (workspace : String) (removed : Nat) : Remote Completion :=
  (match c.path? with
    | some path => session.removeRepositories path
    | none => pure ()) >>= fun _ => pure (c.removed workspace removed)

def inside (v : WorkspaceInfo) (session : Session) : Remote Completion :=
  ((session.scope c.kind).removeAll c.name).through
      (c.collection.shelf.embedding session.workspace.name) >>= c.finish session v.name

def program : Remote Completion := whenThere c.workspace (pure c.skipped) c.inside

structure Sight (c : Clearance) where
  rejects : String → Bool
  found : Keyed c.collection.Entry
  stuck : Keyed RepoInfo

def repositories (p : Platform) : Keyed RepoInfo :=
  match c.path? with
  | some path => repositoriesAt path (p.data c.workspace)
  | none => []

def sight (p : Platform) : c.Sight where
  rejects := p.rejects
  found := c.collection.shelf.named c.name (p.data c.workspace)
  stuck := (c.repositories p).filter fun e => p.rejects e.2.deletion

structure Account where
  reply : Reply Completion
  keys : List String
  /-- Where repositories are deleted. -/
  path? : Option String
  change : WorkspaceData → WorkspaceData

variable {c}

namespace Sight

variable (x : c.Sight)

def listing : String := c.collection.shelf.key (.listByName c.name)

def tried : List String :=
  entrance c.workspace ++ listing (c := c) :: x.found.map c.collection.shelf.deletion

def gone (id : String) : Bool :=
  x.found.any fun e => e.1 == id && !x.rejects (c.collection.shelf.deletion e)

def complaints (v : WorkspaceInfo) : List Problem :=
  (x.found.filter fun e => x.rejects (c.collection.shelf.deletion e)).map
    (c.collection.shelf.stuck ((Session.mk v).scope c.kind))

def accountOfRepositories (v : WorkspaceInfo) (path : String) : Account :=
  let listing := RepositoryCall.key (.listByPath path)
  if x.rejects listing then
    ⟨.refused (rejection listing), x.tried ++ [listing], none, c.collection.clear x.gone⟩
  else
    ⟨match Failure.ofProblems? (x.stuck.map fun e => (Session.mk v).stuckRepository e.2) with
      | some f => .refused f
      | none => .answered (c.removed c.workspace x.found.length),
    x.tried ++ [listing], some path,
    fun d => (c.collection.clear x.gone d).loseRepositories path fun repo => x.rejects repo.deletion⟩

def accountInside (v : WorkspaceInfo) : Account :=
  if x.rejects (listing (c := c)) then
    ⟨.refused (rejection (listing (c := c))), entrance c.workspace ++ [listing (c := c)], none, id⟩
  else match Failure.ofProblems? (x.complaints v), c.path? with
    | some f, _ => ⟨.refused f, x.tried, none, c.collection.clear x.gone⟩
    | none, none =>
      ⟨.answered (c.removed c.workspace x.found.length), x.tried, none, c.collection.clear x.gone⟩
    | none, some path => x.accountOfRepositories v path

def accountAt : Gate → Account
  | .missing => ⟨.answered c.skipped, [Call.key (.findWorkspace c.workspace)], none, id⟩
  | .barred keys f => ⟨.refused f, keys, none, id⟩
  | .opened v => x.accountInside v

end Sight

def Account.deletions (a : Account) (d : WorkspaceData) : List String :=
  match a.path? with
  | some path => (repositoriesAt path d).map fun e => e.2.deletion
  | none => []

def Account.after (a : Account) (w : String) (p : Platform) : Platform :=
  (p.logged (a.keys ++ a.deletions (p.data w))).modifyData w a.change

theorem Account.after_of_nothing (reply : Reply Completion) (keys : List String) (w : String)
    (p : Platform) : (Account.mk reply keys none id).after w p = p.logged keys := by
  simp only [after, deletions, List.append_nil]
  exact modifyData_id _ _

variable (c)

def account (p : Platform) : Account := (c.sight p).accountAt (p.gate c.workspace)

def after (p : Platform) : Platform := (c.account p).after c.workspace p

section Running

variable {c} {p : Platform} {v : WorkspaceInfo}

theorem account_of_gate {g : Gate} (gate : p.gate c.workspace = g) :
    c.account p = (c.sight p).accountAt g := congrArg (c.sight p).accountAt gate

def swept (c : Clearance) (p : Platform) : Platform :=
  (p.logged (c.sight p).tried).modifyData c.workspace (c.collection.clear (c.sight p).gone)

theorem run_removeAll (ordered : p.Ordered) (own : v.name = c.workspace) :
    ((((Session.mk v).scope c.kind).removeAll c.name).through
      (c.collection.shelf.embedding (Session.mk v).workspace.name)).run handler
        (p.logged (entrance c.workspace)) =
      if p.rejects (Sight.listing (c := c)) then
        (.refused (rejection (Sight.listing (c := c))),
          p.logged (entrance c.workspace ++ [Sight.listing (c := c)]))
      else
        (match Failure.ofProblems? ((c.sight p).complaints v) with
          | some f => .refused f
          | none => .answered (c.sight p).found.length, c.swept p) := by
  have entered : (p.logged (entrance c.workspace)).Ordered := ordered
  have cleared := c.collection.shelf.run_removeAll c.collection.clears c.workspace
    ((Session.mk v).scope c.kind) c.name entered
  rw [← c.collection.shelf.run_through] at cleared
  simp only [rejects_logged, data_logged, logged_logged] at cleared
  have place : (Session.mk v).workspace.name = c.workspace := own
  rw [place]
  exact cleared

theorem repositoriesAt_swept (path : String) :
    repositoriesAt path ((c.swept p).data c.workspace) = repositoriesAt path (p.data c.workspace) := by
  unfold swept repositoriesAt
  rw [data_modifyData_same, c.collection.repositories_clear, data_logged]

theorem afterRepositories_swept (path : String) :
    (c.swept p).afterRepositories path c.workspace =
      (p.logged ((c.sight p).tried ++ RepositoryCall.key (.listByPath path) ::
        (repositoriesAt path (p.data c.workspace)).map fun e => e.2.deletion)).modifyData c.workspace
          fun d => (c.collection.clear (c.sight p).gone d).loseRepositories path fun repo =>
            p.rejects repo.deletion := by
  unfold afterRepositories
  rw [repositoriesAt_swept, swept, logged_modifyData, modifyData_modifyData, logged_logged]
  rfl

theorem run_finish_of_path {path : String} (data : c.path? = some path) (own : v.name = c.workspace)
    (ordered : (c.swept p).Ordered) (numbered : (c.swept p).Numbered) :
    (c.finish ⟨v⟩ v.name (c.sight p).found.length).run handler (c.swept p) =
      (((c.sight p).accountOfRepositories v path).reply,
        ((c.sight p).accountOfRepositories v path).after c.workspace p) := by
  have run := (Session.mk v).run_removeRepositories path ordered numbered
  have place : (Session.mk v).workspace.name = c.workspace := own
  rw [place, repositoriesAt_swept] at run
  have stuck : (c.sight p).stuck =
      (repositoriesAt path (p.data c.workspace)).filter fun e => p.rejects e.2.deletion := by
    simp only [sight, repositories, data]
  have rejects : (c.sight p).rejects = p.rejects := rfl
  unfold finish Sight.accountOfRepositories
  rw [data, run_bind, run, own]
  simp only [rejects]
  by_cases rejected : p.rejects (RepositoryCall.key (.listByPath path)) = true
  · rw [if_pos rejected, if_pos (show (c.swept p).rejects _ = true from rejected)]
    simp only [resume, Account.after, Account.deletions, List.append_nil, swept, logged_modifyData,
      logged_logged]
  · rw [if_neg rejected, if_neg (show ¬ (c.swept p).rejects _ = true from rejected), stuck]
    have same : (c.swept p).rejects = p.rejects := rfl
    rw [same]
    simp only [Account.after, Account.deletions, afterRepositories_swept, List.append_assoc,
      List.singleton_append]
    cases Failure.ofProblems? (((repositoriesAt path (p.data c.workspace)).filter
      fun e => p.rejects e.2.deletion).map fun e => (Session.mk v).stuckRepository e.2) <;> rfl

theorem run_inside (own : v.name = c.workspace) (ordered : p.Ordered) (numbered : p.Numbered) :
    (c.inside v ⟨v⟩).run handler (p.logged (entrance c.workspace)) =
      (((c.sight p).accountInside v).reply, ((c.sight p).accountInside v).after c.workspace p) := by
  have cleared := c.run_removeAll ordered own
  have stillOrdered : (p.logged (entrance c.workspace)).Ordered := ordered
  have stillNumbered : (p.logged (entrance c.workspace)).Numbered := numbered
  have rejects : (c.sight p).rejects = p.rejects := rfl
  unfold inside Sight.accountInside
  rw [rejects]
  by_cases rejected : p.rejects (Sight.listing (c := c)) = true
  · rw [if_pos rejected] at cleared
    rw [run_bind, cleared, if_pos rejected, Account.after_of_nothing]
    rfl
  · rw [if_neg rejected] at cleared
    rw [if_neg rejected]
    cases told : Failure.ofProblems? ((c.sight p).complaints v) with
    | some f =>
      rw [told] at cleared
      rw [run_bind, cleared]
      simp only [resume, Account.after, Account.deletions, List.append_nil]
      rfl
    | none =>
      rw [told] at cleared
      rw [run_bind_of_answered cleared]
      cases data : c.path? with
      | none =>
        simp only [finish, data, Account.after, Account.deletions, List.append_nil]
        rw [own]
        rfl
      | some path =>
        exact run_finish_of_path data own (ordered_of_run cleared stillOrdered)
          (invariant_of_run numbered_handler cleared stillNumbered)

end Running

theorem run_program {p : Platform} (ordered : p.Ordered) (named : p.Named) (numbered : p.Numbered) :
    c.program.run handler p = ((c.account p).reply, c.after p) := by
  unfold program after
  rcases run_whenThere named c.workspace (pure c.skipped) c.inside with
    ⟨lacks, run⟩ | ⟨keys, f, bars, run⟩ | ⟨v, admits, own, run⟩
  · have account : c.account p = ⟨.answered c.skipped, [Call.key (.findWorkspace c.workspace)], none, id⟩ :=
      account_of_gate (gate_of_lacks lacks)
    rw [run, account, Account.after_of_nothing]
    rfl
  · have account : c.account p = ⟨.refused f, keys, none, id⟩ := account_of_gate (gate_of_bars bars)
    rw [run, account, Account.after_of_nothing]
  · rw [run, account_of_gate (gate_of_admits admits)]
    exact run_inside own ordered numbered

end Clearance
end Provisioning
