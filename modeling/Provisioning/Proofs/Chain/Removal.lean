import Provisioning.Proofs.Chain.Readiness
import Provisioning.Proofs.Chain.Replacement
import Provisioning.Proofs.Platform.Numbers
import Provisioning.Proofs.Platform.Removal

/-!
What the removal of a workload comes to, whatever is rejected on the way.  Every object of the name is
tried in the order in which it was found, and what is left is what could not be deleted; the
repositories have their turn only when nothing is left, and only when the data goes too.
-/
namespace Provisioning

open Program Platform

variable {δ α : Type}

/-! Repositories -/

def RepoInfo.deletion (repo : RepoInfo) : String := RepositoryCall.key (.delete repo.id)

def WorkspaceData.loseRepositories (path : String) (stuck : RepoInfo → Bool) (d : WorkspaceData) :
    WorkspaceData :=
  { d with repositories := d.repositories.filter fun e => !(e.2.path == path) || stuck e.2 }

namespace Platform

def repositoriesAt (path : String) (d : WorkspaceData) : Keyed RepoInfo :=
  d.repositories.filter fun e => e.2.path == path

/-- The platform after every repository at a path has been tried: those that could be deleted are gone. -/
def afterRepositories (path w : String) (p : Platform) : Platform :=
  (p.logged (RepositoryCall.key (.listByPath path) ::
    (repositoriesAt path (p.data w)).map fun e => e.2.deletion)).modifyData w
      (WorkspaceData.loseRepositories path fun repo => p.rejects repo.deletion)

end Platform

namespace Session

def stuckRepository (s : Session) (repo : RepoInfo) : Problem :=
  (rejection repo.deletion).first.inContext (s.repositoryContext repo)

theorem run_removeRepository (s : Session) (repo : RepoInfo) (p : Platform) :
    (s.removeRepository repo).run handler p = if p.rejects repo.deletion then
        (.answered (.error (.ofProblem (s.stuckRepository repo))), p.logged [repo.deletion])
      else (.answered (.ok (deletionOf ((p.data s.workspace.name).repositories.contains repo.id))),
        (p.logged [repo.deletion]).modifyData s.workspace.name
          (WorkspaceData.clearRepositories (· == repo.id))) := by
  unfold removeRepository Session.repositories ask
  rw [run_bind_pure, run_attempt, run_request]
  cases decision : p.rejects repo.deletion with
  | true =>
    have rejected : p.rejects (Call.key (.inside s.workspace.name (.repositories (.delete repo.id)))) =
      true := decision
    rw [handler_rejected rejected]
    rfl
  | false =>
    have accepted : p.rejects (Call.key (.inside s.workspace.name (.repositories (.delete repo.id)))) =
      false := decision
    rw [handler_accepted accepted]
    rfl

theorem run_listByPath (s : Session) (path : String) (p : Platform) :
    (s.repositories (.listByPath path)).run handler p =
      (if p.rejects (RepositoryCall.key (.listByPath path)) then
        .refused (rejection (RepositoryCall.key (.listByPath path)))
      else .answered ((repositoriesAt path (p.data s.workspace.name)).map Prod.snd),
      p.logged [RepositoryCall.key (.listByPath path)]) := by
  have found : (p.data s.workspace.name).repositories.values.filter (·.path == path) =
      (repositoriesAt path (p.data s.workspace.name)).map Prod.snd := Keyed.filter_values _ _
  unfold Session.repositories ask
  rw [run_request, ← found]
  exact handler_of_reading rfl

theorem run_removeRepositories (s : Session) (path : String) {p : Platform} (ordered : p.Ordered)
    (numbered : p.Numbered) :
    (s.removeRepositories path).run handler p =
      if p.rejects (RepositoryCall.key (.listByPath path)) then
        (.refused (rejection (RepositoryCall.key (.listByPath path))),
          p.logged [RepositoryCall.key (.listByPath path)])
      else
        (match Failure.ofProblems? (((repositoriesAt path (p.data s.workspace.name)).filter
            fun e => p.rejects e.2.deletion).map fun e => s.stuckRepository e.2) with
          | some f => .refused f
          | none => .answered (),
        p.afterRepositories path s.workspace.name) := by
  let w := s.workspace.name
  let found := repositoriesAt path (p.data w)
  unfold removeRepositories
  rw [run_bind, run_listByPath]
  cases decision : p.rejects (RepositoryCall.key (.listByPath path)) with
  | true => rfl
  | false =>
    have own : ∀ e ∈ found, e.2.id = e.1 := fun e member =>
      (numbered w).own e (List.mem_filter.mp member).1
    have distinct : (found.map fun e => e.2.id).Nodup := by
      rw [List.map_congr_left own]
      have ascending : found.Pairwise (·.1 < ·.1) := List.Pairwise.filter _ (ordered w).repositories
      exact List.pairwise_map.mpr (ascending.imp fun before => ne_of_lt before)
    have present : ∀ e ∈ found, (p.data w).repositories.contains e.2.id = true := by
      intro e member
      rw [own e member]
      exact Keyed.contains_of_mem (List.mem_filter.mp member).1
    have attempts := run_clearing (p := p.logged [RepositoryCall.key (.listByPath path)])
      WorkspaceData.clears_repositories (fun e q => s.run_removeRepository e.2 q) found distinct present
    have cleared : WorkspaceData.clearRepositories (fun id => found.any fun e =>
        e.2.id == id && !p.rejects e.2.deletion) (p.data w) =
        WorkspaceData.loseRepositories path (fun repo => p.rejects repo.deletion) (p.data w) :=
      congrArg (fun repositories => { p.data w with repositories })
        (Keyed.filter_gone (ordered w).repositories own)
    simp only [Bool.false_eq_true, if_false, resume]
    rw [each_map, run_bind_of_answered attempts, accumulate_tried]
    simp only [rejects_logged, logged_logged, List.singleton_append]
    rw [modifyData_congr (p.logged _) w cleared]
    unfold afterRepositories
    cases Failure.ofProblems? ((found.filter fun e => p.rejects e.2.deletion).map
      fun e => s.stuckRepository e.2) <;> rfl

end Session

/-! Workloads -/

inductive Classified.Main : {δ α : Type} → Classified → Shelf δ α → ResourceKind → String → Workload → Prop
  where
  | job (spec : JobSpec) : Main (.job spec) Shelf.jobs .job spec.name spec.workload
  | pipeline (spec : PipelineSpec) :
      Main (.pipeline spec) Shelf.pipelines .pipeline spec.name spec.workload
  | workflow (spec : WorkflowSpec) {name : String} (called : spec.name? = some name) :
      Main (.workflow spec) Shelf.jobs .workflow name spec.workload

namespace Workload

variable (w : Workload) (shelf : Shelf δ α) (kind : ResourceKind) (name : String) (withData : Bool)
  (p : Platform)

structure Frees (v : WorkspaceInfo) : Prop extends p.Admits w.workspace v where
  listed : p.rejects (shelf.key (.listByName name)) = false
  free : ∀ e ∈ shelf.named name (p.data w.workspace), p.rejects (shelf.deletion e) = false

def removedFrom : Platform := shelf.afterRemoval name w.workspace (p.logged (entrance w.workspace))

/-- Everything that a removal can come to, each with what it takes. -/
inductive Removed : Reply Completion × Platform → Prop where
  | lacking (lacks : p.Lacks w.workspace) : Removed
      (.answered (skippedRemoval w kind name), p.logged [Call.key (.findWorkspace w.workspace)])
  | barred {keys : List String} {f : Failure} (bars : p.Bars w.workspace keys f) :
      Removed (.refused f, p.logged keys)
  | unlisted {v : WorkspaceInfo} (admits : p.Admits w.workspace v)
      (rejected : p.rejects (shelf.key (.listByName name)) = true) : Removed
      (.refused (rejection (shelf.key (.listByName name))),
        p.logged (entrance w.workspace ++ [shelf.key (.listByName name)]))
  | stuck {v : WorkspaceInfo} {f : Failure} (admits : p.Admits w.workspace v)
      (listed : p.rejects (shelf.key (.listByName name)) = false)
      (told : f.problems = ((shelf.named name (p.data w.workspace)).filter
        fun e => p.rejects (shelf.deletion e)).map (shelf.stuck ((Session.mk v).scope kind))) :
      Removed (.refused f, removedFrom w shelf name p)
  | kept {v : WorkspaceInfo} (frees : Frees w shelf name p v) (keeps : withData = false) : Removed
      (.answered (removal w.workspace w.repoPath name kind (shelf.named name (p.data w.workspace)).length
        false), removedFrom w shelf name p)
  | unlistedRepositories {v : WorkspaceInfo} (frees : Frees w shelf name p v) (goes : withData = true)
      (rejected : p.rejects (RepositoryCall.key (.listByPath w.repoPath)) = true) : Removed
      (.refused (rejection (RepositoryCall.key (.listByPath w.repoPath))),
        (removedFrom w shelf name p).logged [RepositoryCall.key (.listByPath w.repoPath)])
  | stuckRepositories {v : WorkspaceInfo} {f : Failure} (frees : Frees w shelf name p v)
      (goes : withData = true)
      (listed : p.rejects (RepositoryCall.key (.listByPath w.repoPath)) = false)
      (told : f.problems = ((repositoriesAt w.repoPath (p.data w.workspace)).filter
        fun e => p.rejects e.2.deletion).map fun e => (Session.mk v).stuckRepository e.2) :
      Removed (.refused f, (removedFrom w shelf name p).afterRepositories w.repoPath w.workspace)
  | removed {v : WorkspaceInfo} (frees : Frees w shelf name p v) (goes : withData = true)
      (listed : p.rejects (RepositoryCall.key (.listByPath w.repoPath)) = false)
      (free : ∀ e ∈ repositoriesAt w.repoPath (p.data w.workspace), p.rejects e.2.deletion = false) :
      Removed (.answered (removal w.workspace w.repoPath name kind
        (shelf.named name (p.data w.workspace)).length true),
        (removedFrom w shelf name p).afterRepositories w.repoPath w.workspace)

def clearData (w : Workload) (a : Accepted) (kind : ResourceKind) (name : String) (session : Session)
    (workspace : String) (removed : Nat) : Remote Completion := do
  if a.removeData then session.removeRepositories w.repoPath
  pure (removal workspace w.repoPath name kind removed a.removeData)

def clearOut (w : Workload) (a : Accepted) (shelf : Shelf δ α) (kind : ResourceKind) (name : String)
    (v : WorkspaceInfo) (session : Session) : Remote Completion :=
  ((session.scope kind).removeAll name).through (shelf.embedding session.workspace.name) >>=
    w.clearData a kind name session v.name

theorem remove_eq_whenThere (a : Accepted) :
    (w.remove a kind name fun session program =>
      program.through (shelf.embedding session.workspace.name)) =
    whenThere w.workspace (pure (skippedRemoval w kind name)) (w.clearOut a shelf kind name) := rfl

variable {w shelf kind name p}
variable {clear : (String → Bool) → WorkspaceData → WorkspaceData} {v : WorkspaceInfo} {a : Accepted}

theorem removed_of_frees (frees : Frees w shelf name p v) (own : v.name = w.workspace)
    (ordered : (removedFrom w shelf name p).Ordered) (numbered : (removedFrom w shelf name p).Numbered)
    (kept : ((removedFrom w shelf name p).data w.workspace).repositories =
      (p.data w.workspace).repositories) :
    Removed w shelf kind name a.removeData p
      ((w.clearData a kind name ⟨v⟩ w.workspace (shelf.named name (p.data w.workspace)).length).run
        handler (removedFrom w shelf name p)) := by
  unfold clearData
  cases goes : a.removeData with
  | false => exact .kept frees rfl
  | true =>
    have run := (Session.mk v).run_removeRepositories w.repoPath ordered numbered
    have sameFound : repositoriesAt w.repoPath ((removedFrom w shelf name p).data w.workspace) =
        repositoriesAt w.repoPath (p.data w.workspace) := by
      unfold repositoriesAt
      rw [kept]
    simp only [own, sameFound] at run
    rw [if_pos rfl, run_bind, run]
    by_cases listed : p.rejects (RepositoryCall.key (.listByPath w.repoPath)) = true
    · rw [if_pos (show (removedFrom w shelf name p).rejects _ = true from listed)]
      exact .unlistedRepositories frees rfl listed
    · rw [if_neg (show ¬(removedFrom w shelf name p).rejects _ = true from listed)]
      have accepted := eq_false_of_ne_true listed
      cases collected : Failure.ofProblems? (((repositoriesAt w.repoPath (p.data w.workspace)).filter
          fun e => (removedFrom w shelf name p).rejects e.2.deletion).map
            fun e => (Session.mk v).stuckRepository e.2) with
      | some f =>
        exact .stuckRepositories frees rfl accepted (Failure.problems_of_ofProblems? collected)
      | none =>
        exact .removed frees rfl accepted (Failure.right_of_ofProblems? collected)

theorem run_remove (clears : shelf.ClearsAlone clear)
    (removing : shelf.remove ∈ [Effect.removeJob, .removePipeline]) (a : Accepted) (ordered : p.Ordered)
    (named : p.Named) (numbered : p.Numbered) : Removed w shelf kind name a.removeData p
      ((w.remove a kind name fun session program =>
        program.through (shelf.embedding session.workspace.name)).run handler p) := by
  rw [remove_eq_whenThere]
  rcases run_whenThere named w.workspace (pure (skippedRemoval w kind name))
    (w.clearOut a shelf kind name) with ⟨lacks, run⟩ | ⟨keys, f, bars, run⟩ | ⟨v, admits, own, run⟩
  · rw [run]
    exact .lacking lacks
  · rw [run]
    exact .barred bars
  · have stillOrdered : (p.logged (entrance w.workspace)).Ordered := ordered
    have stillNumbered : (p.logged (entrance w.workspace)).Numbered := numbered
    have cleared := shelf.run_removeAll_alone clears w.workspace ((Session.mk v).scope kind) name
      stillOrdered
    rw [← shelf.run_through] at cleared
    simp only [rejects_logged, data_logged, logged_logged] at cleared
    rw [run, clearOut, own]
    by_cases listed : p.rejects (shelf.key (.listByName name)) = true
    · rw [if_pos listed] at cleared
      rw [run_bind, cleared]
      exact .unlisted admits listed
    · rw [if_neg listed] at cleared
      cases collected : Failure.ofProblems? (((shelf.named name (p.data w.workspace)).filter
          fun e => p.rejects (shelf.deletion e)).map (shelf.stuck ((Session.mk v).scope kind))) with
      | some f =>
        rw [collected] at cleared
        rw [run_bind, cleared]
        exact .stuck admits (eq_false_of_ne_true listed) (Failure.problems_of_ofProblems? collected)
      | none =>
        have free : ∀ e ∈ shelf.named name (p.data w.workspace), p.rejects (shelf.deletion e) = false :=
          Failure.right_of_ofProblems? collected
        rw [collected] at cleared
        have confined := confined_of_run (shelf.removeAll_asks _ _ _) cleared
        -- the deletions leave the repositories alone, so these are found as they were before
        have others : ∀ e ∈ [Effect.makeRepository, .removeRepository],
            e ∉ [Effect.nothing, shelf.remove] := by
          generalize shelf.remove = remove at removing
          revert removing remove
          decide
        have kept := (confined.data w.workspace).repositories (others _ (by decide)) (others _ (by decide))
        rw [run_bind_of_answered cleared]
        exact removed_of_frees { admits with listed := eq_false_of_ne_true listed, free } own
          (ordered_of_run cleared stillOrdered) (invariant_of_run numbered_handler cleared stillNumbered) kept

end Workload

theorem Classified.Main.clears {class_ : Classified} {shelf : Shelf δ α} {kind : ResourceKind}
    {name : String} {w : Workload} (main : class_.Main shelf kind name w) :
    ∃ clear, shelf.ClearsAlone clear ∧ shelf.remove ∈ [Effect.removeJob, .removePipeline] := by
  cases main with
  | job spec => exact ⟨_, Shelf.jobs_clear_alone, by decide⟩
  | pipeline spec => exact ⟨_, Shelf.pipelines_clear_alone, by decide⟩
  | workflow spec called => exact ⟨_, Shelf.jobs_clear_alone, by decide⟩

theorem Accepted.unprovision_of_main {a : Accepted} {shelf : Shelf δ α} {kind : ResourceKind}
    {name : String} {w : Workload} (main : a.classified.Main shelf kind name w)
    (sound : Rule.broken a.classified.rules = []) (s : Settings) :
    a.execute s .unprovision = w.remove a kind name fun session program =>
      program.through (shelf.embedding session.workspace.name) := by
  unfold execute
  generalize a.classified = class_ at main sound
  cases main with
  | job spec => rfl
  | pipeline spec => rfl
  | workflow spec called =>
    obtain ⟨other, required⟩ := WorkflowSpec.requiredName_of_rules sound
    have same := (WorkflowSpec.requiredName_eq_ok required).1
    rw [called] at same
    cases same
    simp only [WorkflowSpec.unprovision]
    rw [required, ofExcept_ok_bind]
    rfl

theorem Request.run_removal {r : Request} {s : Settings} {a : Accepted}
    (accepted : r.accept s.templates = .ok a) {shelf : Shelf δ α} {kind : ResourceKind} {name : String}
    {w : Workload} (main : a.classified.Main shelf kind name w) {p : Platform} (ordered : p.Ordered)
    (named : p.Named) (numbered : p.Numbered) : w.Removed shelf kind name r.removeData p
      ((r.execute s .unprovision).run handler p) := by
  obtain ⟨clear, clears, removing⟩ := main.clears
  rw [Request.execute_of_accept accepted,
    Accepted.unprovision_of_main main (Request.sound_of_accept accepted),
    ← Request.removeData_of_accept accepted]
  exact Workload.run_remove clears removing a ordered named numbered

namespace Platform

def stuckNightly : Platform := twiceNightly.injecting ["job.delete:2"]

theorem nightly_removal_leaves_second : (((nightlyRequest.execute nightlySettings .unprovision).run handler
    stuckNightly).2.data "w").jobs.keys = ["2"] := by
  rw [nightlyRequest, Request.execute, Request.accept_ofList]
  decide +kernel

end Platform
end Provisioning
