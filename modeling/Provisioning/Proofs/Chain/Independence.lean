import Provisioning.Proofs.Chain.Clearance

/-!
Two removals that are about different objects.  What one sees of the platform is the same before and
after the other, so what is told of each does not depend on their order, and neither does what they
leave; where both delete the repositories at one path the second still tries those that are stuck, and
so the calls are the same but for their order.
-/
namespace Provisioning

open Program

namespace Platform

structure SameButOrder (p q : Platform) : Prop where
  calls : p.calls.Perm q.calls
  rest : { p with calls := [] } = { q with calls := [] }

end Platform

structure MainObject where
  workspace : String
  collection : Collection
  name : String
  deriving DecidableEq, Repr

namespace Clearance

open Platform

variable {c d : Clearance} {p : Platform}

def object (c : Clearance) : MainObject := ⟨c.workspace, c.collection, c.name⟩

inductive Changes (c : Clearance) (p : Platform) : Option String → (WorkspaceData → WorkspaceData) → Prop where
  | nothing : Changes c p none id
  | objects : Changes c p none (c.collection.clear (c.sight p).gone)
  | whole (path : String) : Changes c p (some path) fun data =>
      (c.collection.clear (c.sight p).gone data).loseRepositories path fun repo => p.rejects repo.deletion

theorem changes_account (c : Clearance) (p : Platform) :
    c.Changes p (c.account p).path? (c.account p).change := by
  unfold account
  cases p.gate c.workspace with
  | missing => exact .nothing
  | barred keys f => exact .nothing
  | opened v =>
    simp only [Sight.accountAt, Sight.accountInside]
    split
    · exact .nothing
    · split
      · exact .objects
      · exact .objects
      · unfold Sight.accountOfRepositories
        simp only
        split
        · exact .objects
        · exact .whole _

variable {path? : Option String} {f g : WorkspaceData → WorkspaceData}

/-- An object that goes has the name of the removal. -/
theorem gone_spares {k : Collection} (same : k = c.collection) {name : String} (other : name ≠ c.name)
    (ordered : p.Ordered) : ∀ e ∈ k.shelf.named name (p.data c.workspace), (c.sight p).gone e.1 = false := by
  subst same
  intro e member
  refine eq_false_of_ne_true fun goes => ?_
  obtain ⟨x, found, decision⟩ := List.any_eq_true.mp goes
  obtain ⟨there, called⟩ := List.mem_filter.mp found
  obtain ⟨alsoThere, alsoCalled⟩ := List.mem_filter.mp member
  have sameKey : x.1 = e.1 := eq_of_beq (Bool.and_eq_true_iff.mp decision).1
  have ascending := c.collection.shelf.ascending _ (ordered c.workspace)
  have first := Keyed.find?_of_mem ascending there
  rw [sameKey, Keyed.find?_of_mem ascending alsoThere] at first
  have sameEntry : x = e := Prod.ext sameKey (Option.some.inj first).symm
  subst sameEntry
  exact other (c.collection.called_unique alsoCalled called)

theorem Changes.named (changes : c.Changes p path? f) (ordered : p.Ordered) {k : Collection}
    {name : String} (apart : k = c.collection → name ≠ c.name) :
    k.shelf.named name (f (p.data c.workspace)) = k.shelf.named name (p.data c.workspace) := by
  have cleared : k.shelf.named name (c.collection.clear (c.sight p).gone (p.data c.workspace)) =
      k.shelf.named name (p.data c.workspace) := by
    by_cases same : k = c.collection
    · have spares := gone_spares (p := p) same (apart same) ordered
      rw [← same]
      exact Collection.named_clear spares
    · exact Collection.named_clear_other same name
  cases changes with
  | nothing => rfl
  | objects => exact cleared
  | whole path => rw [Collection.named_loseRepositories, cleared]

theorem Changes.stuck (changes : c.Changes p path? f) (path : String) (data : WorkspaceData) :
    (repositoriesAt path (f data)).filter (fun e => p.rejects e.2.deletion) =
      (repositoriesAt path data).filter fun e => p.rejects e.2.deletion := by
  unfold repositoriesAt
  cases changes with
  | nothing => rfl
  | objects => rw [Collection.repositories_clear]
  | whole cleared =>
    simp only [WorkspaceData.loseRepositories, Collection.repositories_clear, List.filter_filter]
    refine List.filter_congr fun e _ => ?_
    cases p.rejects e.2.deletion <;> simp

/-- A removal leaves the repositories alone except at the path where it deletes them. -/
theorem Changes.repositories (changes : c.Changes p path? f) {path : String} (other : path? ≠ some path)
    (data : WorkspaceData) : repositoriesAt path (f data) = repositoriesAt path data := by
  unfold repositoriesAt
  cases changes with
  | nothing => rfl
  | objects => rw [Collection.repositories_clear]
  | whole cleared =>
    simp only [WorkspaceData.loseRepositories, Collection.repositories_clear, List.filter_filter]
    refine List.filter_congr fun e _ => ?_
    cases here : e.2.path == path with
    | false => rfl
    | true =>
      have elsewhere : (e.2.path == cleared) = false := by
        rw [eq_of_beq here, beq_eq_false_iff_ne]
        exact fun same => other (congrArg some same.symm)
      simp [elsewhere]

/-- Of the repositories at its own path those are left that are stuck. -/
theorem Changes.own {path : String} (changes : c.Changes p (some path) f) (data : WorkspaceData) :
    repositoriesAt path (f data) =
      (repositoriesAt path data).filter fun e => p.rejects e.2.deletion := by
  cases changes with
  | whole =>
    unfold repositoriesAt
    simp only [WorkspaceData.loseRepositories, Collection.repositories_clear, List.filter_filter]
    refine List.filter_congr fun e _ => ?_
    cases e.2.path == path <;> simp

theorem loseRepositories_comm (path other : String) (stuck kept : RepoInfo → Bool) (data : WorkspaceData) :
    (data.loseRepositories path stuck).loseRepositories other kept =
      (data.loseRepositories other kept).loseRepositories path stuck := by
  simp only [WorkspaceData.loseRepositories, List.filter_filter, Bool.and_comm]

theorem Changes.commute {other? : Option String} (first : c.Changes p path? f)
    (second : d.Changes p other? g) (data : WorkspaceData) : f (g data) = g (f data) := by
  cases first with
  | nothing => rfl
  | objects =>
    cases second with
    | nothing => rfl
    | objects => exact Collection.clear_clear _ _ _ _ _
    | whole path => rw [← Collection.loseRepositories_clear, Collection.clear_clear]
  | whole path =>
    cases second with
    | nothing => rfl
    | objects =>
      beta_reduce
      rw [Collection.clear_clear, Collection.loseRepositories_clear]
    | whole other =>
      simp only [Collection.loseRepositories_clear]
      rw [Collection.clear_clear, loseRepositories_comm]

theorem after_eq (c : Clearance) (p : Platform) : c.after p = (p.logged ((c.account p).keys ++
    (c.account p).deletions (p.data c.workspace))).modifyData c.workspace (c.account p).change := rfl

/-- What the other removal sees is the same before and after. -/
theorem sight_after (apart : c.object ≠ d.object) (ordered : p.Ordered) :
    d.sight (c.after p) = d.sight p := by
  have changes := c.changes_account p
  have found : d.collection.shelf.named d.name ((c.after p).data d.workspace) =
      d.collection.shelf.named d.name (p.data d.workspace) := by
    by_cases here : d.workspace = c.workspace
    · rw [here, after_eq, data_modifyData_same, data_logged]
      refine changes.named ordered fun collection name => apart ?_
      simp only [object, here, collection, name]
    · rw [after_eq, data_modifyData_other _ _ here, data_logged]
  have stuck : (d.repositories (c.after p)).filter (fun e => p.rejects e.2.deletion) =
      (d.repositories p).filter fun e => p.rejects e.2.deletion := by
    unfold repositories
    cases d.path? with
    | none => rfl
    | some path =>
      by_cases here : d.workspace = c.workspace
      · simp only [here, after_eq, data_modifyData_same, data_logged]
        exact changes.stuck path _
      · simp only [after_eq, data_modifyData_other _ _ here, data_logged]
  have rejects : (c.after p).rejects = p.rejects := rfl
  unfold sight
  rw [rejects, found, stuck]

/-- What comes of a removal is the same before and after the other. -/
theorem account_after (apart : c.object ≠ d.object) (ordered : p.Ordered) :
    d.account (c.after p) = d.account p := by
  unfold account
  rw [sight_after apart ordered]
  exact congrArg (d.sight p).accountAt (gate_congr rfl rfl d.workspace)

/-- Where both delete at one path the second finds what is stuck, and elsewhere all that was there. -/
theorem deletions_after (apart : c.object ≠ d.object) (ordered : p.Ordered) :
    (d.account (c.after p)).deletions ((c.after p).data d.workspace) =
      if d.workspace = c.workspace ∧ (d.account p).path? = (c.account p).path? then
        ((d.account p).deletions (p.data d.workspace)).filter p.rejects
      else (d.account p).deletions (p.data d.workspace) := by
  have changes := c.changes_account p
  rw [account_after apart ordered]
  unfold Account.deletions
  cases tries : (d.account p).path? with
  | none => simp
  | some path =>
    simp only
    by_cases here : d.workspace = c.workspace
    · rw [here, after_eq, data_modifyData_same, data_logged]
      by_cases same : some path = (c.account p).path?
      · rw [← same] at changes
        rw [if_pos ⟨rfl, same⟩, changes.own, List.filter_map]
        rfl
      · rw [if_neg fun both => same both.2, changes.repositories fun equal => same equal.symm]
    · rw [if_neg fun both => here both.1, after_eq, data_modifyData_other _ _ here, data_logged]

/-- Two removals that are about different objects come to the same in either order. -/
theorem after_after (apart : c.object ≠ d.object) (ordered : p.Ordered) :
    (d.after (c.after p)).SameButOrder (c.after (d.after p)) := by
  have firstDeletions := deletions_after apart ordered
  have secondDeletions := deletions_after (Ne.symm apart) ordered
  have firstAccount := account_after apart ordered
  have secondAccount := account_after (Ne.symm apart) ordered
  constructor
  · have calls : ∀ (c d : Clearance) (p : Platform), (d.after (c.after p)).calls =
        p.calls ++ ((c.account p).keys ++ (c.account p).deletions (p.data c.workspace)) ++
          ((d.account (c.after p)).keys ++
            (d.account (c.after p)).deletions ((c.after p).data d.workspace)) := fun _ _ _ => rfl
    rw [calls c d, calls d c, firstDeletions, secondDeletions, firstAccount, secondAccount,
      List.perm_iff_count]
    intro key
    by_cases both : d.workspace = c.workspace ∧ (d.account p).path? = (c.account p).path?
    · have same : (d.account p).deletions (p.data d.workspace) =
          (c.account p).deletions (p.data c.workspace) := by
        unfold Account.deletions
        rw [both.1, both.2]
      rw [if_pos both, if_pos ⟨both.1.symm, both.2.symm⟩, same]
      simp only [List.count_append]
      omega
    · rw [if_neg both, if_neg fun swapped => both ⟨swapped.1.symm, swapped.2.symm⟩]
      simp only [List.count_append]
      omega
  · have rest : ∀ (c d : Clearance) (p : Platform), { d.after (c.after p) with calls := [] } =
        (({ p with calls := [] } : Platform).modifyData c.workspace (c.account p).change).modifyData
          d.workspace (d.account (c.after p)).change := fun _ _ _ => rfl
    rw [rest c d, rest d c, firstAccount, secondAccount]
    exact modifyData_comm _ ((c.changes_account p).commute (d.changes_account p))

end Clearance

/-! Requests -/

def Classified.main? : Classified → Option MainObject
  | .job s => some ⟨s.workspace, .jobs, s.name⟩
  | .pipeline s => some ⟨s.workspace, .pipelines, s.name⟩
  | .workflow s => s.name?.map fun name => ⟨s.workspace, .jobs, name⟩
  | .outputPort s => some ⟨s.workspace, .views, s.viewName⟩
  | .unsupported _ => none

def Request.main? (r : Request) (t : Templates) : Option MainObject :=
  match r.accept t with
  | .ok a => a.classified.main?
  | .error _ => none

theorem Request.valid_of_main {r : Request} {t : Templates} {o : MainObject} (main : r.main? t = some o) :
    (r.validate t).valid = true := by
  unfold main? at main
  unfold validate
  cases accepted : r.accept t with
  | error f =>
    rw [accepted] at main
    cases main
  | ok a =>
    rw [accepted] at main
    cases classified : a.classified with
    | unsupported reason =>
      dsimp only at main
      rw [classified] at main
      cases main
    | _ =>
      dsimp only
      rw [classified]
      rfl

theorem Classified.exists_main {kind : Classified} (sound : Rule.broken kind.rules = [])
    (handled : kind.Handled) : ∃ o, kind.main? = some o := by
  cases kind with
  | job s => exact ⟨_, rfl⟩
  | pipeline s => exact ⟨_, rfl⟩
  | workflow s =>
    obtain ⟨name, required⟩ := WorkflowSpec.requiredName_of_rules sound
    have called := (WorkflowSpec.requiredName_eq_ok required).1
    exact ⟨⟨s.workspace, .jobs, name⟩, by rw [main?, called]; rfl⟩
  | outputPort s => exact ⟨_, rfl⟩
  | unsupported reason => exact absurd rfl (handled reason)

def Accepted.dataPath? (a : Accepted) (w : Workload) : Option String :=
  if a.removeData then some w.repoPath else none

def Accepted.workloadClearance (a : Accepted) (w : Workload) (k : Collection) (kind : ResourceKind)
    (name : String) : Clearance where
  workspace := w.workspace
  collection := k
  name := name
  kind := kind
  path? := a.dataPath? w
  skipped := skippedRemoval w kind name
  removed workspace count := removal workspace w.repoPath name kind count a.removeData

theorem Accepted.remove_eq_clearance (a : Accepted) (w : Workload) (k : Collection) (kind : ResourceKind)
    (name : String) : (w.remove a kind name fun session program =>
      program.through (k.shelf.embedding session.workspace.name)) =
      (a.workloadClearance w k kind name).program := by
  rw [Workload.remove_eq_whenThere]
  unfold Clearance.program
  congr 1
  funext v session
  unfold Workload.clearOut Clearance.inside
  congr 1
  funext count
  simp only [Workload.clearData, Clearance.finish, workloadClearance, dataPath?]
  cases a.removeData <;> rfl

def OutputPortSpec.clearance (s : OutputPortSpec) : Clearance where
  workspace := s.workspace
  collection := .views
  name := s.viewName
  kind := .view
  path? := none
  skipped := s.skippedRemoval
  removed workspace count := .messageOnly
    s!"Unprovisioned view '{s.viewName}' from workspace '{workspace}' ({count} removed)"

theorem OutputPortSpec.unprovision_eq_clearance (s : OutputPortSpec) :
    s.unprovision = s.clearance.program := rfl

/-- The removal of an accepted request is a removal of its main object. -/
theorem Accepted.exists_clearance {a : Accepted} (sound : Rule.broken a.classified.rules = [])
    {o : MainObject} (main : a.classified.main? = some o) (s : Settings) :
    ∃ c : Clearance, c.object = o ∧ a.execute s .unprovision = c.program := by
  have workload : ∀ {k : Collection} {kind : ResourceKind} {name : String} {w : Workload},
      a.classified.Main k.shelf kind name w → o = ⟨w.workspace, k, name⟩ →
      ∃ c : Clearance, c.object = o ∧ a.execute s .unprovision = c.program := by
    rintro k kind name w is rfl
    refine ⟨a.workloadClearance w k kind name, rfl, ?_⟩
    rw [Accepted.unprovision_of_main is sound, remove_eq_clearance]
  cases classified : a.classified with
  | job spec =>
    rw [classified] at main
    cases main
    have is : a.classified.Main Shelf.jobs .job spec.name spec.workload := by
      rw [classified]
      exact .job spec
    exact workload (k := .jobs) is rfl
  | pipeline spec =>
    rw [classified] at main
    cases main
    have is : a.classified.Main Shelf.pipelines .pipeline spec.name spec.workload := by
      rw [classified]
      exact .pipeline spec
    exact workload (k := .pipelines) is rfl
  | workflow spec =>
    rw [classified] at main
    obtain ⟨name, called, rfl⟩ := Option.map_eq_some_iff.mp main
    have is : a.classified.Main Shelf.jobs .workflow name spec.workload := by
      rw [classified]
      exact .workflow spec called
    exact workload (k := .jobs) is rfl
  | outputPort spec =>
    rw [classified] at main
    cases main
    refine ⟨spec.clearance, rfl, ?_⟩
    unfold execute
    rw [classified]
    exact spec.unprovision_eq_clearance
  | unsupported reason =>
    rw [classified] at main
    cases main

theorem Request.exists_clearance {r : Request} {s : Settings} (valid : (r.validate s.templates).valid = true) :
    ∃ c : Clearance, r.main? s.templates = some c.object ∧ r.execute s .unprovision = c.program := by
  obtain ⟨a, accepted, handled⟩ := validate_accepted valid
  have sound := sound_of_accept accepted
  obtain ⟨o, main⟩ := Classified.exists_main sound handled
  obtain ⟨c, object, program⟩ := Accepted.exists_clearance sound main s
  refine ⟨c, ?_, ?_⟩
  · rw [main?, accepted, object]
    exact main
  · rw [execute_of_accept accepted, program]

namespace Platform

/-- Two removals, the one after the other: what comes of each, and the platform that they leave. -/
theorem removals_in_either_order {p : Platform} (ordered : p.Ordered) (named : p.Named)
    (numbered : p.Numbered) {s : Settings} {r q : Request} (first : (r.validate s.templates).valid = true)
    (second : (q.validate s.templates).valid = true)
    (apart : r.main? s.templates ≠ q.main? s.templates) :
    let afterFirst := ((r.execute s .unprovision).run handler p).2
    let afterSecond := ((q.execute s .unprovision).run handler p).2
    ((r.execute s .unprovision).run handler afterSecond).1 = ((r.execute s .unprovision).run handler p).1 ∧
    ((q.execute s .unprovision).run handler afterFirst).1 = ((q.execute s .unprovision).run handler p).1 ∧
    ((q.execute s .unprovision).run handler afterFirst).2.SameButOrder
      ((r.execute s .unprovision).run handler afterSecond).2 := by
  obtain ⟨c, about, program⟩ := Request.exists_clearance first
  obtain ⟨d, alsoAbout, alsoProgram⟩ := Request.exists_clearance second
  rw [about, alsoAbout] at apart
  have distinct : c.object ≠ d.object := fun same => apart (congrArg some same)
  rw [program, alsoProgram]
  have runs : ∀ (c : Clearance) {p : Platform}, p.Ordered → p.Named → p.Numbered →
      c.program.run handler p = ((c.account p).reply, c.after p) := fun c _ => c.run_program
  have still : ∀ c : Clearance, (c.after p).Ordered ∧ (c.after p).Named ∧ (c.after p).Numbered := by
    intro c
    have run := runs c ordered named numbered
    exact ⟨ordered_of_run run ordered, invariant_of_run named_handler run named,
      invariant_of_run numbered_handler run numbered⟩
  obtain ⟨ordered₁, named₁, numbered₁⟩ := still c
  obtain ⟨ordered₂, named₂, numbered₂⟩ := still d
  rw [runs c ordered named numbered, runs d ordered named numbered]
  simp only [runs d ordered₁ named₁ numbered₁, runs c ordered₂ named₂ numbered₂,
    Clearance.account_after distinct ordered, Clearance.account_after (Ne.symm distinct) ordered]
  exact ⟨trivial, trivial, Clearance.after_after distinct ordered⟩

end Platform
end Provisioning
