import Provisioning.Proofs.Chain.Places
import Provisioning.Proofs.Chain.Readers
import Provisioning.Proofs.Chain.Removal
import Provisioning.Proofs.Platform.Losses

/-!
Who may take away or change what.  Whatever an operation of the engine is, and wherever it stops, what is
on the platform stays there as it is, unless the operation is the one that is there to take away or to
change just that.
-/
namespace Provisioning

open Program Platform

variable {δ α : Type}

inductive Classified.Names : {δ α : Type} → Classified → Shelf δ α → String → String → Prop where
  | workload {δ α : Type} {class_ : Classified} {shelf : Shelf δ α} {kind : ResourceKind} {name : String}
      {work : Workload} (main : class_.Main shelf kind name work) : Names class_ shelf work.workspace name
  | outputPort (spec : OutputPortSpec) :
      Names (.outputPort spec) Shelf.views spec.workspace spec.viewName

namespace Operation

variable (s : Settings)

inductive Handles (direction : Direction) :
    {δ α : Type} → Operation → Shelf δ α → String → String → Prop where
  | request {δ α : Type} {r : Request} {a : Accepted} {shelf : Shelf δ α} {w name : String}
      (accepted : r.accept s.templates = .ok a) (names : a.classified.Names shelf w name) :
      Handles direction (.work (.request r direction)) shelf w name

/-- The operation removes a workload with the repository path and its data, and every object of its name
could be deleted before. -/
inductive Clears (p q : Platform) : Operation → String → String → Prop where
  | removal {δ α : Type} {r : Request} {a : Accepted} {shelf : Shelf δ α} {kind : ResourceKind}
      {name : String} {work : Workload} {v : WorkspaceInfo} (accepted : r.accept s.templates = .ok a)
      (withData : r.removeData = true) (main : a.classified.Main shelf kind name work)
      (frees : work.Frees shelf name p v) (gone : shelf.named name (q.data work.workspace) = []) :
      Clears p q (.work (.request r .unprovision)) work.workspace work.repoPath

inductive SetsReaders : Operation → String → String → Prop where
  | access {r : AccessRequest} {a : Accepted} {spec : OutputPortSpec}
      (accepted : (Request.ofDescriptor r.descriptor).accept s.templates = .ok a)
      (port : a.classified = .outputPort spec) :
      SetsReaders (.access r) spec.workspace spec.viewName

end Operation

/-- An object goes only when the operation removes objects of its name, and its definition becomes another
only when the operation provisions it. -/
structure Shelf.Guarded (shelf : Shelf δ α) (s : Settings) (o : Operation) (p q : Platform) : Prop where
  gone : ∀ w, ∀ e ∈ shelf.entries (p.data w), e.1 ∉ (shelf.entries (q.data w)).keys →
    ∃ name, shelf.called name e = true ∧ o.Handles s .unprovision shelf w name
  changed : ∀ w, ∀ e ∈ shelf.entries (p.data w), ∀ x ∈ shelf.entries (q.data w), x.1 = e.1 →
    shelf.definition x.2 ≠ shelf.definition e.2 →
    ∃ name, shelf.called name e = true ∧ o.Handles s .provision shelf w name

structure Platform.Guarded (p : Platform) (s : Settings) (o : Operation) (q : Platform) : Prop where
  jobs : Shelf.jobs.Guarded s o p q
  pipelines : Shelf.pipelines.Guarded s o p q
  views : Shelf.views.Guarded s o p q

/-- From `p` to `q` the operation has taken away and changed only what it is there for. -/
structure Platform.Custody (p : Platform) (s : Settings) (o : Operation) (q : Platform) : Prop
    extends p.Guarded s o q where
  workspaces : ∀ name w, p.workspaces name = some w → q.workspaces name = some w
  catalogs : ∀ w, (p.data w).catalogs ⊆ (q.data w).catalogs
  schemas : ∀ w, (p.data w).schemas ⊆ (q.data w).schemas
  tables : ∀ w, (p.data w).tables ⊆ (q.data w).tables
  elsewhere : ∀ w, o.workspace? s ≠ some w → q.data w = p.data w
  repositories : ∀ w, ∀ e ∈ (p.data w).repositories, e ∉ (q.data w).repositories →
    o.Clears s p q w e.2.path
  grants : ∀ w view, ∀ g ∈ (p.data w).grants view, g ∉ (q.data w).grants view →
    (o.SetsReaders s w view ∧ g.privilege = s.permissions.outputPort.consumers) ∨
      view ∈ (p.data w).views.keys ∧ view ∉ (q.data w).views.keys

/-! One shelf -/

namespace Shelf

variable {shelf : Shelf δ α} {s : Settings} {o : Operation} {p q : Platform}

theorem guarded_of_same (ordered : p.Ordered)
    (same : ∀ w, shelf.entries (q.data w) = shelf.entries (p.data w)) : shelf.Guarded s o p q where
  gone w e member lost := by
    rw [same w] at lost
    exact absurd (List.mem_map_of_mem member) lost
  changed w e member x there key different := by
    rw [same w] at there
    exact absurd (congrArg (fun y => shelf.definition y.2) (entry_unique ordered member there key))
      different

theorem guarded_of_confined (tidy : shelf.Tidy) (ordered : p.Ordered) {es : List Effect}
    (confined : p.Confined es q) (noWrite : shelf.write ∉ es) (noRemoval : shelf.remove ∉ es) :
    shelf.Guarded s o p q :=
  guarded_of_same ordered fun w => tidy.steady (confined.data w) noWrite noRemoval

variable {w name : String}

theorem guarded_of_provision (handles : o.Handles s .provision shelf w name) (ordered : p.Ordered)
    (later : q.Ordered) (elsewhere : p.Elsewhere w q)
    (keys : (shelf.entries (p.data w)).keys ⊆ (shelf.entries (q.data w)).keys)
    (spared : ∀ e ∈ shelf.entries (p.data w), shelf.called name e = false →
      e ∈ shelf.entries (q.data w)) : shelf.Guarded s o p q where
  gone x e member lost := by
    by_cases here : x = w
    · subst here
      exact absurd (keys (List.mem_map_of_mem member)) lost
    · rw [elsewhere x here] at lost
      exact absurd (List.mem_map_of_mem member) lost
  changed x e member y there key different := by
    by_cases here : x = w
    · subst here
      cases called : shelf.called name e with
      | true => exact ⟨name, called, handles⟩
      | false =>
        have stays := spared e member called
        exact absurd (congrArg (fun z => shelf.definition z.2) (entry_unique later stays there key))
          different
    · rw [elsewhere x here] at there
      exact absurd (congrArg (fun z => shelf.definition z.2) (entry_unique ordered member there key))
        different

theorem guarded_of_removal (handles : o.Handles s .unprovision shelf w name) (ordered : p.Ordered)
    (elsewhere : p.Elsewhere w q)
    (left : shelf.entries (q.data w) ⊆ shelf.entries (p.data w))
    (spared : ∀ e ∈ shelf.entries (p.data w), shelf.called name e = false →
      e ∈ shelf.entries (q.data w)) : shelf.Guarded s o p q where
  gone x e member lost := by
    by_cases here : x = w
    · subst here
      cases called : shelf.called name e with
      | true => exact ⟨name, called, handles⟩
      | false => exact absurd (List.mem_map_of_mem (spared e member called)) lost
    · rw [elsewhere x here] at lost
      exact absurd (List.mem_map_of_mem member) lost
  changed x e member y there key different := by
    have before : y ∈ shelf.entries (p.data x) := by
      by_cases here : x = w
      · subst here
        exact left there
      · rw [← elsewhere x here]
        exact there
    exact absurd (congrArg (fun z => shelf.definition z.2) (entry_unique ordered member before key))
      different

theorem respects_confined (shelf : Shelf δ α) (name : String) :
    shelf.Respects name (Confined (shelf.write :: Effect.preparing)) where
  refl := confined_refl
  trans _ _ _ := Confined.trans
  other asks := confined_run (asks_mono (Call.within_mono (List.subset_cons_self _ _)) asks)
  write w {d plan p} _ _ := by
    have writes := asks_of_straight (shelf.through_straight w (Scope.apply_straight d plan))
    refine confined_run (asks_mono (Call.within_mono ?_) writes) p
    exact List.cons_subset.mpr ⟨List.mem_cons_self, List.nil_subset _⟩

theorem respects_spared (tidy : shelf.Tidy) (noWrite : shelf.write ∉ Effect.preparing)
    (noRemoval : shelf.remove ∉ Effect.preparing) (name : String) :
    shelf.Respects name (shelf.Spared name) where
  refl := spared_refl
  trans := spared_trans
  other asks := spared_run tidy noWrite noRemoval asks
  write w := by
    rintro d plan p rfl fits
    exact spared_apply w tidy fits

end Shelf

/-! Operations that provision -/

section Operations

variable {s : Settings} {a : Accepted} {o : Operation} {p q : Platform}

section Guards

variable {es : List Effect} (ordered : p.Ordered) (confined : p.Confined es q)

include ordered confined

theorem guarded_of_jobs
    (apart : ∀ e ∈ [Effect.writePipeline, .removePipeline, .writeView, .removeView], e ∉ es)
    (jobs : Shelf.jobs.Guarded s o p q) : p.Guarded s o q where
  jobs := jobs
  pipelines := Shelf.guarded_of_confined Shelf.tidy_pipelines ordered confined (apart _ (by decide))
    (apart _ (by decide))
  views := Shelf.guarded_of_confined Shelf.tidy_views ordered confined (apart _ (by decide))
    (apart _ (by decide))

theorem guarded_of_pipelines
    (apart : ∀ e ∈ [Effect.writeJob, .removeJob, .writeView, .removeView], e ∉ es)
    (pipelines : Shelf.pipelines.Guarded s o p q) : p.Guarded s o q where
  jobs := Shelf.guarded_of_confined Shelf.tidy_jobs ordered confined (apart _ (by decide))
    (apart _ (by decide))
  pipelines := pipelines
  views := Shelf.guarded_of_confined Shelf.tidy_views ordered confined (apart _ (by decide))
    (apart _ (by decide))

theorem guarded_of_views
    (apart : ∀ e ∈ [Effect.writeJob, .removeJob, .writePipeline, .removePipeline], e ∉ es)
    (views : Shelf.views.Guarded s o p q) : p.Guarded s o q where
  jobs := Shelf.guarded_of_confined Shelf.tidy_jobs ordered confined (apart _ (by decide))
    (apart _ (by decide))
  pipelines := Shelf.guarded_of_confined Shelf.tidy_pipelines ordered confined (apart _ (by decide))
    (apart _ (by decide))
  views := views

end Guards

/-- What no operation does, beside what is to be shown of each. -/
theorem custody_of_guarded (named : p.Named) {q : Platform} (run : ((o.program s).run handler p).2 = q)
    (guarded : p.Guarded s o q)
    (repositories : ∀ w, ∀ e ∈ (p.data w).repositories, e ∉ (q.data w).repositories →
      o.Clears s p q w e.2.path)
    (grants : ∀ w view, ∀ g ∈ (p.data w).grants view, g ∉ (q.data w).grants view →
      (o.SetsReaders s w view ∧ g.privilege = s.permissions.outputPort.consumers) ∨
        view ∈ (p.data w).views.keys ∧ view ∉ (q.data w).views.keys) :
    p.Custody s o q := by
  have retains := retains_any (o.program s) p
  have elsewhere : ∀ w, o.workspace? s ≠ some w → _ := fun w other => data_operation named o other
  rw [run] at retains elsewhere
  exact { guarded with
    workspaces := retains.workspaces
    catalogs := fun w => (retains.data w).catalogs
    schemas := fun w => (retains.data w).schemas
    tables := fun w => (retains.data w).tables
    elsewhere, repositories, grants }

/-- Where nothing is written but what is noted, everything is in its place. -/
theorem custody_of_extends (ordered : p.Ordered) (named : p.Named)
    (run : ((o.program s).run handler p).2 = q) (grows : p.Extends q) : p.Custody s o q := by
  refine custody_of_guarded named run ?_ ?_ ?_
  · exact {
      jobs := Shelf.guarded_of_same ordered fun w => (grows.data w).jobs
      pipelines := Shelf.guarded_of_same ordered fun w => (grows.data w).pipelines
      views := Shelf.guarded_of_same ordered fun w => (grows.data w).views }
  · intro w e member lost
    rw [(grows.data w).repositories] at lost
    exact absurd member lost
  · intro w view g member lost
    rw [(grows.data w).grants] at lost
    exact absurd member lost

theorem Accepted.keeps_provision {R : Platform → Platform → Prop} {shelf : Shelf δ α} {w name : String}
    (names : a.classified.Names shelf w name) (sound : Rule.broken a.classified.rules = [])
    (respects : shelf.Respects name R) : (a.execute s .provision).Keeps handler R := by
  unfold execute
  generalize a.classified = class_ at names sound
  cases names with
  | outputPort spec => exact spec.keeps_provision s a respects
  | workload main =>
    cases main with
    | job spec => exact spec.keeps_provision s a respects
    | pipeline spec => exact spec.keeps_provision s a respects
    | workflow spec called =>
      obtain ⟨other, required⟩ := WorkflowSpec.requiredName_of_rules sound
      have same := (WorkflowSpec.requiredName_eq_ok required).1
      rw [called] at same
      cases same
      exact spec.keeps_provision s a required respects

theorem Classified.Names.tidy {class_ : Classified} {shelf : Shelf δ α} {w name : String}
    (names : class_.Names shelf w name) : shelf.Tidy ∧ shelf.write ∉ Effect.preparing ∧
      shelf.remove ∉ Effect.provisioning := by
  cases names with
  | outputPort spec => exact ⟨Shelf.tidy_views, by decide, by decide⟩
  | workload main =>
    cases main with
    | job spec => exact ⟨Shelf.tidy_jobs, by decide, by decide⟩
    | pipeline spec => exact ⟨Shelf.tidy_pipelines, by decide, by decide⟩
    | workflow spec called => exact ⟨Shelf.tidy_jobs, by decide, by decide⟩

theorem Classified.Names.workspace {class_ : Classified} {shelf : Shelf δ α} {w name : String}
    (names : class_.Names shelf w name) : class_.workspace? = some w := by
  cases names with
  | outputPort spec => rfl
  | workload main => cases main <;> rfl

theorem Classified.Names.elsewhere {shelf : Shelf δ α} {w name : String}
    (names : a.classified.Names shelf w name) (named : p.Named) (direction : Direction) :
    p.Elsewhere w ((a.execute s direction).run handler p).2 := by
  intro x other
  refine data_execute named direction ?_
  rw [names.workspace]
  exact fun same => other (Option.some.inj same).symm

section Provision

variable {shelf : Shelf δ α} {w name : String} (names : a.classified.Names shelf w name)
  (sound : Rule.broken a.classified.rules = [])

include names sound

/-- Provisioning keeps the shelf that it writes to, but for what bears the name. -/
theorem Accepted.guarded_provision (tidy : shelf.Tidy) (noWrite : shelf.write ∉ Effect.preparing)
    (noRemoval : shelf.remove ∉ Effect.provisioning) (handles : o.Handles s .provision shelf w name)
    (ordered : p.Ordered) (named : p.Named) (numbered : p.Numbered) :
    shelf.Guarded s o p ((a.execute s .provision).run handler p).2 := by
  have among : Effect.preparing ⊆ Effect.provisioning := by decide
  have respects := Shelf.respects_spared tidy noWrite (fun there => noRemoval (among there)) name
  obtain ⟨⟨later, -⟩, spared⟩ := a.keeps_provision names sound respects p ordered numbered
  have retains := retains_run (asks_of_straight (a.provision_straight s)) p
  exact Shelf.guarded_of_provision handles ordered later (names.elsewhere named .provision)
    (tidy.lasting (retains.data w) noRemoval) (spared w)

theorem Accepted.confined_provision :
    p.Confined (shelf.write :: Effect.preparing) ((a.execute s .provision).run handler p).2 :=
  a.keeps_provision names sound (shelf.respects_confined name) p

end Provision

theorem Classified.Names.guarded_of_write {shelf : Shelf δ α} {w name : String} {class_ : Classified}
    (names : class_.Names shelf w name) (ordered : p.Ordered)
    (confined : p.Confined (shelf.write :: Effect.preparing) q) (guarded : shelf.Guarded s o p q) :
    p.Guarded s o q := by
  cases names with
  | outputPort spec => exact guarded_of_views ordered confined (by decide) guarded
  | workload main =>
    cases main with
    | job spec => exact guarded_of_jobs ordered confined (by decide) guarded
    | pipeline spec => exact guarded_of_pipelines ordered confined (by decide) guarded
    | workflow spec called => exact guarded_of_jobs ordered confined (by decide) guarded

theorem custody_of_provision {r : Request} (accepted : r.accept s.templates = .ok a)
    {shelf : Shelf δ α} {w name : String} (names : a.classified.Names shelf w name)
    (run : ((r.execute s .provision).run handler p).2 = q) (ordered : p.Ordered) (named : p.Named)
    (numbered : p.Numbered) : p.Custody s (.work (.request r .provision)) q := by
  have sound := Request.sound_of_accept accepted
  obtain ⟨tidy, noWrite, noRemoval⟩ := names.tidy
  have asks := asks_of_straight (a.provision_straight s)
  have retains := retains_run asks p
  have repositories := repositories_run asks (by decide) numbered
  have guarded := a.guarded_provision names sound tidy noWrite noRemoval (.request accepted names) ordered
    named numbered
  have confined := a.confined_provision (s := s) (p := p) names sound
  rw [Request.execute_of_accept accepted] at run
  rw [run] at retains repositories guarded confined
  refine custody_of_guarded named ?_ (names.guarded_of_write ordered confined guarded) ?_ ?_
  · rw [← run, ← Request.execute_of_accept accepted]
    rfl
  · exact fun w e member lost => absurd (repositories w member) lost
  · exact fun w view g member lost =>
      absurd ((retains.data w).grants (by decide) (by decide) view member) lost

end Operations

/-! Operations that remove -/

section Lost

variable {shelf : Shelf δ α} {name : String} {stuck : String × α → Bool} {d : WorkspaceData}

theorem Shelf.mem_lose {e : String × α} : e ∈ shelf.entries (shelf.lose name stuck d) ↔
    e ∈ shelf.entries d ∧ (shelf.called name e = true → stuck e = true) := by
  unfold lose
  rw [shelf.entries_place, List.mem_filter]
  cases shelf.called name e <;> simp

namespace Workload

variable {work : Workload} {kind : ResourceKind} {withData : Bool} {p : Platform}
  {outcome : Reply Completion × Platform}

theorem Removed.data (removed : Removed work shelf kind name withData p outcome) :
    let lost := shelf.lose name (fun e => p.rejects (shelf.deletion e)) (p.data work.workspace)
    outcome.2.data work.workspace = p.data work.workspace ∨
    outcome.2.data work.workspace = lost ∨
    withData = true ∧ (∃ v, Frees work shelf name p v) ∧
      outcome.2.data work.workspace =
        lost.loseRepositories work.repoPath fun repo => p.rejects repo.deletion := by
  have objects : (removedFrom work shelf name p).data work.workspace =
      shelf.lose name (fun e => p.rejects (shelf.deletion e)) (p.data work.workspace) :=
    data_modifyData_same _ _ _
  have repositories : ((removedFrom work shelf name p).afterRepositories work.repoPath
      work.workspace).data work.workspace =
      (shelf.lose name (fun e => p.rejects (shelf.deletion e)) (p.data work.workspace)).loseRepositories
        work.repoPath fun repo => p.rejects repo.deletion := by
    rw [← objects]
    exact data_modifyData_same _ _ _
  cases removed with
  | lacking _ | barred _ | unlisted _ _ => exact .inl rfl
  | stuck _ _ _ | kept _ _ | unlistedRepositories _ _ _ => exact .inr (.inl objects)
  | stuckRepositories frees goes _ _ | removed frees goes _ _ =>
    exact .inr (.inr ⟨goes, ⟨_, frees⟩, repositories⟩)

variable (tidy : shelf.Tidy) (removed : Removed work shelf kind name withData p outcome)

include tidy removed

/-- Entries only go, and only those that bear the name. -/
theorem Removed.spares :
    shelf.entries (outcome.2.data work.workspace) ⊆ shelf.entries (p.data work.workspace) ∧
    ∀ e ∈ shelf.entries (p.data work.workspace), shelf.called name e = false →
      e ∈ shelf.entries (outcome.2.data work.workspace) := by
  have spared : ∀ {d}, shelf.entries d = shelf.entries
      (shelf.lose name (fun e => p.rejects (shelf.deletion e)) (p.data work.workspace)) →
      shelf.entries d ⊆ shelf.entries (p.data work.workspace) ∧
      ∀ e ∈ shelf.entries (p.data work.workspace), shelf.called name e = false → e ∈ shelf.entries d := by
    intro d lost
    rw [lost]
    constructor
    · exact fun e member => (Shelf.mem_lose.mp member).1
    · intro e member other
      refine Shelf.mem_lose.mpr ⟨member, fun called => ?_⟩
      rw [other] at called
      cases called
  rcases removed.data with same | lost | ⟨-, -, cleared⟩
  · rw [same]
    exact ⟨fun _ member => member, fun _ member _ => member⟩
  · exact spared (congrArg shelf.entries lost)
  · refine spared ?_
    rw [cleared]
    exact tidy.beside _ _

/-- A repository goes only with the data, from the path, and after every object of the name. -/
theorem Removed.repositories {e : String × RepoInfo} (member : e ∈ (p.data work.workspace).repositories)
    (gone : e ∉ (outcome.2.data work.workspace).repositories) :
    withData = true ∧ e.2.path = work.repoPath ∧ (∃ v, Frees work shelf name p v) ∧
      shelf.named name (outcome.2.data work.workspace) = [] := by
  rcases removed.data with same | lost | ⟨goes, ⟨v, frees⟩, cleared⟩
  · rw [same] at gone
    exact absurd member gone
  · rw [lost, Shelf.lose, tidy.apart] at gone
    exact absurd member gone
  · have path : e.2.path = work.repoPath := by
      by_contra other
      apply gone
      rw [cleared]
      refine List.mem_filter.mpr ⟨?_, by simp [other]⟩
      rw [Shelf.lose, tidy.apart]
      exact member
    refine ⟨goes, path, ⟨v, frees⟩, List.filter_eq_nil_iff.mpr ?_⟩
    intro x there called
    rw [cleared, WorkspaceData.loseRepositories, tidy.beside] at there
    obtain ⟨before, stuck⟩ := Shelf.mem_lose.mp there
    have free := frees.free x (List.mem_filter.mpr ⟨before, called⟩)
    rw [stuck called] at free
    cases free

end Workload
end Lost

section Removals

variable {s : Settings} {a : Accepted} {o : Operation} {r : Request} {p q : Platform}

theorem Classified.Main.guarded {class_ : Classified} {shelf : Shelf δ α} {kind : ResourceKind}
    {name : String} {work : Workload} (main : class_.Main shelf kind name work) (ordered : p.Ordered)
    (confined : p.Confined [.nothing, shelf.remove, .removeRepository] q)
    (guarded : shelf.Guarded s o p q) : p.Guarded s o q := by
  cases main with
  | job spec => exact guarded_of_jobs ordered confined (by decide) guarded
  | pipeline spec => exact guarded_of_pipelines ordered confined (by decide) guarded
  | workflow spec called => exact guarded_of_jobs ordered confined (by decide) guarded

theorem confined_removal (accepted : r.accept s.templates = .ok a) {shelf : Shelf δ α}
    {kind : ResourceKind} {name : String} {work : Workload}
    (main : a.classified.Main shelf kind name work) :
    p.Confined [Effect.nothing, shelf.remove, .removeRepository]
      ((r.execute s .unprovision).run handler p).2 := by
  rw [Request.execute_of_accept accepted, a.unprovision_of_main main (Request.sound_of_accept accepted) s]
  exact confined_run (work.remove_asks a kind name fun session =>
    shelf.removeAll_asks session.workspace.name _ _) p

theorem custody_of_removal (accepted : r.accept s.templates = .ok a) {shelf : Shelf δ α}
    {kind : ResourceKind} {name : String} {work : Workload} (main : a.classified.Main shelf kind name work)
    (run : ((r.execute s .unprovision).run handler p).2 = q) (ordered : p.Ordered) (named : p.Named)
    (numbered : p.Numbered) : p.Custody s (.work (.request r .unprovision)) q := by
  have names : a.classified.Names shelf work.workspace name := .workload main
  have tidy := names.tidy.1
  have removed := Request.run_removal accepted main ordered named numbered
  have confined := confined_removal (p := p) accepted main
  have elsewhere := names.elsewhere (s := s) named .unprovision
  rw [← Request.execute_of_accept accepted] at elsewhere
  obtain ⟨left, spared⟩ := removed.spares tidy
  rw [run] at confined elsewhere left spared
  have others : Effect.grant ∉ [Effect.nothing, shelf.remove, .removeRepository] ∧
      Effect.revoke ∉ [Effect.nothing, shelf.remove, .removeRepository] ∧
      Effect.removeView ∉ [Effect.nothing, shelf.remove, .removeRepository] := by
    obtain ⟨_, _, removing⟩ := main.clears
    generalize shelf.remove = remove at removing
    revert removing remove
    decide
  have guarded : shelf.Guarded s (.work (.request r .unprovision)) p q :=
    Shelf.guarded_of_removal (.request accepted names) ordered elsewhere left spared
  refine custody_of_guarded named run (main.guarded ordered confined guarded) ?_ ?_
  · intro w e member lost
    by_cases here : w = work.workspace
    · subst here
      rw [← run] at lost
      obtain ⟨goes, path, ⟨v, frees⟩, gone⟩ := removed.repositories tidy member lost
      rw [run] at gone
      rw [path]
      exact .removal accepted goes main frees gone
    · rw [elsewhere w here] at lost
      exact absurd member lost
  · intro w view g member lost
    rw [(confined.data w).grants others.1 others.2.1 others.2.2] at lost
    exact absurd member lost

/-- The view is taken off the shelf, with its grants, or nothing is done. -/
inductive OutputPortSpec.Withdraws (spec : OutputPortSpec) (d : WorkspaceData) : WorkspaceData → Prop where
  | nothing : Withdraws spec d d
  | view {gone : String → Bool} (only : ∀ id, gone id = true → id = spec.viewName ∧ id ∈ d.views.keys) :
      Withdraws spec d (WorkspaceData.clearViews gone d)

namespace OutputPortSpec.Withdraws

variable {spec : OutputPortSpec} {d e : WorkspaceData} (withdraws : spec.Withdraws d e)

include withdraws

theorem subset : e.views ⊆ d.views := by
  cases withdraws with
  | nothing => exact fun _ member => member
  | view _ => exact fun _ member => (List.mem_filter.mp member).1

theorem spares {x : String × ViewDefinition} (member : x ∈ d.views)
    (other : (x.1 == spec.viewName) = false) : x ∈ e.views := by
  cases withdraws with
  | nothing => exact member
  | @view gone only =>
    refine List.mem_filter.mpr ⟨member, ?_⟩
    cases goes : gone x.1 with
    | false => rfl
    | true =>
      rw [(only x.1 goes).1, beq_self_eq_true] at other
      cases other

theorem grants {view : String} {g : Grant} (member : g ∈ d.grants view) (lost : g ∉ e.grants view) :
    view ∈ d.views.keys ∧ view ∉ e.views.keys := by
  cases withdraws with
  | nothing => exact absurd member lost
  | @view gone only =>
    cases goes : gone view with
    | false =>
      refine absurd ?_ lost
      simp only [WorkspaceData.clearViews, goes]
      exact member
    | true =>
      refine ⟨(only view goes).2, fun still => ?_⟩
      obtain ⟨e, there, rfl⟩ := List.mem_map.mp still
      have kept := (List.mem_filter.mp there).2
      rw [goes] at kept
      cases kept

end OutputPortSpec.Withdraws

theorem OutputPortSpec.data_unprovision (spec : OutputPortSpec) (ordered : p.Ordered) (named : p.Named) :
    spec.Withdraws (p.data spec.workspace)
      ((spec.unprovision.run handler p).2.data spec.workspace) := by
  obtain ⟨report, program⟩ : ∃ report : WorkspaceInfo → Nat → Completion,
      spec.unprovision = whenThere spec.workspace (pure spec.skippedRemoval) fun v session =>
        session.views ((session.scope .view).removeAll spec.viewName) >>= fun removed =>
          pure (report v removed) := ⟨_, rfl⟩
  rw [program]
  rcases run_whenThere named spec.workspace (pure spec.skippedRemoval) _ with
    ⟨lacks, run⟩ | ⟨keys, f, bars, run⟩ | ⟨v, admits, own, run⟩
  · rw [run]
    exact .nothing
  · rw [run]
    exact .nothing
  · have entered : (p.logged (entrance spec.workspace)).Ordered := ordered
    have removal := Shelf.views.run_removeAll Shelf.clears_views spec.workspace ((Session.mk v).scope .view)
      spec.viewName entered
    rw [← Shelf.views.run_through] at removal
    have inside : ∀ program : Program (objects ViewDefinition) Nat, (Session.mk v).views program =
        program.through (Shelf.views.embedding spec.workspace) := by
      intro program
      rw [← own]
      rfl
    rw [run, run_bind_pure, inside, removal]
    by_cases listed : (p.logged (entrance spec.workspace)).rejects
        (Shelf.views.key (.listByName spec.viewName)) = true
    · rw [if_pos listed]
      exact .nothing
    · rw [if_neg listed]
      simp only [data_modifyData_same]
      refine .view fun id goes => ?_
      obtain ⟨e, found, same⟩ := List.any_eq_true.mp goes
      obtain ⟨there, called⟩ := List.mem_filter.mp found
      have key : e.1 = id := eq_of_beq (Bool.and_eq_true_iff.mp same).1
      subst key
      exact ⟨eq_of_beq called, List.mem_map_of_mem there⟩

theorem custody_of_port_removal (accepted : r.accept s.templates = .ok a) {spec : OutputPortSpec}
    (port : a.classified = .outputPort spec) (run : ((r.execute s .unprovision).run handler p).2 = q)
    (ordered : p.Ordered) (named : p.Named) : p.Custody s (.work (.request r .unprovision)) q := by
  have names : a.classified.Names Shelf.views spec.workspace spec.viewName := by
    rw [port]
    exact .outputPort spec
  have program : r.execute s .unprovision = spec.unprovision := by
    rw [Request.execute_of_accept accepted]
    unfold Accepted.execute
    rw [port]
  have elsewhere := names.elsewhere (s := s) named .unprovision
  have confined := confined_run spec.unprovision_asks p
  have withdraws := spec.data_unprovision ordered named
  rw [← Request.execute_of_accept accepted, run] at elsewhere
  rw [← program, run] at confined withdraws
  have guarded : Shelf.views.Guarded s (.work (.request r .unprovision)) p q :=
    Shelf.guarded_of_removal (.request accepted names) ordered elsewhere withdraws.subset
      fun e member other => withdraws.spares member other
  refine custody_of_guarded named run (guarded_of_views ordered confined (by decide) guarded) ?_ ?_
  · intro w e member lost
    rw [(confined.data w).repositories (by decide) (by decide)] at lost
    exact absurd member lost
  · intro w view g member lost
    by_cases here : w = spec.workspace
    · subst here
      exact .inr (withdraws.grants member lost)
    · rw [elsewhere w here] at lost
      exact absurd member lost

end Removals

/-! Readers -/

namespace OutputPortSpec.Resets

variable {spec : OutputPortSpec} {privilege : CatalogPrivilege} {a : Accepted} {refs : List String}
  {v : WorkspaceInfo} {p : Platform} {outcome : Reply Completion × Platform}

theorem other_privileges (resets : spec.Resets privilege a refs v p outcome) {g : Grant}
    (other : g.privilege ≠ privilege) :
    g ∈ (outcome.2.data spec.workspace).grants spec.viewName ↔
      g ∈ (p.data spec.workspace).grants spec.viewName := by
  have among : ∀ gs : List Grant, g ∈ gs.filter (·.privilege != privilege) ↔ g ∈ gs := fun gs =>
    List.mem_filter.trans (and_iff_left (bne_iff_ne.mpr other))
  rw [← among, resets.others, among]

theorem other_grants (resets : spec.Resets privilege a refs v p outcome) {w view : String}
    (other : ¬(w = spec.workspace ∧ view = spec.viewName)) :
    (outcome.2.data w).grants view = (p.data w).grants view := by
  obtain ⟨keys, gs, same⟩ := resets.rest
  rw [same]
  by_cases here : w = spec.workspace
  · subst here
    have another : view ≠ spec.viewName := fun same => other ⟨rfl, same⟩
    rw [data_modifyData_same]
    exact updated_other _ _ another
  · rw [data_modifyData_other _ _ here]
    rfl

end OutputPortSpec.Resets

theorem custody_of_access {s : Settings} {p q : Platform} {r : AccessRequest} {a : Accepted}
    (accepted : (Request.ofDescriptor r.descriptor).accept s.templates = .ok a) {spec : OutputPortSpec}
    (port : a.classified = .outputPort spec) (run : ((r.execute s).run handler p).2 = q)
    (ordered : p.Ordered) (named : p.Named) : p.Custody s (.access r) q := by
  have confined := confined_run (r.execute_asks s) p
  have outcome := AccessRequest.run_setReaders accepted port named
  rw [run] at confined
  refine custody_of_guarded named run ?_ ?_ ?_
  · exact guarded_of_views ordered confined (by decide)
      (Shelf.guarded_of_confined Shelf.tidy_views ordered confined (by decide) (by decide))
  · intro w e member lost
    rw [(confined.data w).repositories (by decide) (by decide)] at lost
    exact absurd member lost
  · intro w view g member lost
    left
    rw [← run] at lost
    generalize (r.execute s).run handler p = result at outcome lost
    cases outcome with
    | lacking _ | barred _ | unlisted _ _ => exact absurd member lost
    | tried admits listed resets =>
      by_cases here : w = spec.workspace ∧ view = spec.viewName
      · obtain ⟨rfl, rfl⟩ := here
        refine ⟨.access accepted port, ?_⟩
        -- a grant of another privilege would still be among the others
        by_contra other
        exact lost ((resets.other_privileges other).mpr member)
      · rw [resets.other_grants here] at lost
        exact absurd member lost

/-! Every operation -/

theorem Classified.names_of_sound {class_ : Classified} (sound : Rule.broken class_.rules = []) :
    (∃ reason, class_ = .unsupported reason) ∨
      ∃ (δ α : Type) (shelf : Shelf δ α) (w name : String), class_.Names shelf w name := by
  cases class_ with
  | job spec => exact .inr ⟨_, _, _, _, _, .workload (.job spec)⟩
  | pipeline spec => exact .inr ⟨_, _, _, _, _, .workload (.pipeline spec)⟩
  | workflow spec =>
    obtain ⟨name, required⟩ := WorkflowSpec.requiredName_of_rules sound
    have called := (WorkflowSpec.requiredName_eq_ok required).1
    exact .inr ⟨_, _, _, _, _, .workload (.workflow spec called)⟩
  | outputPort spec => exact .inr ⟨_, _, _, _, _, .outputPort spec⟩
  | unsupported reason => exact .inl ⟨reason, rfl⟩

namespace Platform

theorem program_request (s : Settings) (r : Request) (direction : Direction) :
    (Operation.work (.request r direction)).program s = r.execute s direction := rfl

theorem Custody.jobs_go_by_removal {p q : Platform} {s : Settings} {o : Operation}
    (custody : p.Custody s o q) {w id : String} (before : id ∈ (p.data w).jobs.keys)
    (after : id ∉ (q.data w).jobs.keys) : ∃ e ∈ (p.data w).jobs, e.1 = id ∧
      ∃ name, Shelf.jobs.called name e = true ∧ o.Handles s .unprovision Shelf.jobs w name := by
  obtain ⟨e, member, rfl⟩ := List.mem_map.mp before
  exact ⟨e, member, rfl, custody.jobs.gone w e member after⟩

theorem custody_of_request {p : Platform} (ordered : p.Ordered) (named : p.Named) (numbered : p.Numbered)
    (s : Settings) (r : Request) (direction : Direction) :
    p.Custody s (.work (.request r direction)) ((r.execute s direction).run handler p).2 := by
  cases accepted : r.accept s.templates with
  | error f =>
    refine custody_of_extends ordered named rfl ?_
    rw [Request.execute, accepted]
    exact p.extends_refl
  | ok a =>
    rcases Classified.names_of_sound (Request.sound_of_accept accepted) with
      ⟨reason, unsupported⟩ | ⟨δ, α, shelf, w, name, names⟩
    · refine custody_of_extends ordered named rfl ?_
      rw [Request.execute_of_accept accepted]
      unfold Accepted.execute
      rw [unsupported]
      exact p.extends_refl
    · cases direction with
      | provision => exact custody_of_provision accepted names rfl ordered named numbered
      | unprovision =>
        generalize class_ : a.classified = c at names
        cases names with
        | workload main =>
          rw [← class_] at main
          exact custody_of_removal accepted main rfl ordered named numbered
        | outputPort spec => exact custody_of_port_removal accepted class_ rfl ordered named

theorem custody_of_accesses {p : Platform} (ordered : p.Ordered) (named : p.Named) (s : Settings)
    (r : AccessRequest) : p.Custody s (.access r) ((r.execute s).run handler p).2 := by
  rcases r.fails_or_accepts s with ⟨f, fails⟩ | ⟨a, spec, accepted, port⟩
  · refine custody_of_extends ordered named rfl ?_
    rw [fails]
    exact p.extends_refl
  · exact custody_of_access accepted port rfl ordered named

/-- Whatever the engine is asked to do, whatever is rejected on the way and however it ends, nothing is
taken away or changed but by the operation that is there for it. -/
theorem custody_run_operation {p : Platform} (reachable : Reachable p) (failures : List String)
    (s : Settings) (o : Operation) :
    (p.injecting failures).Custody s o ((o.program s).run handler (p.injecting failures)).2 := by
  have ordered : (p.injecting failures).Ordered := fun w => ordered_of_reachable reachable w
  have named : (p.injecting failures).Named := fun name w there => named_of_reachable reachable name w there
  have numbered : (p.injecting failures).Numbered := fun w => numbered_of_reachable reachable w
  cases o with
  | work work =>
    cases work with
    | request r direction => exact custody_of_request ordered named numbered s r direction
    | readBack r =>
      exact custody_of_extends ordered named rfl (extends_run (asks_of_straight (r.execute_straight s)) _)
  | access r => exact custody_of_accesses ordered named s r

def nightlyRemoval : Operation := .work (.request nightlyRequest .unprovision)

theorem nightlyRemoval_leaves_second :
    (((nightlyRemoval.program nightlySettings).run handler stuckNightly).2.data "w").jobs.keys = ["2"] := by
  rw [nightlyRemoval, program_request]
  exact nightly_removal_leaves_second

theorem custody_nightly_removal :
    stuckNightly.Custody nightlySettings nightlyRemoval
      ((nightlyRemoval.program nightlySettings).run handler stuckNightly).2 ∧
    ∃ e ∈ (stuckNightly.data "w").jobs, e.1 = "3" ∧ ∃ name, Shelf.jobs.called name e = true ∧
      nightlyRemoval.Handles nightlySettings .unprovision Shelf.jobs "w" name := by
  have custody : stuckNightly.Custody nightlySettings nightlyRemoval
      ((nightlyRemoval.program nightlySettings).run handler stuckNightly).2 :=
    custody_run_operation twiceNightly_reachable ["job.delete:2"] nightlySettings nightlyRemoval
  have before : "3" ∈ (stuckNightly.data "w").jobs.keys := by decide +kernel
  refine ⟨custody, custody.jobs_go_by_removal before ?_⟩
  rw [nightlyRemoval_leaves_second]
  decide

end Platform
end Provisioning
