import Provisioning.Proofs.Platform.Shelf

/-!
How many jobs and pipelines of a workspace bear a name, and how many repositories are registered at
a path.  Of all calls only the writing of a job or of a pipeline can give a name a second bearer,
and it does not where nothing else bears the name.
-/
namespace Provisioning
namespace WorkspaceData

def jobsNamed (d : WorkspaceData) (name : String) : Nat :=
  d.jobs.countP fun e => e.2.definition.name == name

def pipelinesNamed (d : WorkspaceData) (name : String) : Nat :=
  d.pipelines.countP fun e => e.2.name == name

def repositoriesAt (d : WorkspaceData) (path : String) : Nat :=
  d.repositories.countP fun e => e.2.path == path

/-- In `e` nothing is borne more than once that was not borne as often in `d`. -/
structure NoFuller (d e : WorkspaceData) : Prop where
  jobs : ∀ name, e.jobsNamed name ≤ max 1 (d.jobsNamed name)
  pipelines : ∀ name, e.pipelinesNamed name ≤ max 1 (d.pipelinesNamed name)
  repositories : ∀ path, e.repositoriesAt path ≤ max 1 (d.repositoriesAt path)

theorem noFuller_refl (d : WorkspaceData) : d.NoFuller d where
  jobs _ := Nat.le_max_right _ _
  pipelines _ := Nat.le_max_right _ _
  repositories _ := Nat.le_max_right _ _

theorem NoFuller.trans {d e f : WorkspaceData} (first : d.NoFuller e) (second : e.NoFuller f) :
    d.NoFuller f where
  jobs name := by
    have before := first.jobs name
    have after := second.jobs name
    omega
  pipelines name := by
    have before := first.pipelines name
    have after := second.pipelines name
    omega
  repositories path := by
    have before := first.repositories path
    have after := second.repositories path
    omega

theorem noFuller_of_extends {d e : WorkspaceData} (grows : d.Extends e) : d.NoFuller e where
  jobs name := by
    rw [jobsNamed, grows.jobs]
    exact Nat.le_max_right _ _
  pipelines name := by
    rw [pipelinesNamed, grows.pipelines]
    exact Nat.le_max_right _ _
  repositories path := by
    rw [repositoriesAt, grows.repositories]
    exact Nat.le_max_right _ _

theorem noFuller_of_change {e : Effect} {d d' : WorkspaceData} (change : Change e d d')
    (noJob : e ≠ .writeJob) (noPipeline : e ≠ .writePipeline) (ordered : d.Ordered) : d.NoFuller d' := by
  have same := d.noFuller_refl
  have erased : ∀ {α : Type} (P : String × α → Bool) (id : String) (m : Keyed α),
      (Keyed.erase id m).countP P ≤ max 1 (m.countP P) := fun P id m =>
    Nat.le_trans (Keyed.countP_erase_le P id m) (Nat.le_max_right _ _)
  cases change with
  | none | permission | view | noView | catalog | schema | grant | noGrant => exact { same with }
  | job => exact absurd rfl noJob
  | pipeline => exact absurd rfl noPipeline
  | noJob id => exact { same with jobs := fun _ => erased _ id _ }
  | noPipeline id => exact { same with pipelines := fun _ => erased _ id _ }
  | noRepository id => exact { same with repositories := fun _ => erased _ id _ }
  | repository id repo free =>
    refine { same with repositories := fun path => ?_ }
    refine Keyed.countP_insert_le_max ordered.repositories ?_
    intro new e member old
    exact absurd ((beq_iff_eq.mp old).trans (beq_iff_eq.mp new).symm) (free e member)

end WorkspaceData

namespace Platform

open WorkspaceData

/-- From an ordered platform to an ordered one, with no workspace fuller than before. -/
def NoFuller (p q : Platform) : Prop :=
  p.Ordered → q.Ordered ∧ ∀ w, (p.data w).NoFuller (q.data w)

theorem noFuller_refl (p : Platform) : p.NoFuller p :=
  fun ordered => ⟨ordered, fun w => (p.data w).noFuller_refl⟩

theorem noFuller_trans (p q r : Platform) (first : p.NoFuller q) (second : q.NoFuller r) :
    p.NoFuller r := by
  intro ordered
  obtain ⟨between, before⟩ := first ordered
  obtain ⟨last, after⟩ := second between
  exact ⟨last, fun w => (before w).trans (after w)⟩

theorem noFuller_run {α : Type} {es : List Effect} (noJob : .writeJob ∉ es)
    (noPipeline : .writePipeline ∉ es) {program : Remote α} (asks : program.Asks (Call.Within es)) :
    program.Keeps handler NoFuller := by
  refine Program.keeps_of_asks noFuller_refl noFuller_trans ?_ asks
  intro c within p ordered
  refine ⟨ordered_handler c p ordered, fun w => ?_⟩
  refine noFuller_of_change (change_handler p w c) ?_ ?_ (ordered w)
  · exact fun same => noJob (same ▸ within)
  · exact fun same => noPipeline (same ▸ within)

theorem noFuller_plant {x : Seed} (unnamed : ¬ x.IsNamed) (p : Platform) (w : String) :
    (p.data w).NoFuller ((x.plant p).data w) := by
  cases x with
  | job _ _ | pipeline _ _ => exact absurd trivial unnamed
  | table _ _ | view _ _ | grant _ _ _ =>
    simp only [Seed.plant, seedTable, seedView, seedGrant]
    exact forall_data_modifyData WorkspaceData.noFuller_refl p _
      { WorkspaceData.noFuller_refl _ with } w
  | workspaceState name state =>
    simp only [Seed.plant, setWorkspaceState]
    split <;> exact WorkspaceData.noFuller_refl _
  | _ => exact WorkspaceData.noFuller_refl _

end Platform

namespace Shelf

open Platform

variable {δ α : Type}

theorem countP_of_wrote (shelf : Shelf δ α) {w id : String} {d : δ} {a : α} {p q : Platform}
    (ordered : p.Ordered) (wrote : shelf.Wrote w d p q id a) (name : String) :
    (Keyed.insert id a (shelf.entries (p.data w))).countP (shelf.called name) ≤
      max 1 ((shelf.entries (p.data w)).countP (shelf.called name)) := by
  refine Keyed.countP_insert_le_max (shelf.ascending _ (ordered w)) ?_
  intro new e member old
  have named : shelf.nameOf d = name := beq_iff_eq.mp ((wrote.called name).symm.trans new)
  subst named
  exact wrote.only e member old

def Spares (shelf : Shelf δ α) : Prop :=
  ∀ {w id : String} {d : δ} {a : α} {p q : Platform}, p.Ordered → shelf.Wrote w d p q id a →
    ∀ x, (p.data x).NoFuller (q.data x)

theorem spares_jobs : Shelf.jobs.Spares := by
  intro w id d job p q ordered wrote x
  rw [wrote.data]
  refine forall_data_modifyData WorkspaceData.noFuller_refl p w ?_ x
  exact { WorkspaceData.noFuller_refl _ with jobs := Shelf.jobs.countP_of_wrote ordered wrote }

theorem spares_pipelines : Shelf.pipelines.Spares := by
  intro w id d old p q ordered wrote x
  rw [wrote.data]
  refine forall_data_modifyData WorkspaceData.noFuller_refl p w ?_ x
  exact { WorkspaceData.noFuller_refl _ with
    pipelines := Shelf.pipelines.countP_of_wrote ordered wrote }

end Shelf
end Provisioning
