import Provisioning.Proofs.Platform.Frame
import Provisioning.Proofs.Platform.Numbers
import Provisioning.Proofs.Platform.Removal

/-!
What may be lost on a platform.  Workspaces, catalogs, schemas and tables are never lost; an object, a
grant or a repository is lost only by a call that is there to take it away.  And what is written under
a name takes the place of nothing that bears another name.
-/
namespace Provisioning

namespace Keyed

variable {α : Type} {m : Keyed α}

theorem mem_insert_self (key : String) (a : α) (m : Keyed α) : (key, a) ∈ insert key a m := by
  induction m with
  | nil => exact List.mem_singleton_self _
  | cons first rest ih =>
    rw [insert]
    split
    · exact List.mem_cons_self
    · split
      · exact List.mem_cons_self
      · exact List.mem_cons_of_mem _ ih

theorem mem_insert_of_ne {e : String × α} (member : e ∈ m) {key : String} (other : e.1 ≠ key) (a : α) :
    e ∈ insert key a m := by
  induction m with
  | nil => cases member
  | cons first rest ih =>
    rw [insert]
    split
    · exact List.mem_cons_of_mem _ member
    · split
      · rename_i same
        rcases List.mem_cons.mp member with rfl | later
        · exact absurd same.symm other
        · exact List.mem_cons_of_mem _ later
      · rcases List.mem_cons.mp member with rfl | later
        · exact List.mem_cons_self
        · exact List.mem_cons_of_mem _ (ih later)

theorem keys_subset_insert (key : String) (a : α) : m.keys ⊆ (insert key a m).keys := by
  intro k member
  obtain ⟨e, there, rfl⟩ := List.mem_map.mp member
  by_cases same : e.1 = key
  · rw [same]
    exact List.mem_map_of_mem (mem_insert_self key a m)
  · exact List.mem_map_of_mem (mem_insert_of_ne there same a)

end Keyed

theorem subset_addOnce {α : Type} [DecidableEq α] (a : α) (as : List α) : as ⊆ addOnce a as :=
  fun _ member => mem_addOnce.mpr (.inl member)

theorem mem_updated {α : Type} {f : String → List α} {x key : String} {a : α} (member : a ∈ f x)
    {as : List α} (kept : x = key → a ∈ as) : a ∈ updated f key as x := by
  by_cases same : x = key
  · subst same
    rw [updated_same]
    exact kept rfl
  · rw [updated_other _ _ same]
    exact member

def Effect.all : List Effect :=
  [.nothing, .makeWorkspace, .writeJob, .removeJob, .writePipeline, .removePipeline, .writeView, .removeView,
    .makeCatalog, .grant, .revoke, .makeRepository, .removeRepository]

theorem Call.within_all (c : Call) : c.Within Effect.all := by
  unfold Call.Within
  cases c.effect <;> decide

structure WorkspaceData.Retains (es : List Effect) (d e : WorkspaceData) : Prop where
  jobs : .removeJob ∉ es → d.jobs.keys ⊆ e.jobs.keys
  pipelines : .removePipeline ∉ es → d.pipelines.keys ⊆ e.pipelines.keys
  views : .removeView ∉ es → d.views.keys ⊆ e.views.keys
  catalogs : d.catalogs ⊆ e.catalogs
  schemas : d.schemas ⊆ e.schemas
  tables : d.tables ⊆ e.tables
  grants : .revoke ∉ es → .removeView ∉ es → ∀ view, d.grants view ⊆ e.grants view

namespace WorkspaceData

variable {es : List Effect}

theorem retains_refl (d : WorkspaceData) : d.Retains es d := by
  constructor <;> intros <;> exact fun _ member => member

theorem Retains.trans {d e f : WorkspaceData} (first : d.Retains es e) (second : e.Retains es f) :
    d.Retains es f where
  jobs kept := List.Subset.trans (first.jobs kept) (second.jobs kept)
  pipelines kept := List.Subset.trans (first.pipelines kept) (second.pipelines kept)
  views kept := List.Subset.trans (first.views kept) (second.views kept)
  catalogs := List.Subset.trans first.catalogs second.catalogs
  schemas := List.Subset.trans first.schemas second.schemas
  tables := List.Subset.trans first.tables second.tables
  grants r v view := List.Subset.trans (first.grants r v view) (second.grants r v view)

theorem retains_of_change {e : Effect} (among : e ∈ es) {d d' : WorkspaceData} (change : Change e d d') :
    d.Retains es d' := by
  have same : d.Retains es d := d.retains_refl
  cases change with
  | none => exact same
  | permission => exact { same with }
  | job id job => exact { same with jobs := fun _ => Keyed.keys_subset_insert _ _ }
  | pipeline id d => exact { same with pipelines := fun _ => Keyed.keys_subset_insert _ _ }
  | view id d => exact { same with views := fun _ => Keyed.keys_subset_insert _ _ }
  | catalog name => exact { same with catalogs := subset_addOnce _ _ }
  | schema name => exact { same with schemas := subset_addOnce _ _ }
  | grant view g =>
    refine { same with grants := fun _ _ x g member => ?_ }
    exact mem_updated member fun here => mem_addOnce.mpr (.inl (here ▸ member))
  | repository => exact { same with }
  | noJob => exact { same with jobs := fun kept => absurd among kept }
  | noPipeline => exact { same with pipelines := fun kept => absurd among kept }
  | noView =>
    exact { same with
      views := fun kept => absurd among kept
      grants := fun _ kept => absurd among kept }
  | noGrant => exact { same with grants := fun kept => absurd among kept }
  | noRepository => exact { same with }

end WorkspaceData

namespace Platform

open WorkspaceData

structure Retains (es : List Effect) (p q : Platform) : Prop where
  workspaces : ∀ name w, p.workspaces name = some w → q.workspaces name = some w
  data : ∀ w, (p.data w).Retains es (q.data w)

variable {es : List Effect}

theorem retains_refl (p : Platform) : p.Retains es p :=
  ⟨fun _ _ there => there, fun w => (p.data w).retains_refl⟩

theorem retains_trans (p q r : Platform) (first : p.Retains es q) (second : q.Retains es r) :
    p.Retains es r where
  workspaces name w there := second.workspaces name w (first.workspaces name w there)
  data w := (first.data w).trans (second.data w)

theorem workspaces_stay (c : Call) (p : Platform) {name : String} {w : WorkspaceInfo}
    (there : p.workspaces name = some w) : (answer c p).2.workspaces name = some w := by
  by_cases makes : c.effect = .makeWorkspace
  · cases c with
    | createIfAbsent asked region params =>
      simp only [answer]
      cases found : p.workspaces asked with
      | some v => exact there
      | none =>
        have other : name ≠ asked := by
          rintro rfl
          rw [there] at found
          cases found
        exact (updated_other p.workspaces _ other).trans there
    | inside x c =>
      rw [← there]
      exact congrFun (congrArg Platform.workspaces (kept_answerInner x p c)) name
    | _ => cases makes
  · rw [workspaces_answer p makes]
    exact there

theorem retains_handler {c : Call} (within : c.Within es) (p : Platform) :
    p.Retains es (handler c p).2 where
  workspaces name w there := by
    rcases handler_snd c p with noted | answered
    · rw [noted]
      exact there
    · rw [answered]
      exact workspaces_stay c (p.record c.key) there
  data x := retains_of_change within (change_handler p x c)

theorem retains_run {α : Type} {program : Remote α} (asks : program.Asks (Call.Within es))
    (p : Platform) : p.Retains es (program.run handler p).2 :=
  Program.keeps_of_asks retains_refl retains_trans (fun _ => retains_handler) asks p

theorem retains_any {α : Type} (program : Remote α) (p : Platform) :
    p.Retains Effect.all (program.run handler p).2 :=
  retains_run (Program.asks_mono (fun c _ => c.within_all) program.asks_anything) p

/-! Repositories -/

/-- A repository is registered under an id that is nobody's. -/
theorem repositories_handler {c : Call} (keeps : c.effect ≠ .removeRepository) {p : Platform}
    (numbered : p.Numbered) (x : String) :
    (p.data x).repositories ⊆ ((handler c p).2.data x).repositories := by
  by_cases makes : c.effect = .makeRepository
  · have created : ∃ w url path provider, c = .inside w (.repositories (.create url path provider)) := by
      cases c with
      | inside w c =>
        cases c with
        | repositories c =>
          cases c with
          | create url path provider => exact ⟨w, url, path, provider, rfl⟩
          | _ => cases makes
        | jobs c | pipelines c | views c | catalog c => cases c <;> cases makes
        | identity c => cases makes
      | _ => cases makes
    obtain ⟨w, url, path, provider, rfl⟩ := created
    rcases handler_snd (.inside w (.repositories (.create url path provider))) p with noted | answered
    · rw [noted]
      exact fun _ member => member
    · rw [answered]
      simp only [answer, answerInner, answerRepositories]
      split
      · exact fun _ member => member
      · dsimp only
        refine forall_data_modifyData (P := fun d e => d.repositories ⊆ e.repositories)
          (fun _ _ member => member) (spendId (p.record _)) w ?_ x
        intro e member
        exact Keyed.mem_insert_of_ne member
          (Keyed.fresh_of_numbered (numbered w).repositories member) _
  · have within : c.Within [c.effect] := List.mem_singleton_self _
    rw [((confined_handler within p).data x).repositories]
    · exact fun _ member => member
    · simpa using Ne.symm makes
    · simpa using Ne.symm keeps

theorem repositories_run {α : Type} {program : Remote α} (asks : program.Asks (Call.Within es))
    (keeps : .removeRepository ∉ es) {p : Platform} (numbered : p.Numbered) (x : String) :
    (p.data x).repositories ⊆ ((program.run handler p).2.data x).repositories := by
  -- the numbers are carried along, for only they tell that a new id is nobody's
  let R : Platform → Platform → Prop := fun p q =>
    p.Numbered → q.Numbered ∧ (p.data x).repositories ⊆ (q.data x).repositories
  have kept : program.Keeps handler R := by
    refine Program.keeps_of_asks ?_ ?_ ?_ asks
    · exact fun _ numbered => ⟨numbered, fun _ member => member⟩
    · intro p q r first second numbered
      obtain ⟨between, before⟩ := first numbered
      obtain ⟨last, after⟩ := second between
      exact ⟨last, List.Subset.trans before after⟩
    · intro c within p numbered
      have spares : c.effect ≠ .removeRepository := fun same => keeps (same ▸ within)
      exact ⟨numbered_handler c p numbered, repositories_handler spares numbered x⟩
  exact (kept p numbered).2

end Platform

/-! Writing on a shelf -/

open Program Platform

variable {δ α : Type}

/-- Only calls about its objects change the shelf, only deletions take something off it, and a new object
takes the place of none that has another name. -/
structure Shelf.Tidy (shelf : Shelf δ α) : Prop where
  steady : ∀ {es d e}, WorkspaceData.Confined es d e → shelf.write ∉ es → shelf.remove ∉ es →
    shelf.entries e = shelf.entries d
  lasting : ∀ {es d e}, WorkspaceData.Retains es d e → shelf.remove ∉ es →
    (shelf.entries d).keys ⊆ (shelf.entries e).keys
  apart : ∀ m d, (shelf.place m d).repositories = d.repositories
  beside : ∀ d repositories, shelf.entries { d with repositories } = shelf.entries d
  fresh : ∀ {w d p id a q}, Platform.Numbered p →
    shelf.answer w (.create d) p = (.ok (shelf.reference (id, a)), q) →
    ∀ e ∈ shelf.entries (p.data w), e.1 = id → shelf.called (shelf.nameOf d) e = true

namespace Shelf

theorem tidy_jobs : Shelf.jobs.Tidy where
  steady confined := confined.jobs
  lasting retains := retains.jobs
  apart _ _ := rfl
  beside _ _ := rfl
  fresh {w d p id a q} numbered answered e member same := by
    have minted : p.nextId = id := (ResourceRef.mk.inj (Except.ok.inj (Prod.mk.inj answered).1)).1
    exact absurd (same.trans minted.symm) (Keyed.fresh_of_numbered (numbered w).jobs member)

theorem tidy_pipelines : Shelf.pipelines.Tidy where
  steady confined := confined.pipelines
  lasting retains := retains.pipelines
  apart _ _ := rfl
  beside _ _ := rfl
  fresh {w d p id a q} numbered answered e member same := by
    have minted : p.nextId = id := (ResourceRef.mk.inj (Except.ok.inj (Prod.mk.inj answered).1)).1
    exact absurd (same.trans minted.symm) (Keyed.fresh_of_numbered (numbered w).pipelines member)

theorem tidy_views : Shelf.views.Tidy where
  steady confined := confined.views
  lasting retains := retains.views
  apart _ _ := rfl
  beside _ _ := rfl
  fresh {w d p id a q} numbered answered e member same := by
    simp only [Shelf.views, answerViews] at answered
    split at answered
    · have minted : d.fullName = id := (ResourceRef.mk.inj (Except.ok.inj (Prod.mk.inj answered).1)).1
      exact beq_iff_eq.mpr (same.trans minted.symm)
    · cases answered

variable (shelf : Shelf δ α) (w : String)

/-- From a sound platform to a sound one, with the entries that do not bear the name as they were. -/
def Spared (name : String) (p q : Platform) : Prop :=
  p.Ordered → p.Numbered → (q.Ordered ∧ q.Numbered) ∧
    ∀ x, ∀ e ∈ shelf.entries (p.data x), shelf.called name e = false → e ∈ shelf.entries (q.data x)

variable {shelf} {name : String}

theorem spared_refl (p : Platform) : shelf.Spared name p p :=
  fun ordered numbered => ⟨⟨ordered, numbered⟩, fun _ _ member _ => member⟩

theorem spared_trans (p q r : Platform) (first : shelf.Spared name p q)
    (second : shelf.Spared name q r) : shelf.Spared name p r := by
  intro ordered numbered
  obtain ⟨⟨ordered, numbered⟩, before⟩ := first ordered numbered
  obtain ⟨sound, after⟩ := second ordered numbered
  exact ⟨sound, fun x e member other => after x e (before x e member other) other⟩

theorem spared_run (tidy : shelf.Tidy) {es : List Effect} (noWrite : shelf.write ∉ es)
    (noRemoval : shelf.remove ∉ es) {β : Type} {program : Remote β}
    (asks : program.Asks (Call.Within es)) : program.Keeps Platform.handler (shelf.Spared name) := by
  intro p ordered numbered
  refine ⟨⟨ordered_run _ ordered, invariant_run numbered_handler _ p numbered⟩, fun x e member _ => ?_⟩
  rw [tidy.steady ((confined_run asks p).data x) noWrite noRemoval]
  exact member

/-- What is put under an id takes the place of nothing else. -/
theorem mem_of_put {p : Platform} {id : String} {a : α}
    (own : ∀ e ∈ shelf.entries (p.data w), e.1 = id → shelf.called name e = true) {x : String}
    {e : String × α} (member : e ∈ shelf.entries (p.data x)) (other : shelf.called name e = false) :
    e ∈ shelf.entries ((p.modifyData w fun data =>
      shelf.place (Keyed.insert id a (shelf.entries data)) data).data x) := by
  by_cases here : x = w
  · subst here
    rw [data_modifyData_same, shelf.entries_place]
    refine Keyed.mem_insert_of_ne member (fun same => ?_) a
    rw [own e member same] at other
    cases other
  · rw [data_modifyData_other p _ here]
    exact member

theorem entry_unique {p : Platform} (ordered : p.Ordered) {w : String} {e x : String × α}
    (one : e ∈ shelf.entries (p.data w)) (other : x ∈ shelf.entries (p.data w)) (same : x.1 = e.1) :
    x = e := by
  have first := Keyed.find?_of_mem (shelf.ascending _ (ordered w)) one
  have second := Keyed.find?_of_mem (shelf.ascending _ (ordered w)) other
  rw [same, first] at second
  exact Prod.ext same (Option.some.inj second).symm

theorem spared_apply (tidy : shelf.Tidy) {p : Platform} {d : δ} {plan : UpsertPlan}
    (fits : shelf.Fits (shelf.nameOf d) (shelf.entries (p.data w)) plan) :
    shelf.Spared (shelf.nameOf d) p
      (((Scope.apply d plan).through (shelf.embedding w)).run Platform.handler p).2 := by
  intro ordered numbered
  refine ⟨⟨ordered_run _ ordered, invariant_run numbered_handler _ p numbered⟩, ?_⟩
  intro x e member other
  rw [shelf.run_through]
  cases plan with
  | create =>
    unfold Scope.apply Objects.create
    rw [run_bind, run_request]
    cases decision : p.rejects (shelf.key (.create d)) with
    | true =>
      rw [shelf.handler_rejected w decision]
      exact member
    | false =>
      rw [shelf.handler_accepted w decision]
      rcases shelf.creates w d (p.record (shelf.key (.create d))) with
        ⟨f, refused⟩ | ⟨id, a, q, unchanged, -, -, answered⟩
      · rw [refused]
        exact member
      · have own := tidy.fresh (p := p.record (shelf.key (.create d))) numbered answered
        have stays := mem_of_put (p := p) (a := a) w own member other
        rw [← data_modifyData_congr (p := p) unchanged] at stays
        rw [answered]
        exact stays
  | update existing =>
    obtain ⟨⟨id, old⟩, alone, rfl⟩ := fits
    have among : (id, old) ∈ (shelf.entries (p.data w)).filter (shelf.called (shelf.nameOf d)) :=
      alone ▸ List.mem_singleton_self _
    obtain ⟨there, carries⟩ := List.mem_filter.mp among
    have found := Keyed.find?_of_mem (shelf.ascending _ (ordered w)) there
    unfold Scope.apply Objects.update
    rw [run_bind, run_request, shelf.reference_id]
    cases decision : p.rejects (shelf.key (.update id d)) with
    | true =>
      rw [shelf.handler_rejected w decision]
      exact member
    | false =>
      rw [shelf.handler_accepted w decision, shelf.updates w id d (p.record _) old found]
      refine mem_of_put (p := p.record (shelf.key (.update id d))) w ?_ member other
      intro x member same
      rw [entry_unique ordered there member same]
      exact carries

end Shelf
end Provisioning
