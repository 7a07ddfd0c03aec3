import Provisioning.Proofs.Chain.Custody

/-!
What views stand on.  A view that provisioning has put in place is kept under its own full name, and
the table that it reads, its catalog and its schema are there.  The gateway would let a view be
written without them; the chain writes none before it has seen to all three, and nothing that the
engine can do takes one of them away again.
-/
namespace Provisioning

open Platform Program

variable {α β : Type} {p q : Platform} {s : Settings} {a : Accepted}

namespace WorkspaceData

structure Backs (d : WorkspaceData) (e : String × ViewDefinition) : Prop where
  own : e.1 = e.2.fullName
  source : e.2.sourceTable ∈ d.tables
  catalog : e.2.catalog ∈ d.catalogs
  schema : e.2.catalog ++ "." ++ e.2.schema ∈ d.schemas

def Backed (d : WorkspaceData) : Prop := ∀ e ∈ d.views, d.Backs e

variable {d d' : WorkspaceData}

theorem Backs.of_retains {es : List Effect} {e : String × ViewDefinition} (backs : d.Backs e)
    (retains : d.Retains es d') : d'.Backs e where
  own := backs.own
  source := retains.tables backs.source
  catalog := retains.catalogs backs.catalog
  schema := retains.schemas backs.schema

theorem views_of_change {e : Effect} (noWrite : e ≠ .writeView) (change : Change e d d') :
    d'.views ⊆ d.views := by
  cases change with
  | view => exact absurd rfl noWrite
  | noView id => exact fun _ member => (List.mem_filter.mp member).1
  | _ => exact fun _ member => member

theorem backed_of_change {e : Effect} (noWrite : e ≠ .writeView) (change : Change e d d')
    (backed : d.Backed) : d'.Backed := fun x member =>
  (backed x (views_of_change noWrite change member)).of_retains
    (retains_of_change (List.mem_singleton_self e) change)

theorem backed_insert (backed : d.Backed) {view : ViewDefinition} (backs : d.Backs (view.fullName, view)) :
    WorkspaceData.Backed { d with views := Keyed.insert view.fullName view d.views } := by
  intro e member
  rcases Keyed.mem_insert member with rfl | old
  · exact { backs with }
  · exact { backed e old with }

end WorkspaceData

namespace Platform

def Backed (p : Platform) : Prop := ∀ w, (p.data w).Backed

theorem backed_run {es : List Effect} (noWrite : .writeView ∉ es) {program : Remote α}
    (asks : program.Asks (Call.Within es)) (backed : p.Backed) : (program.run handler p).2.Backed := by
  refine keeps_of_asks (R := fun p q : Platform => p.Backed → q.Backed) (fun _ => id)
    (fun _ _ _ first second => second ∘ first) ?_ asks p backed
  intro c within p backed w
  have other : c.effect ≠ .writeView := fun same => noWrite (same ▸ within)
  exact WorkspaceData.backed_of_change other (change_handler p w c) (backed w)

theorem backed_bind {es : List Effect} (noWrite : .writeView ∉ es) {program : Remote α}
    {f : α → Remote β} (straight : program.Straight (Call.Within es)) (backed : p.Backed)
    (next : ∀ a q, program.run handler p = (.answered a, q) → q.Backed →
      ((f a).run handler q).2.Backed) : ((program >>= f).run handler p).2.Backed :=
  ends_bind (P := Platform.Backed) (backed_run noWrite (asks_of_straight straight) backed) next

theorem backs_of_extends {w : String} {e : String × ViewDefinition} (backs : (p.data w).Backs e)
    (grows : p.Extends q) : (q.data w).Backs e where
  own := backs.own
  source := (grows.data w).tables ▸ backs.source
  catalog := (grows.data w).catalogs ▸ backs.catalog
  schema := (grows.data w).schemas ▸ backs.schema

theorem backed_of_extends (backed : p.Backed) (grows : p.Extends q) : q.Backed := by
  intro w e member
  rw [(grows.data w).views] at member
  exact backs_of_extends (backed w e member) grows

theorem backed_modifyData (backed : p.Backed) {w : String} {f : WorkspaceData → WorkspaceData}
    (change : (f (p.data w)).Backed) : (p.modifyData w f).Backed := fun x =>
  forall_data_modifyData (P := fun d e => d.Backed → e.Backed) (fun _ => id) p w (fun _ => change) x
    (backed x)

/-- A view is put under its own name, for lookups go by that name and creations are filed under it. -/
theorem backed_of_wrote (backed : p.Backed) {w id : String} {view stored : ViewDefinition}
    (backs : (p.data w).Backs (view.fullName, view)) (wrote : Shelf.views.Wrote w view p q id stored) :
    q.Backed := by
  have own : id = view.fullName := by
    have called := wrote.called view.fullName
    change (id == view.fullName) = (view.fullName == view.fullName) at called
    rw [beq_self_eq_true] at called
    exact beq_iff_eq.mp called
  have same : stored = view := wrote.definition
  subst own same
  have put := backed_modifyData backed (w := w)
    (f := fun data => { data with views := Keyed.insert stored.fullName stored data.views })
    (WorkspaceData.backed_insert (backed w) backs)
  intro x
  rw [wrote.data]
  exact put x

theorem backed_upsert (ordered : p.Ordered) (backed : p.Backed) {w : String} (view : ViewDefinition)
    (backs : (p.data w).Backs (view.fullName, view)) (s : Scope) :
    (((s.upsert view.fullName view).through (Shelf.views.embedding w)).run handler p).2.Backed := by
  rcases Shelf.views.run_upsert w s (d := view) ordered with
    ⟨f, q, refused, grows⟩ | ⟨outcome, r, q, stored, answered, grows, wrote⟩
  · exact (congrArg (Platform.Backed ·.2) refused).mpr (backed_of_extends backed grows)
  · exact (congrArg (Platform.Backed ·.2) answered).mpr
      (backed_of_wrote (backed_of_extends backed grows) (backs_of_extends backs grows) wrote)

end Platform

/-! Provisioning -/

theorem OutputPortSpec.backs_definition {spec : OutputPortSpec} {comment : Option String} {w : String}
    (schema : p.HasSchema w spec.catalog spec.schema)
    (source : (p.data w).tables.contains spec.source.fullName = true) :
    (p.data w).Backs ((spec.definition comment).fullName, spec.definition comment) where
  own := rfl
  source := List.contains_iff_mem.mp source
  catalog := schema.1
  schema := schema.2

/-- Wherever the chain stops: the view is not written before all that it needs has been seen to. -/
theorem OutputPortSpec.backed_provision (spec : OutputPortSpec) (s : Settings) (a : Accepted)
    (ordered : p.Ordered) (backed : p.Backed) : ((spec.provision s a).run handler p).2.Backed := by
  refine backed_bind (by decide) (existingWorkspace_straight _) backed fun v p₁ found backed => ?_
  refine backed_bind (by decide) (Session.start_straight _) backed fun session p₂ started backed => ?_
  have asks : ∀ c : CatalogCall, (InnerCall.catalog c).effect ∈ [Effect.nothing, .makeCatalog] →
      (session.catalog c).Straight (Call.Within [.nothing, .makeCatalog]) := fun c =>
    session.ask_straight (.catalog c)
  have catalog := asks (.ensureCatalog spec.catalog) (by simp [InnerCall.effect])
  refine backed_bind (by decide) catalog backed fun _ p₃ catalogMade backed => ?_
  have schema := asks (.ensureSchema spec.catalog spec.schema) (by simp [InnerCall.effect])
  refine backed_bind (by decide) schema backed fun _ p₄ schemaMade backed => ?_
  have table := asks (.tableExists spec.source.fullName) (by simp [InnerCall.effect])
  refine backed_bind (by decide) table backed fun there p₅ looked backed => ?_
  cases there with
  | false => exact backed
  | true =>
    -- only from here on is a view written, and by now its table, catalog and schema have been seen
    obtain ⟨source, looking⟩ := Session.answered_tableExists looked
    have schema := (Session.answered_ensureSchema schemaMade).of_confined List.not_mem_nil
      (confined_of_extends looking)
    have orderedThen : p₅.Ordered := ordered_of_run looked <| ordered_of_run schemaMade <|
      ordered_of_run catalogMade <| ordered_of_run started <| ordered_of_run found ordered
    have backs : (p₅.data session.workspace.name).Backs
        ((spec.definition a.component.description).fullName, spec.definition a.component.description) :=
      backs_definition schema source
    refine ends_bind (P := Platform.Backed) (backed_upsert orderedThen backed _ backs (session.scope .view))
      fun _ p₆ written backed => ?_
    refine backed_bind (by decide) (session.grantAll_straight _ _ _) backed fun _ p₇ granted backed => ?_
    refine backed_bind (by decide) (session.grantAll_straight _ _ _) backed fun _ p₈ granted backed => ?_
    exact backed

theorem Shelf.respects_backed {δ α : Type} {shelf : Shelf δ α} (noView : shelf.write ≠ .writeView)
    (name : String) : shelf.Respects name fun p q => p.Backed → q.Backed where
  refl _ backed := backed
  trans _ _ _ first second backed := second (first backed)
  other asks _ backed := backed_run (by decide) asks backed
  write w _ _ _ _ _ backed := by
    have noWrite : Effect.writeView ∉ [shelf.write] := by simpa using noView.symm
    exact backed_run noWrite (asks_of_straight (shelf.through_straight w (Scope.apply_straight _ _))) backed

theorem Accepted.backed_provision (a : Accepted) (s : Settings) (sound : Rule.broken a.classified.rules = [])
    (ordered : p.Ordered) (backed : p.Backed) : ((a.execute s .provision).run handler p).2.Backed := by
  rcases Classified.names_of_sound sound with ⟨reason, unsupported⟩ | ⟨δ, α, shelf, w, name, names⟩
  · unfold execute
    rw [unsupported]
    exact backed
  · generalize class_ : a.classified = c at names
    cases names with
    | outputPort spec =>
      unfold execute
      rw [class_]
      exact spec.backed_provision s a ordered backed
    | workload main =>
      have noView : shelf.write ≠ .writeView := by cases main <;> decide
      rw [← class_] at main
      exact a.keeps_provision (.workload main) sound (shelf.respects_backed noView name) p backed

/-- The view of an output port is there as it is requested, its people hold what they are to have on
it, and nobody has lost a grant. -/
structure OutputPortSpec.Shown (spec : OutputPortSpec) (s : Settings) (a : Accepted) (p q : Platform) :
    Prop where
  view : (q.data spec.workspace).views.find? spec.viewName = some (spec.definition a.component.description)
  backs : (q.data spec.workspace).Backs (spec.viewName, spec.definition a.component.description)
  owner : ∀ privilege ∈ s.permissions.outputPort.owner,
    ⟨a.owner.externalId, privilege⟩ ∈ (q.data spec.workspace).grants spec.viewName
  developers : ∀ privilege ∈ s.permissions.outputPort.developers,
    ⟨a.devGroup.externalId, privilege⟩ ∈ (q.data spec.workspace).grants spec.viewName
  kept : ∀ w view, (p.data w).grants view ⊆ (q.data w).grants view

theorem OutputPortSpec.shown_of_answered {spec : OutputPortSpec} {c : Completion} (ordered : p.Ordered)
    (named : p.Named) (answered : (spec.provision s a).run handler p = (.answered c, q)) :
    spec.Shown s a p q := by
  obtain ⟨w, id, published, -⟩ := answered_provision ordered answered
  have place : w.name = spec.workspace := name_of_hasReady (named _) answered published.ready
  have retains := retains_run (asks_of_straight (spec.provision_straight s a)) p
  rw [answered] at retains
  obtain ⟨stored, defined, only⟩ := published.view
  have among := List.mem_filter.mp (only ▸ List.mem_singleton_self (id, stored))
  have own : id = spec.viewName := beq_iff_eq.mp among.2
  have same : stored = spec.definition a.component.description := defined
  have orderedThen : q.Ordered := ordered_of_run answered ordered
  have schema := published.schema
  have source := published.source
  have owner := published.owner
  have developers := published.developers
  rw [place] at among schema source owner developers
  subst own same
  exact {
    view := Keyed.find?_of_mem (orderedThen spec.workspace).views among.1
    backs := backs_definition schema source
    owner := owner
    developers := developers
    kept := fun w => (retains.data w).grants (by decide) (by decide) }

/-! All that can happen -/

def Seed.IsView : Seed → Prop
  | .view _ _ => True
  | _ => False

namespace Platform

theorem backed_plant {x : Seed} (noView : ¬ x.IsView) (backed : p.Backed) : (x.plant p).Backed := by
  cases x with
  | view => exact absurd trivial noView
  | job w d =>
    simp only [Seed.plant, seedJob]
    exact backed_modifyData (p := p.spendId) backed (by exact fun e member => { backed w e member with })
  | pipeline w d =>
    simp only [Seed.plant, seedPipeline]
    exact backed_modifyData (p := p.spendId) backed (by exact fun e member => { backed w e member with })
  | table w fullName =>
    simp only [Seed.plant, seedTable]
    refine backed_modifyData backed ?_
    exact fun e member => { backed w e member with source := subset_addOnce _ _ (backed w e member).source }
  | grant w fullName g =>
    simp only [Seed.plant, seedGrant]
    exact backed_modifyData backed (by exact fun e member => { backed w e member with })
  | workspaceState name state =>
    simp only [Seed.plant, setWorkspaceState]
    split <;> exact backed
  | _ => exact backed

theorem backed_operation (s : Settings) (o : Operation) (ordered : p.Ordered) (backed : p.Backed) :
    ((o.program s).run handler p).2.Backed := by
  cases o with
  | work work =>
    cases work with
    | request r direction =>
      change ((r.execute s direction).run handler p).2.Backed
      cases accepted : r.accept s.templates with
      | error f =>
        rw [Request.execute, accepted]
        exact backed
      | ok a =>
        rw [Request.execute_of_accept accepted]
        cases direction with
        | provision => exact a.backed_provision s (Request.sound_of_accept accepted) ordered backed
        | unprovision => exact backed_run (by decide) (a.unprovision_asks s) backed
    | readBack r => exact backed_run (by decide) (asks_of_straight (r.execute_straight s)) backed
  | access r => exact backed_run (by decide) (r.execute_asks s) backed

/-- The states that come from the empty platform when no view is seeded, whatever is injected and
whatever the engine is asked to do. -/
inductive WithoutSeededViews : Platform → Prop where
  | empty : WithoutSeededViews {}
  | seeded {p : Platform} (x : Seed) : WithoutSeededViews p → ¬ x.IsView → WithoutSeededViews (x.plant p)
  | injected {p : Platform} (failures : List String) :
      WithoutSeededViews p → WithoutSeededViews (p.injecting failures)
  | operated {p : Platform} (s : Settings) (o : Operation) : WithoutSeededViews p →
      WithoutSeededViews ((o.program s).run handler p).2

theorem backed_of_reached (reached : p.WithoutSeededViews) : p.Ordered ∧ p.Backed := by
  induction reached with
  | empty =>
    have start : Reachable {} := .empty
    exact ⟨ordered_of_reachable start, fun _ _ member => nomatch member⟩
  | seeded x _ noView ih => exact ⟨ordered_plant x _ ih.1, backed_plant noView ih.2⟩
  | injected failures _ ih => exact ih
  | operated s o _ ih => exact ⟨ordered_run _ ih.1, backed_operation s o ih.1 ih.2⟩

end Platform
end Provisioning
