import Provisioning.Proofs.Chain.Views
import Provisioning.Proofs.Engine.Completed

/-!
Whom a view belongs to.  A view and all that is granted on it go by the full name, its three parts joined by
dots.  So output ports of different full names have nothing to do with each other's views; but only where
catalogs and schemas are free of dots do different parts make different full names.  And grants may come
before their view: what the readers of a port were granted while it had no view waits under the name, and
becomes a grant on the view when the port is provisioned.
-/
namespace Provisioning

open Program Platform

/-! Full names -/

/-- Where neither list holds the separator before its place, the two places are one. -/
theorem parts_of_joined {α : Type} {dot : α} {xs ys us vs : List α} (free : dot ∉ xs) (also : dot ∉ us)
    (same : xs ++ dot :: ys = us ++ dot :: vs) : xs = us ∧ ys = vs := by
  induction xs generalizing us with
  | nil =>
    cases us with
    | nil => exact ⟨rfl, (List.cons.inj same).2⟩
    | cons u us => exact absurd ((List.cons.inj same).1 ▸ List.mem_cons_self) also
  | cons x xs ih =>
    cases us with
    | nil => exact absurd ((List.cons.inj same).1 ▸ List.mem_cons_self) free
    | cons u us =>
      obtain ⟨head, tail⟩ := List.cons.inj same
      obtain ⟨front, back⟩ := ih (fun member => free (List.mem_cons_of_mem _ member))
        (fun member => also (List.mem_cons_of_mem _ member)) tail
      exact ⟨by rw [head, front], back⟩

theorem toList_fullName (catalog schema name : String) : (fullName catalog schema name).toList =
    catalog.toList ++ '.' :: (schema.toList ++ '.' :: name.toList) := by
  simp [fullName]

namespace OutputPortSpec

/-- There is no dot in the catalog and none in the schema; in the view there may be. -/
structure Undotted (spec : OutputPortSpec) : Prop where
  catalog : '.' ∉ spec.catalog.toList
  schema : '.' ∉ spec.schema.toList

theorem names_of_viewName {spec other : OutputPortSpec} (free : spec.Undotted) (also : other.Undotted)
    (same : spec.viewName = other.viewName) :
    spec.catalog = other.catalog ∧ spec.schema = other.schema ∧ spec.view = other.view := by
  have chars := congrArg String.toList same
  rw [viewName, viewName, toList_fullName, toList_fullName] at chars
  obtain ⟨catalog, rest⟩ := parts_of_joined free.catalog also.catalog chars
  obtain ⟨schema, view⟩ := parts_of_joined free.schema also.schema rest
  exact ⟨String.toList_inj.mp catalog, String.toList_inj.mp schema, String.toList_inj.mp view⟩

/-- The full names differ; free of dots, it is enough that one of the three names does. -/
def Apart (spec other : OutputPortSpec) : Prop :=
  spec.viewName ≠ other.viewName ∨ spec.Undotted ∧ other.Undotted ∧
    (spec.catalog ≠ other.catalog ∨ spec.schema ≠ other.schema ∨ spec.view ≠ other.view)

theorem Apart.names {spec other : OutputPortSpec} (apart : spec.Apart other) :
    other.viewName ≠ spec.viewName := by
  rcases apart with names | ⟨free, also, part⟩
  · exact names.symm
  · intro same
    obtain ⟨catalog, schema, view⟩ := names_of_viewName free also same.symm
    rcases part with other | other | other
    · exact other catalog
    · exact other schema
    · exact other view

end OutputPortSpec

/-- Whatever is on the platform and whatever it rejects: an operation about an output port makes no call
that has to do with the view of another, and from its beginning to its end that view and the grants on it
are the same. -/
theorem sameView_run_of_apart {s : Settings} {spec other : OutputPortSpec} {o : Operation}
    (about : o.About s spec) (apart : spec.Apart other) (p : Platform) :
    (∀ x ∈ (o.program s).trace handler p,
      other.viewName ∉ x.1.view? ∧ p.SameView other.viewName x.2) ∧
    p.SameView other.viewName ((o.program s).run handler p).2 := by
  have only := o.poses_onlyView about p
  obtain ⟨along, last⟩ := keeps_along (R := Platform.SameView other.viewName) sameView_refl sameView_trans
    (sameView_of_onlyView apart.names) only
  refine ⟨fun x member => ⟨fun touched => ?_, along x member⟩, last⟩
  exact apart.names (only x member _ touched)

/-- The readers of the sales view are set, and another view of its schema stays as it is. -/
theorem sameView_sales_of_apart : ∃ a spec,
    (Request.ofDescriptor salesRequest.descriptor).accept nightlySettings.templates = .ok a ∧
    a.classified = .outputPort spec ∧
    tablePlatform.SameView "c.s.w" (((Operation.access salesRequest).program nightlySettings).run handler
      tablePlatform).2 := by
  obtain ⟨a, spec, accepted, port, -, called⟩ := salesRequest_accepted
  have apart : spec.Apart ⟨"w", "c", "s", "w", ⟨"c", "s", "t"⟩⟩ := .inl (by rw [called]; decide)
  exact ⟨a, spec, accepted, port, (sameView_run_of_apart (.access accepted port) apart tablePlatform).2⟩

/-- The description of an output port in a catalog and a schema of these names. -/
def portDescription (catalog schema : String) : Request := .ofDescriptor <| String.ofList <|
  List.flatMap String.toList
    ["dataProduct:\n", " id: d\n", " name: n\n", " environment: e\n", " dataProductOwner: user:a_b\n",
      " devGroup: group:g\n", " components:\n", " - id: c\n", "   name: c\n", "   kind: outputport\n",
      "   useCaseTemplateId: t\n", "   specific:\n", "    workspace: w\n", "    catalogName: ", catalog, "\n",
      "    schemaName: ", schema, "\n", "    viewName: v\n", "    sourceTable:\n", "     catalogName: c\n",
      "     schemaName: s\n", "     tableName: t\n", "componentIdToProvision: c"]

theorem portDescription_accepted : ∀ x ∈ [("a.b", "c"), ("a", "b.c")], ∃ a spec,
    (portDescription x.1 x.2).accept nightlySettings.templates = .ok a ∧ a.classified = .outputPort spec ∧
    spec.workspace = "w" ∧ spec.catalog = x.1 ∧ spec.schema = x.2 ∧ spec.view = "v" := by
  have read : ∀ x ∈ [("a.b", "c"), ("a", "b.c")],
      ((portDescription x.1 x.2).accept nightlySettings.templates).toOption.any (fun a =>
        a.classified.port?.any fun spec => spec.workspace == "w" && (spec.catalog == x.1 &&
          (spec.schema == x.2 && spec.view == "v"))) = true := by
    simp only [portDescription, Request.accept_ofList]
    decide +kernel
  intro x member
  obtain ⟨a, spec, accepted, port, names⟩ := Request.accepts_port_of_check (read x member)
  simp only [Bool.and_eq_true, beq_iff_eq] at names
  exact ⟨a, spec, accepted, port, names⟩

theorem dotted_provisioning_makes_view :
    ((((portDescription "a.b" "c").execute nightlySettings .provision).run handler tablePlatform).2.data
      "w").views.keys = ["a.b.c.v"] := by
  rw [portDescription, Request.execute, Request.accept_ofList]
  decide +kernel

/-- Two output ports of other catalogs and other schemas that are one view: neither had one, the first is
provisioned, and the second has a view. -/
theorem dotted_ports_viewName_eq : ∃ a spec b other,
    (portDescription "a.b" "c").accept nightlySettings.templates = .ok a ∧ a.classified = .outputPort spec ∧
    (portDescription "a" "b.c").accept nightlySettings.templates = .ok b ∧ b.classified = .outputPort other ∧
    (spec.workspace = other.workspace ∧ spec.catalog ≠ other.catalog ∧ spec.schema ≠ other.schema) ∧
    Reachable tablePlatform ∧ other.viewName ∉ (tablePlatform.data other.workspace).views.keys ∧
    other.viewName ∈ ((((portDescription "a.b" "c").execute nightlySettings .provision).run handler
      tablePlatform).2.data other.workspace).views.keys := by
  obtain ⟨a, spec, accepted, port, here, catalog, schema, -⟩ := portDescription_accepted ("a.b", "c") (by simp)
  obtain ⟨b, other, acceptedToo, portToo, there, catalogToo, schemaToo, viewToo⟩ :=
    portDescription_accepted ("a", "b.c") (by simp)
  have called : other.viewName = "a.b.c.v" := by
    rw [OutputPortSpec.viewName, catalogToo, schemaToo, viewToo]
    decide
  refine ⟨a, spec, b, other, accepted, port, acceptedToo, portToo, ?_, tablePlatform_reachable, ?_⟩
  · rw [here, there, catalog, catalogToo, schema, schemaToo]
    decide
  · rw [there, called, dotted_provisioning_makes_view]
    decide

/-! What waits under a name -/

inductive Happening where
  | seeded (x : Seed)
  | injected (failures : List String)
  | operated (s : Settings) (o : Operation)

def Happening.happen : Happening → Platform → Platform
  | seeded x, p => x.plant p
  | injected failures, p => p.injecting failures
  | operated s o, p => ((o.program s).run handler p).2

namespace Platform

def afterAll (hs : List Happening) : Platform := hs.foldl (fun p h => h.happen p) {}

variable {hs : List Happening} {w n : String} {g : Grant}

theorem afterAll_snoc (hs : List Happening) (h : Happening) : afterAll (hs ++ [h]) = h.happen (afterAll hs) := by
  simp [afterAll]

theorem happen_access (s : Settings) (r : AccessRequest) (p : Platform) :
    (Happening.operated s (.access r)).happen p = ((r.execute s).run handler p).2 := rfl

theorem invariant_afterAll {P : Platform → Prop} (empty : P {})
    (happen : ∀ (h : Happening) (p : Platform), P p → P (h.happen p)) (hs : List Happening) :
    P (afterAll hs) := by
  induction hs using List.reverseRecOn with
  | nil => exact empty
  | append_singleton hs h ih =>
    rw [afterAll_snoc]
    exact happen h _ ih

theorem ordered_happen (h : Happening) (p : Platform) (ordered : p.Ordered) : (h.happen p).Ordered := by
  cases h with
  | seeded x => exact ordered_plant x p ordered
  | injected failures => exact ordered
  | operated s o => exact ordered_run (o.program s) ordered

theorem named_happen (h : Happening) (p : Platform) (named : p.Named) : (h.happen p).Named := by
  cases h with
  | seeded x => exact named_plant x p named
  | injected failures => exact named
  | operated s o => exact invariant_run named_handler (o.program s) p named

theorem ordered_afterAll (hs : List Happening) : (afterAll hs).Ordered :=
  invariant_afterAll (ordered_of_reachable (.empty : Reachable {})) ordered_happen hs

theorem named_afterAll (hs : List Happening) : (afterAll hs).Named :=
  invariant_afterAll (named_of_reachable (.empty : Reachable {})) named_happen hs

def Ungranted (hs : List Happening) : Prop := ∀ x, .seeded x ∈ hs → ¬ x.IsGrant

/-- The grant was made when the readers of a port without a view were set, and from then on it has
waited: it has been there all the time and the view has not. -/
def Waits (hs : List Happening) (w n : String) (g : Grant) : Prop :=
  ∃ before s r rest, hs = before ++ .operated s (.access r) :: rest ∧ r.Loosens s (afterAll before) w n g ∧
    ∀ part, part <+: rest → ((afterAll (before ++ .operated s (.access r) :: part)).data w).Loose n g

theorem Waits.loose (waits : Waits hs w n g) : ((afterAll hs).data w).Loose n g := by
  obtain ⟨before, s, r, rest, rfl, -, since⟩ := waits
  exact since rest (List.prefix_refl rest)

theorem Waits.snoc (waits : Waits hs w n g) {h : Happening} (still : ((afterAll (hs ++ [h])).data w).Loose n g) :
    Waits (hs ++ [h]) w n g := by
  obtain ⟨before, s, r, rest, rfl, loosens, since⟩ := waits
  refine ⟨before, s, r, rest ++ [h], by simp, loosens, fun part early => ?_⟩
  rcases List.prefix_concat_iff.mp early with rfl | early
  · simpa using still
  · exact since part early

/-- What happens last makes a loose grant only if it sets readers. -/
theorem loosens_of_happened {h : Happening} {p : Platform} (ordered : p.Ordered) (named : p.Named)
    (noGrant : ∀ x, h = .seeded x → ¬ x.IsGrant) (loose : ((h.happen p).data w).Loose n g) :
    (p.data w).Loose n g ∨ ∃ s r, h = .operated s (.access r) ∧ r.Loosens s p w n g := by
  cases h with
  | seeded x => exact .inl (loosensNone_plant (noGrant x rfl) p w n g loose)
  | injected failures => exact .inl loose
  | operated s o =>
    rcases Operation.loosens_of_loose ordered named loose with old | ⟨r, rfl, loosens⟩
    · exact .inl old
    · exact .inr ⟨s, r, rfl, loosens⟩

theorem waits_of_loose (ungranted : Ungranted hs) (loose : ((afterAll hs).data w).Loose n g) :
    Waits hs w n g := by
  induction hs using List.reverseRecOn with
  | nil => exact nomatch loose.held
  | append_singleton hs h ih =>
    have last : ∀ x, h = .seeded x → ¬ x.IsGrant := by
      rintro x rfl
      exact ungranted x (by simp)
    have earlier : Ungranted hs := fun x member => ungranted x (List.mem_append_left _ member)
    have happened := loose
    rw [afterAll_snoc] at happened
    -- a grant that is loose now was so before the last of it, or the last of it has made it so
    rcases loosens_of_happened (ordered_afterAll hs) (named_afterAll hs) last happened with
      old | ⟨s, r, rfl, loosens⟩
    · exact (ih earlier old).snoc loose
    · refine ⟨hs, s, r, [], rfl, loosens, fun part none => ?_⟩
      rw [List.prefix_nil.mp none]
      exact loose

theorem waits_iff_loose (ungranted : Ungranted hs) : Waits hs w n g ↔ ((afterAll hs).data w).Loose n g :=
  ⟨Waits.loose, waits_of_loose ungranted⟩

end Platform

/-- As long as no grant is seeded, and whatever else is done and injected before: where the provisioning of
an output port without a view is recorded as completed, the grants on its view are those that its owner and
its developer group are to have, and those that have waited for it. -/
theorem mem_grants_new_view_iff {hs : List Happening} (ungranted : Ungranted hs) {e : Engine Platform}
    {s : EngineState Platform} (meets : e.Meets s (afterAll hs)) {token : JobToken} {r : Request}
    {rest : List Task} (next : s.queue = ⟨token, .request r .provision⟩ :: rest) {a : Accepted}
    (accepted : r.accept e.settings.templates = .ok a) {spec : OutputPortSpec}
    (port : a.classified = .outputPort spec)
    (absent : spec.viewName ∉ ((afterAll hs).data spec.workspace).views.keys)
    (completed : (e.status token (e.runNext s)).status = .completed) (g : Grant) :
    g ∈ ((e.runNext s).world.data spec.workspace).grants spec.viewName ↔
      (g.principal = a.owner.externalId ∧ g.privilege ∈ e.settings.permissions.outputPort.owner) ∨
      (g.principal = a.devGroup.externalId ∧ g.privilege ∈ e.settings.permissions.outputPort.developers) ∨
      Waits hs spec.workspace spec.viewName g := by
  obtain ⟨c, answered, -⟩ := meets.answered_provision next accepted completed
  unfold Accepted.execute at answered
  rw [port] at answered
  have held := OutputPortSpec.grants_of_answered (ordered_afterAll hs) (named_afterAll hs) answered g
  have waiting : g ∈ ((afterAll hs).data spec.workspace).grants spec.viewName ↔
      Waits hs spec.workspace spec.viewName g := by
    rw [waits_iff_loose ungranted]
    exact ⟨fun old => ⟨absent, old⟩, WorkspaceData.Loose.held⟩
  rw [held, waiting, Accepted.mem_shares, or_comm, or_assoc]

def earlyRequest : AccessRequest := ⟨["user:c_d"], salesDescription.descriptor⟩

theorem earlyRequest_described : Request.ofDescriptor earlyRequest.descriptor = salesDescription := by
  unfold earlyRequest salesDescription
  exact Request.ofDescriptor_descriptor _

def earlySeeds : List Seed :=
  [.user "a@b", .user "c@d", .group "g", .workspace "w" .succeeded, .table "w" "c.s.t"]

/-- The request is made when they are there and nothing else is. -/
def earlyHistory : List Happening :=
  earlySeeds.map .seeded ++ [.operated nightlySettings (.access earlyRequest)]

namespace Platform

theorem mem_earlySeeds_of_seeded {x : Seed} (member : .seeded x ∈ earlyHistory) : x ∈ earlySeeds := by
  simpa [earlyHistory] using member

theorem earlySeeds_plain : ∀ x ∈ earlySeeds, ¬ x.IsGrant ∧ ¬ x.IsView := by
  simp [earlySeeds, Seed.IsGrant, Seed.IsView]

theorem earlyHistory_ungranted : Ungranted earlyHistory := fun x member =>
  (earlySeeds_plain x (mem_earlySeeds_of_seeded member)).1

theorem afterAll_earlyHistory : afterAll earlyHistory =
    ((earlyRequest.execute nightlySettings).run handler (afterAll (earlySeeds.map .seeded))).2 := by
  rw [earlyHistory, afterAll_snoc, happen_access]

theorem early_reader_waits : ((afterAll earlyHistory).data "w").views.keys = [] ∧
    ((afterAll earlyHistory).data "w").grants "c.s.v" = [⟨"c@d", .select⟩] := by
  rw [afterAll_earlyHistory, AccessRequest.execute, earlyRequest_described, salesDescription,
    Request.accept_ofList]
  decide +kernel

theorem late_sales_name_their_view : namedResource?
    ((salesDescription.execute nightlySettings .provision).run handler (afterAll earlyHistory)).1 =
      some "c.s.v" := by
  rw [afterAll_earlyHistory, AccessRequest.execute, earlyRequest_described, salesDescription, Request.execute,
    Request.accept_ofList]
  decide +kernel

end Platform

namespace Engine

def lateState : EngineState Platform := submittedState salesDescription .provision (afterAll earlyHistory)

theorem lateState_meets : nightlyEngine.Meets lateState (afterAll earlyHistory) :=
  submittedState_meets salesDescription .provision (afterAll earlyHistory)

theorem lateState_queue :
    lateState.queue = [⟨nightlyEngine.tokenOf 0, .request salesDescription .provision⟩] :=
  submittedState_queue salesDescription .provision (afterAll earlyHistory)

theorem lateState_completes :
    (nightlyEngine.status (nightlyEngine.tokenOf 0) (nightlyEngine.runNext lateState)).status = .completed :=
  lateState_meets.completed_of_named lateState_queue late_sales_name_their_view

theorem mem_grants_new_sales_view_iff : ∃ a spec,
    salesDescription.accept nightlySettings.templates = .ok a ∧ a.classified = .outputPort spec ∧
    (∀ g, g ∈ ((nightlyEngine.runNext lateState).world.data "w").grants "c.s.v" ↔
      (g.principal = a.owner.externalId ∧ g.privilege ∈ nightlySettings.permissions.outputPort.owner) ∨
      (g.principal = a.devGroup.externalId ∧
        g.privilege ∈ nightlySettings.permissions.outputPort.developers) ∨
      Waits earlyHistory "w" "c.s.v" g) ∧
    Waits earlyHistory "w" "c.s.v" ⟨"c@d", .select⟩ := by
  obtain ⟨a, spec, accepted, port, ⟨place, called⟩, -⟩ := salesDescription_accepted
  obtain ⟨none, waiting⟩ := early_reader_waits
  have absent : "c.s.v" ∉ ((afterAll earlyHistory).data "w").views.keys := by
    rw [none]
    exact List.not_mem_nil
  have granted := mem_grants_new_view_iff earlyHistory_ungranted lateState_meets lateState_queue accepted port
    (by rw [place, called]; exact absent) lateState_completes
  rw [place, called] at granted
  refine ⟨a, spec, accepted, port, granted, waits_of_loose earlyHistory_ungranted ⟨absent, ?_⟩⟩
  rw [waiting]
  exact List.mem_singleton_self _

/-- A user who was let in while there was no view reads it as soon as there is one, and is neither its owner
nor its developer group. -/
theorem early_reader_mem_grants : ∃ a spec,
    Ungranted earlyHistory ∧ (∀ x, .seeded x ∈ earlyHistory → ¬ x.IsView) ∧
    salesDescription.accept nightlySettings.templates = .ok a ∧ a.classified = .outputPort spec ∧
    spec.viewName ∉ ((afterAll earlyHistory).data spec.workspace).views.keys ∧
    (nightlyEngine.status (nightlyEngine.tokenOf 0) (nightlyEngine.runNext lateState)).status = .completed ∧
    ⟨"c@d", .select⟩ ∈ ((nightlyEngine.runNext lateState).world.data spec.workspace).grants spec.viewName ∧
    "c@d" ≠ a.owner.externalId ∧ "c@d" ≠ a.devGroup.externalId := by
  obtain ⟨a, spec, accepted, port, ⟨place, called⟩, owner, devGroup⟩ := salesDescription_accepted
  obtain ⟨none, waiting⟩ := early_reader_waits
  obtain ⟨c, answered, -⟩ := lateState_meets.answered_provision lateState_queue accepted lateState_completes
  unfold Accepted.execute at answered
  rw [port] at answered
  have shown := OutputPortSpec.shown_of_answered (ordered_afterAll _) (named_afterAll _) answered
  refine ⟨a, spec, earlyHistory_ungranted, fun x member => ?_, accepted, port, ?_, lateState_completes,
    ?_, ?_, ?_⟩
  · exact (earlySeeds_plain x (mem_earlySeeds_of_seeded member)).2
  · rw [place, called, none]
    exact List.not_mem_nil
  · rw [place, called]
    refine shown.kept "w" "c.s.v" ?_
    rw [waiting]
    exact List.mem_singleton_self _
  · rw [owner]
    decide
  · rw [devGroup]
    decide

end Engine
end Provisioning
