import Provisioning.Proofs.Chain.Catalog
import Provisioning.Proofs.Platform.Views

/-!
Which views the chains have to do with.  A chain about an output port comes to ask for no view but the one
under its own full name, so it leaves every other one alone.  Grants become loose only where the readers of
an output port are set that has no view, for provisioning grants on the view that it has just put in place,
and what is taken away goes with its grants.
-/
namespace Provisioning

open Program Platform

variable {α : Type} {n : String} {p q : Platform}

/-! One view -/

theorem onlyView_of_straight {es : List Effect} {program : Remote α}
    (straight : program.Straight (Call.Within es)) (others : ∀ e ∈ es, e ∉ Effect.viewing) :
    program.Asks (Call.OnlyView n) :=
  asks_mono (Call.onlyView_of_within others) (asks_of_straight straight)

namespace Shelf

theorem answered_listByName {δ β : Type} (shelf : Shelf δ β) (w : String) {name : String}
    {found : List ResourceRef}
    (answered : (Objects.listByName name).run (shelf.handler w) p = (.answered found, q)) :
    found = ((shelf.entries (p.data w)).filter (shelf.called name)).map shelf.reference := by
  unfold Objects.listByName at answered
  rw [run_request] at answered
  cases decision : p.rejects (shelf.key (.listByName name)) with
  | true =>
    rw [shelf.handler_rejected w decision] at answered
    cases answered
  | false =>
    rw [shelf.handler_accepted w decision, shelf.lists] at answered
    cases answered
    rfl

variable (w : String)

theorem views_onlyView {program : Program (objects ViewDefinition) α}
    (asks : program.Asks fun c => (InnerCall.views c).view? = none ∨ (InnerCall.views c).view? = some n) :
    (program.through (views.embedding w)).Asks (Call.OnlyView n) := by
  refine asks_through (asks_mono (fun c about m member => ?_) asks)
  have told : (InnerCall.views c).view? = some m := member
  rcases about with none | own
  · rw [none] at told
    cases told
  · rw [own] at told
    exact (Option.some.inj told).symm

theorem upsert_poses_onlyView (s : Scope) (d : ViewDefinition) (p : Platform) :
    ((s.upsert d.fullName d).through (views.embedding w)).Poses Platform.handler
      (Call.OnlyView d.fullName) p := by
  rw [Scope.upsert, through_bind]
  have lookup : (s.plan d.fullName : Program (objects ViewDefinition) UpsertPlan).Asks fun c =>
      (InnerCall.views c).view? = none ∨ (InnerCall.views c).view? = some d.fullName :=
    asks_bind (asks_request (.inl rfl)) fun _ => asks_done _
  refine poses_bind (poses_of_asks (views_onlyView w lookup) p) fun plan q planned => ?_
  rw [views.run_through] at planned
  -- an update is made under the id that the lookup has found, and that is the name
  have fits : views.Fits d.fullName (p.data w).views plan := by
    obtain ⟨_, -, ⟨f, refused⟩ | ⟨found, answered, fits⟩⟩ := views.run_plan w s d.fullName p
    · rw [planned] at refused
      cases refused
    · rw [planned] at answered
      cases answered
      exact fits
  refine poses_of_asks (views_onlyView w ?_) q
  cases plan with
  | create => exact asks_bind (asks_request (.inr rfl)) fun _ => asks_done _
  | update existing =>
    obtain ⟨e, alone, rfl⟩ := fits
    have among : e ∈ (p.data w).views.filter (views.called d.fullName) := alone ▸ List.mem_singleton_self e
    have own : e.1 = d.fullName := eq_of_beq (List.mem_filter.mp among).2
    exact asks_bind (asks_request (.inr (congrArg some own))) fun _ => asks_done _

theorem removeAll_poses_onlyView (s : Scope) (n : String) (p : Platform) :
    ((s.removeAll n).through (views.embedding w)).Poses Platform.handler (Call.OnlyView n) p := by
  rw [Scope.removeAll, through_bind]
  have lookup : (Objects.listByName n : Program (objects ViewDefinition) (List ResourceRef)).Asks fun c =>
      (InnerCall.views c).view? = none ∨ (InnerCall.views c).view? = some n := asks_request (.inl rfl)
  refine poses_bind (poses_of_asks (views_onlyView w lookup) p) fun found q listed => ?_
  rw [views.run_through] at listed
  have own : ∀ r ∈ found, r.id = n := by
    rw [views.answered_listByName w listed]
    intro r member
    obtain ⟨e, among, rfl⟩ := List.mem_map.mp member
    exact eq_of_beq (List.mem_filter.mp among).2
  refine poses_of_asks (views_onlyView w ?_) q
  refine asks_bind (asks_each_mem fun r member => ?_) fun _ => asks_bind (asks_done _) fun _ => asks_done _
  exact asks_bind (asks_attempt (asks_request (.inr (congrArg some (own r member))))) fun _ => asks_done _

end Shelf

namespace Session

variable (s : Session)

theorem grant_onlyView (principal : Principal) (privilege : CatalogPrivilege) :
    (s.catalog (.grant n principal privilege)).Asks (Call.OnlyView n) :=
  asks_request fun _ member => (Option.some.inj member).symm

theorem resolve_onlyView (r : PrincipalRef) : (s.resolve r).Asks (Call.OnlyView n) :=
  onlyView_of_straight (s.resolve_straight r) (by decide)

theorem grantAll_onlyView (r : PrincipalRef) (ps : List CatalogPrivilege) :
    (s.grantAll n r ps).Asks (Call.OnlyView n) :=
  asks_bind (s.resolve_onlyView r) fun principal =>
    asks_bind (asks_each (fun privilege => s.grant_onlyView principal privilege) ps) fun _ => asks_done _

end Session

namespace OutputPortSpec

variable (spec : OutputPortSpec) (s : Settings) (a : Accepted) (p : Platform)

theorem provision_poses_onlyView :
    (spec.provision s a).Poses handler (Call.OnlyView spec.viewName) p := by
  have catalog : ∀ (session : Session) (c : CatalogCall), (InnerCall.catalog c).view? = none →
      (session.catalog c).Asks (Call.OnlyView spec.viewName) := fun session c none =>
    asks_request (Call.onlyView_of_none none)
  have way := onlyView_of_straight (n := spec.viewName) (existingWorkspace_straight spec.workspace) (by decide)
  refine poses_bind (poses_of_asks way p) fun v p₁ _ => ?_
  have started := onlyView_of_straight (n := spec.viewName) (Session.start_straight v) (by decide)
  refine poses_bind (poses_of_asks started p₁) fun session p₂ _ => ?_
  refine poses_bind (poses_of_asks (catalog session _ rfl) p₂) fun _ p₃ _ => ?_
  refine poses_bind (poses_of_asks (catalog session _ rfl) p₃) fun _ p₄ _ => ?_
  refine poses_bind (poses_of_asks (catalog session _ rfl) p₄) fun there p₅ _ => ?_
  cases there with
  | false => exact poses_of_asks (asks_done _) p₅
  | true =>
    refine poses_bind (Shelf.upsert_poses_onlyView session.workspace.name _
      (spec.definition a.component.description) p₅) fun _ p₆ _ => poses_of_asks ?_ p₆
    exact asks_bind (session.grantAll_onlyView _ _) fun _ =>
      asks_bind (session.grantAll_onlyView _ _) fun _ => asks_done _

theorem unprovision_poses_onlyView : spec.unprovision.Poses handler (Call.OnlyView spec.viewName) p := by
  have way := onlyView_of_straight (n := spec.viewName) (workspaceIfAny_straight spec.workspace) (by decide)
  refine poses_bind (poses_of_asks way p) fun found p₁ _ => ?_
  cases found with
  | none => exact poses_of_asks (asks_done _) p₁
  | some v =>
    have started := onlyView_of_straight (n := spec.viewName) (Session.start_straight v) (by decide)
    refine poses_bind (poses_of_asks started p₁) fun session p₂ _ => ?_
    exact poses_bind (Shelf.removeAll_poses_onlyView session.workspace.name _ spec.viewName p₂) fun _ p₃ _ =>
      poses_of_asks (asks_done _) p₃

theorem setReaders_onlyView (refs : List String) :
    (spec.setReaders s a refs).Asks (Call.OnlyView spec.viewName) := by
  refine asks_bind (onlyView_of_straight (existingWorkspace_straight _) (by decide)) fun v => ?_
  refine asks_bind (onlyView_of_straight (Session.start_straight v) (by decide)) fun session => ?_
  refine asks_bind (asks_request (Call.onlyView_of_none rfl)) fun current => ?_
  refine asks_bind (asks_each (fun r => ?_) _) fun services => asks_bind (asks_each (fun g => ?_) _) fun _ =>
    asks_bind (asks_done _) fun _ => asks_done _
  · refine asks_bind (asks_attempt (asks_bind (session.resolve_onlyView r) fun principal => ?_)) fun outcome => ?_
    · exact asks_bind (session.grant_onlyView principal _) fun _ => asks_done _
    · cases outcome <;> exact asks_done _
  · exact asks_bind (asks_attempt (asks_request fun _ member => (Option.some.inj member).symm)) fun _ =>
      asks_done _

end OutputPortSpec

inductive Operation.About (s : Settings) (spec : OutputPortSpec) : Operation → Prop where
  | request {r : Request} {direction : Direction} {a : Accepted} (accepted : r.accept s.templates = .ok a)
      (port : a.classified = .outputPort spec) : About s spec (.work (.request r direction))
  | access {r : AccessRequest} {a : Accepted}
      (accepted : (Request.ofDescriptor r.descriptor).accept s.templates = .ok a)
      (port : a.classified = .outputPort spec) : About s spec (.access r)

theorem Operation.poses_onlyView {s : Settings} {spec : OutputPortSpec} {o : Operation} (about : o.About s spec)
    (p : Platform) : (o.program s).Poses handler (Call.OnlyView spec.viewName) p := by
  cases about with
  | @request r direction a accepted port =>
    change (r.execute s direction).Poses handler (Call.OnlyView spec.viewName) p
    rw [Request.execute_of_accept accepted]
    unfold Accepted.execute
    rw [port]
    cases direction with
    | provision => exact spec.provision_poses_onlyView s a p
    | unprovision => exact spec.unprovision_poses_onlyView p
  | @access r a accepted port =>
    change (r.execute s).Poses handler (Call.OnlyView spec.viewName) p
    rw [r.execute_of_accept accepted port]
    exact poses_of_asks (spec.setReaders_onlyView s a r.refs) p

/-! Loose grants -/

/-- The call grants something on this view, or it has no effect. -/
def Call.GrantsOn (w n : String) (c : Call) : Prop :=
  c.effect = .nothing ∨ ∃ principal privilege, c = .inside w (.catalog (.grant n principal privilege))

namespace Platform

variable {w : String}

theorem keys_handler_of_grantsOn {c : Call} (grants : c.GrantsOn w n) (p : Platform) (x : String) :
    ((handler c p).2.data x).views = (p.data x).views := by
  have within : c.Within [.nothing, .grant] := by
    rcases grants with quiet | ⟨principal, privilege, rfl⟩
    · exact List.mem_cons.mpr (.inl quiet)
    · exact List.mem_cons_of_mem _ List.mem_cons_self
  exact ((confined_handler within p).data x).views (by decide) (by decide)

theorem loosensNone_of_grantsOn {c : Call} (grants : c.GrantsOn w n) {p : Platform}
    (stands : n ∈ (p.data w).views.keys) : p.LoosensNone (handler c p).2 := by
  rcases grants with quiet | ⟨principal, privilege, rfl⟩
  · exact loosensNone_handler (fun granting => nomatch quiet.symm.trans granting) p
  · exact loosensNone_handler_grant stands principal privilege

theorem loosensNone_run_of_grantsOn {program : Remote α} (asks : program.Asks (Call.GrantsOn w n))
    {p : Platform} (stands : n ∈ (p.data w).views.keys) : p.LoosensNone (program.run handler p).2 := by
  -- the view has to go on standing for the next grant, so that is carried along
  let R : Platform → Platform → Prop := fun p q =>
    n ∈ (p.data w).views.keys → n ∈ (q.data w).views.keys ∧ p.LoosensNone q
  have kept : R p (program.run handler p).2 := by
    refine keeps_of_asks (R := R) ?_ ?_ ?_ asks p
    · exact fun p stands => ⟨stands, p.loosensNone_refl⟩
    · intro p q r first second stands
      obtain ⟨between, before⟩ := first stands
      obtain ⟨last, after⟩ := second between
      exact ⟨last, loosensNone_trans _ _ _ before after⟩
    · intro c grants p stands
      refine ⟨?_, loosensNone_of_grantsOn grants stands⟩
      rw [keys_handler_of_grantsOn grants]
      exact stands
  exact (kept stands).2

end Platform

theorem Session.grantAll_grantsOn (s : Session) (r : PrincipalRef) (ps : List CatalogPrivilege) :
    (s.grantAll n r ps).Asks (Call.GrantsOn s.workspace.name n) := by
  refine asks_bind ?_ fun principal => asks_bind (asks_each (fun privilege => ?_) ps) fun _ => asks_done _
  · exact asks_mono (fun c within => .inl (List.mem_singleton.mp within)) (asks_of_straight (s.resolve_straight r))
  · exact asks_request (.inr ⟨principal, privilege, rfl⟩)

namespace OutputPortSpec

variable {spec : OutputPortSpec} {s : Settings} {a : Accepted} {w : String} {g : Grant}

def publish (spec : OutputPortSpec) (a : Accepted) : Remote (WorkspaceInfo × Session × UpsertOutcome) := do
  let workspace ← existingWorkspace spec.workspace
  let session ← Session.start workspace
  session.catalog (.ensureCatalog spec.catalog)
  session.catalog (.ensureSchema spec.catalog spec.schema)
  let there ← session.catalog (.tableExists spec.source.fullName)
  if !there then Program.fail (spec.missingSource a.component.id workspace.name)
  let outcome ← session.views <|
    (session.scope .view).upsert spec.viewName (spec.definition a.component.description)
  pure (workspace, session, outcome)

def share (spec : OutputPortSpec) (s : Settings) (a : Accepted) (session : Session) : Remote Unit := do
  session.grantAll spec.viewName a.owner s.permissions.outputPort.owner
  session.grantAll spec.viewName a.devGroup s.permissions.outputPort.developers

theorem provision_eq_publish (spec : OutputPortSpec) (s : Settings) (a : Accepted) :
    ∃ report : WorkspaceInfo × Session × UpsertOutcome → Completion, spec.provision s a =
      spec.publish a >>= fun x => spec.share s a x.2.1 >>= fun _ => pure (report x) := by
  refine ⟨fun (v, _, outcome) => .provisioned outcome.reference.id
    s!"View '{spec.viewName}' provisioned in workspace '{v.name}'" (spec.info v), ?_⟩
  unfold provision publish share
  simp only [Program.bind_assoc]
  refine bind_congr fun v => bind_congr fun session => bind_congr fun _ => bind_congr fun _ =>
    bind_congr fun there => ?_
  cases there with
  | false => rfl
  | true =>
    simp only [Bool.not_true, Bool.false_eq_true, if_false, Program.bind_assoc]
    rfl

theorem publish_straight (spec : OutputPortSpec) (a : Accepted) :
    (spec.publish a).Straight (Call.Within [.nothing, .makeCatalog, .writeView]) := by
  refine straight_bind ?_ fun v => straight_bind ?_ fun session => straight_bind ?_ fun _ =>
    straight_bind ?_ fun _ => straight_bind ?_ fun there => ?_
  · exact straight_mono (Call.within_mono (by decide)) (existingWorkspace_straight _)
  · exact straight_mono (Call.within_mono (by decide)) (Session.start_straight _)
  · exact session.ask_straight _ (by simp [InnerCall.effect])
  · exact session.ask_straight _ (by simp [InnerCall.effect])
  · exact session.ask_straight _ (by simp [InnerCall.effect])
  · cases there with
    | false => exact straight_done _
    | true =>
      exact straight_bind (straight_mono (Call.within_mono (by decide)) (Shelf.views.upsert_straight _ _ _ _))
        fun _ => straight_done _

theorem stands_of_published (ordered : p.Ordered) {x : WorkspaceInfo × Session × UpsertOutcome}
    (published : (spec.publish a).run handler p = (.answered x, q)) :
    spec.viewName ∈ (q.data x.2.1.workspace.name).views.keys := by
  obtain ⟨v, p₁, found, rest⟩ := answered_bind_iff.mp published
  obtain ⟨session, p₂, started, rest⟩ := answered_bind_iff.mp rest
  obtain ⟨_, p₃, catalogMade, rest⟩ := answered_bind_iff.mp rest
  obtain ⟨_, p₄, schemaMade, rest⟩ := answered_bind_iff.mp rest
  obtain ⟨there, p₅, looked, rest⟩ := answered_bind_iff.mp rest
  cases there with
  | false => cases rest
  | true =>
    obtain ⟨outcome, p₆, written, done⟩ := answered_bind_iff.mp rest
    cases done
    have orderedThen : p₅.Ordered := ordered_of_run looked <| ordered_of_run schemaMade <|
      ordered_of_run catalogMade <| ordered_of_run started <| ordered_of_run found ordered
    obtain ⟨stored, -, only⟩ :=
      Shelf.views.answered_upsert session.workspace.name (d := spec.definition a.component.description)
        orderedThen written
    have among := List.mem_filter.mp (only ▸ List.mem_singleton_self (outcome.reference.id, stored))
    have own : outcome.reference.id = spec.viewName := eq_of_beq among.2
    rw [← own]
    exact List.mem_map_of_mem among.1

theorem loosensNone_provision (ordered : p.Ordered) :
    p.LoosensNone ((spec.provision s a).run handler p).2 := by
  obtain ⟨report, program⟩ := spec.provision_eq_publish s a
  rw [program]
  have quiet := asks_of_straight (spec.publish_straight a)
  refine ends_bind (P := p.LoosensNone) (loosensNone_run (by decide) quiet p) fun x t published reached => ?_
  have stands := stands_of_published ordered published
  have shares : (spec.share s a x.2.1 >>= fun _ => pure (report x)).Asks
      (Call.GrantsOn x.2.1.workspace.name spec.viewName) :=
    asks_bind (asks_bind (Session.grantAll_grantsOn _ _ _) fun _ => Session.grantAll_grantsOn _ _ _) fun _ =>
      asks_done _
  exact loosensNone_trans _ _ _ reached (loosensNone_run_of_grantsOn shares stands)

end OutputPortSpec

/-! What is granted -/

def Call.GrantsAmong (gs : List Grant) (c : Call) : Prop := ∀ g ∈ c.grant?, g ∈ gs

theorem Call.grantsAmong_of_effect {gs : List Grant} {c : Call} (noGrant : c.effect ≠ .grant) :
    c.GrantsAmong gs := by
  intro m member
  cases c with
  | inside w c =>
    cases c with
    | catalog c =>
      cases c with
      | grant => exact absurd rfl noGrant
      | _ => cases member
    | _ => cases member
  | _ => cases member

theorem grantsAmong_of_straight {es : List Effect} (gs : List Grant) {program : Remote α}
    (straight : program.Straight (Call.Within es)) (noGrant : .grant ∉ es) :
    program.Asks (Call.GrantsAmong gs) :=
  asks_mono (fun _ within => Call.grantsAmong_of_effect fun same => noGrant (same ▸ within))
    (asks_of_straight straight)

theorem Platform.grants_of_poses {gs : List Grant} {program : Remote α}
    (poses : program.Poses handler (Call.GrantsAmong gs) p) {w : String} {g : Grant}
    (held : g ∈ ((program.run handler p).2.data w).grants n) : g ∈ (p.data w).grants n ∨ g ∈ gs := by
  let R : Platform → Platform → Prop := fun p q => ∀ g ∈ (q.data w).grants n, g ∈ (p.data w).grants n ∨ g ∈ gs
  have kept : R p (program.run handler p).2 := by
    refine (keeps_along (R := R) (fun _ _ => .inl) ?_ ?_ poses).2
    · exact fun p q r first second g held => (second g held).elim (first g) .inr
    · exact fun c among p g held => (grants_handler held).imp_right (among g)
  exact kept g held

theorem Session.grantAll_poses_grantsAmong (s : Session) {gs : List Grant} {r : PrincipalRef}
    {ps : List CatalogPrivilege} (among : ∀ privilege ∈ ps, ⟨r.externalId, privilege⟩ ∈ gs) (view : String)
    (p : Platform) : (s.grantAll view r ps).Poses handler (Call.GrantsAmong gs) p := by
  have resolving := grantsAmong_of_straight gs (s.resolve_straight r) (by decide)
  refine poses_bind (poses_of_asks resolving p) fun principal q resolved => poses_of_asks ?_ q
  obtain ⟨-, rfl, -⟩ := answered_resolve resolved
  refine asks_bind (asks_each_mem fun privilege member => ?_) fun _ => asks_done _
  exact asks_request fun g made => Option.some.inj made ▸ among privilege member

def Accepted.shares (a : Accepted) (s : Settings) : List Grant :=
  s.permissions.outputPort.owner.map (⟨a.owner.externalId, ·⟩) ++
    s.permissions.outputPort.developers.map (⟨a.devGroup.externalId, ·⟩)

theorem Accepted.mem_shares {a : Accepted} {s : Settings} {g : Grant} : g ∈ a.shares s ↔
    (g.principal = a.owner.externalId ∧ g.privilege ∈ s.permissions.outputPort.owner) ∨
      (g.principal = a.devGroup.externalId ∧ g.privilege ∈ s.permissions.outputPort.developers) := by
  obtain ⟨name, privilege⟩ := g
  simp only [shares, List.mem_append, List.mem_map, Grant.mk.injEq]
  constructor
  · rintro (⟨_, member, rfl, rfl⟩ | ⟨_, member, rfl, rfl⟩)
    · exact .inl ⟨rfl, member⟩
    · exact .inr ⟨rfl, member⟩
  · rintro (⟨rfl, member⟩ | ⟨rfl, member⟩)
    · exact .inl ⟨_, member, rfl, rfl⟩
    · exact .inr ⟨_, member, rfl, rfl⟩

namespace OutputPortSpec

variable {spec : OutputPortSpec} {s : Settings} {a : Accepted}

theorem provision_poses_grantsAmong (p : Platform) :
    (spec.provision s a).Poses handler (Call.GrantsAmong (a.shares s)) p := by
  obtain ⟨report, program⟩ := spec.provision_eq_publish s a
  rw [program]
  have quiet := grantsAmong_of_straight (a.shares s) (spec.publish_straight a) (by decide)
  refine poses_bind (poses_of_asks quiet p) fun x q _ => poses_bind ?_ fun _ t _ => poses_of_asks (asks_done _) t
  refine poses_bind ?_ fun _ t _ => ?_
  · exact x.2.1.grantAll_poses_grantsAmong (fun _ member => Accepted.mem_shares.mpr (.inl ⟨rfl, member⟩)) _ q
  · exact x.2.1.grantAll_poses_grantsAmong (fun _ member => Accepted.mem_shares.mpr (.inr ⟨rfl, member⟩)) _ t

/-- A completed provisioning adds to what is held on its view exactly what the owner and the developer
group are to hold. -/
theorem grants_of_answered {c : Completion} (ordered : p.Ordered) (named : p.Named)
    (answered : (spec.provision s a).run handler p = (.answered c, q)) (g : Grant) :
    g ∈ (q.data spec.workspace).grants spec.viewName ↔
      g ∈ (p.data spec.workspace).grants spec.viewName ∨ g ∈ a.shares s := by
  have shown := shown_of_answered ordered named answered
  constructor
  · intro held
    have run : ((spec.provision s a).run handler p).2 = q := congrArg Prod.snd answered
    rw [← run] at held
    exact grants_of_poses (provision_poses_grantsAmong p) held
  · rintro (old | shared)
    · exact shown.kept _ _ old
    · obtain ⟨name, privilege⟩ := g
      rcases Accepted.mem_shares.mp shared with ⟨rfl, member⟩ | ⟨rfl, member⟩
      · exact shown.owner privilege member
      · exact shown.developers privilege member

end OutputPortSpec

/-! Operations -/

/-- Setting the readers of an output port that has no view lets this grant be loose. -/
structure AccessRequest.Loosens (r : AccessRequest) (s : Settings) (p : Platform) (w n : String) (g : Grant) :
    Prop where
  port : ∃ a spec, (Request.ofDescriptor r.descriptor).accept s.templates = .ok a ∧
    a.classified = .outputPort spec ∧ spec.workspace = w ∧ spec.viewName = n
  absent : n ∉ (p.data w).views.keys
  privilege : g.privilege = s.permissions.outputPort.consumers
  reader : ∃ x ∈ OutputPortSpec.readersOf r.refs, x.externalId = g.principal

variable {s : Settings} {w : String} {g : Grant}

theorem AccessRequest.loosens_of_loose {r : AccessRequest} (named : p.Named)
    (loose : (((r.execute s).run handler p).2.data w).Loose n g) :
    (p.data w).Loose n g ∨ r.Loosens s p w n g := by
  have confined := confined_run (r.execute_asks s) p
  have absent : n ∉ (p.data w).views.keys := by
    rw [← (confined.data w).views (by decide) (by decide)]
    exact loose.absent
  rcases r.fails_or_accepts s with ⟨f, fails⟩ | ⟨a, spec, accepted, port⟩
  · rw [fails] at loose
    exact .inl loose
  · have outcome := AccessRequest.run_setReaders accepted port named
    have held := loose.held
    -- of the grants that the run leaves, only those to its readers are new
    generalize (r.execute s).run handler p = result at outcome held
    cases outcome with
    | lacking _ | barred _ | unlisted _ _ => exact .inl ⟨absent, held⟩
    | tried _ _ resets =>
      by_cases here : w = spec.workspace ∧ n = spec.viewName
      · obtain ⟨rfl, rfl⟩ := here
        by_cases consumed : g.privilege = s.permissions.outputPort.consumers
        · obtain ⟨name, privilege⟩ := g
          cases consumed
          rcases (resets.holders name).mp held with ⟨old, -⟩ | ⟨x, member, -, called⟩
          · exact .inl ⟨absent, old⟩
          · exact .inr ⟨⟨a, spec, accepted, port, rfl, rfl⟩, absent, rfl, x, member, called⟩
        · exact .inl ⟨absent, (resets.other_privileges consumed).mp held⟩
      · rw [resets.other_grants here] at held
        exact .inl ⟨absent, held⟩

theorem Accepted.loosensNone_execute (a : Accepted) (s : Settings) (direction : Direction)
    (ordered : p.Ordered) : p.LoosensNone ((a.execute s direction).run handler p).2 := by
  cases direction with
  | unprovision => exact loosensNone_run (by decide) (a.unprovision_asks s) p
  | provision =>
    unfold execute
    cases a.classified with
    | job spec => exact loosensNone_run (by decide) (asks_of_straight (spec.provision_straight s a)) p
    | pipeline spec => exact loosensNone_run (by decide) (asks_of_straight (spec.provision_straight s a)) p
    | workflow spec => exact loosensNone_run (by decide) (asks_of_straight (spec.provision_straight s a)) p
    | outputPort spec => exact OutputPortSpec.loosensNone_provision ordered
    | unsupported reason => exact p.loosensNone_refl

/-- Only access requests make loose grants, and only where their port has no view. -/
theorem Operation.loosens_of_loose (ordered : p.Ordered) (named : p.Named) {o : Operation}
    (loose : (((o.program s).run handler p).2.data w).Loose n g) :
    (p.data w).Loose n g ∨ ∃ r, o = .access r ∧ r.Loosens s p w n g := by
  cases o with
  | access r => exact (r.loosens_of_loose named loose).imp_right fun loosens => ⟨r, rfl, loosens⟩
  | work work =>
    left
    cases work with
    | readBack r =>
      exact loosensNone_run (by decide) (asks_of_straight (r.execute_straight s)) p w n g loose
    | request r direction =>
      change (((r.execute s direction).run handler p).2.data w).Loose n g at loose
      cases accepted : r.accept s.templates with
      | error f =>
        rw [Request.execute, accepted] at loose
        exact loose
      | ok a =>
        rw [Request.execute_of_accept accepted] at loose
        exact a.loosensNone_execute s direction ordered w n g loose

end Provisioning
