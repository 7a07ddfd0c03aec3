import Provisioning.Proofs.Platform.Losses

/-!
Views and what is held on them.  A call has to do with at most one view, by its full name, and leaves every
other view and its grants alone.  A grant is loose when no view bears the name that it is on; only granting
makes a loose grant, for with a view its grants go.
-/
namespace Provisioning

open Platform WorkspaceData

variable {α : Type} {n : String}

/-- The full name of the view that a call writes, takes away or changes the grants of. -/
def InnerCall.view? : InnerCall → Option String
  | .views (.create d) => some d.fullName
  | .views (.update id _) | .views (.delete id) => some id
  | .catalog (.grant view _ _) | .catalog (.revoke view _ _) => some view
  | _ => none

def Call.view? : Call → Option String
  | .inside _ c => c.view?
  | _ => none

def Call.OnlyView (n : String) (c : Call) : Prop := ∀ m ∈ c.view?, m = n

theorem Call.onlyView_of_none {c : Call} (none : c.view? = none) : c.OnlyView n := by
  intro m member
  rw [none] at member
  cases member

def Effect.viewing : List Effect := [.writeView, .removeView, .grant, .revoke]

theorem Call.view?_eq_none {c : Call} (other : c.effect ∉ Effect.viewing) : c.view? = none := by
  have not : ∀ e ∈ Effect.viewing, c.effect ≠ e := fun e member same => other (same ▸ member)
  cases c with
  | inside w c =>
    cases c with
    | views c =>
      cases c with
      | listByName _ | get _ => rfl
      | create _ | update _ _ => exact absurd rfl (not .writeView (by decide))
      | delete _ => exact absurd rfl (not .removeView (by decide))
    | catalog c =>
      cases c with
      | ensureCatalog _ | ensureSchema _ _ | tableExists _ | listGrants _ => rfl
      | grant _ _ _ => exact absurd rfl (not .grant (by decide))
      | revoke _ _ _ => exact absurd rfl (not .revoke (by decide))
    | jobs _ | pipelines _ | repositories _ | identity _ => rfl
  | createIfAbsent _ _ _ | findWorkspace _ | assignRole _ _ _ | openSession _ => rfl

theorem Call.grant_of_effect {c : Call} (granting : c.effect = .grant) :
    ∃ w view principal privilege, c = .inside w (.catalog (.grant view principal privilege)) := by
  cases c with
  | inside w c =>
    cases c with
    | catalog c =>
      cases c with
      | grant view principal privilege => exact ⟨w, view, principal, privilege, rfl⟩
      | _ => cases granting
    | jobs c | pipelines c | views c | repositories c => cases c <;> cases granting
    | identity c => cases granting
  | _ => cases granting

theorem Call.onlyView_of_within {es : List Effect} (others : ∀ e ∈ es, e ∉ Effect.viewing) (c : Call)
    (within : c.Within es) : c.OnlyView n := onlyView_of_none (view?_eq_none (others _ within))

/-! One view -/

structure WorkspaceData.SameView (n : String) (d e : WorkspaceData) : Prop where
  view : e.views.find? n = d.views.find? n
  grants : e.grants n = d.grants n

namespace WorkspaceData

theorem sameView_refl (d : WorkspaceData) : d.SameView n d := ⟨rfl, rfl⟩

theorem SameView.trans {d e f : WorkspaceData} (first : d.SameView n e) (second : e.SameView n f) :
    d.SameView n f := ⟨second.view.trans first.view, second.grants.trans first.grants⟩

theorem sameView_of_change {e : Effect} (other : e ∉ Effect.viewing) {d d' : WorkspaceData}
    (change : Change e d d') : d.SameView n d' := by
  simp only [Effect.viewing, List.mem_cons, List.not_mem_nil, or_false, not_or] at other
  obtain ⟨write, remove, grant, revoke⟩ := other
  have confined := confined_of_change (List.mem_singleton_self e) change
  have views := confined.views (by simpa using Ne.symm write) (by simpa using Ne.symm remove)
  have grants := confined.grants (by simpa using Ne.symm grant) (by simpa using Ne.symm revoke)
    (by simpa using Ne.symm remove)
  exact ⟨congrArg (Keyed.find? n) views, congrFun grants n⟩

theorem sameView_insert {m : String} (other : n ≠ m) (v : ViewDefinition) (d : WorkspaceData) :
    d.SameView n { d with views := Keyed.insert m v d.views } :=
  ⟨(Keyed.find?_insert m n v d.views).trans (if_neg other), rfl⟩

theorem sameView_erase {m : String} (other : n ≠ m) (d : WorkspaceData) :
    d.SameView n { d with views := Keyed.erase m d.views, grants := updated d.grants m [] } :=
  ⟨(Keyed.find?_erase m n d.views).trans (if_neg other), updated_other _ _ other⟩

theorem sameView_grants {m : String} (other : n ≠ m) (gs : List Grant) (d : WorkspaceData) :
    d.SameView n { d with grants := updated d.grants m gs } := ⟨rfl, updated_other _ _ other⟩

end WorkspaceData

namespace Platform

def SameView (n : String) (p q : Platform) : Prop := ∀ w, (p.data w).SameView n (q.data w)

theorem sameView_refl (p : Platform) : p.SameView n p := fun _ => WorkspaceData.sameView_refl _

theorem sameView_trans (p q r : Platform) (first : p.SameView n q) (second : q.SameView n r) :
    p.SameView n r := fun w => (first w).trans (second w)

theorem sameView_of_updated {p q : Platform} {w : String} {d : WorkspaceData}
    (put : q.data = updated p.data w d) (same : (p.data w).SameView n d) : p.SameView n q :=
  forall_data_of_updated WorkspaceData.sameView_refl put same

theorem sameView_answerViews {w : String} {c : ObjectCall ViewDefinition}
    (other : n ∉ (InnerCall.views c).view?) (p : Platform) : p.SameView n (answerViews w c p).2 := by
  have apart : ∀ m, (InnerCall.views c).view? = some m → n ≠ m := fun m about same =>
    other (by rw [about, same]; rfl)
  cases c with
  | listByName _ | get _ => exact p.sameView_refl
  | create d =>
    simp only [answerViews]
    split
    · exact sameView_of_updated rfl (WorkspaceData.sameView_insert (apart _ rfl) d _)
    · exact p.sameView_refl
  | update id d => exact sameView_of_updated rfl (WorkspaceData.sameView_insert (apart _ rfl) d _)
  | delete id => exact sameView_of_updated rfl (WorkspaceData.sameView_erase (apart _ rfl) _)

theorem sameView_answerCatalog {w : String} {c : CatalogCall} (other : n ∉ (InnerCall.catalog c).view?)
    (p : Platform) : p.SameView n (answerCatalog w c p).2 := by
  have apart : ∀ m, (InnerCall.catalog c).view? = some m → n ≠ m := fun m about same =>
    other (by rw [about, same]; rfl)
  cases c with
  | tableExists _ | listGrants _ => exact p.sameView_refl
  | ensureCatalog catalog => exact sameView_of_updated rfl ⟨rfl, rfl⟩
  | ensureSchema catalog schema =>
    simp only [answerCatalog]
    split
    · exact sameView_of_updated rfl ⟨rfl, rfl⟩
    · exact p.sameView_refl
  | grant view principal privilege =>
    exact sameView_of_updated rfl (WorkspaceData.sameView_grants (apart _ rfl) _ _)
  | revoke view principal privilege =>
    exact sameView_of_updated rfl (WorkspaceData.sameView_grants (apart _ rfl) _ _)

theorem sameView_answer {c : Call} (other : n ∉ c.view?) (p : Platform) : p.SameView n (answer c p).2 := by
  have quiet : ∀ c : Call, c.effect ∉ Effect.viewing → p.SameView n (answer c p).2 := fun c quiet x =>
    WorkspaceData.sameView_of_change quiet (change_answer p x c)
  cases c with
  | inside w c =>
    cases c with
    | views c => exact sameView_answerViews other p
    | catalog c => exact sameView_answerCatalog other p
    | jobs c | pipelines c | repositories c =>
      refine quiet _ ?_
      cases c <;> simp [Effect.viewing, Call.effect, InnerCall.effect, ObjectCall.effect]
    | identity c => exact quiet _ (by simp [Effect.viewing, Call.effect, InnerCall.effect])
  | _ => exact quiet _ (by simp [Effect.viewing, Call.effect])

/-- A call leaves every view alone that it has nothing to do with. -/
theorem sameView_handler {c : Call} (other : n ∉ c.view?) (p : Platform) : p.SameView n (handler c p).2 := by
  rcases handler_snd c p with noted | answered
  · rw [noted]
    exact p.sameView_refl
  · rw [answered]
    exact sameView_answer other (p.record c.key)

theorem sameView_of_onlyView {m : String} (other : n ≠ m) (c : Call) (only : c.OnlyView m) (p : Platform) :
    p.SameView n (handler c p).2 :=
  sameView_handler (fun member => other (only n member)) p

end Platform

/-! What is granted -/

def Call.grant? : Call → Option Grant
  | .inside _ (.catalog (.grant _ principal privilege)) => some ⟨principal.name, privilege⟩
  | _ => none

theorem WorkspaceData.grants_of_change {e : Effect} (noGrant : e ≠ .grant) {d d' : WorkspaceData}
    (change : Change e d d') (n : String) : d'.grants n ⊆ d.grants n := by
  have within : ∀ m gs, gs ⊆ d.grants m → updated d.grants m gs n ⊆ d.grants n := by
    intro m gs fewer
    by_cases here : n = m
    · subst here
      rw [updated_same]
      exact fewer
    · rw [updated_other _ _ here]
      exact fun _ member => member
  cases change with
  | grant => exact absurd rfl noGrant
  | noView id => exact within id [] (List.nil_subset _)
  | noGrant view taken => exact within view _ fun _ member => (List.mem_filter.mp member).1
  | _ => exact fun _ member => member

theorem WorkspaceData.mem_grants_grant {d : WorkspaceData} {view : String} {given g : Grant}
    (held : g ∈ updated d.grants view (addOnce given (d.grants view)) n) : g ∈ d.grants n ∨ g = given := by
  by_cases here : n = view
  · subst here
    rw [updated_same] at held
    exact mem_addOnce.mp held
  · rw [updated_other _ _ here] at held
    exact .inl held

theorem Platform.grants_handler {c : Call} {p : Platform} {w n : String} {g : Grant}
    (held : g ∈ ((handler c p).2.data w).grants n) : g ∈ (p.data w).grants n ∨ g ∈ c.grant? := by
  by_cases granting : c.effect = .grant
  · obtain ⟨x, view, principal, privilege, rfl⟩ := Call.grant_of_effect granting
    rcases handler_snd (.inside x (.catalog (.grant view principal privilege))) p with noted | answered
    · rw [noted] at held
      exact .inl held
    · rw [answered] at held
      have grown := forall_data_of_updated
        (P := fun d e => ∀ g ∈ e.grants n, g ∈ d.grants n ∨ g = ⟨principal.name, privilege⟩)
        (fun _ _ member => .inl member) rfl (fun _ member => WorkspaceData.mem_grants_grant member) w g held
      rcases grown with old | rfl
      · exact .inl old
      · exact .inr rfl
  · exact .inl (WorkspaceData.grants_of_change granting (change_handler p w c) n held)

/-! Loose grants -/

def Seed.IsGrant : Seed → Prop
  | .grant _ _ _ => True
  | _ => False

structure WorkspaceData.Loose (d : WorkspaceData) (n : String) (g : Grant) : Prop where
  absent : n ∉ d.views.keys
  held : g ∈ d.grants n

namespace WorkspaceData

def LoosensNone (d e : WorkspaceData) : Prop := ∀ n g, e.Loose n g → d.Loose n g

theorem loosensNone_refl (d : WorkspaceData) : d.LoosensNone d := fun _ _ => id

/-- With a view its grants go, so nothing but a grant makes a loose one. -/
theorem loosensNone_of_change {e : Effect} (noGrant : e ≠ .grant) {d d' : WorkspaceData}
    (change : Change e d d') : d.LoosensNone d' := by
  intro n g loose
  have held := grants_of_change noGrant change n loose.held
  refine ⟨fun there => loose.absent ?_, held⟩
  cases change with
  | view id v => exact Keyed.keys_subset_insert _ _ there
  | noView id =>
    -- had the view taken away borne this name, the grant would have gone with it
    obtain ⟨x, member, rfl⟩ := List.mem_map.mp there
    refine List.mem_map_of_mem (List.mem_filter.mpr ⟨member, bne_iff_ne.mpr fun same => ?_⟩)
    have none : g ∈ updated d.grants id [] x.1 := loose.held
    rw [same, updated_same] at none
    cases none
  | _ => exact there

theorem loosensNone_grant {d : WorkspaceData} (stands : n ∈ d.views.keys) (gs : List Grant) :
    d.LoosensNone { d with grants := updated d.grants n gs } := by
  intro m g loose
  by_cases here : m = n
  · subst here
    exact absurd stands loose.absent
  · have held : g ∈ updated d.grants n gs m := loose.held
    rw [updated_other _ _ here] at held
    exact ⟨loose.absent, held⟩

end WorkspaceData

namespace Platform

def LoosensNone (p q : Platform) : Prop := ∀ w, (p.data w).LoosensNone (q.data w)

theorem loosensNone_refl (p : Platform) : p.LoosensNone p := fun _ _ _ => id

theorem loosensNone_trans (p q r : Platform) (first : p.LoosensNone q) (second : q.LoosensNone r) :
    p.LoosensNone r := fun w n g loose => first w n g (second w n g loose)

theorem loosensNone_handler {c : Call} (noGrant : c.effect ≠ .grant) (p : Platform) :
    p.LoosensNone (handler c p).2 := fun w =>
  WorkspaceData.loosensNone_of_change noGrant (change_handler p w c)

theorem loosensNone_run {es : List Effect} (noGrant : .grant ∉ es) {program : Remote α}
    (asks : program.Asks (Call.Within es)) (p : Platform) : p.LoosensNone (program.run handler p).2 :=
  Program.keeps_of_asks loosensNone_refl loosensNone_trans
    (fun _ within => loosensNone_handler fun same => noGrant (same ▸ within)) asks p

theorem loosensNone_handler_grant {p : Platform} {w : String} (stands : n ∈ (p.data w).views.keys)
    (principal : Principal) (privilege : CatalogPrivilege) :
    p.LoosensNone (handler (.inside w (.catalog (.grant n principal privilege))) p).2 := by
  rcases handler_snd (.inside w (.catalog (.grant n principal privilege))) p with noted | answered
  · rw [noted]
    exact p.loosensNone_refl
  · rw [answered]
    exact forall_data_of_updated WorkspaceData.loosensNone_refl rfl (WorkspaceData.loosensNone_grant stands _)

theorem loosensNone_modifyData {p : Platform} {w : String} {f : WorkspaceData → WorkspaceData}
    (views : (p.data w).views.keys ⊆ (f (p.data w)).views.keys)
    (grants : (f (p.data w)).grants = (p.data w).grants) :
    p.LoosensNone (p.modifyData w f) :=
  forall_data_modifyData WorkspaceData.loosensNone_refl p w fun _ _ loose =>
    ⟨fun there => loose.absent (views there), grants ▸ loose.held⟩

theorem loosensNone_plant {x : Seed} (noGrant : ¬ x.IsGrant) (p : Platform) : p.LoosensNone (x.plant p) := by
  cases x with
  | grant => exact absurd trivial noGrant
  | job w d =>
    simp only [Seed.plant, seedJob]
    exact loosensNone_modifyData (p := p.spendId) (by exact fun _ there => there) (by rfl)
  | pipeline w d =>
    simp only [Seed.plant, seedPipeline]
    exact loosensNone_modifyData (p := p.spendId) (by exact fun _ there => there) (by rfl)
  | table w fullName =>
    simp only [Seed.plant, seedTable]
    exact loosensNone_modifyData (by exact fun _ there => there) (by rfl)
  | view w d =>
    simp only [Seed.plant, seedView]
    exact loosensNone_modifyData (by exact Keyed.keys_subset_insert _ _) (by rfl)
  | workspaceState name state =>
    simp only [Seed.plant, setWorkspaceState]
    split <;> exact p.loosensNone_refl
  | _ => exact p.loosensNone_refl

end Platform
end Provisioning
