import Provisioning.Definition.Workflow
import Provisioning.Proofs.Failure
import Provisioning.Validation

/-!
What it says of a request that it was accepted: its descriptor names a component, the component is
classified, and none of the rules of its class is broken.
-/
namespace Provisioning

open Validation

def Request.Describes (r : Request) (t : Templates) (environment : String) (kind : Classified) :
    Prop :=
  ∃ d c, Descriptor.read r.descriptor = .ok d ∧ d.component? = some c ∧
    c.classify t = .ok kind ∧ d.product.environment = environment

variable {t : Templates} {a : Accepted}

theorem Validation.acceptComponent_eq_ok {p : DataProduct} {c : Component} {removeData : Bool}
    (accepted : acceptComponent p c removeData t = .ok a) :
    a.product = p ∧ a.component = c ∧ c.classify t = .ok a.classified ∧
      Rule.broken a.classified.rules = [] ∧ a.removeData = removeData := by
  unfold acceptComponent at accepted
  dsimp only at accepted
  split at accepted
  · cases accepted
  · rename_i sound
    split at accepted
    · rename_i owner devGroup kind _ _ classified
      cases accepted
      have none := List.append_eq_nil_iff.mp (Failure.eq_nil_of_ofProblems? sound)
      rw [classified] at none
      exact ⟨rfl, rfl, classified, none.2, rfl⟩
    · cases accepted

theorem Request.acceptComponent_of_accept {r : Request} (accepted : r.accept t = .ok a) :
    ∃ d c, Descriptor.read r.descriptor = .ok d ∧ d.component? = some c ∧
      acceptComponent d.product c r.removeData t = .ok a := by
  unfold accept at accepted
  split at accepted
  · cases accepted
  · split at accepted
    · cases accepted
    · rename_i d read
      split at accepted
      · cases accepted
      · rename_i c found
        exact ⟨d, c, read, found, accepted⟩

theorem Request.accept_eq_ok {r : Request} (accepted : r.accept t = .ok a) :
    ∃ d, Descriptor.read r.descriptor = .ok d ∧ d.component? = some a.component ∧
      a.product = d.product ∧ a.component.classify t = .ok a.classified ∧
      Rule.broken a.classified.rules = [] := by
  obtain ⟨d, c, read, found, accepted⟩ := acceptComponent_of_accept accepted
  obtain ⟨product, rfl, classified, sound, -⟩ := acceptComponent_eq_ok accepted
  exact ⟨d, read, found, product, classified, sound⟩

theorem Request.sound_of_accept {r : Request} (accepted : r.accept t = .ok a) :
    Rule.broken a.classified.rules = [] := by
  obtain ⟨d, -, -, -, -, sound⟩ := accept_eq_ok accepted
  exact sound

theorem Request.removeData_of_accept {r : Request} (accepted : r.accept t = .ok a) :
    a.removeData = r.removeData := by
  obtain ⟨d, c, -, -, accepted⟩ := acceptComponent_of_accept accepted
  exact (acceptComponent_eq_ok accepted).2.2.2.2

theorem Request.describes_of_accept {r : Request} (accepted : r.accept t = .ok a) :
    r.Describes t a.environment a.classified := by
  obtain ⟨d, read, found, product, classified, -⟩ := accept_eq_ok accepted
  exact ⟨d, a.component, read, found, classified, (congrArg DataProduct.environment product).symm⟩

/-- An accepted request is about what it was accepted as. -/
theorem Request.Describes.of_accept {r : Request} {environment : String} {kind : Classified}
    (described : r.Describes t environment kind) (accepted : r.accept t = .ok a) :
    a.classified = kind ∧ a.environment = environment := by
  obtain ⟨d, c, read, found, classified, named⟩ := described
  obtain ⟨d', read', found', product, classified', -⟩ := accept_eq_ok accepted
  rw [read] at read'
  cases read'
  rw [found] at found'
  cases found'
  rw [classified] at classified'
  cases classified'
  exact ⟨rfl, (congrArg DataProduct.environment product).trans named⟩

theorem Rule.holds_of_broken {rules : List Rule} (sound : broken rules = []) {rule : Rule}
    (member : rule ∈ rules) : rule.holds = true := by
  have none := List.filter_eq_nil_iff.mp (List.map_eq_nil_iff.mp sound) rule member
  simpa using none

theorem WorkflowSpec.requiredName_of_rules {spec : WorkflowSpec}
    (sound : Rule.broken spec.rules = []) : ∃ name, spec.requiredName = .ok name := by
  have among : spec.nameRule ∈ spec.rules := List.mem_append_right _ (List.mem_singleton_self _)
  have named := Rule.holds_of_broken sound among
  unfold nameRule at named
  unfold requiredName
  cases given : spec.name? with
  | none =>
    rw [given] at named
    cases named
  | some name =>
    rw [given] at named
    have notBlank : Text.blank name = false := by simpa [Rule.filled] using named
    exact ⟨name, if_neg (ne_true_of_eq_false notBlank)⟩

def Classified.Handled (kind : Classified) : Prop := ∀ reason, kind ≠ .unsupported reason

theorem Classified.of_specification {α ε : Type} {f : α → Classified} {result : Except ε α}
    {kind : Classified} (classified : f <$> result = .ok kind) : ∃ spec, kind = f spec := by
  cases result with
  | error e => cases classified
  | ok spec =>
    cases classified
    exact ⟨spec, rfl⟩

theorem Component.kind_of_classifyWorkload {c : Component} {template : String} {kind : Classified}
    (classified : c.classifyWorkload t template = .ok kind) : ∀ spec, kind ≠ .outputPort spec := by
  unfold classifyWorkload at classified
  intro spec
  split at classified
  · obtain ⟨_, rfl⟩ := Classified.of_specification classified
    exact Classified.noConfusion
  · split at classified
    · obtain ⟨_, rfl⟩ := Classified.of_specification classified
      exact Classified.noConfusion
    · split at classified
      · obtain ⟨_, rfl⟩ := Classified.of_specification classified
        exact Classified.noConfusion
      · cases classified
        exact Classified.noConfusion

/-- Output ports have a kind of their own; whatever else is handled is a workload. -/
theorem Component.kind_of_classify {c : Component} {kind : Classified}
    (classified : c.classify t = .ok kind) (handled : kind.Handled) :
    (c.kind = "workload" ∧ ∀ spec, kind ≠ .outputPort spec) ∨
      (c.kind ≠ "workload" ∧ ∃ spec, kind = .outputPort spec) := by
  unfold classify at classified
  split at classified
  · rename_i workload
    refine .inl ⟨workload, ?_⟩
    split at classified
    · exact kind_of_classifyWorkload classified
    · cases classified
      exact absurd rfl (handled _)
  · rename_i noWorkload
    refine .inr ⟨noWorkload, ?_⟩
    split at classified
    · split at classified
      · unfold classifyOutputPort at classified
        split at classified
        · exact Classified.of_specification classified
        · cases classified
          exact absurd rfl (handled _)
      · cases classified
        exact absurd rfl (handled _)
    · cases classified
      exact absurd rfl (handled _)

theorem Request.validate_accepted {r : Request} (accepted : (r.validate t).valid = true) :
    ∃ a, r.accept t = .ok a ∧ a.classified.Handled := by
  unfold validate at accepted
  cases result : r.accept t with
  | error f => simp [result, Verdict.refused] at accepted
  | ok a =>
    refine ⟨a, rfl, fun reason classified => ?_⟩
    simp [result, classified, Verdict.refused] at accepted

/-- Why a request does not pass: what acceptance tells, or that nothing handles its component. -/
theorem Request.validate_refused {r : Request} (refused : (r.validate t).valid = false) :
    (∃ f, r.accept t = .error f ∧ (r.validate t).errors = f.descriptions) ∨
      ∃ a reason, r.accept t = .ok a ∧ a.classified = .unsupported reason ∧
        (r.validate t).errors = [reason] := by
  unfold validate at refused ⊢
  cases accepted : r.accept t with
  | error f => exact .inl ⟨f, rfl, rfl⟩
  | ok a =>
    rw [accepted] at refused
    cases classified : a.classified with
    | unsupported reason =>
      exact .inr ⟨a, reason, rfl, classified, by simp [classified, Verdict.refused]⟩
    | _ => simp [classified, Verdict.accepted] at refused

end Provisioning
