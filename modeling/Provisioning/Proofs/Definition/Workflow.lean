import Provisioning.Definition.Workflow
import Provisioning.Proofs.Json.Same
import Provisioning.Proofs.Keyed.Ascending

/-!
What the comparison of a live workflow with a requested one lets through.  It looks at whole objects,
while only the settings are ever written; so it is told here what a passed comparison says about the
settings on both sides, and which requested objects pass once their settings are live.
-/
namespace Provisioning

/-! Tasks -/

def Json.HasTasks (settings : Json) : Prop :=
  ∃ task rest, settings.member? "tasks" = some (.list (task :: rest))

theorem Json.HasTasks.of_same {v w : Json} (tasks : v.HasTasks) (same : v.same w = true) :
    w.HasTasks := by
  obtain ⟨task, rest, found⟩ := tasks
  obtain ⟨other, foundToo, alike⟩ := member?_of_same same found
  cases other with
  | list items =>
    cases items with
    | nil => cases alike
    | cons first others => exact ⟨first, others, foundToo⟩
  | _ => cases alike

theorem hasNoTasks_eq_false_iff {workflow settings : Json}
    (there : workflow.member? "settings" = some settings) :
    hasNoTasks workflow = false ↔ settings.HasTasks := by
  unfold hasNoTasks Json.HasTasks
  rw [there, Option.bind_some]
  cases settings.member? "tasks" with
  | none => simp
  | some tasks =>
    cases tasks with
    | list items => cases items <;> simp [Json.asList?]
    | _ => simp [Json.asList?]

/-! Volatile fields -/

theorem withoutVolatile_idempotent (v : Json) :
    withoutVolatile (withoutVolatile v) = withoutVolatile v := by
  cases v with
  | object ms => simp [withoutVolatile]
  | _ => rfl

theorem member?_withoutVolatile {key : String} (kept : key ∉ volatileFields) (v : Json) :
    (withoutVolatile v).member? key = v.member? key := by
  cases v with
  | object ms =>
    have notVolatile : (!volatileFields.contains key) = true := by simpa using kept
    exact Keyed.find?_filter_of_kept (fun k => !volatileFields.contains k) notVolatile ms
  | _ => rfl

theorem settings_not_volatile : "settings" ∉ volatileFields := by decide

theorem volatile_before_settings : ∀ k ∈ volatileFields, k < "settings" := by decide

/-- The fields of a live workflow that the platform has not assigned, and its settings. -/
def ownFields (live : RemoteResource JobDefinition) : Json.Members :=
  Json.put "settings" live.definition.settings
    (live.serverFields.filter fun m => !volatileFields.contains m.1)

/-- Leaving out what the platform assigns leaves the settings in their place. -/
theorem withoutVolatile_liveObject_eq (live : RemoteResource JobDefinition) :
    withoutVolatile (liveObject live) = .object (ownFields live) := by
  have kept : (!volatileFields.contains "settings") = true := by decide
  have before : ∀ k, (!volatileFields.contains k) = false → k < "settings" := fun k volatile =>
    volatile_before_settings k (by simpa using volatile)
  exact congrArg Json.object (Keyed.filter_insert_of_before kept before _ _)

theorem find?_ownFields (live : RemoteResource JobDefinition) (key : String) :
    Keyed.find? key (ownFields live) =
      if key = "settings" then some live.definition.settings
      else if key ∈ volatileFields then none else Keyed.find? key live.serverFields := by
  rw [ownFields, Json.put, Keyed.find?_insert, Keyed.find?_filter fun k => !volatileFields.contains k]
  simp only [Bool.not_eq_true', List.contains_eq_mem, decide_eq_false_iff_not, ite_not]

theorem settings_liveObject (live : RemoteResource JobDefinition) :
    (liveObject live).member? "settings" = some live.definition.settings := by
  have there := Keyed.find?_insert "settings" "settings" live.definition.settings live.serverFields
  rw [if_pos rfl] at there
  exact there

theorem settings_withoutVolatile_liveObject (live : RemoteResource JobDefinition) :
    (withoutVolatile (liveObject live)).member? "settings" = some live.definition.settings := by
  rw [member?_withoutVolatile settings_not_volatile, settings_liveObject]

/-- All that is left of a live workflow whose other fields the platform assigns. -/
theorem withoutVolatile_liveObject {live : RemoteResource JobDefinition}
    (assigned : ∀ m ∈ live.serverFields, m.1 ∈ volatileFields) :
    withoutVolatile (liveObject live) = .object [("settings", live.definition.settings)] := by
  have dropped : ∀ m ∈ live.serverFields, (!volatileFields.contains m.1) = false := by
    intro m member
    simpa using assigned m member
  have kept : (!volatileFields.contains "settings") = true := by decide
  exact congrArg Json.object (Keyed.filter_insert_of_none dropped kept)

namespace WorkflowSpec

variable {spec : WorkflowSpec} {live : RemoteResource JobDefinition} {inDevelopment : Bool}
  {workspace : String}

/-! The comparison -/

theorem checkOverride_eq_ok_iff :
    spec.checkOverride live inDevelopment workspace = .ok () ↔
      (withoutVolatile (liveObject live)).same (withoutVolatile spec.workflow) = true ∨
      spec.mayOverride = true ∨
      (inDevelopment = false ∧ (hasNoTasks (withoutVolatile spec.workflow) = false ∨
        hasNoTasks (withoutVolatile (liveObject live)) = true)) := by
  unfold checkOverride
  dsimp only
  generalize (withoutVolatile (liveObject live)).same (withoutVolatile spec.workflow) = same
  generalize hasNoTasks (withoutVolatile spec.workflow) = requestedNone
  generalize hasNoTasks (withoutVolatile (liveObject live)) = existingNone
  cases same with
  | true => simp
  | false =>
    cases spec.mayOverride with
    | true => simp
    | false =>
      cases inDevelopment with
      | true => simp
      | false => cases requestedNone <;> cases existingNone <;> simp

/-- A request for the very object that read-back proposes passes everywhere. -/
theorem checkOverride_of_readBack (readBack : spec.workflow = withoutVolatile (liveObject live)) :
    spec.checkOverride live inDevelopment workspace = .ok () := by
  refine checkOverride_eq_ok_iff.mpr (.inl ?_)
  rw [readBack, withoutVolatile_idempotent]
  exact Json.same_refl _

theorem settings_of_settings? {settings : Json} (given : spec.settings? = some settings) :
    spec.workflow.member? "settings" = some settings := by
  unfold settings? at given
  cases there : spec.workflow.member? "settings" with
  | none =>
    rw [there] at given
    cases given
  | some v =>
    rw [there] at given
    dsimp only at given
    split at given
    · exact given
    · cases given

theorem settings?_of_name? {name : String} (named : spec.name? = some name) :
    ∃ settings, spec.settings? = some settings := by
  unfold name? at named
  cases given : spec.settings? with
  | none =>
    rw [given] at named
    cases named
  | some settings => exact ⟨settings, rfl⟩

theorem requiredName_eq_ok {name : String} (required : spec.requiredName = .ok name) :
    spec.name? = some name ∧ Text.blank name = false := by
  unfold requiredName at required
  cases named : spec.name? with
  | none =>
    rw [named] at required
    cases required
  | some other =>
    rw [named] at required
    dsimp only at required
    cases blank : Text.blank other with
    | true =>
      rw [blank, if_pos rfl] at required
      cases required
    | false =>
      rw [blank, if_neg (by decide)] at required
      cases required
      exact ⟨rfl, blank⟩

theorem definition_settings {name : String} {settings : Json} (given : spec.settings? = some settings) :
    (spec.definition name).settings = settings := by
  unfold definition
  rw [given]
  rfl

/-- What may be written over a live workflow without the right to override. -/
theorem kept_of_checkOverride (noOverride : spec.mayOverride = false) {settings : Json}
    (given : spec.settings? = some settings)
    (passed : spec.checkOverride live inDevelopment workspace = .ok ()) :
    (inDevelopment = true → live.definition.settings.same settings = true) ∧
      (live.definition.settings.HasTasks → settings.HasTasks) := by
  have liveSettings := settings_withoutVolatile_liveObject live
  have requested : (withoutVolatile spec.workflow).member? "settings" = some settings := by
    rw [member?_withoutVolatile settings_not_volatile]
    exact settings_of_settings? given
  rcases checkOverride_eq_ok_iff.mp passed with same | may | ⟨elsewhere, some | none⟩
  · obtain ⟨other, there, alike⟩ := Json.member?_of_same same liveSettings
    rw [requested] at there
    cases there
    exact ⟨fun _ => alike, fun tasks => tasks.of_same alike⟩
  · rw [noOverride] at may
    cases may
  · refine ⟨fun inDev => ?_, fun _ => (hasNoTasks_eq_false_iff requested).mp some⟩
    rw [elsewhere] at inDev
    cases inDev
  · refine ⟨fun inDev => ?_, fun tasks => ?_⟩
    · rw [elsewhere] at inDev
      cases inDev
    · have hasSome := (hasNoTasks_eq_false_iff liveSettings).mpr tasks
      rw [none] at hasSome
      cases hasSome

/-! Requests whose settings are live -/

/-- The requested object has nothing but settings and fields that the platform assigns. -/
def holdsOnlySettings (s : WorkflowSpec) : Bool :=
  match withoutVolatile s.workflow with
  | .object [(key, _)] => key == "settings"
  | _ => false

theorem same_settings_eq {settings : Json} (given : spec.settings? = some settings) :
    (Json.object [("settings", settings)]).same (withoutVolatile spec.workflow) =
      spec.holdsOnlySettings := by
  have requested : (withoutVolatile spec.workflow).member? "settings" = some settings := by
    rw [member?_withoutVolatile settings_not_volatile]
    exact settings_of_settings? given
  unfold holdsOnlySettings
  generalize withoutVolatile spec.workflow = v at requested ⊢
  cases v with
  | object ms =>
    rcases ms with _ | ⟨⟨k, a⟩, _ | ⟨second, rest⟩⟩
    · rfl
    · change Keyed.find? "settings" [(k, a)] = some settings at requested
      rw [Keyed.find?_cons] at requested
      split at requested
      · rename_i named
        subst named
        cases requested
        simp [Json.same, Json.sameMembers, Json.same_refl]
      · cases requested
    · simp [Json.same, Json.sameMembers]
  | _ => cases requested

/-- With the requested settings live, only members beside them can still make a difference, and only
in the development environment. -/
theorem checkOverride_of_applied (assigned : ∀ m ∈ live.serverFields, m.1 ∈ volatileFields)
    (given : spec.settings? = some live.definition.settings) :
    spec.checkOverride live inDevelopment workspace =
      if inDevelopment && !spec.mayOverride && !spec.holdsOnlySettings then
        .error (drifted live.reference.name workspace)
      else .ok () := by
  have requested : (withoutVolatile spec.workflow).member? "settings" =
      some live.definition.settings := by
    rw [member?_withoutVolatile settings_not_volatile]
    exact settings_of_settings? given
  have liveSettings := settings_withoutVolatile_liveObject live
  have tasks : hasNoTasks (withoutVolatile (liveObject live)) =
      hasNoTasks (withoutVolatile spec.workflow) := by
    unfold hasNoTasks
    rw [liveSettings, requested]
  unfold checkOverride
  dsimp only
  rw [tasks, withoutVolatile_liveObject assigned, same_settings_eq given]
  cases spec.holdsOnlySettings <;> cases spec.mayOverride <;> cases inDevelopment <;> simp

/-! Requests for what read-back proposes -/

theorem settings?_of_readBack (readBack : spec.workflow = withoutVolatile (liveObject live))
    (isObject : live.definition.settings.isObject = true) :
    spec.settings? = some live.definition.settings := by
  unfold settings?
  rw [readBack, settings_withoutVolatile_liveObject]
  exact if_pos isObject

theorem requiredName_of_settings {name : String} {settings : Json}
    (given : spec.settings? = some settings)
    (named : settings.member? "name" = some (.text name)) (notBlank : Text.blank name = false) :
    spec.requiredName = .ok name := by
  unfold requiredName name?
  rw [given, Option.bind_some, named]
  exact if_neg (ne_true_of_eq_false notBlank)

end WorkflowSpec
end Provisioning
