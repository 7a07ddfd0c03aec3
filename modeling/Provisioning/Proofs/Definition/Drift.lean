import Provisioning.Proofs.Definition.Workflow

/-!
What the comparison of a live workflow with a requested one depends on.  The fields that the platform
assigns count on neither side, so two comparisons that differ in nothing else have one outcome; all else
counts, and inside the settings nothing is left out, whatever its name.
-/
namespace Provisioning

def Json.HoldsTasks (workflow : Json) : Prop :=
  ∃ settings, workflow.member? "settings" = some settings ∧ settings.HasTasks

theorem Json.HoldsTasks.of_same {v w : Json} (tasks : v.HoldsTasks) (same : v.same w = true) :
    w.HoldsTasks := by
  obtain ⟨settings, there, tasks⟩ := tasks
  obtain ⟨other, thereToo, alike⟩ := Json.member?_of_same same there
  exact ⟨other, thereToo, tasks.of_same alike⟩

theorem Json.holdsTasks_iff {workflow : Json} : workflow.HoldsTasks ↔ hasNoTasks workflow = false := by
  cases there : workflow.member? "settings" with
  | none => simp [hasNoTasks, HoldsTasks, there]
  | some settings =>
    rw [hasNoTasks_eq_false_iff there]
    simp [HoldsTasks, there]

theorem hasNoTasks_of_same {v w : Json} (same : v.same w = true) : hasNoTasks v = hasNoTasks w := by
  have tasks : v.HoldsTasks ↔ w.HoldsTasks :=
    ⟨fun tasks => tasks.of_same same, fun tasks => tasks.of_same (Json.same_symm same)⟩
  rw [Json.holdsTasks_iff, Json.holdsTasks_iff] at tasks
  simpa using not_congr tasks

/-- Whether two values are the same may be asked of others that are the same as they are. -/
theorem Json.same_congr {v v' w w' : Json} (left : v.same v' = true) (right : w.same w' = true) :
    v.same w = v'.same w' := by
  rw [Bool.eq_iff_iff]
  constructor
  · exact fun same => same_trans (same_symm left) (same_trans same right)
  · exact fun same => same_trans left (same_trans same (same_symm right))

/-- An object without the members under these keys; any other value as it is. -/
def Json.without (keys : List String) : Json → Json
  | .object ms => .object (ms.filter fun m => !keys.contains m.1)
  | v => v

theorem withoutVolatile_eq_without : withoutVolatile =
    Json.without ["job_id", "created_time", "creator_user_name", "run_as_user_name"] := by
  funext v
  cases v <;> rfl

/-- Two live workflows that bear one name and differ in nothing but what the platform has assigned. -/
structure RemoteResource.Resembles (live other : RemoteResource JobDefinition) : Prop where
  name : live.reference.name = other.reference.name
  settings : live.definition.settings.same other.definition.settings = true
  fields : (withoutVolatile (.object live.serverFields)).same
    (withoutVolatile (.object other.serverFields)) = true

theorem RemoteResource.Resembles.same {live other : RemoteResource JobDefinition}
    (resembles : live.Resembles other) :
    (withoutVolatile (liveObject live)).same (withoutVolatile (liveObject other)) = true := by
  rw [withoutVolatile_liveObject_eq, withoutVolatile_liveObject_eq]
  exact Json.sameMembers_insert resembles.fields resembles.settings

namespace WorkflowSpec

structure Resembles (spec other : WorkflowSpec) : Prop where
  mayOverride : spec.mayOverride = other.mayOverride
  workflow : (withoutVolatile spec.workflow).same (withoutVolatile other.workflow) = true

variable {spec other : WorkflowSpec} {live another : RemoteResource JobDefinition} {inDevelopment : Bool}
  {workspace : String}

theorem checkOverride_of_resembles (sides : live.Resembles another) (requests : spec.Resembles other)
    (inDevelopment : Bool) (workspace : String) :
    spec.checkOverride live inDevelopment workspace =
      other.checkOverride another inDevelopment workspace := by
  unfold checkOverride
  dsimp only
  rw [Json.same_congr sides.same requests.workflow, hasNoTasks_of_same sides.same,
    hasNoTasks_of_same requests.workflow, requests.mayOverride, sides.name]

theorem checkOverride_refuses_iff :
    (∃ f, spec.checkOverride live inDevelopment workspace = .error f) ↔
      (withoutVolatile (liveObject live)).same (withoutVolatile spec.workflow) = false ∧
      spec.mayOverride = false ∧
      (inDevelopment = true ∨ ¬ (withoutVolatile spec.workflow).HoldsTasks ∧
        (withoutVolatile (liveObject live)).HoldsTasks) := by
  have refused : (∃ f, spec.checkOverride live inDevelopment workspace = .error f) ↔
      ¬ spec.checkOverride live inDevelopment workspace = .ok () := by
    cases spec.checkOverride live inDevelopment workspace <;> simp
  rw [refused, checkOverride_eq_ok_iff, Json.holdsTasks_iff, Json.holdsTasks_iff]
  cases inDevelopment <;> simp

/-- What differs anywhere below a field that the platform does not assign makes a difference. -/
theorem differs_of_kept {key : String} (kept : key ∉ volatileFields) {path : List Json.Step}
    (differs : ¬ Json.Alike ((liveObject live).at? (.member key :: path))
      (spec.workflow.at? (.member key :: path))) :
    (withoutVolatile (liveObject live)).same (withoutVolatile spec.workflow) = false := by
  refine eq_false_of_ne_true fun same => differs ?_
  have alike := Json.alike_of_same same (.member key :: path)
  simp only [Json.at?, Json.down?, member?_withoutVolatile kept] at alike ⊢
  exact alike

/-- Fields that the platform assigns have no say in whether a workflow may be replaced; all that does have
one is told, and inside the settings there is nothing that has none. -/
theorem checkOverride_ignores_assigned :
    let bare : Json → Json :=
      Json.without ["job_id", "created_time", "creator_user_name", "run_as_user_name"]
    (∀ (spec other : WorkflowSpec) (live another : RemoteResource JobDefinition) inDevelopment workspace,
      live.reference.name = another.reference.name →
      live.definition.settings.same another.definition.settings = true →
      (bare (.object live.serverFields)).same (bare (.object another.serverFields)) = true →
      spec.mayOverride = other.mayOverride → (bare spec.workflow).same (bare other.workflow) = true →
      spec.checkOverride live inDevelopment workspace =
        other.checkOverride another inDevelopment workspace) ∧
    (∀ (spec : WorkflowSpec) (live : RemoteResource JobDefinition) inDevelopment workspace,
      (∃ f, spec.checkOverride live inDevelopment workspace = .error f) ↔
        (bare (liveObject live)).same (bare spec.workflow) = false ∧ spec.mayOverride = false ∧
        (inDevelopment = true ∨ ¬ (bare spec.workflow).HoldsTasks ∧ (bare (liveObject live)).HoldsTasks)) ∧
    (∀ v, withoutVolatile v = bare v ∧ withoutVolatile (withoutVolatile v) = withoutVolatile v) ∧
    (∀ (spec : WorkflowSpec) (live : RemoteResource JobDefinition) (path : List Json.Step),
      ¬ Json.Alike (live.definition.settings.at? path) (spec.workflow.at? (.member "settings" :: path)) →
      (bare (liveObject live)).same (bare spec.workflow) = false) := by
  intro bare
  have bared : bare = withoutVolatile := withoutVolatile_eq_without.symm
  rw [bared]
  refine ⟨?_, ?_, fun v => ⟨rfl, withoutVolatile_idempotent v⟩, ?_⟩
  · intro spec other live another inDevelopment workspace name settings fields mayOverride workflow
    exact checkOverride_of_resembles ⟨name, settings, fields⟩ ⟨mayOverride, workflow⟩ inDevelopment workspace
  · intro spec live inDevelopment workspace
    exact checkOverride_refuses_iff
  · intro spec live path differs
    have differsBelow : ¬ Json.Alike ((liveObject live).at? (.member "settings" :: path))
        (spec.workflow.at? (.member "settings" :: path)) := by
      rw [Json.at?, Json.down?, settings_liveObject]
      exact differs
    exact differs_of_kept settings_not_volatile differsBelow

/-- A live workflow with fields that the platform has assigned, and with settings that hold a field of
the same name. -/
def assignedLive (id : Int) : RemoteResource JobDefinition where
  reference := ⟨"42", "wf"⟩
  definition := ⟨"wf", .object [("job_id", .int 1), ("name", .text "wf")]⟩
  serverFields := [("created_time", .int id), ("job_id", .int id)]

def assignedRequest (id inner : Int) : WorkflowSpec where
  workspace := "w"
  repoPath := "/r"
  git := ⟨"https://g/r.git"⟩
  workflow := .object [("job_id", .int id),
    ("settings", .object [("job_id", .int inner), ("name", .text "wf")])]
  mayOverride := false

/-- The job id beside the settings has no say, and that inside has. -/
theorem checkOverride_inner_job_id :
    (assignedRequest 7 2).checkOverride (assignedLive 5) true "w" =
      (assignedRequest 8 2).checkOverride (assignedLive 6) true "w" ∧
    (∃ f, (assignedRequest 7 2).checkOverride (assignedLive 5) true "w" = .error f) ∧
    ¬ ∃ f, (assignedRequest 7 1).checkOverride (assignedLive 5) true "w" = .error f := by
  obtain ⟨alike, refused, -, inside⟩ := checkOverride_ignores_assigned
  refine ⟨alike _ _ _ _ true "w" rfl rfl rfl rfl rfl, ?_, ?_⟩
  · refine (refused _ _ _ _).mpr ⟨inside _ _ [.member "job_id"] ?_, rfl, .inl rfl⟩
    decide
  · intro failed
    have differs := ((refused _ _ _ _).mp failed).1
    cases differs

end WorkflowSpec
end Provisioning
