import Provisioning.Failure
import Provisioning.Resource.Definition
import Provisioning.Resource.Reference
import Provisioning.Specification.Workflow

/-!
A workflow carries its definition itself.  Before a live workflow is replaced, the requested
object and the live one are compared without the fields that the platform assigns at their top
level.  When they differ and the request may not override, the development environment refuses;
elsewhere only replacing tasks by none is refused.
-/
namespace Provisioning

/-- Fields at the top of a job object that the platform assigns. -/
def volatileFields : List String :=
  ["job_id", "created_time", "creator_user_name", "run_as_user_name"]

/-- The whole job object of a live workflow: assigned fields and settings. -/
def liveObject (live : RemoteResource JobDefinition) : Json :=
  .object (Json.put "settings" live.definition.settings live.serverFields)

/-- An object without its volatile fields; any other value as it is. -/
def withoutVolatile : Json → Json
  | .object ms => .object (ms.filter fun m => !volatileFields.contains m.1)
  | v => v

/-- The settings hold no list of tasks, or an empty one. -/
def hasNoTasks (workflow : Json) : Bool :=
  match ((workflow.member? "settings").bind (Json.member? "tasks")).bind Json.asList? with
  | some tasks => tasks.isEmpty
  | none => true

namespace WorkflowSpec

def nameError : String := "The workflow definition carries no settings.name"

/-- The name under which the workflow is kept; a blank one does not count. -/
def requiredName (s : WorkflowSpec) : Except Failure String :=
  match s.name? with
  | some name => if Text.blank name then .error (.single nameError) else .ok name
  | none => .error (.single nameError)

def definition (s : WorkflowSpec) (name : String) : JobDefinition :=
  ⟨name, s.settings?.getD (.object [])⟩

def drifted (name workspace : String) : Failure := .single <|
  s!"Workflow '{name}' in workspace '{workspace}' differs from the requested definition. " ++
  "Run reverse provisioning to import the current definition into the descriptor, " ++
  "or set 'override' to replace it"

def wouldEmpty (name workspace : String) : Failure := .single <|
  s!"Workflow '{name}' in workspace '{workspace}' has tasks and the requested definition has none; " ++
  "set 'override' to replace it with an empty workflow"

def checkOverride (s : WorkflowSpec) (live : RemoteResource JobDefinition) (inDevelopment : Bool)
    (workspace : String) : Except Failure Unit :=
  let existing := withoutVolatile (liveObject live)
  let requested := withoutVolatile s.workflow
  if existing.same requested then .ok ()
  else if s.mayOverride then .ok ()
  else if inDevelopment then .error (drifted live.reference.name workspace)
  else if hasNoTasks requested && !hasNoTasks existing then
    .error (wouldEmpty live.reference.name workspace)
  else .ok ()

end WorkflowSpec
end Provisioning
