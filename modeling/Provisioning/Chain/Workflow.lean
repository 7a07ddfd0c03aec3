import Provisioning.Chain.Workload
import Provisioning.Definition.Workflow

/-!
Provisioning, removal and read-back of workflows.  A live workflow is looked at before it is
replaced, and read-back proposes it as the workflow of the descriptor.
-/
namespace Provisioning

namespace WorkflowSpec

def info (name : String) (g : Ground) (id : String) : JobInfo :=
  let w := g.session.workspace
  [("workflowURL", .ofLink "Workflow URL" name (w.url ++ "/#job/" ++ id)),
   ("workspaceURL", workspaceLink w)]

/-- Refuse a plan that would replace a live workflow against the rules. -/
def guard (s : WorkflowSpec) (session : Session) (inDevelopment : Bool) : UpsertPlan → Remote Unit
  | .create => pure ()
  | .update existing => do
    match ← session.jobs (Objects.get existing.id) with
    | some live => Program.ofExcept (s.checkOverride live inDevelopment session.workspace.name)
    | none => pure ()

def provision (s : WorkflowSpec) (settings : Settings) (a : Accepted) : Remote Completion := do
  let name ← Program.ofExcept s.requiredName
  let ground ← s.workload.prepare settings a
  let session := ground.session
  let plan ← session.jobs ((session.scope .workflow).plan name)
  s.guard session (settings.isDevelopment a.environment) plan
  let outcome ← session.jobs (Scope.apply (s.definition name) plan)
  let id := outcome.reference.id
  ground.secure settings a (.job id) settings.permissions.job
  pure <| .provisioned id
    s!"Workflow '{name}' provisioned in workspace '{session.workspace.name}'"
    (info name ground id)

def unprovision (s : WorkflowSpec) (a : Accepted) : Remote Completion := do
  let name ← Program.ofExcept s.requiredName
  s.workload.remove a .workflow name Session.jobs

end WorkflowSpec

namespace WorkflowAddress

def notFound (w : WorkflowAddress) : Failure :=
  .single s!"Workflow '{w.workflow}' not found in workspace '{w.workspace}'"

def notUnique (w : WorkflowAddress) (matching : Nat) : Failure :=
  .single <|
    s!"Workflow name '{w.workflow}' is not unique in workspace '{w.workspace}' " ++
    s!"({matching} matches); reverse provisioning needs exactly one"

def only (w : WorkflowAddress) : List ResourceRef → Except Failure ResourceRef
  | [] => .error w.notFound
  | [single] => .ok single
  | several => .error (w.notUnique several.length)

def updatePath : String := "spec.mesh.specific.workflow"

def proposal (live : RemoteResource JobDefinition) : Json :=
  .object [(updatePath, withoutVolatile (liveObject live))]

def readBack (w : WorkflowAddress) : Remote Json := do
  let workspace ← existingWorkspace w.workspace
  let session ← Session.start workspace
  let found ← session.jobs (Objects.listByName w.workflow)
  let reference ← Program.ofExcept (w.only found)
  match ← session.jobs (Objects.get reference.id) with
  | some live => pure (proposal live)
  | none => Program.fail w.notFound

end WorkflowAddress
end Provisioning
