import Provisioning.Chain.Workload
import Provisioning.Definition.Pipeline

/-!
Provisioning and removal of declarative data pipelines.
-/
namespace Provisioning.PipelineSpec

def info (s : PipelineSpec) (g : Ground) (id : String) : JobInfo :=
  let w := g.session.workspace
  [("pipelineURL", .ofLink "Pipeline URL" s.name (w.url ++ "/#joblist/pipelines/" ++ id)),
   ("workspaceURL", workspaceLink w)]

def provision (s : PipelineSpec) (settings : Settings) (a : Accepted) : Remote Completion := do
  let ground ← s.workload.prepare settings a
  let session := ground.session
  let outcome ← session.pipelines <| (session.scope .pipeline).upsert s.name s.definition
  let id := outcome.reference.id
  ground.secure settings a (.pipeline id) settings.permissions.pipeline
  pure <| .provisioned id
    s!"DLT pipeline '{s.name}' provisioned in workspace '{session.workspace.name}'"
    (s.info ground id)

def unprovision (s : PipelineSpec) (a : Accepted) : Remote Completion :=
  s.workload.remove a .pipeline s.name Session.pipelines

end Provisioning.PipelineSpec
