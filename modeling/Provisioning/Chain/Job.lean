import Provisioning.Chain.Workload
import Provisioning.Definition.Job

/-!
Provisioning and removal of notebook jobs.
-/
namespace Provisioning.JobSpec

def info (s : JobSpec) (g : Ground) (id : String) : JobInfo :=
  let w := g.session.workspace
  [("jobURL", .ofLink "Job URL" s.name (w.url ++ "/#job/" ++ id)),
   ("repository", .ofText "Repository" g.repository.path),
   ("workspaceURL", workspaceLink w)]

def provision (s : JobSpec) (settings : Settings) (a : Accepted) : Remote Completion := do
  let ground ← s.workload.prepare settings a
  let session := ground.session
  let outcome ← session.jobs <|
    (session.scope .job).upsert s.name (s.definition settings.gitProvider)
  let id := outcome.reference.id
  ground.secure settings a (.job id) settings.permissions.job
  pure <| .provisioned id s!"Job '{s.name}' provisioned in workspace '{session.workspace.name}'"
    (s.info ground id)

def unprovision (s : JobSpec) (a : Accepted) : Remote Completion :=
  s.workload.remove a .job s.name Session.jobs

end Provisioning.JobSpec
