import Provisioning.Configuration.Settings
import Provisioning.Record.JobRecord
import Provisioning.Remote.Call
import Provisioning.Validation

/-!
What a chain of steps leads to when none of them fails, and where the object of a workload lives.
-/
namespace Provisioning

structure Completion where
  resourceId : Option String
  message : String
  info : Option JobInfo
  updates : Option Json
  deriving Repr

namespace Completion

def provisioned (resourceId message : String) (info : JobInfo) : Completion :=
  ⟨some resourceId, message, some info, none⟩

def messageOnly (message : String) : Completion := ⟨none, message, none, none⟩

def proposing (message : String) (updates : Json) : Completion := ⟨none, message, none, some updates⟩

end Completion

def workspaceLink (w : WorkspaceInfo) : InfoEntry := .ofLink "Workspace URL" w.url w.url

structure Workload where
  workspace : String
  repoUrl : String
  repoPath : String
  deriving DecidableEq, Repr

def JobSpec.workload (s : JobSpec) : Workload := ⟨s.workspace, s.git.url, s.repoPath⟩

def PipelineSpec.workload (s : PipelineSpec) : Workload := ⟨s.workspace, s.git.url, s.repoPath⟩

def WorkflowSpec.workload (s : WorkflowSpec) : Workload := ⟨s.workspace, s.git.url, s.repoPath⟩

end Provisioning
