import Provisioning.Chain.Job
import Provisioning.Chain.OutputPort
import Provisioning.Chain.Pipeline
import Provisioning.Chain.Workflow

/-!
What is done for each kind of request.  Requests are validated first, whatever was said about them
before; nothing is asked of the platform for one that is not valid or that nothing handles.
-/
namespace Provisioning

inductive Direction where
  | provision
  | unprovision
  deriving DecidableEq, Repr

namespace Direction

def name : Direction → String
  | provision => "provision"
  | unprovision => "unprovision"

end Direction

namespace Accepted

def execute (a : Accepted) (s : Settings) (d : Direction) : Remote Completion :=
  match a.classified, d with
  | .job spec, .provision => spec.provision s a
  | .job spec, .unprovision => spec.unprovision a
  | .pipeline spec, .provision => spec.provision s a
  | .pipeline spec, .unprovision => spec.unprovision a
  | .workflow spec, .provision => spec.provision s a
  | .workflow spec, .unprovision => spec.unprovision a
  | .outputPort spec, .provision => spec.provision s a
  | .outputPort spec, .unprovision => spec.unprovision
  | .unsupported reason, _ => Program.fail (.single reason)

def noReaders (a : Accepted) : Failure :=
  .single <|
    "Access control updates are only supported for output ports; " ++
    s!"component '{a.component.id}' is a {a.classified.label}"

def setReaders (a : Accepted) (s : Settings) (refs : List String) : Remote Completion :=
  match a.classified with
  | .outputPort spec => spec.setReaders s a refs
  | .unsupported reason => Program.fail (.single reason)
  | _ => Program.fail a.noReaders

end Accepted

def Request.execute (r : Request) (s : Settings) (d : Direction) : Remote Completion := do
  let a ← Program.ofExcept (r.accept s.templates)
  a.execute s d

def AccessRequest.execute (r : AccessRequest) (s : Settings) : Remote Completion := do
  let a ← Program.ofExcept ((Request.ofDescriptor r.descriptor).accept s.templates)
  a.setReaders s r.refs

namespace ReadBackRequest

def unknownTemplate (r : ReadBackRequest) : Failure :=
  .single <|
    s!"Reverse provisioning for use case template id '{r.templateId}' " ++
    "is not supported by this provisioner"

/-- Read a workflow back, when its template is one of those configured for workflows. -/
def execute (r : ReadBackRequest) (s : Settings) : Remote Completion :=
  if s.templates.workflow.contains r.templateId then do
    let updates ← r.target.readBack
    pure <| .proposing
      s!"Workflow '{r.target.workflow}' read back from workspace '{r.target.workspace}'" updates
  else Program.fail r.unknownTemplate

end ReadBackRequest
end Provisioning
