import Provisioning.Configuration.Settings
import Provisioning.Descriptor
import Provisioning.Failure
import Provisioning.Specification.OutputPort
import Provisioning.Specification.Pipeline
import Provisioning.Specification.Workflow

/-!
A component is classified by its kind and its use-case template id, and its specific section is
decoded for that class.  A kind or template that nothing handles gives the class `unsupported`,
a regular value; only a handled component whose section does not decode is a failure.
-/
namespace Provisioning

inductive Classified where
  | job (spec : JobSpec)
  | pipeline (spec : PipelineSpec)
  | workflow (spec : WorkflowSpec)
  | outputPort (spec : OutputPortSpec)
  | unsupported (reason : String)
  deriving Repr

namespace Classified

def label : Classified → String
  | job _ => "job"
  | pipeline _ => "dlt_pipeline"
  | workflow _ => "workflow"
  | outputPort _ => "output_port"
  | unsupported _ => "unsupported"

def detail : Classified → Json
  | job s => s.toJson
  | pipeline s => s.toJson
  | workflow s => s.toJson
  | outputPort s => s.toJson
  | unsupported reason => .text reason

end Classified

namespace Component

def specification (c : Component) (what : String) (d : Wire.Decoder α) : Except Failure α :=
  match d c.specific with
  | .ok a => .ok a
  | .error f => .error (.wrap
      s!"The specific section of component '{c.id}' is not a valid {what} specification"
      (f.message .json))

def withoutTemplate (c : Component) (what : String) : Classified :=
  .unsupported s!"The {what} '{c.id}' has no use case template id, which is not supported by this provisioner"

def unknownTemplate (c : Component) (template what : String) : Classified :=
  .unsupported s!"The use case template id '{template}' of the {what} '{c.id}' is not supported by this provisioner"

def classifyWorkload (c : Component) (t : Templates) (template : String) : Except Failure Classified :=
  if t.job.contains template then .job <$> c.specification "job" JobSpec.decode
  else if t.pipeline.contains template then
    .pipeline <$> c.specification "DLT pipeline" PipelineSpec.decode
  else if t.workflow.contains template then
    .workflow <$> c.specification "workflow" WorkflowSpec.decode
  else .ok (c.unknownTemplate template "workload")

def classifyOutputPort (c : Component) (t : Templates) (template : String) :
    Except Failure Classified :=
  if t.outputPort.contains template then
    .outputPort <$> c.specification "output port" OutputPortSpec.decode
  else .ok (c.unknownTemplate template "output port")

def classify (c : Component) (t : Templates) : Except Failure Classified :=
  if c.kind = "workload" then
    match c.templateId with
    | some template => c.classifyWorkload t template
    | none => .ok (c.withoutTemplate "workload")
  else if c.kind = "outputport" then
    match c.templateId with
    | some template => c.classifyOutputPort t template
    | none => .ok (c.withoutTemplate "output port")
  else .ok (.unsupported
    s!"The kind '{c.kind}' of the component '{c.id}' is not supported by this provisioner")

end Component
end Provisioning
