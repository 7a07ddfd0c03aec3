import Provisioning.Descriptor
import Provisioning.Failure
import Provisioning.Yaml.Shape

/-!
Descriptors as YAML text.  The fields keep the texts that were written; only the specific section
of a component is read as values of all kinds.
-/
namespace Provisioning

open Yaml (Shape)

def Component.shape : Shape := .record "Component"
  [("id", true, .text), ("name", true, .text), ("description", false, .optionalText),
   ("kind", true, .text), ("useCaseTemplateId", false, .optionalText),
   ("infrastructureTemplateId", false, .optionalText), ("version", false, .optionalText),
   ("specific", false, .free)]

def DataProduct.shape : Shape := .record "DataProduct"
  [("id", true, .text), ("name", true, .text), ("domain", false, .text),
   ("environment", true, .text), ("version", false, .text), ("dataProductOwner", true, .text),
   ("devGroup", true, .text), ("components", false, .listOf Component.shape)]

def Descriptor.shape : Shape := .record "ComponentDescriptor"
  [("dataProduct", true, DataProduct.shape), ("componentIdToProvision", true, .text)]

def Descriptor.ofChars (source : List Char) : Except Failure Descriptor :=
  match Descriptor.shape.read source with
  | .error refusal => .error (.ofProblem (SourceError.descriptor refusal.message).problem)
  | .ok v =>
    match Descriptor.decode v with
    | .ok d => .ok d
    | .error f => .error (.ofProblem (SourceError.descriptor (f.message .yaml)).problem)

def Descriptor.read (source : String) : Except Failure Descriptor := ofChars source.toList

end Provisioning
