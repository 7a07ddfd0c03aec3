import Provisioning.Wire.Decode

/-!
What callers send: a request to provision or to remove the component of a descriptor, a request
to set the readers of an output port, and a request to read a live workflow back.
-/
namespace Provisioning

inductive DescriptorKind where
  | dataProduct
  | component
  | dataProductWithResults
  deriving DecidableEq, Repr

namespace DescriptorKind

def names : List (String × DescriptorKind) :=
  [("DATAPRODUCT_DESCRIPTOR", dataProduct), ("COMPONENT_DESCRIPTOR", component),
   ("DATAPRODUCT_DESCRIPTOR_WITH_RESULTS", dataProductWithResults)]

def name : DescriptorKind → String
  | dataProduct => "DATAPRODUCT_DESCRIPTOR"
  | component => "COMPONENT_DESCRIPTOR"
  | dataProductWithResults => "DATAPRODUCT_DESCRIPTOR_WITH_RESULTS"

def title : DescriptorKind → String
  | dataProduct => "DataproductDescriptor"
  | component => "ComponentDescriptor"
  | dataProductWithResults => "DataproductDescriptorWithResults"

def toJson (k : DescriptorKind) : Json := .text k.name

def decode : Wire.Decoder DescriptorKind := Wire.oneOf names

end DescriptorKind

structure Request where
  kind : DescriptorKind
  /-- The descriptor, as YAML text. -/
  descriptor : String
  removeData : Bool := false
  deriving DecidableEq, Repr

namespace Request

def ofDescriptor (descriptor : String) (removeData : Bool := false) : Request :=
  ⟨.component, descriptor, removeData⟩

def toJson (r : Request) : Json :=
  .object [("descriptor", .text r.descriptor), ("descriptorKind", r.kind.toJson),
    ("removeData", .bool r.removeData)]

open Wire Fields in
def decode : Decoder Request :=
  record "ProvisioningRequest" <|
    Request.mk <$> required "descriptorKind" DescriptorKind.decode
      <*> required "descriptor" text
      <*> defaulted "removeData" bool false

end Request

structure AccessRequest where
  refs : List String
  descriptor : String
  deriving DecidableEq, Repr

namespace AccessRequest

def toJson (r : AccessRequest) : Json :=
  .object [("descriptor", .text r.descriptor), ("refs", .texts r.refs)]

open Wire Fields in
def decode : Decoder AccessRequest :=
  record "UpdateAclRequest" <|
    AccessRequest.mk <$> required "refs" (listOf text) <*> required "descriptor" text

end AccessRequest

structure WorkflowAddress where
  workspace : String
  workflow : String
  deriving DecidableEq, Repr

namespace WorkflowAddress

def toJson (a : WorkflowAddress) : Json :=
  .object [("workflowName", .text a.workflow), ("workspace", .text a.workspace)]

open Wire Fields in
def decode : Decoder WorkflowAddress :=
  record "ReverseProvisioningParams" <|
    WorkflowAddress.mk <$> required "workspace" text <*> required "workflowName" text

end WorkflowAddress

structure ReadBackRequest where
  templateId : String
  environment : String
  target : WorkflowAddress
  deriving DecidableEq, Repr

namespace ReadBackRequest

def toJson (r : ReadBackRequest) : Json :=
  .object [("environment", .text r.environment), ("params", r.target.toJson),
    ("useCaseTemplateId", .text r.templateId)]

open Wire Fields in
def decode : Decoder ReadBackRequest :=
  record "ReverseProvisioningRequest" <|
    ReadBackRequest.mk <$> required "useCaseTemplateId" text
      <*> required "environment" text
      <*> required "params" WorkflowAddress.decode

end ReadBackRequest
end Provisioning
