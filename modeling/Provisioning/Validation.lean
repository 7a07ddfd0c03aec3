import Provisioning.Descriptor.Text
import Provisioning.Principal
import Provisioning.Request
import Provisioning.Validation.Rule

/-!
Requests are checked before anything is done.  A request that is of another kind, holds no
descriptor or names no declared component has that one problem; otherwise everything that is wrong
is reported together: the owner, the developer group, the environment, and then either why the
component cannot be classified or the rules of its class that it breaks.  A component that nothing
handles is no problem of its request.
-/
namespace Provisioning

structure Accepted where
  product : DataProduct
  component : Component
  classified : Classified
  removeData : Bool
  owner : PrincipalRef
  devGroup : PrincipalRef
  deriving Repr

namespace Accepted

def environment (a : Accepted) : String := a.product.environment

end Accepted

namespace Validation

def wrongKind (k : DescriptorKind) : Failure :=
  .single s!"Descriptor kind {k.title} is not accepted, expected COMPONENT_DESCRIPTOR"

def undeclared (d : Descriptor) : Failure :=
  .single s!"Component '{d.componentId}' to provision is not declared in data product '{d.product.id}'"

def principalProblems (field reference : String) : List Problem :=
  match PrincipalRef.parse reference with
  | .ok _ => []
  | .error e => [⟨s!"Invalid {field}: {e.message}", none⟩]

def environmentProblems (environment : String) : List Problem :=
  if Text.blank environment then [⟨"Data product environment must not be empty", none⟩] else []

def classifiedProblems : Except Failure Classified → List Problem
  | .ok c => Rule.broken c.rules
  | .error f => f.problems

def problems (p : DataProduct) (c : Except Failure Classified) : List Problem :=
  principalProblems "dataProductOwner" p.owner ++ principalProblems "devGroup" p.devGroup ++
  environmentProblems p.environment ++ classifiedProblems c

def unreadable : Failure :=
  .single "Data product owner and development group must be valid principal references"

/-- Accept a component of a data product, or tell everything that is wrong with it. -/
def acceptComponent (p : DataProduct) (c : Component) (removeData : Bool) (t : Templates) :
    Except Failure Accepted :=
  let classified := c.classify t
  match Failure.ofProblems? (problems p classified) with
  | some f => .error f
  | none =>
    match PrincipalRef.parse p.owner, PrincipalRef.parse p.devGroup, classified with
    | .ok owner, .ok devGroup, .ok classified =>
      .ok ⟨p, c, classified, removeData, owner, devGroup⟩
    | _, _, _ => .error unreadable

end Validation

open Validation in
def Request.accept (r : Request) (t : Templates) : Except Failure Accepted :=
  if r.kind ≠ .component then .error (wrongKind r.kind)
  else match Descriptor.read r.descriptor with
    | .error f => .error f
    | .ok d =>
      match d.component? with
      | none => .error (undeclared d)
      | some c => acceptComponent d.product c r.removeData t

structure Verdict where
  valid : Bool
  errors : List String
  deriving DecidableEq, Repr

namespace Verdict

def accepted : Verdict := ⟨true, []⟩

def refused (errors : List String) : Verdict := ⟨false, errors⟩

def toJson (v : Verdict) : Json :=
  .object ((if v.errors.isEmpty then [] else [("errors", .texts v.errors)]) ++
    [("valid", .bool v.valid)])

open Wire Fields in
def decode : Decoder Verdict :=
  record "ValidationResult" <|
    Verdict.mk <$> required "valid" bool <*> defaulted "errors" (listOf text) []

end Verdict

/-- Like `accept`, but a component that nothing handles counts as invalid. -/
def Request.validate (r : Request) (t : Templates) : Verdict :=
  match r.accept t with
  | .ok a =>
    match a.classified with
    | .unsupported reason => .refused [reason]
    | _ => .accepted
  | .error f => .refused f.descriptions

end Provisioning
