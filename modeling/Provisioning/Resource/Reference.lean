import Provisioning.Wire.Decode

/-!
Remote objects: their kinds, the reference under which the platform knows one, and an object
read back with its definition and the fields that the platform assigned to it.
-/
namespace Provisioning

inductive ResourceKind where
  | workspace
  | job
  | workflow
  | pipeline
  | view
  | repository
  deriving DecidableEq, Repr

namespace ResourceKind

def name : ResourceKind → String
  | workspace => "workspace"
  | job => "job"
  | workflow => "workflow"
  | pipeline => "pipeline"
  | view => "view"
  | repository => "repository"

def all : List ResourceKind := [workspace, job, workflow, pipeline, view, repository]

def toJson (k : ResourceKind) : Json := .text k.name

def decode : Wire.Decoder ResourceKind := Wire.oneOf (all.map fun k => (k.name, k))

end ResourceKind

structure ResourceRef where
  id : String
  name : String
  deriving DecidableEq, Repr

namespace ResourceRef

def toJson (r : ResourceRef) : Json := .object [("id", .text r.id), ("name", .text r.name)]

open Wire Fields in
def decode : Decoder ResourceRef :=
  record "ResourceRef" <| ResourceRef.mk <$> required "id" text <*> required "name" text

end ResourceRef

structure RemoteResource (δ : Type) where
  reference : ResourceRef
  definition : δ
  serverFields : Json.Members
  deriving Repr

inductive Deletion where
  | deleted
  | notFound
  deriving DecidableEq, Repr

end Provisioning
