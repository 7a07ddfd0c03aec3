import Provisioning.Program
import Provisioning.Resource.Reference

/-!
Collections of remote objects that are found by name and addressed by id.
-/
namespace Provisioning

inductive ObjectCall (δ : Type) where
  | listByName (name : String)
  | get (id : String)
  | create (definition : δ)
  | update (id : String) (definition : δ)
  | delete (id : String)
  deriving Repr

@[reducible] def ObjectCall.Answer : ObjectCall δ → Type
  | listByName _ => List ResourceRef
  | get _ => Option (RemoteResource δ)
  | create _ => ResourceRef
  | update _ _ => ResourceRef
  | delete _ => Deletion

@[reducible] def objects (δ : Type) : Interface := ⟨ObjectCall δ, ObjectCall.Answer⟩

namespace Objects

def listByName (name : String) : Program (objects δ) (List ResourceRef) :=
  Program.request (I := objects δ) (.listByName name)

def get (id : String) : Program (objects δ) (Option (RemoteResource δ)) :=
  Program.request (I := objects δ) (.get id)

def create (definition : δ) : Program (objects δ) ResourceRef :=
  Program.request (I := objects δ) (.create definition)

def update (id : String) (definition : δ) : Program (objects δ) ResourceRef :=
  Program.request (I := objects δ) (.update id definition)

def delete (id : String) : Program (objects δ) Deletion :=
  Program.request (I := objects δ) (.delete id)

end Objects
end Provisioning
