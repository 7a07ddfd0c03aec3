import Provisioning.Remote.Objects

/-!
A collection of objects that does as it is told: calls can be made to fail, and deletions to find
nothing.  Objects stand in order of creation, a definition is no more than a name, and every call is
logged.
-/
namespace Provisioning

structure Scripted where
  objects : List ResourceRef := []
  failing : List String := []
  vanished : List String := []
  created : Nat := 0
  calls : List String := []
  deriving DecidableEq, Repr

namespace Scripted

def keyOf : ObjectCall String → String
  | .listByName name => "list:" ++ name
  | .get id => "get:" ++ id
  | .create definition => "create:" ++ definition
  | .update id _ => "update:" ++ id
  | .delete id => "delete:" ++ id

def rejects (s : Scripted) (key : String) : Bool :=
  s.failing.contains key || s.failing.contains (Text.before ':' key)

def rejection (key : String) : Failure := .wrap s!"scripted {key} failed" "scripted failure"

def rename (id name : String) (r : ResourceRef) : ResourceRef := if r.id = id then ⟨id, name⟩ else r

def newId (s : Scripted) : String := s!"new-{s.created + 1}"

def answer (c : ObjectCall String) (s : Scripted) : c.Answer × Scripted :=
  match c with
  | .listByName name => (s.objects.filter (·.name == name), s)
  | .get id => ((s.objects.find? (·.id == id)).map fun r => ⟨r, r.name, []⟩, s)
  | .create name =>
    (⟨s.newId, name⟩, { s with objects := s.objects ++ [⟨s.newId, name⟩], created := s.created + 1 })
  | .update id name => (⟨id, name⟩, { s with objects := s.objects.map (rename id name) })
  | .delete id =>
    if s.vanished.contains id then (.notFound, s)
    else (.deleted, { s with objects := s.objects.filter (·.id != id) })

def handler : Handler (Provisioning.objects String) Scripted := fun c s =>
  let key := keyOf c
  let s := { s with calls := s.calls ++ [key] }
  if s.rejects key then (.refused (rejection key), s)
  else let (a, s) := answer c s; (.answered a, s)

end Scripted
end Provisioning
