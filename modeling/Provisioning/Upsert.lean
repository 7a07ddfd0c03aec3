import Provisioning.Remote.Objects

/-!
Create or update by name.  In a scope a name stands for at most one object: without a match the
object is created, a single match is updated under its id, and several are a failure that names them
all and touches none.  Removal deletes every match and reports each deletion that fails.
-/
namespace Provisioning

inductive UpsertPlan where
  | create
  | update (existing : ResourceRef)
  deriving DecidableEq, Repr

inductive UpsertAction where
  | created
  | updated
  deriving DecidableEq, Repr

structure UpsertOutcome where
  reference : ResourceRef
  action : UpsertAction
  deriving DecidableEq, Repr

structure Scope where
  kind : ResourceKind
  place : String
  deriving DecidableEq, Repr

namespace Scope

def notUnique (s : Scope) (name : String) (found : List ResourceRef) : Failure :=
  let ids := Text.joinWith ", " (found.map (·.id))
  .single <|
    s!"Found {found.length} {s.kind.name}s named '{name}' in {s.place} (ids: {ids}), " ++
    "but the name must be unique. Remove the duplicates and retry"

def planFor (s : Scope) (name : String) : List ResourceRef → Except Failure UpsertPlan
  | [] => .ok .create
  | [existing] => .ok (.update existing)
  | found => .error (s.notUnique name found)

def plan (s : Scope) (name : String) : Program (objects δ) UpsertPlan := do
  let found ← Objects.listByName name
  Program.ofExcept (s.planFor name found)

def apply (definition : δ) : UpsertPlan → Program (objects δ) UpsertOutcome
  | .create => do
    let reference ← Objects.create definition
    pure ⟨reference, .created⟩
  | .update existing => do
    let reference ← Objects.update existing.id definition
    pure ⟨reference, .updated⟩

/-- Create the object of this name or update it. -/
def upsert (s : Scope) (name : String) (definition : δ) : Program (objects δ) UpsertOutcome := do
  let plan ← s.plan name
  apply definition plan

def deletionContext (s : Scope) (r : ResourceRef) : String :=
  s!"Failed to delete {s.kind.name} '{r.name}' ({r.id}) in {s.place}"

/-- Delete one object; a failure is told with the object it is about. -/
def removeOne (s : Scope) (r : ResourceRef) : Program (objects δ) (Except Failure Deletion) := do
  let result ← (Objects.delete r.id).attempt
  pure (result.mapError (Failure.inContext (s.deletionContext r)))

/-- Delete every object of this name, and count those that were still there. -/
def removeAll (s : Scope) (name : String) : Program (objects δ) Nat := do
  let found ← Objects.listByName name
  let results ← Program.each s.removeOne found
  let deletions ← Program.ofExcept (accumulate results)
  pure (deletions.count .deleted)

end Scope
end Provisioning
