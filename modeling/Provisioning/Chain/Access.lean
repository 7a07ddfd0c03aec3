import Provisioning.Chain.Completion

/-!
What the owner and the developer group of a data product get: a role on the workspace, levels on
objects, privileges on views.
-/
namespace Provisioning

def grantWorkspaceAccess (role : String) (w : WorkspaceInfo) (a : Accepted) : Remote Unit := do
  Remote.assignRole w.resourceId a.owner role
  Remote.assignRole w.resourceId a.devGroup role

namespace Session

def unknownPrincipal (s : Session) (p : PrincipalRef) : Failure :=
  .single s!"Principal '{p.externalId}' was not found in workspace '{s.workspace.name}'"

/-- The principal as the directory has it; one that it does not have is a failure. -/
def resolve (s : Session) (p : PrincipalRef) : Remote Principal := do
  match ← s.identity (.resolve p) with
  | some principal => pure principal
  | none => Program.fail (s.unknownPrincipal p)

def assignLevel (s : Session) (object : SecuredObject) (p : PrincipalRef) (l : PermissionLevel) :
    Remote Unit := do
  let principal ← s.resolve p
  s.identity (.assignPermission object principal l)

def assignLevels (s : Session) (object : SecuredObject) (a : Accepted) (ls : ObjectPermissions) :
    Remote Unit := do
  s.assignLevel object a.owner ls.owner
  s.assignLevel object a.devGroup ls.developers

def grantAll (s : Session) (view : String) (p : PrincipalRef) (ps : List CatalogPrivilege) :
    Remote Unit := do
  let principal ← s.resolve p
  let _ ← Program.each (fun privilege => s.catalog (.grant view principal privilege)) ps
  pure ()

end Session
end Provisioning
