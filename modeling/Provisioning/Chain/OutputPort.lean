import Provisioning.Chain.Workload
import Provisioning.Definition.View

/-!
Provisioning and removal of output ports, and who reads them.  The workspace must exist, and so
must the source table.  Setting the readers gives the consumer privilege to everyone listed and
takes it from everyone else but the owner and the developer group; whoever is listed but cannot be
served keeps what they have, and everything that goes wrong on the way is reported together.
-/
namespace Provisioning.OutputPortSpec

def info (s : OutputPortSpec) (w : WorkspaceInfo) : JobInfo :=
  [("viewFullName", .ofText "View" s.viewName),
   ("viewURL", .ofLink "View URL" s.viewName
      (w.url ++ "/explore/data/" ++ s.catalog ++ "/" ++ s.schema ++ "/" ++ s.view))]

def missingSource (s : OutputPortSpec) (componentId workspace : String) : Failure :=
  .single <|
    s!"Source table '{s.source.fullName}' of output port '{componentId}' " ++
    s!"does not exist in workspace '{workspace}'"

def provision (s : OutputPortSpec) (settings : Settings) (a : Accepted) : Remote Completion := do
  let workspace ← existingWorkspace s.workspace
  let session ← Session.start workspace
  session.catalog (.ensureCatalog s.catalog)
  session.catalog (.ensureSchema s.catalog s.schema)
  let there ← session.catalog (.tableExists s.source.fullName)
  if !there then Program.fail (s.missingSource a.component.id workspace.name)
  let outcome ← session.views <|
    (session.scope .view).upsert s.viewName (s.definition a.component.description)
  let privileges := settings.permissions.outputPort
  session.grantAll s.viewName a.owner privileges.owner
  session.grantAll s.viewName a.devGroup privileges.developers
  pure <| .provisioned outcome.reference.id
    s!"View '{s.viewName}' provisioned in workspace '{workspace.name}'" (s.info workspace)

def skippedRemoval (s : OutputPortSpec) : Completion :=
  .messageOnly <|
    s!"Unprovision skipped: workspace '{s.workspace}' does not exist, " ++
    s!"so view '{s.viewName}' is already gone"

def unprovision (s : OutputPortSpec) : Remote Completion := do
  match ← workspaceIfAny s.workspace with
  | none => pure s.skippedRemoval
  | some workspace =>
    let session ← Session.start workspace
    let removed ← session.views ((session.scope .view).removeAll s.viewName)
    pure <| .messageOnly
      s!"Unprovisioned view '{s.viewName}' from workspace '{workspace.name}' ({removed} removed)"

def parseReader (written : String) : Except Failure PrincipalRef :=
  match PrincipalRef.parse written with
  | .ok p => .ok p
  | .error e => .error (.single s!"Invalid principal reference: {e.message}")

def readersOf (refs : List String) : List PrincipalRef :=
  refs.filterMap fun r => (parseReader r).toOption

def malformed (refs : List String) : List Failure :=
  refs.filterMap fun r =>
    match parseReader r with
    | .ok _ => none
    | .error f => some f

/-- Give one reader the privilege; the value is the name under which they now hold it. -/
def serve (s : OutputPortSpec) (session : Session) (privilege : CatalogPrivilege)
    (p : PrincipalRef) : Remote String := do
  let principal ← session.resolve p
  session.catalog (.grant s.viewName principal privilege)
  pure principal.name

/-- Try to serve a reader: the name to spare from revocation, and what came of it. -/
def tryServe (s : OutputPortSpec) (session : Session) (privilege : CatalogPrivilege)
    (p : PrincipalRef) : Remote (String × Except Failure Unit) := do
  match ← (s.serve session privilege p).attempt with
  | .ok name => pure (name, .ok ())
  | .error f => pure (p.externalId, .error f)

def revocationContext (s : OutputPortSpec) (g : Grant) : String :=
  s!"Failed to revoke {g.privilege.name} on '{s.viewName}' from '{g.principal}'"

def tryRevoke (s : OutputPortSpec) (session : Session) (g : Grant) : Remote (Except Failure Unit) := do
  let result ← (session.catalog (.revoke s.viewName g.principal g.privilege)).attempt
  pure (result.mapError (Failure.inContext (s.revocationContext g)))

/-- The grants to be taken back: those of the privilege to names that are not kept. -/
def surplus (privilege : CatalogPrivilege) (kept : List String) (current : List Grant) : List Grant :=
  current.filter fun g => g.privilege == privilege && !kept.contains g.principal

def readersSet (s : OutputPortSpec) (privilege : CatalogPrivilege) (granted revoked : Nat) : Completion :=
  .messageOnly <|
    s!"Access to '{s.viewName}' updated: {granted} principal(s) granted {privilege.name}, " ++
    s!"{revoked} revoked"

def setReaders (s : OutputPortSpec) (settings : Settings) (a : Accepted) (refs : List String) :
    Remote Completion := do
  let privilege := settings.permissions.outputPort.consumers
  let readers := readersOf refs
  let workspace ← existingWorkspace s.workspace
  let session ← Session.start workspace
  let current ← session.catalog (.listGrants s.viewName)
  let services ← Program.each (s.tryServe session privilege) readers
  let kept := a.owner.externalId :: a.devGroup.externalId :: services.map (·.1)
  let revocations ← Program.each (s.tryRevoke session) (surplus privilege kept current)
  let results := (malformed refs).map Except.error ++ services.map (·.2) ++ revocations
  let _ ← Program.ofExcept (accumulate results)
  pure (s.readersSet privilege readers.length (revocations.countP (·.isOk)))

end Provisioning.OutputPortSpec
