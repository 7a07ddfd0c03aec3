import Provisioning.Chain.Completion

/-!
Workspaces must be ready before anything is done in them.  Provisioning a workload creates a
missing one where workspaces are managed, an output port needs one that exists, and for removal a
missing one means that there is nothing left to do.
-/
namespace Provisioning

def notReady (w : WorkspaceInfo) : Failure :=
  .single <|
    s!"Workspace '{w.name}' is in provisioning state '{w.state.display}'; " ++
    "it must be Succeeded before it can be used"

def requireReady (w : WorkspaceInfo) : Except Failure Unit :=
  if w.state.isSucceeded then .ok () else .error (notReady w)

def WorkspaceSettings.params (s : WorkspaceSettings) : WorkspaceParams := ⟨s.sku, s.resourceGroup⟩

def unmanagedMissing (name : String) : Failure :=
  .single s!"Workspace '{name}' does not exist and workspace management is disabled"

def obtainWorkspace (s : WorkspaceSettings) (name : String) : Remote WorkspaceInfo :=
  if s.managed then Remote.createWorkspace name s.region s.params
  else do
    match ← Remote.findWorkspace name with
    | some w => pure w
    | none => Program.fail (unmanagedMissing name)

def ensureWorkspace (s : WorkspaceSettings) (name : String) : Remote WorkspaceInfo := do
  let w ← obtainWorkspace s name
  Program.ofExcept (requireReady w)
  pure w

def noWorkspace (name : String) : Failure := .single s!"Workspace '{name}' does not exist"

def existingWorkspace (name : String) : Remote WorkspaceInfo := do
  match ← Remote.findWorkspace name with
  | some w =>
    Program.ofExcept (requireReady w)
    pure w
  | none => Program.fail (noWorkspace name)

def workspaceIfAny (name : String) : Remote (Option WorkspaceInfo) := do
  match ← Remote.findWorkspace name with
  | some w =>
    Program.ofExcept (requireReady w)
    pure (some w)
  | none => pure none

end Provisioning
