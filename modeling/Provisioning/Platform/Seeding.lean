import Provisioning.Platform.State

/-!
Putting a platform into a state, without any call.
-/
namespace Provisioning.Platform

def addUser (p : Platform) (email : String) : Platform := { p with users := addOnce email p.users }

def addGroup (p : Platform) (name : String) : Platform := { p with groups := addOnce name p.groups }

def failOn (p : Platform) (key : String) : Platform := { p with failures := addOnce key p.failures }

def createIn (p : Platform) (state : WorkspaceState) : Platform := { p with newWorkspaceState := state }

def seedWorkspace (p : Platform) (name : String) (state : WorkspaceState) : WorkspaceInfo × Platform :=
  let w := p.newWorkspace name "westeurope" state
  (w, p.spendId.putWorkspace w)

def setWorkspaceState (p : Platform) (name : String) (state : WorkspaceState) : Platform :=
  match p.workspaces name with
  | some w => { p with workspaces := updated p.workspaces name (some { w with state }) }
  | none => p

def seedJob (p : Platform) (workspace : String) (d : JobDefinition) : String × Platform :=
  (p.nextId, p.spendId.modifyData workspace fun w =>
    { w with jobs := Keyed.insert p.nextId (p.newJob d) w.jobs })

def seedPipeline (p : Platform) (workspace : String) (d : PipelineDefinition) : String × Platform :=
  (p.nextId, p.spendId.modifyData workspace fun w =>
    { w with pipelines := Keyed.insert p.nextId d w.pipelines })

def seedTable (p : Platform) (workspace fullName : String) : Platform :=
  p.modifyData workspace fun w => { w with tables := addOnce fullName w.tables }

def seedView (p : Platform) (workspace : String) (d : ViewDefinition) : Platform :=
  p.modifyData workspace fun w => { w with views := Keyed.insert d.fullName d w.views }

def seedGrant (p : Platform) (workspace fullName : String) (g : Grant) : Platform :=
  p.modifyData workspace fun w =>
    { w with grants := updated w.grants fullName (w.grants fullName ++ [g]) }

end Provisioning.Platform
