import Provisioning.Keyed
import Provisioning.Remote.Call

/-!
An in-memory platform.  One counter gives the ids of workspaces, jobs, pipelines and repositories;
what lives in a workspace is kept by workspace name, and a workspace in which nothing was ever put
is empty.  Every call is logged.
-/
namespace Provisioning

structure StoredJob where
  definition : JobDefinition
  serverFields : Json.Members
  deriving Repr

structure WorkspaceData where
  jobs : Keyed StoredJob := []
  pipelines : Keyed PipelineDefinition := []
  views : Keyed ViewDefinition := []
  catalogs : List String := []
  schemas : List String := []
  tables : List String := []
  /-- Grants on each view, the oldest first. -/
  grants : String → List Grant := fun _ => []
  repositories : Keyed RepoInfo := []
  permissions : List (SecuredObject × String × PermissionLevel) := []

structure Platform where
  workspaces : String → Option WorkspaceInfo := fun _ => none
  data : String → WorkspaceData := fun _ => {}
  users : List String := []
  groups : List String := []
  /-- Scope, principal and role of every assignment. -/
  roles : List (String × String × String) := []
  newWorkspaceState : WorkspaceState := .succeeded
  /-- Keys of all calls, the oldest first. -/
  calls : List String := []
  /-- Keys, and parts of keys before the colon, whose calls are rejected. -/
  failures : List String := []
  lastId : Nat := 0
  /-- The time in milliseconds that new jobs are stamped with. -/
  clock : Int := 0

def updated (f : String → β) (a : String) (b : β) : String → β := fun x => if x = a then b else f x

theorem updated_same (f : String → β) (a : String) (b : β) : updated f a b a = b := by
  simp [updated]

theorem updated_other (f : String → β) {a x : String} (b : β) (h : x ≠ a) :
    updated f a b x = f x := by simp [updated, h]

def addOnce [DecidableEq α] (a : α) (as : List α) : List α := if a ∈ as then as else as ++ [a]

namespace Platform

def record (key : String) (p : Platform) : Platform := { p with calls := p.calls ++ [key] }

def rejects (p : Platform) (key : String) : Bool :=
  p.failures.contains key || p.failures.contains (operationOf key)

def nextId (p : Platform) : String := toString (p.lastId + 1)

def spendId (p : Platform) : Platform := { p with lastId := p.lastId + 1 }

def setData (p : Platform) (workspace : String) (d : WorkspaceData) : Platform :=
  { p with data := updated p.data workspace d }

def modifyData (p : Platform) (workspace : String) (f : WorkspaceData → WorkspaceData) : Platform :=
  p.setData workspace (f (p.data workspace))

def putWorkspace (p : Platform) (w : WorkspaceInfo) : Platform :=
  { p with workspaces := updated p.workspaces w.name (some w) }

def newWorkspace (p : Platform) (name region : String) (state : WorkspaceState) : WorkspaceInfo where
  id := p.nextId
  name := name
  resourceId :=
    "/subscriptions/local/resourceGroups/local/providers/Microsoft.Databricks/workspaces/" ++ name
  host := "adb-" ++ p.nextId ++ ".azuredatabricks.net"
  region := region
  state := state

def jobFields (p : Platform) (id : String) : Json.Members :=
  [("created_time", .int p.clock), ("creator_user_name", .text "provisioner@local"),
   ("job_id", .text id), ("run_as_user_name", .text "provisioner@local")]

def newJob (p : Platform) (d : JobDefinition) : StoredJob := ⟨d, p.jobFields p.nextId⟩

def knows (p : Platform) (principal : PrincipalRef) : Bool :=
  match principal with
  | .user email => p.users.contains email
  | .group name => p.groups.contains name

end Platform
end Provisioning
