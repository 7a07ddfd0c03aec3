import Provisioning.Chain.Access
import Provisioning.Chain.Readiness
import Provisioning.Chain.Repository
import Provisioning.Upsert

/-!
The steps that jobs, pipelines and workflows have in common: before the main object is put in place,
after that, and on removal.
-/
namespace Provisioning

structure Ground where
  session : Session
  repository : RepoInfo
  deriving DecidableEq, Repr

def Workload.prepare (w : Workload) (s : Settings) (a : Accepted) : Remote Ground := do
  let workspace ← ensureWorkspace s.workspace w.workspace
  grantWorkspaceAccess s.workspace.role workspace a
  let session ← Session.start workspace
  let repository ← session.ensureRepository w.repoUrl w.repoPath s.gitProvider
  pure ⟨session, repository⟩

def Ground.secure (g : Ground) (s : Settings) (a : Accepted) (object : SecuredObject)
    (levels : ObjectPermissions) : Remote Unit := do
  g.session.assignLevels object a levels
  g.session.assignLevels (.repository g.repository.id) a s.permissions.repository

def Session.scope (s : Session) (kind : ResourceKind) : Scope := ⟨kind, s.place⟩

def skippedRemoval (w : Workload) (kind : ResourceKind) (name : String) : Completion :=
  .messageOnly <|
    s!"Unprovision skipped: workspace '{w.workspace}' does not exist, " ++
    s!"so {kind.name} '{name}' is already gone"

def removal (workspace path name : String) (kind : ResourceKind) (removed : Nat) (withData : Bool) :
    Completion :=
  let fate := if withData then "removed" else "kept"
  .messageOnly <|
    s!"Unprovisioned {kind.name} '{name}' from workspace '{workspace}' " ++
    s!"({removed} removed, repository '{path}' {fate})"

/-- Remove every object of the name and then, when the data goes too, the repositories.  `collection`
says where in a session the objects are. -/
def Workload.remove (w : Workload) (a : Accepted) (kind : ResourceKind) (name : String)
    (collection : Session → Program (objects δ) Nat → Remote Nat) : Remote Completion := do
  match ← workspaceIfAny w.workspace with
  | none => pure (skippedRemoval w kind name)
  | some workspace =>
    let session ← Session.start workspace
    let removed ← collection session ((session.scope kind).removeAll name)
    if a.removeData then session.removeRepositories w.repoPath
    pure (removal workspace.name w.repoPath name kind removed a.removeData)

end Provisioning
