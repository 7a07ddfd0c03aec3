import Provisioning.Principal
import Provisioning.Remote.Objects
import Provisioning.Resource.Access
import Provisioning.Resource.Definition
import Provisioning.Resource.Workspace

/-!
Everything that is asked of the remote platform: workspaces and roles at the level of the cloud,
and all that lives inside a workspace once a session with it is open.  Every call has a key that
names its kind and its target.
-/
namespace Provisioning

inductive CatalogCall where
  | ensureCatalog (catalog : String)
  | ensureSchema (catalog schema : String)
  | tableExists (fullName : String)
  | listGrants (fullName : String)
  | grant (fullName : String) (principal : Principal) (privilege : CatalogPrivilege)
  | revoke (fullName : String) (principal : String) (privilege : CatalogPrivilege)
  deriving DecidableEq, Repr

@[reducible] def CatalogCall.Answer : CatalogCall → Type
  | ensureCatalog _ => Unit
  | ensureSchema _ _ => Unit
  | tableExists _ => Bool
  | listGrants _ => List Grant
  | grant _ _ _ => Unit
  | revoke _ _ _ => Unit

inductive RepositoryCall where
  | create (url path provider : String)
  | listByPath (path : String)
  | delete (id : String)
  deriving DecidableEq, Repr

@[reducible] def RepositoryCall.Answer : RepositoryCall → Type
  | create _ _ _ => RepoCreation
  | listByPath _ => List RepoInfo
  | delete _ => Deletion

inductive IdentityCall where
  | resolve (principal : PrincipalRef)
  | assignPermission (object : SecuredObject) (principal : Principal) (level : PermissionLevel)
  deriving DecidableEq, Repr

@[reducible] def IdentityCall.Answer : IdentityCall → Type
  | resolve _ => Option Principal
  | assignPermission _ _ _ => Unit

inductive InnerCall where
  | jobs (call : ObjectCall JobDefinition)
  | pipelines (call : ObjectCall PipelineDefinition)
  | views (call : ObjectCall ViewDefinition)
  | catalog (call : CatalogCall)
  | repositories (call : RepositoryCall)
  | identity (call : IdentityCall)
  deriving Repr

@[reducible] def InnerCall.Answer : InnerCall → Type
  | jobs c => c.Answer
  | pipelines c => c.Answer
  | views c => c.Answer
  | catalog c => c.Answer
  | repositories c => c.Answer
  | identity c => c.Answer

inductive Call where
  | createIfAbsent (name region : String) (params : WorkspaceParams)
  | findWorkspace (name : String)
  | assignRole (scope : String) (principal : PrincipalRef) (role : String)
  | openSession (workspace : String)
  | inside (workspace : String) (call : InnerCall)
  deriving Repr

@[reducible] def Call.Answer : Call → Type
  | createIfAbsent _ _ _ => WorkspaceInfo
  | findWorkspace _ => Option WorkspaceInfo
  | assignRole _ _ _ => Unit
  | openSession _ => Unit
  | inside _ c => c.Answer

@[reducible] def remote : Interface := ⟨Call, Call.Answer⟩

abbrev Remote (α : Type) := Program remote α

/-! Keys -/

/-- The key of a call on a collection whose calls begin with `kind`. -/
def ObjectCall.key (kind : String) (nameOf : δ → String) : ObjectCall δ → String
  | listByName name => kind ++ ".list_by_name:" ++ name
  | get id => kind ++ ".get:" ++ id
  | create d => kind ++ ".create:" ++ nameOf d
  | update id _ => kind ++ ".update:" ++ id
  | delete id => kind ++ ".delete:" ++ id

def CatalogCall.key : CatalogCall → String
  | ensureCatalog catalog => "catalog.ensure_catalog:" ++ catalog
  | ensureSchema catalog schema => "catalog.ensure_schema:" ++ catalog ++ "." ++ schema
  | tableExists fullName => "catalog.table_exists:" ++ fullName
  | listGrants fullName => "catalog.list_grants:" ++ fullName
  | grant _ principal _ => "catalog.grant:" ++ principal.name
  | revoke _ principal _ => "catalog.revoke:" ++ principal

def RepositoryCall.key : RepositoryCall → String
  | create _ path _ => "repository.create:" ++ path
  | listByPath path => "repository.list_by_path:" ++ path
  | delete id => "repository.delete:" ++ id

def IdentityCall.key : IdentityCall → String
  | resolve principal => "identity.resolve:" ++ principal.externalId
  | assignPermission object _ _ => "identity.assign_permission:" ++ object.display

def InnerCall.key : InnerCall → String
  | jobs c => c.key "job" JobDefinition.name
  | pipelines c => c.key "pipeline" PipelineDefinition.name
  | views c => c.key "view" ViewDefinition.fullName
  | catalog c => c.key
  | repositories c => c.key
  | identity c => c.key

def Call.key : Call → String
  | createIfAbsent name _ _ => "workspace.create_if_absent:" ++ name
  | findWorkspace name => "workspace.get_by_name:" ++ name
  | assignRole _ principal _ => "permission.assign_role:" ++ principal.externalId
  | openSession workspace => "session.open:" ++ workspace
  | inside _ c => c.key

def operationOf (key : String) : String := Text.before ':' key

/-! Calls as programs -/

namespace Remote

def createWorkspace (name region : String) (params : WorkspaceParams) : Remote WorkspaceInfo :=
  Program.request (I := remote) (.createIfAbsent name region params)

def findWorkspace (name : String) : Remote (Option WorkspaceInfo) :=
  Program.request (I := remote) (.findWorkspace name)

def assignRole (scope : String) (principal : PrincipalRef) (role : String) : Remote Unit :=
  Program.request (I := remote) (.assignRole scope principal role)

end Remote

structure Session where
  workspace : WorkspaceInfo
  deriving DecidableEq, Repr

namespace Session

def start (workspace : WorkspaceInfo) : Remote Session := do
  Program.request (I := remote) (.openSession workspace.name)
  pure ⟨workspace⟩

def place (s : Session) : String := s!"workspace '{s.workspace.name}'"

def jobs (s : Session) (p : Program (objects JobDefinition) α) : Remote α :=
  p.through ⟨fun q => .inside s.workspace.name (.jobs q), fun _ a => a⟩

def pipelines (s : Session) (p : Program (objects PipelineDefinition) α) : Remote α :=
  p.through ⟨fun q => .inside s.workspace.name (.pipelines q), fun _ a => a⟩

def views (s : Session) (p : Program (objects ViewDefinition) α) : Remote α :=
  p.through ⟨fun q => .inside s.workspace.name (.views q), fun _ a => a⟩

def ask (s : Session) (c : InnerCall) : Remote c.Answer :=
  Program.request (I := remote) (.inside s.workspace.name c)

def catalog (s : Session) (c : CatalogCall) : Remote c.Answer := s.ask (.catalog c)

def repositories (s : Session) (c : RepositoryCall) : Remote c.Answer := s.ask (.repositories c)

def identity (s : Session) (c : IdentityCall) : Remote c.Answer := s.ask (.identity c)

end Session
end Provisioning
