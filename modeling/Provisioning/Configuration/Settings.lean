import Provisioning.Resource.Access
import Provisioning.Text.Case

/-!
The settings of the engine, section by section.  Every section and nearly every setting has a
value of its own when it is not given; only the two levels of one object's permissions come
together or not at all.
-/
namespace Provisioning

structure ObjectPermissions where
  owner : PermissionLevel
  developers : PermissionLevel
  deriving DecidableEq, Repr

namespace ObjectPermissions

def standard : ObjectPermissions := ⟨.canManage, .canManage⟩

def toJson (p : ObjectPermissions) : Json :=
  .object [("developers", p.developers.toJson), ("owner", p.owner.toJson)]

open Wire Fields in
def decode : Decoder ObjectPermissions :=
  record "ObjectPermissions" <|
    ObjectPermissions.mk <$> required "owner" PermissionLevel.decode
      <*> required "developers" PermissionLevel.decode

end ObjectPermissions

structure OutputPortPermissions where
  owner : List CatalogPrivilege
  developers : List CatalogPrivilege
  consumers : CatalogPrivilege
  deriving DecidableEq, Repr

namespace OutputPortPermissions

def standard : OutputPortPermissions := ⟨[.allPrivileges], [.select], .select⟩

def privileges (ps : List CatalogPrivilege) : Json := .list (ps.map CatalogPrivilege.toJson)

def toJson (p : OutputPortPermissions) : Json :=
  .object [("consumers", p.consumers.toJson), ("developers", privileges p.developers),
    ("owner", privileges p.owner)]

open Wire Fields in
def decode : Decoder OutputPortPermissions :=
  record "OutputPortPermissions" <|
    OutputPortPermissions.mk
      <$> defaulted "owner" (listOf CatalogPrivilege.decode) standard.owner
      <*> defaulted "developers" (listOf CatalogPrivilege.decode) standard.developers
      <*> defaulted "consumers" CatalogPrivilege.decode standard.consumers

end OutputPortPermissions

structure Permissions where
  job : ObjectPermissions
  pipeline : ObjectPermissions
  repository : ObjectPermissions
  outputPort : OutputPortPermissions
  deriving DecidableEq, Repr

namespace Permissions

def standard : Permissions := ⟨.standard, .standard, .standard, .standard⟩

def toJson (p : Permissions) : Json :=
  .object [("job", p.job.toJson), ("output_port", p.outputPort.toJson),
    ("pipeline", p.pipeline.toJson), ("repository", p.repository.toJson)]

open Wire Fields in
def decode : Decoder Permissions :=
  record "PermissionsConfig" <|
    Permissions.mk <$> defaulted "job" ObjectPermissions.decode .standard
      <*> defaulted "pipeline" ObjectPermissions.decode .standard
      <*> defaulted "repository" ObjectPermissions.decode .standard
      <*> defaulted "output_port" OutputPortPermissions.decode .standard

end Permissions

structure WorkspaceSettings where
  /-- Create missing workspaces instead of failing. -/
  managed : Bool
  region : String
  sku : String
  resourceGroup : Option String
  role : String
  deriving DecidableEq, Repr

namespace WorkspaceSettings

def standard : WorkspaceSettings := ⟨true, "westeurope", "premium", none, "Contributor"⟩

def toJson (w : WorkspaceSettings) : Json :=
  .object [("managed", .bool w.managed), ("region", .text w.region),
    ("resource_group", .ofOption .text w.resourceGroup), ("sku", .text w.sku),
    ("workspace_role", .text w.role)]

open Wire Fields in
def decode : Decoder WorkspaceSettings :=
  record "WorkspaceConfig" <|
    WorkspaceSettings.mk <$> defaulted "managed" bool true
      <*> defaulted "region" text standard.region
      <*> defaulted "sku" text standard.sku
      <*> maybe "resource_group" text
      <*> defaulted "workspace_role" text standard.role

end WorkspaceSettings

structure Templates where
  job : List String
  pipeline : List String
  workflow : List String
  outputPort : List String
  deriving DecidableEq, Repr

namespace Templates

def standard : Templates where
  job := ["urn:dmb:utm:databricks-workload-job-template:0.0.0"]
  pipeline := ["urn:dmb:utm:databricks-workload-dlt-template:0.0.0"]
  workflow := ["urn:dmb:utm:databricks-workload-workflow-template:0.0.0"]
  outputPort := ["urn:dmb:utm:databricks-outputport-template:0.0.0"]

def sections (t : Templates) : List (String × List String) :=
  [("job", t.job), ("pipeline", t.pipeline), ("workflow", t.workflow), ("output_port", t.outputPort)]

def toJson (t : Templates) : Json :=
  .object [("job", .texts t.job), ("output_port", .texts t.outputPort),
    ("pipeline", .texts t.pipeline), ("workflow", .texts t.workflow)]

open Wire Fields in
def decode : Decoder Templates :=
  record "TemplatesConfig" <|
    Templates.mk <$> defaulted "job" (listOf text) standard.job
      <*> defaulted "pipeline" (listOf text) standard.pipeline
      <*> defaulted "workflow" (listOf text) standard.workflow
      <*> defaulted "output_port" (listOf text) standard.outputPort

end Templates

structure Settings where
  maxJobs : Nat
  /-- The environment in which a workflow that drifted must be read back first. -/
  development : String
  workspace : WorkspaceSettings
  gitProvider : String
  permissions : Permissions
  templates : Templates
  deriving DecidableEq, Repr

namespace Settings

def standard : Settings := ⟨8, "development", .standard, "gitLab", .standard, .standard⟩

/-- Names of environments are compared without regard to ASCII case. -/
def isDevelopment (s : Settings) (environment : String) : Bool :=
  Text.sameIgnoringAsciiCase s.development environment

def toJson (s : Settings) : Json :=
  .object [("environments", .object [("development", .text s.development)]),
    ("git", .object [("provider", .text s.gitProvider)]),
    ("orchestrator", .object [("max_concurrent_jobs", .int s.maxJobs)]),
    ("permissions", s.permissions.toJson), ("templates", s.templates.toJson),
    ("workspace", s.workspace.toJson)]

open Wire Fields in
def decode : Decoder Settings :=
  record "ProvisionerConfig" <|
    Settings.mk
      <$> defaulted "orchestrator" (record "OrchestratorConfig" <|
            defaulted "max_concurrent_jobs" wordSize standard.maxJobs) standard.maxJobs
      <*> defaulted "environments" (record "EnvironmentsConfig" <|
            defaulted "development" text standard.development) standard.development
      <*> defaulted "workspace" WorkspaceSettings.decode .standard
      <*> defaulted "git" (record "GitConfig" <|
            defaulted "provider" text standard.gitProvider) standard.gitProvider
      <*> defaulted "permissions" Permissions.decode .standard
      <*> defaulted "templates" Templates.decode .standard

end Settings
end Provisioning
