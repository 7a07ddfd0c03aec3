import Provisioning.Configuration.Check
import Provisioning.Configuration.Shape
import Provisioning.Configuration.Source
import Provisioning.Configuration.Surroundings

/-!
Loading the settings for an environment.  The base file of a directory comes first, the file of the
environment over it, and the variables over both; a file that is not there gives nothing.  What they
give together must have the shape of settings and satisfy their rules.
-/
namespace Provisioning

open Provisioning.Configuration (Shape)

def PermissionLevel.shape : Shape := .choice "PermissionLevel" (PermissionLevel.all.map (·.name))

def CatalogPrivilege.shape : Shape := .choice "CatalogPrivilege" (CatalogPrivilege.all.map (·.name))

def ObjectPermissions.shape : Shape := .record "ObjectPermissions"
  [("owner", true, PermissionLevel.shape), ("developers", true, PermissionLevel.shape)]

def OutputPortPermissions.shape : Shape := .record "OutputPortPermissions"
  [("owner", false, .listOf CatalogPrivilege.shape),
   ("developers", false, .listOf CatalogPrivilege.shape),
   ("consumers", false, CatalogPrivilege.shape)]

def Permissions.shape : Shape := .record "PermissionsConfig"
  [("job", false, ObjectPermissions.shape), ("pipeline", false, ObjectPermissions.shape),
   ("repository", false, ObjectPermissions.shape),
   ("output_port", false, OutputPortPermissions.shape)]

def WorkspaceSettings.shape : Shape := .record "WorkspaceConfig"
  [("managed", false, .truth), ("region", false, .text), ("sku", false, .text),
   ("resource_group", false, .optionalText), ("workspace_role", false, .text)]

def Templates.shape : Shape := .record "TemplatesConfig"
  [("job", false, .listOf .text), ("pipeline", false, .listOf .text),
   ("workflow", false, .listOf .text), ("output_port", false, .listOf .text)]

def Settings.shape : Shape := .record "ProvisionerConfig"
  [("orchestrator", false, .record "OrchestratorConfig" [("max_concurrent_jobs", false, .word)]),
   ("environments", false, .record "EnvironmentsConfig" [("development", false, .text)]),
   ("workspace", false, WorkspaceSettings.shape),
   ("git", false, .record "GitConfig" [("provider", false, .text)]),
   ("permissions", false, Permissions.shape),
   ("templates", false, Templates.shape)]

namespace Configuration

inductive LoadError where
  | unreadable (file : String) (cause : Unreadable)
  | refused (r : Refusal)
  | unfit (e : SettingsError)
  deriving DecidableEq, Repr

def LoadError.message : LoadError → String
  | unreadable file cause => cause.message ++ " in " ++ file
  | refused r => r.message
  | unfit e => e.message

def LoadError.source (e : LoadError) : SourceError := .configuration e.message

structure Loaded where
  settings : Settings
  environment : String
  directory : String
  deriving Repr

def standardDirectory : String := "config/provisioner"

/-- The files that may hold what is asked for under a path, in the order in which they are tried.  A
file without extension tells nothing, and stands in the way of the others. -/
def candidates (path : String) (s : Surroundings) : List String :=
  if hasExtension path then [path, path ++ ".yaml", path ++ ".yml"]
  else if s.isFile path then []
  else [path ++ ".yaml", path ++ ".yml"]

def byteOrderMark : String := String.singleton (Char.ofNat 0xFEFF)

def fileLayer (path : String) (s : Surroundings) : Except LoadError Layer :=
  match (candidates path s).findSome? fun p => (s.file? p).map (p, ·) with
  | none => .ok []
  | some (p, text) =>
    (Layer.ofFile (shownPath p) ((Text.after? byteOrderMark text).getD text)).mapError
      (.unreadable (shownPath p))

def settingsOf (v : Value) : Except LoadError Settings :=
  match Settings.shape.read v with
  | .error r => .error (.refused r)
  | .ok json =>
    match Settings.decode json with
    | .error f => .error (.refused (.fault f))
    | .ok settings =>
      match settings.check with
      | .error e => .error (.unfit e)
      | .ok () => .ok settings

def Surroundings.load (directory? : Option String) (environment : String) (s : Surroundings) :
    Except LoadError Loaded := do
  let directory := directory?.getD standardDirectory
  let base ← fileLayer (inDirectory directory "base.yaml") s
  let override ← fileLayer (inDirectory directory (environment ++ ".yaml")) s
  let settings ← settingsOf (Layer.merge [base, override, Layer.ofVariables s.bindings])
  .ok ⟨settings, environment, directory⟩

end Configuration
end Provisioning
