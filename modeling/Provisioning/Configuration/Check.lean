import Provisioning.Configuration.Settings
import Provisioning.Failure

/-!
What settings must satisfy beyond their types: there is room for a job, the region and the
development environment have names, every list of template ids has an entry, and no template id
is listed twice, in one list or in two.  The first rule broken is the one reported.
-/
namespace Provisioning

inductive SettingsError where
  | noJobs
  | noRegion
  | noDevelopment
  | noTemplates (kind : String)
  | repeatedTemplate (id : String)
  deriving DecidableEq, Repr

def SettingsError.message : SettingsError → String
  | noJobs => "orchestrator.max_concurrent_jobs must be greater than zero"
  | noRegion => "workspace.region must not be empty"
  | noDevelopment => "environments.development must not be empty"
  | noTemplates kind => s!"templates.{kind} must list at least one use-case template id"
  | repeatedTemplate id => s!"use-case template id '{id}' is configured for more than one component type"

def SettingsError.source (e : SettingsError) : SourceError := .configuration e.message

namespace Templates

/-- Add ids to those seen; an id that was seen before ends it. -/
def mark (seen : List String) : List String → Except SettingsError (List String)
  | [] => .ok seen
  | id :: rest => if seen.contains id then .error (.repeatedTemplate id) else mark (id :: seen) rest

def checkSections (seen : List String) : List (String × List String) → Except SettingsError Unit
  | [] => .ok ()
  | (kind, ids) :: rest =>
    if ids.isEmpty then .error (.noTemplates kind)
    else match mark seen ids with
      | .error e => .error e
      | .ok seen => checkSections seen rest

def check (t : Templates) : Except SettingsError Unit := checkSections [] t.sections

end Templates

def Settings.check (s : Settings) : Except SettingsError Unit :=
  if s.maxJobs = 0 then .error .noJobs
  else if Text.blank s.workspace.region then .error .noRegion
  else if Text.blank s.development then .error .noDevelopment
  else s.templates.check

end Provisioning
