import Provisioning.Specification.Job

/-!
The specific section of a workflow.  Its definition travels whole, as a free job object with
the settings that the platform keeps.
-/
namespace Provisioning

structure WorkflowSpec where
  workspace : String
  repoPath : String
  git : GitSource
  /-- A job object: `settings`, and possibly fields that the platform assigns. -/
  workflow : Json
  mayOverride : Bool
  deriving Repr

namespace WorkflowSpec

def settings? (s : WorkflowSpec) : Option Json :=
  match s.workflow.member? "settings" with
  | some v => if v.isObject then some v else none
  | none => none

def name? (s : WorkflowSpec) : Option String :=
  (s.settings?.bind (Json.member? "name")).bind Json.asText?

def toJson (s : WorkflowSpec) : Json :=
  .object [("git", s.git.toJson), ("override", .bool s.mayOverride),
    ("repoPath", .text s.repoPath), ("workflow", s.workflow), ("workspace", .text s.workspace)]

open Wire Fields in
def decode : Decoder WorkflowSpec :=
  record "WorkflowSpecific" <|
    WorkflowSpec.mk <$> required "workspace" text
      <*> required "repoPath" text
      <*> required "git" GitSource.decode
      <*> required "workflow" any
      <*> defaulted "override" bool false

end WorkflowSpec
end Provisioning
