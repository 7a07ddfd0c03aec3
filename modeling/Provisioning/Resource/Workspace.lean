import Provisioning.Wire.Decode

/-!
Workspaces as the cloud reports them.  Only a workspace in state Succeeded may be worked in; a
state reported under another name never counts as Succeeded, whatever that name is.
-/
namespace Provisioning

inductive WorkspaceState where
  | succeeded
  | accepted
  | creating
  | updating
  | deleting
  | failed
  | other (name : String)
  deriving DecidableEq, Repr

namespace WorkspaceState

def isSucceeded : WorkspaceState → Bool
  | succeeded => true
  | _ => false

def display : WorkspaceState → String
  | succeeded => "Succeeded"
  | accepted => "Accepted"
  | creating => "Creating"
  | updating => "Updating"
  | deleting => "Deleting"
  | failed => "Failed"
  | other name => name

def plain : List (String × WorkspaceState) :=
  [("Succeeded", succeeded), ("Accepted", accepted), ("Creating", creating),
   ("Updating", updating), ("Deleting", deleting), ("Failed", failed)]

def toJson : WorkspaceState → Json
  | other name => .object [("Other", .text name)]
  | state => .text state.display

def names : List String := plain.map (·.1) ++ ["Other"]

/-- A state by its bare name; another name stands in an object under `Other`. -/
def decode : Wire.Decoder WorkspaceState
  | .text s =>
    match plain.lookup s with
    | some state => .ok state
    | none =>
      if s = "Other" then .error (.wrongType .bareVariant "newtype variant")
      else .error (.unknownVariant s names)
  | .object [(s, v)] =>
    match plain.lookup s with
    | some state =>
      match v with
      | .null => .ok state
      | v => Wire.unexpected v "unit"
    | none =>
      if s = "Other" then other <$> Wire.text v else .error (.unknownVariant s names)
  | .object _ => .error (.wrongValue .map "map with a single key")
  | v => Wire.unexpected v "string or map"

end WorkspaceState

structure WorkspaceInfo where
  id : String
  name : String
  resourceId : String
  host : String
  region : String
  state : WorkspaceState
  deriving DecidableEq, Repr

namespace WorkspaceInfo

def url (w : WorkspaceInfo) : String := "https://" ++ w.host

def toJson (w : WorkspaceInfo) : Json :=
  .object [("host", .text w.host), ("id", .text w.id), ("name", .text w.name),
    ("provisioning_state", w.state.toJson), ("region", .text w.region),
    ("resource_id", .text w.resourceId)]

open Wire Fields in
def decode : Decoder WorkspaceInfo :=
  record "WorkspaceInfo" <|
    WorkspaceInfo.mk <$> required "id" text
      <*> required "name" text
      <*> required "resource_id" text
      <*> required "host" text
      <*> required "region" text
      <*> required "provisioning_state" WorkspaceState.decode

end WorkspaceInfo

structure WorkspaceParams where
  sku : String
  resourceGroup : Option String
  deriving DecidableEq, Repr

end Provisioning
