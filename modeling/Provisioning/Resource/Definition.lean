import Provisioning.Specification.OutputPort

/-!
Definitions of the objects that live in a workspace: jobs and workflows, pipelines, views and
repositories, in the form in which the platform takes and returns them.
-/
namespace Provisioning

structure JobDefinition where
  name : String
  settings : Json
  deriving Repr

namespace JobDefinition

def toJson (d : JobDefinition) : Json := .object [("name", .text d.name), ("settings", d.settings)]

open Wire Fields in
def decode : Decoder JobDefinition :=
  record "JobDefinition" <| JobDefinition.mk <$> required "name" text <*> required "settings" any

end JobDefinition

structure PipelineNotification where
  email : String
  alerts : List String
  deriving DecidableEq, Repr

namespace PipelineNotification

def toJson (n : PipelineNotification) : Json :=
  .object [("alerts", .texts n.alerts), ("email", .text n.email)]

open Wire Fields in
def decode : Decoder PipelineNotification :=
  record "PipelineNotification" <|
    PipelineNotification.mk <$> required "email" text <*> required "alerts" (listOf text)

end PipelineNotification

structure PipelineDefinition where
  name : String
  edition : String
  channel : String
  continuous : Bool
  photon : Bool
  catalog : Option String
  target : Option String
  notebooks : List String
  files : List String
  notifications : List PipelineNotification
  cluster : Json
  deriving Repr

namespace PipelineDefinition

def toJson (d : PipelineDefinition) : Json :=
  .object [("catalog", .ofOption .text d.catalog), ("channel", .text d.channel),
    ("cluster", d.cluster), ("continuous", .bool d.continuous), ("edition", .text d.edition),
    ("files", .texts d.files), ("name", .text d.name), ("notebooks", .texts d.notebooks),
    ("notifications", .list (d.notifications.map PipelineNotification.toJson)),
    ("photon", .bool d.photon), ("target", .ofOption .text d.target)]

open Wire Fields in
def decode : Decoder PipelineDefinition :=
  record "PipelineDefinition" <|
    PipelineDefinition.mk <$> required "name" text
      <*> required "edition" text
      <*> required "channel" text
      <*> required "continuous" bool
      <*> required "photon" bool
      <*> nullable "catalog" text
      <*> nullable "target" text
      <*> required "notebooks" (listOf text)
      <*> required "files" (listOf text)
      <*> required "notifications" (listOf PipelineNotification.decode)
      <*> required "cluster" any

end PipelineDefinition

structure ViewDefinition where
  catalog : String
  schema : String
  name : String
  sourceTable : String
  comment : Option String
  deriving DecidableEq, Repr

namespace ViewDefinition

def fullName (v : ViewDefinition) : String := Provisioning.fullName v.catalog v.schema v.name

def toJson (v : ViewDefinition) : Json :=
  .object [("catalog", .text v.catalog), ("comment", .ofOption .text v.comment),
    ("name", .text v.name), ("schema", .text v.schema), ("source_table", .text v.sourceTable)]

open Wire Fields in
def decode : Decoder ViewDefinition :=
  record "ViewDefinition" <|
    ViewDefinition.mk <$> required "catalog" text
      <*> required "schema" text
      <*> required "name" text
      <*> required "source_table" text
      <*> nullable "comment" text

end ViewDefinition

structure RepoInfo where
  id : String
  url : String
  path : String
  provider : String
  deriving DecidableEq, Repr

namespace RepoInfo

def toJson (r : RepoInfo) : Json :=
  .object [("id", .text r.id), ("path", .text r.path), ("provider", .text r.provider),
    ("url", .text r.url)]

open Wire Fields in
def decode : Decoder RepoInfo :=
  record "RepoInfo" <|
    RepoInfo.mk <$> required "id" text
      <*> required "url" text
      <*> required "path" text
      <*> required "provider" text

end RepoInfo

/-- Outcome of registering a repository; one that exists already is no failure. -/
inductive RepoCreation where
  | created (repo : RepoInfo)
  | alreadyExists
  deriving DecidableEq, Repr

end Provisioning
