import Provisioning.Specification.Job

/-!
The specific section of a declarative data pipeline: its edition, its libraries in a repository,
who is told about it, and the bounds of its cluster.
-/
namespace Provisioning

structure PipelineCluster where
  minWorkers : Nat
  maxWorkers : Nat
  workerType : String
  driverType : String
  policyId : Option String
  sparkConf : TextMap
  tags : TextMap
  deriving DecidableEq, Repr

namespace PipelineCluster

def toJson (c : PipelineCluster) : Json :=
  .object [("driverType", .text c.driverType), ("maxWorkers", .int c.maxWorkers),
    ("minWorkers", .int c.minWorkers), ("policyId", .ofOption .text c.policyId),
    ("sparkConf", c.sparkConf.toJson), ("tags", c.tags.toJson),
    ("workerType", .text c.workerType)]

open Wire Fields in
def decode : Decoder PipelineCluster :=
  record "PipelineClusterSpec" <|
    PipelineCluster.mk <$> required "minWorkers" word32
      <*> required "maxWorkers" word32
      <*> required "workerType" text
      <*> required "driverType" text
      <*> maybe "policyId" text
      <*> defaulted "sparkConf" TextMap.decode []
      <*> defaulted "tags" TextMap.decode []

end PipelineCluster

structure Notification where
  mail : String
  alerts : List String
  deriving DecidableEq, Repr

namespace Notification

def toJson (n : Notification) : Json :=
  .object [("alert", .texts n.alerts), ("mail", .text n.mail)]

open Wire Fields in
def decode : Decoder Notification :=
  record "NotificationSpec" <|
    Notification.mk <$> required "mail" text <*> defaulted "alert" (listOf text) []

end Notification

structure PipelineSpec where
  workspace : String
  name : String
  edition : String
  continuous : Bool
  notebooks : List String
  files : List String
  catalog : Option String
  target : Option String
  photon : Bool
  notifications : List Notification
  channel : String
  cluster : PipelineCluster
  repoPath : String
  git : GitSource
  deriving DecidableEq, Repr

namespace PipelineSpec

def toJson (s : PipelineSpec) : Json :=
  .object [("catalog", .ofOption .text s.catalog), ("channel", .text s.channel),
    ("cluster", s.cluster.toJson), ("continuous", .bool s.continuous), ("files", .texts s.files),
    ("git", s.git.toJson), ("notebooks", .texts s.notebooks),
    ("notifications", .list (s.notifications.map Notification.toJson)),
    ("photon", .bool s.photon), ("pipelineName", .text s.name),
    ("productEdition", .text s.edition), ("repoPath", .text s.repoPath),
    ("target", .ofOption .text s.target), ("workspace", .text s.workspace)]

open Wire Fields in
def decode : Decoder PipelineSpec :=
  record "PipelineSpecific" <|
    PipelineSpec.mk <$> required "workspace" text
      <*> required "pipelineName" text
      <*> required "productEdition" text
      <*> defaulted "continuous" bool false
      <*> defaulted "notebooks" (listOf text) []
      <*> defaulted "files" (listOf text) []
      <*> maybe "catalog" text
      <*> maybe "target" text
      <*> defaulted "photon" bool false
      <*> defaulted "notifications" (listOf Notification.decode) []
      <*> defaulted "channel" text "CURRENT"
      <*> required "cluster" PipelineCluster.decode
      <*> required "repoPath" text
      <*> required "git" GitSource.decode

end PipelineSpec
end Provisioning
