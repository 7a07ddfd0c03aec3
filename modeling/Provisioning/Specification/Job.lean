import Provisioning.Wire.Decode

/-!
The specific section of a notebook job: where its notebook lies in a git repository, the cluster
it runs on, and when it runs.
-/
namespace Provisioning

abbrev TextMap := List (String × String)

def TextMap.toJson (m : TextMap) : Json := .object (m.map fun (k, v) => (k, .text v))

def TextMap.decode : Wire.Decoder TextMap := Wire.mapOf Wire.text

structure GitSource where
  url : String
  deriving DecidableEq, Repr

def GitSource.toJson (g : GitSource) : Json := .object [("gitRepoUrl", .text g.url)]

open Wire Fields in
def GitSource.decode : Decoder GitSource :=
  record "GitSpec" <| GitSource.mk <$> required "gitRepoUrl" text

inductive ReferenceKind where
  | branch
  | tag
  deriving DecidableEq, Repr

namespace ReferenceKind

def name : ReferenceKind → String
  | branch => "BRANCH"
  | tag => "TAG"

def toJson (k : ReferenceKind) : Json := .text k.name

def decode : Wire.Decoder ReferenceKind := Wire.oneOf [("BRANCH", branch), ("TAG", tag)]

end ReferenceKind

structure NotebookSource where
  url : String
  reference : String
  referenceKind : ReferenceKind
  path : String
  deriving DecidableEq, Repr

namespace NotebookSource

def toJson (g : NotebookSource) : Json :=
  .object [("gitPath", .text g.path), ("gitReference", .text g.reference),
    ("gitReferenceType", g.referenceKind.toJson), ("gitRepoUrl", .text g.url)]

open Wire Fields in
def decode : Decoder NotebookSource :=
  record "JobGitSpec" <|
    NotebookSource.mk <$> required "gitRepoUrl" text
      <*> required "gitReference" text
      <*> required "gitReferenceType" ReferenceKind.decode
      <*> required "gitPath" text

end NotebookSource

structure Cluster where
  sparkVersion : String
  nodeType : String
  workers : Nat
  spotBidMaxPrice : Option Decimal.Double
  firstOnDemand : Option Nat
  spotInstances : Bool
  availability : Option String
  driverNodeType : Option String
  sparkConf : TextMap
  environment : TextMap
  runtimeEngine : Option String
  deriving DecidableEq, Repr

namespace Cluster

def price (x : Decimal.Double) : Json := .number (.float x)

def toJson (c : Cluster) : Json :=
  .object [("availability", .ofOption .text c.availability),
    ("clusterSparkVersion", .text c.sparkVersion),
    ("driverNodeTypeId", .ofOption .text c.driverNodeType),
    ("firstOnDemand", .ofOption (fun n : Nat => .int n) c.firstOnDemand),
    ("nodeTypeId", .text c.nodeType), ("numWorkers", .int c.workers),
    ("runtimeEngine", .ofOption .text c.runtimeEngine), ("sparkConf", c.sparkConf.toJson),
    ("sparkEnvVars", c.environment.toJson),
    ("spotBidMaxPrice", .ofOption price c.spotBidMaxPrice),
    ("spotInstances", .bool c.spotInstances)]

open Wire Fields in
def decode : Decoder Cluster :=
  record "ClusterSpec" <|
    Cluster.mk <$> required "clusterSparkVersion" text
      <*> required "nodeTypeId" text
      <*> required "numWorkers" word32
      <*> maybe "spotBidMaxPrice" double
      <*> maybe "firstOnDemand" word32
      <*> defaulted "spotInstances" bool false
      <*> maybe "availability" text
      <*> maybe "driverNodeTypeId" text
      <*> defaulted "sparkConf" TextMap.decode []
      <*> defaulted "sparkEnvVars" TextMap.decode []
      <*> maybe "runtimeEngine" text

end Cluster

structure Schedule where
  cron : String
  timezone : String
  deriving DecidableEq, Repr

namespace Schedule

def toJson (s : Schedule) : Json :=
  .object [("cronExpression", .text s.cron), ("javaTimezoneId", .text s.timezone)]

open Wire Fields in
def decode : Decoder Schedule :=
  record "SchedulingSpec" <|
    Schedule.mk <$> required "cronExpression" text <*> required "javaTimezoneId" text

end Schedule

structure JobSpec where
  workspace : String
  name : String
  description : Option String
  repoPath : String
  git : NotebookSource
  cluster : Cluster
  schedule : Option Schedule
  deriving DecidableEq, Repr

namespace JobSpec

def toJson (s : JobSpec) : Json :=
  .object [("cluster", s.cluster.toJson), ("description", .ofOption .text s.description),
    ("git", s.git.toJson), ("jobName", .text s.name), ("repoPath", .text s.repoPath),
    ("scheduling", .ofOption Schedule.toJson s.schedule), ("workspace", .text s.workspace)]

open Wire Fields in
def decode : Decoder JobSpec :=
  record "JobSpecific" <|
    JobSpec.mk <$> required "workspace" text
      <*> required "jobName" text
      <*> maybe "description" text
      <*> required "repoPath" text
      <*> required "git" NotebookSource.decode
      <*> required "cluster" Cluster.decode
      <*> maybe "scheduling" Schedule.decode

end JobSpec
end Provisioning
