import Provisioning.Record.JobRecord
import Provisioning.Resource.Definition
import Provisioning.Specification.Job

/-!
The definition of a notebook job that runs from git, with one task on a cluster of its own.  What
the specification leaves open is left out, except that asking for spot instances without saying
which asks for those that fall back.
-/
namespace Provisioning

namespace NotebookSource

def toSettings (g : NotebookSource) (provider : String) : Json :=
  match g.referenceKind with
  | .branch => .object [("git_branch", .text g.reference), ("git_provider", .text provider),
      ("git_url", .text g.url)]
  | .tag => .object [("git_provider", .text provider), ("git_tag", .text g.reference),
      ("git_url", .text g.url)]

end NotebookSource

namespace Cluster

def effectiveAvailability (c : Cluster) : Option String :=
  match c.availability with
  | some a => some a
  | none => if c.spotInstances then some "SPOT_WITH_FALLBACK_AZURE" else none

def azureAttributes (c : Cluster) : Json.Members :=
  unlessNone "availability" .text c.effectiveAvailability ++
  unlessNone "first_on_demand" (fun n : Nat => .int n) c.firstOnDemand ++
  unlessNone "spot_bid_max_price" price c.spotBidMaxPrice

def toSettings (c : Cluster) : Json :=
  .object ((if c.azureAttributes.isEmpty then [] else [("azure_attributes", .object c.azureAttributes)]) ++
    unlessNone "driver_node_type_id" .text c.driverNodeType ++
    [("node_type_id", .text c.nodeType), ("num_workers", .int c.workers)] ++
    unlessNone "runtime_engine" .text c.runtimeEngine ++
    [("spark_conf", c.sparkConf.toJson), ("spark_env_vars", c.environment.toJson),
     ("spark_version", .text c.sparkVersion)])

end Cluster

def Schedule.toSettings (s : Schedule) : Json :=
  .object [("pause_status", .text "UNPAUSED"), ("quartz_cron_expression", .text s.cron),
    ("timezone_id", .text s.timezone)]

namespace JobSpec

def task (s : JobSpec) : Json :=
  .object [("new_cluster", s.cluster.toSettings),
    ("notebook_task", .object [("notebook_path", .text s.git.path), ("source", .text "GIT")]),
    ("task_key", .text (s.name ++ "_task"))]

def settings (s : JobSpec) (provider : String) : Json :=
  .object (unlessNone "description" .text s.description ++
    [("git_source", s.git.toSettings provider), ("max_concurrent_runs", .int 1),
     ("name", .text s.name)] ++
    unlessNone "schedule" Schedule.toSettings s.schedule ++
    [("tasks", .list [s.task])])

def definition (s : JobSpec) (provider : String) : JobDefinition := ⟨s.name, s.settings provider⟩

end JobSpec
end Provisioning
