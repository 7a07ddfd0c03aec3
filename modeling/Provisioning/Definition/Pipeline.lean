import Provisioning.Record.JobRecord
import Provisioning.Resource.Definition
import Provisioning.Specification.Pipeline
import Provisioning.Text.Case

/-!
The definition of a data pipeline.  Library paths are put below the path of the repository with
exactly one slash between, and edition and channel are written in capitals.
-/
namespace Provisioning

def isSlash (c : Char) : Bool := c == '/'

/-- A path below a repository, however many slashes meet between the two. -/
def pathWithin (repository path : String) : String :=
  String.ofList (Text.dropEnd isSlash repository.toList ++ '/' :: path.toList.dropWhile isSlash)

def PipelineCluster.toSettings (c : PipelineCluster) : Json :=
  .object ([("autoscale", .object [("max_workers", .int c.maxWorkers),
      ("min_workers", .int c.minWorkers), ("mode", .text "ENHANCED")]),
    ("custom_tags", c.tags.toJson), ("driver_node_type_id", .text c.driverType),
    ("label", .text "default"), ("node_type_id", .text c.workerType)] ++
    unlessNone "policy_id" .text c.policyId ++ [("spark_conf", c.sparkConf.toJson)])

def PipelineSpec.definition (s : PipelineSpec) : PipelineDefinition where
  name := s.name
  edition := Text.upper s.edition
  channel := Text.upper s.channel
  continuous := s.continuous
  photon := s.photon
  catalog := s.catalog
  target := s.target
  notebooks := s.notebooks.map (pathWithin s.repoPath)
  files := s.files.map (pathWithin s.repoPath)
  notifications := s.notifications.map fun n => ⟨n.mail, n.alerts⟩
  cluster := s.cluster.toSettings

end Provisioning
