import Provisioning.Classification

/-!
What a classified component must satisfy beyond its types.  The rules of each class stand in the
order in which broken ones are reported.
-/
namespace Provisioning

structure Rule where
  holds : Bool
  complaint : String
  deriving DecidableEq, Repr

namespace Rule

def broken (rules : List Rule) : List Problem :=
  (rules.filter (!·.holds)).map fun r => ⟨r.complaint, none⟩

def filled (field value : String) : Rule := ⟨!Text.blank value, field ++ " must not be empty"⟩

def gitAddress (url : String) : Rule :=
  ⟨Text.endsWith (Text.trimEnd url) ".git",
    s!"Repository URL '{url}' must point to a git repository ending in .git"⟩

def repository (git : GitSource) (path : String) : List Rule :=
  [gitAddress git.url, filled "repoPath" path]

end Rule

open Rule

def Schedule.rules (s : Schedule) : List Rule :=
  [filled "scheduling.cronExpression" s.cron, filled "scheduling.javaTimezoneId" s.timezone]

def JobSpec.rules (s : JobSpec) : List Rule :=
  [filled "workspace" s.workspace, filled "jobName" s.name] ++
  Rule.repository ⟨s.git.url⟩ s.repoPath ++
  [filled "git.gitReference" s.git.reference, filled "git.gitPath" s.git.path,
   filled "cluster.clusterSparkVersion" s.cluster.sparkVersion,
   filled "cluster.nodeTypeId" s.cluster.nodeType] ++
  (match s.schedule with
    | some schedule => schedule.rules
    | none => [])

def pipelineEditions : List String := ["core", "pro", "advanced"]

def editionNames : String := Text.joinWith ", " pipelineEditions

def PipelineSpec.rules (s : PipelineSpec) : List Rule :=
  [filled "workspace" s.workspace, filled "pipelineName" s.name] ++
  Rule.repository s.git s.repoPath ++
  [⟨pipelineEditions.any (Text.sameIgnoringAsciiCase · s.edition),
      s!"productEdition '{s.edition}' is not one of {editionNames}"⟩,
   ⟨!(s.notebooks.isEmpty && s.files.isEmpty),
      "A DLT pipeline needs at least one notebook or file library"⟩,
   ⟨s.cluster.minWorkers ≤ s.cluster.maxWorkers,
      s!"cluster.minWorkers ({s.cluster.minWorkers}) must not exceed cluster.maxWorkers ({s.cluster.maxWorkers})"⟩]

def WorkflowSpec.nameRule (s : WorkflowSpec) : Rule :=
  match s.name? with
  | some name => filled "workflow.settings.name" name
  | none => ⟨false, "workflow.settings must be an object carrying the workflow name"⟩

def WorkflowSpec.rules (s : WorkflowSpec) : List Rule :=
  [filled "workspace" s.workspace] ++ Rule.repository s.git s.repoPath ++ [s.nameRule]

def OutputPortSpec.rules (s : OutputPortSpec) : List Rule :=
  [filled "workspace" s.workspace, filled "catalogName" s.catalog, filled "schemaName" s.schema,
   filled "viewName" s.view, filled "sourceTable.catalogName" s.source.catalog,
   filled "sourceTable.schemaName" s.source.schema, filled "sourceTable.tableName" s.source.table]

def Classified.rules : Classified → List Rule
  | job s => s.rules
  | pipeline s => s.rules
  | workflow s => s.rules
  | outputPort s => s.rules
  | unsupported _ => []

end Provisioning
