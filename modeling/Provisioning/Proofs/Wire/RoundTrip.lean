import Provisioning.Configuration.Settings
import Provisioning.Descriptor
import Provisioning.Proofs.Wire.Fields
import Provisioning.Record.JobRecord
import Provisioning.Request
import Provisioning.Resource.Definition
import Provisioning.Resource.Workspace
import Provisioning.Specification.Pipeline
import Provisioning.Specification.Workflow
import Provisioning.Validation

/-!
What travels arrives.  A value of any type that goes over the wire is read back as it was written, whatever
its options, its lists, its free members and its named states are.  Numbers are the one condition: a cluster
and the settings hold words, so a value has to fit them; whatever is read at all, from an object with members
missing or unknown or from a list by position, does fit.
-/
namespace Provisioning
open Wire Fields

/-! The parts of a component's specific section -/

@[simp] theorem TextMap.decode_toJson (m : TextMap) : TextMap.decode m.toJson = .ok m :=
  mapOf_map fun _ => rfl

@[simp] theorem GitSource.decode_toJson (g : GitSource) : GitSource.decode g.toJson = .ok g := by
  simp [decode, toJson]

@[simp] theorem ReferenceKind.decode_toJson (k : ReferenceKind) : ReferenceKind.decode k.toJson = .ok k := by
  cases k <;> rfl

@[simp] theorem NotebookSource.decode_toJson (g : NotebookSource) :
    NotebookSource.decode g.toJson = .ok g := by
  simp [decode, toJson]

@[simp] theorem Schedule.decode_toJson (s : Schedule) : Schedule.decode s.toJson = .ok s := by
  simp [decode, toJson]

@[simp] theorem Notification.decode_toJson (n : Notification) : Notification.decode n.toJson = .ok n := by
  simp [decode, toJson]

@[simp] theorem SourceTable.decode_toJson (t : SourceTable) : SourceTable.decode t.toJson = .ok t := by
  simp [decode, toJson]

/-! Clusters, whose numbers are words of 32 bits -/

structure Cluster.Fits (c : Cluster) : Prop where
  workers : c.workers < UInt32.size
  firstOnDemand : ∀ n ∈ c.firstOnDemand, n < UInt32.size

theorem Cluster.faithful : Faithful Cluster.Fits Cluster.toJson Cluster.decode where
  reads c fits := by
    have workers : word32 (.int c.workers) = .ok c.workers := word_int fits.workers
    have firstOnDemand : optional word32 (.ofOption (fun n : Nat => .int n) c.firstOnDemand) =
        .ok c.firstOnDemand :=
      optional_ofOption (fun _ same => nomatch same) fun n member => word_int (fits.firstOnDemand n member)
    have price : optional double (.ofOption Cluster.price c.spotBidMaxPrice) = .ok c.spotBidMaxPrice :=
      optional_ofOption (fun _ same => nomatch same) fun _ _ => rfl
    simp [decode, toJson, workers, firstOnDemand, price]
  sound v c decoded := by
    refine record_sound ?_ decoded
    iterate 6 refine yields_past ?_
    refine yields_seq (yields_past (yields_seq ?_ (yields_required fun _ _ => lt_of_word)))
      (yields_maybe fun _ _ => lt_of_word)
    refine yields_past (yields_map ?_ (yields_true _))
    intro version _ type workers fitting price first fittingFirst spot availability driver conf env engine
    exact ⟨fitting, fittingFirst⟩

structure PipelineCluster.Fits (c : PipelineCluster) : Prop where
  minWorkers : c.minWorkers < UInt32.size
  maxWorkers : c.maxWorkers < UInt32.size

theorem PipelineCluster.faithful : Faithful Fits toJson decode where
  reads c fits := by
    have minWorkers : word32 (.int c.minWorkers) = .ok c.minWorkers := word_int fits.minWorkers
    have maxWorkers : word32 (.int c.maxWorkers) = .ok c.maxWorkers := word_int fits.maxWorkers
    simp [decode, toJson, minWorkers, maxWorkers]
  sound v c decoded := by
    refine record_sound ?_ decoded
    iterate 5 refine yields_past ?_
    refine yields_seq (yields_map ?_ (yields_required fun _ _ => lt_of_word))
      (yields_required fun _ _ => lt_of_word)
    intro least fitting most fittingMost worker driver policy conf tags
    exact ⟨fitting, fittingMost⟩

/-! Specific sections -/

def JobSpec.Fits (s : JobSpec) : Prop := s.cluster.Fits

theorem JobSpec.faithful : Faithful Fits toJson decode where
  reads s fits := by
    have cluster := Cluster.faithful.reads s.cluster fits
    have schedule : optional Schedule.decode (.ofOption Schedule.toJson s.schedule) = .ok s.schedule :=
      optional_ofOption (fun _ same => nomatch same) fun s _ => s.decode_toJson
    simp [decode, toJson, cluster, schedule]
  sound v s decoded := by
    refine record_sound ?_ decoded
    refine yields_past (yields_seq ?_ (yields_required Cluster.faithful.sound))
    iterate 4 refine yields_past ?_
    refine yields_map ?_ (yields_true _)
    intro workspace _ name description path git cluster fitting schedule
    exact fitting

def PipelineSpec.Fits (s : PipelineSpec) : Prop := s.cluster.Fits

theorem PipelineSpec.faithful : Faithful Fits toJson decode where
  reads s fits := by
    have cluster := PipelineCluster.faithful.reads s.cluster fits
    simp [decode, toJson, cluster]
  sound v s decoded := by
    refine record_sound ?_ decoded
    iterate 2 refine yields_past ?_
    refine yields_seq ?_ (yields_required PipelineCluster.faithful.sound)
    iterate 10 refine yields_past ?_
    refine yields_map ?_ (yields_true _)
    intro workspace _ name edition continuous notebooks files catalog target photon notified channel cluster fitting
      path git
    exact fitting

@[simp] theorem WorkflowSpec.decode_toJson (s : WorkflowSpec) : WorkflowSpec.decode s.toJson = .ok s := by
  simp [decode, toJson]

@[simp] theorem OutputPortSpec.decode_toJson (s : OutputPortSpec) :
    OutputPortSpec.decode s.toJson = .ok s := by
  simp [decode, toJson]

/-! Definitions of live objects -/

@[simp] theorem JobDefinition.decode_toJson (d : JobDefinition) : JobDefinition.decode d.toJson = .ok d := by
  simp [decode, toJson]

@[simp] theorem PipelineNotification.decode_toJson (n : PipelineNotification) :
    PipelineNotification.decode n.toJson = .ok n := by
  simp [decode, toJson]

@[simp] theorem PipelineDefinition.decode_toJson (d : PipelineDefinition) :
    PipelineDefinition.decode d.toJson = .ok d := by
  simp [decode, toJson]

@[simp] theorem ViewDefinition.decode_toJson (d : ViewDefinition) :
    ViewDefinition.decode d.toJson = .ok d := by
  simp [decode, toJson]

@[simp] theorem RepoInfo.decode_toJson (r : RepoInfo) : RepoInfo.decode r.toJson = .ok r := by
  simp [decode, toJson]

/-- Also a state under a name of its own, even one that a known state has. -/
@[simp] theorem WorkspaceState.decode_toJson (s : WorkspaceState) :
    WorkspaceState.decode s.toJson = .ok s := by
  cases s <;> rfl

@[simp] theorem WorkspaceInfo.decode_toJson (w : WorkspaceInfo) : WorkspaceInfo.decode w.toJson = .ok w := by
  simp [decode, toJson]

/-! Requests and descriptors -/

@[simp] theorem DescriptorKind.decode_toJson (k : DescriptorKind) : DescriptorKind.decode k.toJson = .ok k := by
  cases k <;> rfl

@[simp] theorem Request.decode_toJson (r : Request) : Request.decode r.toJson = .ok r := by
  simp [decode, toJson]

@[simp] theorem AccessRequest.decode_toJson (r : AccessRequest) : AccessRequest.decode r.toJson = .ok r := by
  simp [decode, toJson]

@[simp] theorem WorkflowAddress.decode_toJson (a : WorkflowAddress) :
    WorkflowAddress.decode a.toJson = .ok a := by
  simp [decode, toJson]

@[simp] theorem ReadBackRequest.decode_toJson (r : ReadBackRequest) :
    ReadBackRequest.decode r.toJson = .ok r := by
  simp [decode, toJson]

@[simp] theorem Component.decode_toJson (c : Component) : Component.decode c.toJson = .ok c := by
  simp [decode, toJson]

@[simp] theorem DataProduct.decode_toJson (p : DataProduct) : DataProduct.decode p.toJson = .ok p := by
  simp [decode, toJson]

@[simp] theorem Descriptor.decode_toJson (d : Descriptor) : Descriptor.decode d.toJson = .ok d := by
  simp [decode, toJson]

/-! Answers.  Members that are left out when there is nothing to say are read as nothing. -/

@[simp] theorem InfoKind.decode_name (k : InfoKind) : InfoKind.decode (.text k.name) = .ok k := by
  cases k <;> rfl

@[simp] theorem InfoEntry.decode_toJson (e : InfoEntry) : InfoEntry.decode e.toJson = .ok e := by
  obtain ⟨kind, label, value, href⟩ := e
  cases href with
  | none => simp [decode, toJson, unlessNone]
  | some address =>
    have written : optional text (.text address) = .ok (some address) := rfl
    simp [decode, toJson, unlessNone, written]

@[simp] theorem Verdict.decode_toJson (v : Verdict) : Verdict.decode v.toJson = .ok v := by
  obtain ⟨valid, errors⟩ := v
  cases errors <;> simp [decode, toJson]

/-! Settings -/

@[simp] theorem PermissionLevel.decode_toJson (l : PermissionLevel) :
    PermissionLevel.decode l.toJson = .ok l := by
  cases l <;> rfl

@[simp] theorem CatalogPrivilege.decode_toJson (p : CatalogPrivilege) :
    CatalogPrivilege.decode p.toJson = .ok p := by
  cases p <;> rfl

@[simp] theorem ObjectPermissions.decode_toJson (p : ObjectPermissions) :
    ObjectPermissions.decode p.toJson = .ok p := by
  simp [decode, toJson]

@[simp] theorem OutputPortPermissions.decode_privileges (ps : List CatalogPrivilege) :
    listOf CatalogPrivilege.decode (privileges ps) = .ok ps :=
  listOf_map fun p _ => p.decode_toJson

@[simp] theorem OutputPortPermissions.decode_toJson (p : OutputPortPermissions) :
    OutputPortPermissions.decode p.toJson = .ok p := by
  simp [decode, toJson]

@[simp] theorem Permissions.decode_toJson (p : Permissions) : Permissions.decode p.toJson = .ok p := by
  simp [decode, toJson]

@[simp] theorem WorkspaceSettings.decode_toJson (w : WorkspaceSettings) :
    WorkspaceSettings.decode w.toJson = .ok w := by
  simp [decode, toJson]

@[simp] theorem Templates.decode_toJson (t : Templates) : Templates.decode t.toJson = .ok t := by
  simp [decode, toJson]

def Settings.Fits (s : Settings) : Prop := s.maxJobs < UInt64.size

theorem Settings.faithful : Faithful Fits toJson decode where
  reads s fits := by
    have maxJobs : wordSize (.int s.maxJobs) = .ok s.maxJobs := word_int fits
    simp [decode, toJson, maxJobs]
  sound v s decoded := by
    refine record_sound ?_ decoded
    iterate 5 refine yields_past ?_
    have standard : Settings.standard.maxJobs < UInt64.size := by decide
    refine yields_map ?_ (yields_defaulted (Q := (· < UInt64.size)) (fun _ _ => ?_) standard)
    · intro size fitting development workspace provider permissions templates
      exact fitting
    · exact record_sound (yields_defaulted (fun _ _ => lt_of_word) standard)

/-! All types at once -/

inductive WireType where
  | request
  | accessRequest
  | readBackRequest
  | descriptor
  | dataProduct
  | component
  | jobSpec
  | pipelineSpec
  | workflowSpec
  | outputPortSpec
  | jobDefinition
  | pipelineDefinition
  | viewDefinition
  | repository
  | workspace
  | infoEntry
  | verdict
  | settings
  deriving DecidableEq, Repr

structure Format where
  Value : Type
  Fits : Value → Prop
  toJson : Value → Json
  decode : Decoder Value

def Format.plain {α : Type} (toJson : α → Json) (decode : Decoder α) : Format :=
  ⟨α, fun _ => True, toJson, decode⟩

def WireType.format : WireType → Format
  | request => .plain Request.toJson Request.decode
  | accessRequest => .plain AccessRequest.toJson AccessRequest.decode
  | readBackRequest => .plain ReadBackRequest.toJson ReadBackRequest.decode
  | descriptor => .plain Descriptor.toJson Descriptor.decode
  | dataProduct => .plain DataProduct.toJson DataProduct.decode
  | component => .plain Component.toJson Component.decode
  | jobSpec => ⟨JobSpec, JobSpec.Fits, JobSpec.toJson, JobSpec.decode⟩
  | pipelineSpec => ⟨PipelineSpec, PipelineSpec.Fits, PipelineSpec.toJson, PipelineSpec.decode⟩
  | workflowSpec => .plain WorkflowSpec.toJson WorkflowSpec.decode
  | outputPortSpec => .plain OutputPortSpec.toJson OutputPortSpec.decode
  | jobDefinition => .plain JobDefinition.toJson JobDefinition.decode
  | pipelineDefinition => .plain PipelineDefinition.toJson PipelineDefinition.decode
  | viewDefinition => .plain ViewDefinition.toJson ViewDefinition.decode
  | repository => .plain RepoInfo.toJson RepoInfo.decode
  | workspace => .plain WorkspaceInfo.toJson WorkspaceInfo.decode
  | infoEntry => .plain InfoEntry.toJson InfoEntry.decode
  | verdict => .plain Verdict.toJson Verdict.decode
  | settings => ⟨Settings, Settings.Fits, Settings.toJson, Settings.decode⟩

theorem Format.plain_faithful {α : Type} {toJson : α → Json} {decode : Decoder α}
    (reads : ∀ a, decode (toJson a) = .ok a) :
    Faithful (plain toJson decode).Fits (plain toJson decode).toJson (plain toJson decode).decode :=
  ⟨fun a _ => reads a, fun _ _ _ => trivial⟩

theorem WireType.faithful (t : WireType) : Faithful t.format.Fits t.format.toJson t.format.decode := by
  cases t with
  | request => exact Format.plain_faithful Request.decode_toJson
  | accessRequest => exact Format.plain_faithful AccessRequest.decode_toJson
  | readBackRequest => exact Format.plain_faithful ReadBackRequest.decode_toJson
  | descriptor => exact Format.plain_faithful Descriptor.decode_toJson
  | dataProduct => exact Format.plain_faithful DataProduct.decode_toJson
  | component => exact Format.plain_faithful Component.decode_toJson
  | jobSpec => exact JobSpec.faithful
  | pipelineSpec => exact PipelineSpec.faithful
  | workflowSpec => exact Format.plain_faithful WorkflowSpec.decode_toJson
  | outputPortSpec => exact Format.plain_faithful OutputPortSpec.decode_toJson
  | jobDefinition => exact Format.plain_faithful JobDefinition.decode_toJson
  | pipelineDefinition => exact Format.plain_faithful PipelineDefinition.decode_toJson
  | viewDefinition => exact Format.plain_faithful ViewDefinition.decode_toJson
  | repository => exact Format.plain_faithful RepoInfo.decode_toJson
  | workspace => exact Format.plain_faithful WorkspaceInfo.decode_toJson
  | infoEntry => exact Format.plain_faithful InfoEntry.decode_toJson
  | verdict => exact Format.plain_faithful Verdict.decode_toJson
  | settings => exact Settings.faithful

/-- What is written of a value is read back as that value; and whatever is read, from members in any number or
from a list, is such a value, so writing and reading it again changes nothing. -/
theorem decode_toJson_eq_ok (t : WireType) :
    (∀ a, t.format.Fits a → t.format.decode (t.format.toJson a) = .ok a) ∧
      ∀ v a, t.format.decode v = .ok a →
        t.format.Fits a ∧ t.format.decode (t.format.toJson a) = .ok a :=
  ⟨t.faithful.reads, fun v a decoded => ⟨t.faithful.sound v a decoded, t.faithful.again decoded⟩⟩

def nightlyRun : JobSpec where
  workspace := "analytics"
  name := "nightly"
  description := none
  repoPath := "/repos/analytics"
  git := ⟨"https://git/analytics", "main", .branch, "nightly"⟩
  cluster := ⟨"14.3", "D4", 2, none, some 1, false, none, none, [("a", "b")], [], none⟩
  schedule := none

/-- The same with its cluster as a list that ends early, an unknown member and no schedule. -/
def nightlyRunByPosition : Json :=
  .object [("cluster", .list [.text "14.3", .text "D4", .int 2, .null, .int 1, .bool false, .null, .null,
      .object [("a", .text "b")]]),
    ("git", .object [("gitPath", .text "nightly"), ("gitReference", .text "main"),
      ("gitReferenceType", .text "BRANCH"), ("gitRepoUrl", .text "https://git/analytics")]),
    ("jobName", .text "nightly"), ("owner", .text "nobody"), ("repoPath", .text "/repos/analytics"),
    ("workspace", .text "analytics")]

theorem nightlyRun_decode_toJson_eq_ok :
    nightlyRun.Fits ∧ JobSpec.decode nightlyRun.toJson = .ok nightlyRun ∧
      JobSpec.decode nightlyRunByPosition = .ok nightlyRun := by
  have fits : nightlyRun.Fits := ⟨by decide, fun n member => by cases member; decide⟩
  have read : JobSpec.decode nightlyRunByPosition = .ok nightlyRun := by rfl
  have again := (decode_toJson_eq_ok .jobSpec).2 nightlyRunByPosition nightlyRun read
  exact ⟨again.1, (decode_toJson_eq_ok .jobSpec).1 nightlyRun fits, read⟩

end Provisioning
