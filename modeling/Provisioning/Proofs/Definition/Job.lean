import Provisioning.Proofs.Chain.Resubmission
import Provisioning.Proofs.Chain.Sending
import Provisioning.Proofs.Decimal.Value
import Provisioning.Proofs.Json.Same

/-!
What a job definition tells of its specification.  Every part of the specification that goes into it has a
place of its own there, whether or not the others are given; so two definitions are the same only where the
specifications agree in all of these parts, and what provisioning sends is the definition and nothing else.
-/
namespace Provisioning

namespace Json

def Lacks (key : String) (ms : Members) : Prop := ∀ m ∈ ms, m.1 ≠ key

section Optional

variable {α β : Type} {f : α → Json} {g : α → β} {a b : Option α} {key k : String} {ms ns : Members}

@[simp] theorem lacks_nil : Lacks key [] := List.forall_mem_nil _

@[simp] theorem lacks_cons_iff {m : String × Json} : Lacks key (m :: ms) ↔ m.1 ≠ key ∧ Lacks key ms :=
  List.forall_mem_cons

@[simp] theorem lacks_append_iff : Lacks key (ms ++ ns) ↔ Lacks key ms ∧ Lacks key ns :=
  List.forall_mem_append

@[simp] theorem lacks_unlessNone (other : k ≠ key) : Lacks key (unlessNone k f a) := by
  cases a <;> simp [unlessNone, other]

end Optional

end Json

open Json

theorem TextMap.same_toJson_iff {m n : TextMap} : m.toJson.same n.toJson = true ↔ m = n := by
  change sameMembers (m.map _) (n.map _) = true ↔ _
  induction m generalizing n with
  | nil => cases n <;> simp [sameMembers]
  | cons x rest ih =>
    obtain ⟨k, v⟩ := x
    cases n with
    | nil => simp [sameMembers]
    | cons y others =>
      obtain ⟨l, w⟩ := y
      simp only [List.map_cons, sameMembers, Bool.and_eq_true, beq_iff_eq, same_text_iff, ih,
        List.cons.injEq, Prod.mk.injEq]

namespace Cluster

variable {c c' : Cluster}

/-- Two clusters are asked for alike.  Wanting spot instances counts only as far as it decides on the
availability, and a price counts as a number. -/
structure Agrees (c c' : Cluster) : Prop where
  sparkVersion : c.sparkVersion = c'.sparkVersion
  nodeType : c.nodeType = c'.nodeType
  workers : c.workers = c'.workers
  driverNodeType : c.driverNodeType = c'.driverNodeType
  sparkConf : c.sparkConf = c'.sparkConf
  environment : c.environment = c'.environment
  runtimeEngine : c.runtimeEngine = c'.runtimeEngine
  firstOnDemand : c.firstOnDemand = c'.firstOnDemand
  price : c.spotBidMaxPrice.map Decimal.Double.value = c'.spotBidMaxPrice.map Decimal.Double.value
  availability : c.effectiveAvailability = c'.effectiveAvailability

end Cluster

namespace JobSpec

variable {s t : JobSpec} {provider : String}

/-- Two specifications agree in all that a job definition is made of.  Where the job is put is not part of
it, neither the workspace nor the place of its repository there. -/
structure Agrees (s t : JobSpec) : Prop where
  name : s.name = t.name
  description : s.description = t.description
  git : s.git = t.git
  cluster : s.cluster.Agrees t.cluster
  schedule : s.schedule = t.schedule

end JobSpec

def JobDefinition.same (d e : JobDefinition) : Bool := d.name == e.name && d.settings.same e.settings

section Sent

open Program

variable {σ α : Type} (h : Handler remote σ)

variable {r : Request} {settings : Settings} {a : Accepted} {s : JobSpec}
  (accepted : r.accept settings.templates = .ok a) (job : a.classified = .job s)

include accepted job

end Sent

def Classified.job? : Classified → Option JobSpec
  | .job s => some s
  | .pipeline _ | .workflow _ | .outputPort _ | .unsupported _ => none

end Provisioning
