import Provisioning.Proofs.Platform.History
import Provisioning.Proofs.Program.Asked
import Provisioning.Proofs.Validation

/-!
What validation says of an operation and what the operation does.  One that is about an invalid request
fails with what validation has told, without a question; one that is about a valid request asks, as
long as there is something that it can be asked to do.
-/
namespace Provisioning

open Program

variable {s : Settings} {a : Accepted}

/-! Chains begin with a question -/

theorem opens_ensureWorkspace (s : WorkspaceSettings) (name : String) :
    (ensureWorkspace s name).Opens := by
  refine opens_bind ?_
  unfold obtainWorkspace
  split
  · exact opens_request _
  · exact opens_bind (opens_request _)

theorem opens_existingWorkspace (name : String) : (existingWorkspace name).Opens :=
  opens_bind (opens_request _)

theorem opens_workspaceIfAny (name : String) : (workspaceIfAny name).Opens :=
  opens_bind (opens_request _)

theorem Workload.opens_prepare (w : Workload) (s : Settings) (a : Accepted) : (w.prepare s a).Opens :=
  opens_bind (opens_ensureWorkspace _ _)

theorem Workload.opens_remove {δ : Type} (w : Workload) (a : Accepted) (kind : ResourceKind)
    (name : String) (collection : Session → Program (objects δ) Nat → Remote Nat) :
    (w.remove a kind name collection).Opens := opens_bind (opens_workspaceIfAny _)

theorem WorkflowSpec.opens_provision {spec : WorkflowSpec} {name : String}
    (required : spec.requiredName = .ok name) (s : Settings) (a : Accepted) :
    (spec.provision s a).Opens := by
  rw [provision, required, ofExcept_ok_bind]
  exact opens_bind (spec.workload.opens_prepare s a)

theorem WorkflowSpec.opens_unprovision {spec : WorkflowSpec} {name : String}
    (required : spec.requiredName = .ok name) (a : Accepted) : (spec.unprovision a).Opens := by
  rw [unprovision, required, ofExcept_ok_bind]
  exact spec.workload.opens_remove a .workflow name Session.jobs

/-- What is handled and keeps its rules gets past all checks that come before the first question. -/
theorem Accepted.opens_execute (handled : a.classified.Handled)
    (sound : Rule.broken a.classified.rules = []) (s : Settings) (d : Direction) :
    (a.execute s d).Opens := by
  unfold execute
  cases classified : a.classified with
  | job spec =>
    cases d with
    | provision => exact opens_bind (spec.workload.opens_prepare s a)
    | unprovision => exact spec.workload.opens_remove a _ _ _
  | pipeline spec =>
    cases d with
    | provision => exact opens_bind (spec.workload.opens_prepare s a)
    | unprovision => exact spec.workload.opens_remove a _ _ _
  | workflow spec =>
    rw [classified] at sound
    obtain ⟨name, required⟩ := WorkflowSpec.requiredName_of_rules sound
    cases d with
    | provision => exact spec.opens_provision required s a
    | unprovision => exact spec.opens_unprovision required a
  | outputPort spec =>
    cases d with
    | provision => exact opens_bind (opens_existingWorkspace _)
    | unprovision => exact opens_bind (opens_workspaceIfAny _)
  | unsupported reason => exact absurd classified (handled reason)

theorem Accepted.setReaders_of_workload (handled : a.classified.Handled)
    (noOutputPort : ∀ spec, a.classified ≠ .outputPort spec) (s : Settings) (refs : List String) :
    a.setReaders s refs = Program.fail a.noReaders := by
  unfold setReaders
  cases classified : a.classified with
  | outputPort spec => exact absurd classified (noOutputPort spec)
  | unsupported reason => exact absurd classified (handled reason)
  | _ => rfl

theorem Accepted.opens_setReaders {spec : OutputPortSpec} (classified : a.classified = .outputPort spec)
    (s : Settings) (refs : List String) : (a.setReaders s refs).Opens := by
  unfold setReaders
  rw [classified]
  exact opens_bind (opens_existingWorkspace _)

/-! Operations -/

namespace Operation

/-- The request that an operation is about.  Nothing is validated before a read-back. -/
def request? : Operation → Option Request
  | work (.request r _) => some r
  | work (.readBack _) => none
  | access r => some (.ofDescriptor r.descriptor)

def isAccess : Operation → Bool
  | work _ => false
  | access _ => true

def actOn (s : Settings) (a : Accepted) : Operation → Remote Completion
  | work (.request _ d) => a.execute s d
  | work (.readBack r) => r.execute s
  | access r => a.setReaders s r.refs

variable {o : Operation} {r : Request}

theorem program_eq_actOn (about : o.request? = some r) :
    o.program s = (Program.ofExcept (r.accept s.templates) >>= fun a => o.actOn s a) := by
  cases o with
  | work w =>
    cases w with
    | request _ d =>
      cases about
      rfl
    | readBack _ => cases about
  | access _ =>
    cases about
    rfl

theorem program_of_error (about : o.request? = some r) {f : Failure}
    (refused : r.accept s.templates = .error f) : o.program s = Program.fail f := by
  rw [program_eq_actOn about, refused, ofExcept_error_bind]

theorem program_of_accept (about : o.request? = some r) (accepted : r.accept s.templates = .ok a) :
    o.program s = o.actOn s a := by
  rw [program_eq_actOn about, accepted, ofExcept_ok_bind]

theorem actOn_of_unsupported (about : o.request? = some r) {reason : String}
    (classified : a.classified = .unsupported reason) : o.actOn s a = Program.fail (.single reason) := by
  cases o with
  | work w =>
    cases w with
    | request r d =>
      change a.execute s d = _
      unfold Accepted.execute
      rw [classified]
    | readBack r => cases about
  | access r =>
    change a.setReaders s r.refs = _
    unfold Accepted.setReaders
    rw [classified]

/-- An operation about an invalid request fails with what validation tells, and does nothing else. -/
theorem program_of_refused (about : o.request? = some r)
    (refused : (r.validate s.templates).valid = false) :
    ∃ f, o.program s = Program.fail f ∧
      f.render = Text.joinWith "\n" (r.validate s.templates).errors := by
  rcases r.validate_refused refused with ⟨f, result, errors⟩ | ⟨a, reason, accepted, classified, errors⟩
  · refine ⟨f, program_of_error about result, ?_⟩
    rw [errors]
    rfl
  · refine ⟨.single reason, ?_, ?_⟩
    · rw [program_of_accept about accepted, actOn_of_unsupported about classified]
    · rw [errors]
      rfl

/-- An operation about a valid request asks, but for one that would set the readers of a workload. -/
theorem program_of_accepted (about : o.request? = some r)
    (valid : (r.validate s.templates).valid = true) :
    ∃ a, r.accept s.templates = .ok a ∧
      if o.isAccess && a.component.kind == "workload" then o.program s = Program.fail a.noReaders
      else (o.program s).Opens := by
  obtain ⟨a, accepted, handled⟩ := r.validate_accepted valid
  obtain ⟨d, -, -, -, classified, sound⟩ := r.accept_eq_ok accepted
  refine ⟨a, accepted, ?_⟩
  rw [program_of_accept about accepted]
  cases o with
  | work w =>
    cases w with
    | request r d => exact a.opens_execute handled sound s d
    | readBack r => cases about
  | access x =>
    change if a.component.kind == "workload" then a.setReaders s x.refs = Program.fail a.noReaders
      else (a.setReaders s x.refs).Opens
    rcases a.component.kind_of_classify classified handled with
      ⟨workload, noOutputPort⟩ | ⟨noWorkload, spec, outputPort⟩
    · rw [if_pos (beq_iff_eq.mpr workload)]
      exact a.setReaders_of_workload handled noOutputPort s x.refs
    · rw [if_neg (by simpa using noWorkload)]
      exact a.opens_setReaders outputPort s x.refs

end Operation
end Provisioning
