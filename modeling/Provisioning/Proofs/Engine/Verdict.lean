import Provisioning.Proofs.Chain.Resubmission
import Provisioning.Proofs.Chain.Verdict
import Provisioning.Proofs.Engine.Lifecycle

/-!
Validation foretells what becomes of a job.  When all that waits is done, the record of a job tells what
came of its operation in the world that it met; and what becomes of an invalid request is the same in
every world.
-/
namespace Provisioning

variable {σ : Type}

def Program.Idle {I : Interface} {α : Type} (h : Handler I σ) (p : Program I α) : Prop :=
  ∀ s, p.asked h s = [] ∧ (p.run h s).2 = s

theorem Program.idle_fail {I : Interface} {α : Type} (h : Handler I σ) (f : Failure) :
    (Program.fail f : Program I α).Idle h := fun _ => ⟨rfl, rfl⟩

namespace Engine

variable {e : Engine σ}

theorem issued_foldl_runNext (count : Nat) (l : Ledger σ) :
    ((List.replicate count .runNext).foldl e.enter l).issued = l.issued := by
  induction count generalizing l with
  | zero => rfl
  | succ count ih =>
    rw [List.replicate_succ, List.foldl_cons, ih]
    exact List.append_nil _

/-- With nothing left to do, every record tells what came of its operation. -/
theorem tells_of_drain (distinct : Function.Injective e.tokenOf) {l : Ledger σ} (kept : l.Kept e)
    {i : Issue} (member : i ∈ l.issued) :
    ∃ world, (e.status i.token (e.drain l.state)).Tells
      ((i.operation.program e.settings).run e.handler world).1 := by
  have drained := e.queue_drain l.state
  rw [e.drain_eq_after, ← e.state_foldl_enter] at drained ⊢
  have stillKept := Ledger.kept_foldl_enter distinct (List.replicate l.state.queue.length .runNext) kept
  rw [← issued_foldl_runNext (e := e) l.state.queue.length l] at member
  generalize (List.replicate l.state.queue.length Event.runNext).foldl e.enter l = done
    at drained stillKept member ⊢
  obtain ⟨out, balanced, queue, works⟩ := stillKept
  rcases balanced.standing distinct member with isOut | ⟨x, worked, -, operation, found⟩
  · -- whatever is still out waits in the queue, and that is empty
    have token := List.mem_map_of_mem (f := fun j : Issue => j.token) isOut
    rw [← Ledger.token_tasks works, ← queue, drained] at token
    cases token
  · obtain ⟨world, performed⟩ := balanced.performed x worked
    refine ⟨world, ?_⟩
    rw [e.status_of_find? found, ← operation, ← performed]
    exact JobRecord.tells_finish _ _ _ _

theorem failed_of_drain (distinct : Function.Injective e.tokenOf) {l : Ledger σ} (kept : l.Kept e)
    {i : Issue} (member : i ∈ l.issued) {f : Failure}
    (fails : i.operation.program e.settings = Program.fail f) :
    (e.status i.token (e.drain l.state)).status = .failed ∧
      (e.status i.token (e.drain l.state)).message = f.render ∧
      (i.operation.program e.settings).Idle e.handler := by
  obtain ⟨world, tells⟩ := tells_of_drain distinct kept member
  rw [fails] at tells ⊢
  exact ⟨tells.1, tells.2.1, Program.idle_fail _ f⟩

/-- A job whose request is invalid ends failed with the errors that validation tells, and nothing is asked
or changed for it; a job whose request is valid gets past validation and asks something.  The readers of
a workload cannot be set, which validation does not know. -/
theorem drain_record_of_validate (distinct : Function.Injective e.tokenOf) (world : σ) (now : Timestamp)
    (events : List (Event σ)) :
    let l := e.ledger world now events
    ∀ i ∈ l.issued, ∀ r, i.operation.request? = some r →
      let program := i.operation.program e.settings
      let record := e.status i.token (e.drain l.state)
      (∃ s, record.Tells (program.run e.handler s).1) ∧
      ((e.validate r).valid = false → record.status = .failed ∧
        record.message = Text.joinWith "\n" (e.validate r).errors ∧ program.Idle e.handler) ∧
      ((e.validate r).valid = true → ∃ a, r.accept e.settings.templates = .ok a ∧
        if i.operation.isAccess && a.component.kind == "workload" then
          record.status = .failed ∧ record.message = a.noReaders.render ∧ program.Idle e.handler
        else ∀ s, program.asked e.handler s ≠ []) := by
  intro l i member r about program record
  have kept : l.Kept e := Ledger.kept_ledger distinct world now events
  refine ⟨tells_of_drain distinct kept member, ?_, ?_⟩
  · intro refused
    obtain ⟨f, fails, errors⟩ := Operation.program_of_refused about refused
    rw [validate, ← errors]
    exact failed_of_drain distinct kept member fails
  · intro valid
    obtain ⟨a, accepted, outcome⟩ := Operation.program_of_accepted about valid
    refine ⟨a, accepted, ?_⟩
    cases exempt : i.operation.isAccess && a.component.kind == "workload" with
    | true =>
      rw [exempt, if_pos rfl] at outcome
      exact failed_of_drain distinct kept member outcome
    | false =>
      rw [exempt, if_neg (by decide)] at outcome
      exact fun s => Program.asked_of_opens outcome e.handler s

theorem nightly_drain_record_of_validate :
    let e := nightlyEngine
    let empty := Request.ofDescriptor (String.ofList [])
    let l := e.ledger {} .epoch [.submit empty .provision, .submit nightlyRequest .unprovision]
    Function.Injective e.tokenOf ∧ (e.validate empty).valid = false ∧
    (e.validate nightlyRequest).valid = true ∧
    (e.status (e.tokenOf 0) (e.drain l.state)).status = .failed ∧
    ∀ s, (nightlyRequest.execute nightlySettings .unprovision).asked e.handler s ≠ [] := by
  intro e empty l
  have refused : (e.validate empty).valid = false := by
    change (empty.validate nightlySettings.templates).valid = false
    rw [Request.validate, Request.accept_ofList]
    decide +kernel
  have valid : (e.validate nightlyRequest).valid = true := by
    change (nightlyRequest.validate nightlySettings.templates).valid = true
    rw [Request.validate, nightlyRequest, Request.accept_ofList]
    decide +kernel
  have told := drain_record_of_validate (e := e) nightlyEngine_distinct {} .epoch
    [.submit empty .provision, .submit nightlyRequest .unprovision]
  obtain ⟨-, failed, -⟩ := told ⟨e.tokenOf 0, .work (.request empty .provision), .epoch⟩
    List.mem_cons_self empty rfl
  obtain ⟨-, -, passes⟩ := told ⟨e.tokenOf 1, .work (.request nightlyRequest .unprovision), .epoch⟩
    (List.mem_cons_of_mem _ List.mem_cons_self) nightlyRequest rfl
  obtain ⟨a, -, asks⟩ := passes valid
  exact ⟨nightlyEngine_distinct, refused, valid, (failed refused).1, asks⟩

end Engine
end Provisioning
