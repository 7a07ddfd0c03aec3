import Provisioning.Proofs.Chain.Effects
import Provisioning.Proofs.Platform.History

/-!
What a rejected call does to provisioning.  The platform answers as it would without injected
failures until it meets a call that is to be rejected; that one is logged, and with it the run ends.
-/
namespace Provisioning

namespace Platform

theorem answer_injecting (c : Call) (failures : List String) (p : Platform) :
    answer c (p.injecting failures) = ((answer c p).1, (answer c p).2.injecting failures) := by
  have sameData : (p.injecting failures).data = p.data := rfl
  cases c with
  | createIfAbsent name region params =>
    simp only [answer, injecting]
    cases p.workspaces name <;> rfl
  | findWorkspace name => rfl
  | assignRole scope principal role =>
    have sameDirectory : (p.injecting failures).knows principal = p.knows principal := rfl
    simp only [answer, sameDirectory]
    cases p.knows principal <;> rfl
  | openSession workspace => rfl
  | inside w c =>
    cases c with
    | jobs c =>
      cases c with
      | update id d =>
        simp only [answer, answerInner, answerJobs, sameData]
        cases (p.data w).jobs.find? id <;> rfl
      | _ => rfl
    | pipelines c =>
      cases c with
      | update id d =>
        simp only [answer, answerInner, answerPipelines, sameData]
        cases (p.data w).pipelines.find? id <;> rfl
      | _ => rfl
    | views c =>
      cases c with
      | create d =>
        simp only [answer, answerInner, answerViews, sameData]
        cases (p.data w).tables.contains d.sourceTable <;> rfl
      | _ => rfl
    | catalog c =>
      cases c with
      | ensureSchema catalog schema =>
        simp only [answer, answerInner, answerCatalog, sameData]
        cases (p.data w).catalogs.contains catalog <;> rfl
      | _ => rfl
    | repositories c =>
      cases c with
      | create url path provider =>
        simp only [answer, answerInner, answerRepositories, sameData]
        cases (p.data w).repositories.values.any (·.path == path) <;> rfl
      | _ => rfl
    | identity c => cases c <;> rfl

theorem failures_handler (c : Call) (p : Platform) : (handler c p).2.failures = p.failures := by
  rcases handler_snd c p with noted | answered
  · rw [noted, failures_record]
  · have kept := congrArg Platform.failures (kept_answer (p.record c.key) c)
    rw [answered]
    exact kept

/-- Injecting failures makes a platform reject calls and does nothing else. -/
theorem rejecting (failures : List String) :
    Program.Rejecting handler (fun p => p.failures = []) (injecting failures)
      (fun c => ((injecting failures {}).rejects c.key) = true) (fun c => rejection c.key)
      (fun c => record c.key) where
  clean_stays c p clean := by rw [failures_handler, clean]
  passes c p clean passed := by
    have accepted : (p.injecting failures).rejects c.key = false := eq_false_of_ne_true passed
    rw [handler_accepted accepted, handler_accepted (rejects_nothing clean c.key)]
    exact congrArg (fun x => (Reply.ofExcept x.1, x.2)) (answer_injecting c failures (p.record c.key))
  stops c p clean rejected := handler_rejected rejected

/-- The calls of a provisioning run without injected failures, each with the platform that it meets,
either are none of them to be rejected, and then nothing changes; or the first that is to be is the
last one made, its rejection is all that is reported, and the platform is left as it was met there. -/
theorem run_provision_injecting (p : Platform) (s : Settings) (r : Request) (failures : List String) :
    let program := r.execute s .provision
    let clean := p.injecting []
    let faulty := p.injecting failures
    (program.asked handler clean = (program.trace handler clean).map Prod.fst) ∧
    (((∀ x ∈ program.trace handler clean, faulty.rejects x.1.key = false) ∧
        program.run handler faulty =
          ((program.run handler clean).1, (program.run handler clean).2.injecting failures) ∧
        program.asked handler faulty = program.asked handler clean) ∨
      ∃ before c t after, program.trace handler clean = before ++ (c, t) :: after ∧
        t = before.foldl (fun q x => (handler x.1 q).2) clean ∧
        (∀ x ∈ before, faulty.rejects x.1.key = false) ∧ faulty.rejects c.key = true ∧
        program.run handler faulty = (.refused (rejection c.key), (t.record c.key).injecting failures) ∧
        program.asked handler faulty = before.map Prod.fst ++ [c] ∧
        (rejection c.key).problems.length = 1) := by
  intro program clean faulty
  refine ⟨Program.asked_eq_trace handler program clean, ?_⟩
  have noFailures : clean.failures = [] := rfl
  cases first : (program.trace handler clean).find? (fun x => faulty.rejects x.1.key) with
  | none =>
    have passed : ∀ x ∈ program.trace handler clean, faulty.rejects x.1.key = false := fun x member =>
      eq_false_of_ne_true (List.find?_eq_none.mp first x member)
    have same := Program.run_unrejected (rejecting failures) program noFailures fun x member =>
      ne_true_of_eq_false (passed x member)
    exact .inl ⟨passed, same.1, same.2⟩
  | some x =>
    obtain ⟨c, t⟩ := x
    obtain ⟨rejected, before, after, cut, passed⟩ := List.find?_eq_some_iff_append.mp first
    have unrejected : ∀ x ∈ before, faulty.rejects x.1.key = false := fun x member =>
      Bool.not_inj (passed x member)
    have stopped := Program.run_rejected (rejecting failures) (r.provision_straight s) noFailures cut
      (fun x member => ne_true_of_eq_false (unrejected x member)) rejected
    exact .inr ⟨before, c, t, after, cut, Program.world_of_trace cut, unrejected, rejected, stopped.1,
      stopped.2, rfl⟩

end Platform
end Provisioning
