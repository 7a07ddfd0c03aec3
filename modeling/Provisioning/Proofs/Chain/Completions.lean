import Provisioning.Proofs.Platform.History

/-!
Which completions tell something about an object, and which propose changes: the former only those of
provisioning, the latter only those of reading back.
-/
namespace Provisioning

open Program

structure Completion.Fits (o : Operation) (c : Completion) : Prop where
  info : c.info.isSome = true → ∃ r, o = .work (.request r .provision)
  updates : c.updates.isSome = true → ∃ r, o = .work (.readBack r)

theorem Completion.fits_messageOnly (o : Operation) (message : String) :
    (Completion.messageOnly message).Fits o := by
  constructor
  · intro absent
    cases absent
  · intro absent
    cases absent

theorem Completion.fits_provisioned (r : Request) (id message : String) (info : JobInfo) :
    (Completion.provisioned id message info).Fits (.work (.request r .provision)) := by
  refine ⟨fun _ => ⟨r, rfl⟩, ?_⟩
  intro absent
  cases absent

theorem Completion.fits_proposing (r : ReadBackRequest) (message : String) (updates : Json) :
    (Completion.proposing message updates).Fits (.work (.readBack r)) := by
  refine ⟨?_, fun _ => ⟨r, rfl⟩⟩
  intro absent
  cases absent

theorem Accepted.yields_provision (a : Accepted) (s : Settings) (r : Request) :
    (a.execute s .provision).Yields (Completion.Fits (.work (.request r .provision))) := by
  unfold Accepted.execute
  cases a.classified with
  | job spec =>
    refine yields_bind _ fun ground => yields_bind _ fun outcome => yields_bind _ fun _ => ?_
    exact Completion.fits_provisioned r _ _ _
  | pipeline spec =>
    refine yields_bind _ fun ground => yields_bind _ fun outcome => yields_bind _ fun _ => ?_
    exact Completion.fits_provisioned r _ _ _
  | workflow spec =>
    refine yields_bind _ fun name => yields_bind _ fun ground => yields_bind _ fun plan =>
      yields_bind _ fun _ => yields_bind _ fun outcome => yields_bind _ fun _ => ?_
    exact Completion.fits_provisioned r _ _ _
  | outputPort spec =>
    refine yields_bind _ fun workspace => yields_bind _ fun session => yields_bind _ fun _ =>
      yields_bind _ fun _ => yields_bind _ fun there => ?_
    cases there with
    | false => exact yields_fail _
    | true =>
      refine yields_bind _ fun outcome => yields_bind _ fun _ => yields_bind _ fun _ => ?_
      exact Completion.fits_provisioned r _ _ _
  | unsupported reason => exact yields_fail _

theorem Workload.yields_remove {δ : Type} (w : Workload) (a : Accepted) (kind : ResourceKind)
    (name : String) (collection : Session → Program (objects δ) Nat → Remote Nat) (o : Operation) :
    (w.remove a kind name collection).Yields (Completion.Fits o) := by
  refine yields_bind _ fun found => ?_
  cases found with
  | none => exact Completion.fits_messageOnly o _
  | some workspace =>
    refine yields_bind _ fun session => yields_bind _ fun removed => ?_
    cases a.removeData with
    | false => exact Completion.fits_messageOnly o _
    | true =>
      refine yields_bind _ fun _ => ?_
      exact Completion.fits_messageOnly o _

theorem Accepted.yields_unprovision (a : Accepted) (s : Settings) (o : Operation) :
    (a.execute s .unprovision).Yields (Completion.Fits o) := by
  unfold Accepted.execute
  cases a.classified with
  | job spec => exact spec.workload.yields_remove a _ _ _ o
  | pipeline spec => exact spec.workload.yields_remove a _ _ _ o
  | workflow spec => exact yields_bind _ fun name => spec.workload.yields_remove a _ _ _ o
  | outputPort spec =>
    refine yields_bind _ fun found => ?_
    cases found with
    | none => exact Completion.fits_messageOnly o _
    | some workspace =>
      refine yields_bind _ fun session => yields_bind _ fun removed => ?_
      exact Completion.fits_messageOnly o _
  | unsupported reason => exact yields_fail _

theorem AccessRequest.yields_execute (r : AccessRequest) (s : Settings) (o : Operation) :
    (r.execute s).Yields (Completion.Fits o) := by
  refine yields_bind _ fun a => ?_
  unfold Accepted.setReaders
  cases a.classified with
  | outputPort spec =>
    refine yields_bind _ fun workspace => yields_bind _ fun session => yields_bind _ fun current =>
      yields_bind _ fun services => yields_bind _ fun revocations => yields_bind _ fun _ => ?_
    exact Completion.fits_messageOnly o _
  | _ => exact yields_fail _

theorem ReadBackRequest.yields_execute (r : ReadBackRequest) (s : Settings) :
    (r.execute s).Yields (Completion.Fits (.work (.readBack r))) := by
  unfold ReadBackRequest.execute
  split
  · refine yields_bind _ fun updates => ?_
    exact Completion.fits_proposing r _ _
  · exact yields_fail _

theorem Operation.yields_program (o : Operation) (s : Settings) :
    (o.program s).Yields (Completion.Fits o) := by
  cases o with
  | work work =>
    cases work with
    | request r direction =>
      cases direction with
      | provision => exact yields_bind _ fun a => a.yields_provision s r
      | unprovision => exact yields_bind _ fun a => a.yields_unprovision s _
    | readBack r => exact r.yields_execute s
  | access r => exact r.yields_execute s _

end Provisioning
