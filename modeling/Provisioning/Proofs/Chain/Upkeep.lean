import Provisioning.Proofs.Chain.Effects

/-!
What provisioning keeps.  Every chain that provisions writes at one place, on one shelf under one name,
after a look for that name; all its other calls only prepare, read and grant.  So what those calls keep,
and the write where the plan fits, the chain keeps.
-/
namespace Provisioning

open Program Platform

variable {δ α : Type} {R : Platform → Platform → Prop}

def Effect.preparing : List Effect := [.nothing, .makeWorkspace, .makeRepository, .makeCatalog, .grant]

/-- `R` is kept by all that provisioning does, when it writes to the shelf under the name. -/
structure Shelf.Respects (shelf : Shelf δ α) (name : String) (R : Platform → Platform → Prop) : Prop where
  refl : ∀ p, R p p
  trans : ∀ p q r, R p q → R q r → R p r
  other : ∀ {β : Type} {program : Remote β}, program.Asks (Call.Within Effect.preparing) →
    program.Keeps Platform.handler R
  write : ∀ w {d plan p}, shelf.nameOf d = name → shelf.Fits name (shelf.entries (p.data w)) plan →
    R p (((Scope.apply d plan).through (shelf.embedding w)).run Platform.handler p).2

namespace Shelf.Respects

variable {β : Type} {shelf : Shelf δ α} {name : String} (respects : shelf.Respects name R)

include respects

theorem other_of_straight {es : List Effect} (among : es ⊆ Effect.preparing) {program : Remote β}
    (straight : program.Straight (Call.Within es)) : program.Keeps Platform.handler R :=
  respects.other (asks_of_straight (straight_mono (Call.within_mono among) straight))

theorem keeps_planned (w : String) (s : Scope) {f : UpsertPlan → Remote β}
    (next : ∀ (plan : UpsertPlan) (q : Platform), shelf.Fits name (shelf.entries (q.data w)) plan →
      R q ((f plan).run Platform.handler q).2) :
    ((s.plan name).through (shelf.embedding w) >>= f).Keeps Platform.handler R := by
  intro p
  have quiet := shelf.through_straight w (s.plan_straight name)
  have looked := respects.other_of_straight (by decide) quiet p
  obtain ⟨q, grows, ⟨e, refused⟩ | ⟨plan, answered, fits⟩⟩ := shelf.run_plan w s name p
  · rw [← shelf.run_through] at refused
    rw [refused] at looked
    rw [run_bind, refused]
    exact looked
  · rw [← shelf.run_through] at answered
    rw [answered] at looked
    rw [run_bind_of_answered answered]
    exact respects.trans _ _ _ looked (next plan q (shelf.fits_of_extends (grows.data w) fits))

theorem keeps_upsert (w : String) (s : Scope) {d : δ} (called : shelf.nameOf d = name) :
    ((s.upsert name d).through (shelf.embedding w)).Keeps Platform.handler R := by
  rw [Scope.upsert, through_bind]
  exact respects.keeps_planned w s fun plan q fits => respects.write w called fits

end Shelf.Respects

section Chains

variable (s : Settings) (a : Accepted)

theorem Workload.keeps_install (w : Workload) {shelf : Shelf δ α} (kind : ResourceKind) (d : δ)
    (respects : shelf.Respects (shelf.nameOf d) R) (object : String → SecuredObject)
    (levels : ObjectPermissions) (report : Ground → String → Completion) :
    (w.install shelf kind d s a object levels report).Keeps handler R := by
  refine keeps_bind respects.trans ?_ fun ground => keeps_bind respects.trans ?_ fun outcome =>
    keeps_bind respects.trans ?_ fun _ => keeps_done respects.refl _
  · exact respects.other_of_straight (by decide) (w.prepare_straight s a)
  · exact respects.keeps_upsert _ _ rfl
  · exact respects.other_of_straight (by decide) (ground.secure_straight s a _ _)

theorem JobSpec.keeps_provision (spec : JobSpec) (respects : Shelf.jobs.Respects spec.name R) :
    (spec.provision s a).Keeps handler R := by
  rw [provision_eq_install]
  exact spec.workload.keeps_install s a _ _ respects _ _ _

theorem PipelineSpec.keeps_provision (spec : PipelineSpec)
    (respects : Shelf.pipelines.Respects spec.name R) : (spec.provision s a).Keeps handler R := by
  rw [provision_eq_install]
  exact spec.workload.keeps_install s a _ _ respects _ _ _

theorem WorkflowSpec.provision_of_unnamed {spec : WorkflowSpec} {f : Failure}
    (unnamed : spec.requiredName = .error f) : spec.provision s a = Program.fail f := by
  unfold provision
  rw [unnamed, ofExcept_error_bind]

theorem WorkflowSpec.keeps_provision (spec : WorkflowSpec) {name : String}
    (required : spec.requiredName = .ok name) (respects : Shelf.jobs.Respects name R) :
    (spec.provision s a).Keeps handler R := by
  unfold provision
  rw [required, ofExcept_ok_bind]
  refine keeps_bind respects.trans ?_ fun ground => ?_
  · exact respects.other_of_straight (by decide) (spec.workload.prepare_straight s a)
  refine respects.keeps_planned ground.session.workspace.name _ fun plan p fits => ?_
  rw [run_bind]
  -- the guard only reads, so the plan still fits when the write begins
  have guarded := spec.guard_straight ground.session (s.isDevelopment a.environment) plan
  have quiet := extends_run (asks_of_straight guarded) p
  have passed := respects.other_of_straight (by decide) guarded p
  generalize (spec.guard ground.session _ plan).run handler p = reply at quiet passed ⊢
  rcases reply with ⟨_ | e | m, q⟩
  · refine respects.trans _ _ _ passed ?_
    refine bind_keeps respects.trans ?_ fun outcome => ?_
    · have stillFits := Shelf.jobs.fits_of_extends (quiet.data _) fits
      exact respects.write ground.session.workspace.name rfl stillFits
    · refine keeps_bind respects.trans ?_ fun _ => keeps_done respects.refl _
      exact respects.other_of_straight (by decide) (ground.secure_straight s a _ _)
  · exact passed
  · exact passed

theorem OutputPortSpec.keeps_provision (spec : OutputPortSpec)
    (respects : Shelf.views.Respects spec.viewName R) : (spec.provision s a).Keeps handler R := by
  have asked : ∀ (session : Session) (c : CatalogCall), (InnerCall.catalog c).effect ∈ Effect.preparing →
      (session.catalog c).Keeps handler R := fun session c among =>
    respects.other (asks_of_straight (session.ask_straight _ among))
  refine keeps_bind respects.trans ?_ fun workspace => keeps_bind respects.trans ?_ fun session =>
    keeps_bind respects.trans ?_ fun _ => keeps_bind respects.trans ?_ fun _ =>
    keeps_bind respects.trans ?_ fun there => ?_
  · exact respects.other_of_straight (by decide) (existingWorkspace_straight _)
  · exact respects.other_of_straight (by decide) (Session.start_straight _)
  · exact asked session _ (by simp [InnerCall.effect, Effect.preparing])
  · exact asked session _ (by simp [InnerCall.effect, Effect.preparing])
  · exact asked session _ (by simp [InnerCall.effect, Effect.preparing])
  · cases there with
    | false => exact keeps_done respects.refl _
    | true =>
      refine keeps_bind respects.trans ?_ fun _ => keeps_bind respects.trans ?_ fun _ =>
        keeps_bind respects.trans ?_ fun _ => keeps_done respects.refl _
      · exact respects.keeps_upsert _ _ rfl
      · exact respects.other_of_straight (by decide) (session.grantAll_straight _ _ _)
      · exact respects.other_of_straight (by decide) (session.grantAll_straight _ _ _)

end Chains
end Provisioning
