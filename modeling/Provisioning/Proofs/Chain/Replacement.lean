import Provisioning.Proofs.Chain.Resubmission
import Provisioning.Proofs.Platform.Labels
import Provisioning.Proofs.Validation

/-!
What provisioning a workflow can do to the jobs that are there.  A job is replaced only when it is the
one job of the name and the comparison with what is requested has let it pass; at whatever call the
chain stops before that, all jobs are as they were.
-/
namespace Provisioning

open Platform Program

theorem Request.execute_of_accept {r : Request} {s : Settings} {a : Accepted}
    (accepted : r.accept s.templates = .ok a) (d : Direction) : r.execute s d = a.execute s d := by
  rw [execute, accepted, ofExcept_ok_bind]

theorem Accepted.provision_of_workflow {a : Accepted} {spec : WorkflowSpec}
    (classified : a.classified = .workflow spec) (s : Settings) :
    a.execute s .provision = spec.provision s a := by
  unfold execute
  rw [classified]

def Platform.jobResource (entry : String × StoredJob) : RemoteResource JobDefinition :=
  ⟨jobReference entry, entry.2.definition, entry.2.serverFields⟩

theorem Session.run_getJob (session : Session) (id : String) (p : Platform) :
    (session.jobs (Objects.get id)).run handler p =
      if p.rejects ("job.get:" ++ id) then
        (.refused (rejection ("job.get:" ++ id)), p.record ("job.get:" ++ id))
      else
        (.answered
          (((p.data session.workspace.name).jobs.find? id).map fun job => jobResource (id, job)),
          p.record ("job.get:" ++ id)) := by
  change ((Objects.get id).through (Shelf.jobs.embedding session.workspace.name)).run handler p = _
  rw [Shelf.jobs.run_through, Objects.get, run_request]
  cases decision : p.rejects ("job.get:" ++ id) with
  | true => exact Shelf.jobs.handler_rejected session.workspace.name decision
  | false => exact Shelf.jobs.handler_accepted session.workspace.name decision

namespace WorkflowSpec

variable {spec : WorkflowSpec} {session : Session} {inDevelopment : Bool} {name : String}

/-- Put a workflow in the place of the live one of its name, if there is one. -/
def replace (spec : WorkflowSpec) (session : Session) (inDevelopment : Bool) (name : String) :
    Remote UpsertOutcome := do
  let plan ← session.jobs ((session.scope .workflow).plan name)
  spec.guard session inDevelopment plan
  session.jobs (Scope.apply (spec.definition name) plan)

def report (name : String) (g : Ground) (id : String) : Completion :=
  .provisioned id s!"Workflow '{name}' provisioned in workspace '{g.session.workspace.name}'"
    (info name g id)

def establish (spec : WorkflowSpec) (s : Settings) (a : Accepted) (name : String) (g : Ground) :
    Remote Completion := do
  let outcome ← spec.replace g.session (s.isDevelopment a.environment) name
  g.secure s a (.job outcome.reference.id) s.permissions.job
  pure (report name g outcome.reference.id)

theorem provision_eq_establish (spec : WorkflowSpec) (s : Settings) (a : Accepted) :
    spec.provision s a = (do
      let name ← Program.ofExcept spec.requiredName
      let ground ← spec.workload.prepare s a
      spec.establish s a name ground) := by
  unfold provision establish replace
  simp only [bind_assoc]
  rfl

theorem provision_of_required (required : spec.requiredName = .ok name) (s : Settings) (a : Accepted) :
    spec.provision s a = spec.workload.prepare s a >>= spec.establish s a name := by
  rw [provision_eq_establish, required, ofExcept_ok_bind]

theorem run_guard {e : String × StoredJob} {p : Platform}
    (found : (p.data session.workspace.name).jobs.find? e.1 = some e.2) :
    (spec.guard session inDevelopment (.update (jobReference e))).run handler p =
      if p.rejects ("job.get:" ++ e.1) then
        (.refused (rejection ("job.get:" ++ e.1)), p.record ("job.get:" ++ e.1))
      else
        (.ofExcept (spec.checkOverride (jobResource e) inDevelopment session.workspace.name),
          p.record ("job.get:" ++ e.1)) := by
  unfold guard
  rw [run_bind]
  change resume handler _ ((session.jobs (Objects.get e.1)).run handler p) = _
  rw [Session.run_getJob, found]
  cases p.rejects ("job.get:" ++ e.1) with
  | true => rfl
  | false =>
    simp only [Bool.false_eq_true, if_false, Option.map_some, resume]
    cases spec.checkOverride (jobResource e) inDevelopment session.workspace.name <;> rfl

theorem found_of_alone {p : Platform} (ordered : p.Ordered) {w : String} {e : String × StoredJob}
    (alone : (p.data w).jobs.filter (Shelf.jobs.called name) = [e]) :
    (p.data w).jobs.find? e.1 = some e.2 := by
  have among : e ∈ (p.data w).jobs.filter (Shelf.jobs.called name) := alone ▸ List.mem_singleton_self _
  exact Keyed.find?_of_mem (ordered w).jobs (List.mem_filter.mp among).1

def Passes (spec : WorkflowSpec) (inDevelopment : Bool) (name w : String) (p : Platform) : Prop :=
  ∀ e ∈ (p.data w).jobs, e.2.definition.name = name →
    spec.checkOverride (jobResource e) inDevelopment w = .ok ()

theorem run_guard_of_fits {p : Platform} (ordered : p.Ordered) {plan : UpsertPlan}
    (fits : Shelf.jobs.Fits name (p.data session.workspace.name).jobs plan) :
    ∃ q, p.Extends q ∧ ((∃ f, (spec.guard session inDevelopment plan).run handler p = (.refused f, q)) ∨
      (spec.guard session inDevelopment plan).run handler p = (.answered (), q) ∧
        spec.Passes inDevelopment name session.workspace.name p) := by
  cases plan with
  | create =>
    refine ⟨p, p.extends_refl, .inr ⟨rfl, fun e member called => ?_⟩⟩
    exact absurd (beq_iff_eq.mpr called) (List.filter_eq_nil_iff.mp fits e member)
  | update existing =>
    obtain ⟨e, alone, rfl⟩ := fits
    refine ⟨p.record ("job.get:" ++ e.1), extends_record _ p, ?_⟩
    have run : (spec.guard session inDevelopment (.update (jobReference e))).run handler p = _ :=
      run_guard (found_of_alone ordered alone)
    cases decision : p.rejects ("job.get:" ++ e.1) with
    | true =>
      rw [decision, if_pos rfl] at run
      exact .inl ⟨_, run⟩
    | false =>
      rw [decision, if_neg (by decide)] at run
      cases check : spec.checkOverride (jobResource e) inDevelopment session.workspace.name with
      | error f =>
        rw [check] at run
        exact .inl ⟨f, run⟩
      | ok _ =>
        rw [check] at run
        refine .inr ⟨run, fun other member called => ?_⟩
        have among : other ∈ (p.data session.workspace.name).jobs.filter (Shelf.jobs.called name) :=
          List.mem_filter.mpr ⟨member, beq_iff_eq.mpr called⟩
        rw [alone, List.mem_singleton] at among
        rw [among]
        exact check

/-- A replacement is refused with everything as it was, or it has written the definition under the
name, over no job that was not to be replaced. -/
theorem run_replace (spec : WorkflowSpec) (session : Session) (inDevelopment : Bool) (name : String)
    {p : Platform} (ordered : p.Ordered) :
    (∃ f q, (spec.replace session inDevelopment name).run handler p = (.refused f, q) ∧ p.Extends q) ∨
      ∃ outcome r q job, (spec.replace session inDevelopment name).run handler p =
          (.answered outcome, q) ∧ p.Extends r ∧
        Shelf.jobs.Wrote session.workspace.name (spec.definition name) r q outcome.reference.id job ∧
        spec.Passes inDevelopment name session.workspace.name p := by
  let w := session.workspace.name
  obtain ⟨p₁, grows, ⟨f, refused⟩ | ⟨plan, planned, fits⟩⟩ :=
    Shelf.jobs.run_plan w (session.scope .workflow) name p
  · rw [← Shelf.jobs.run_through] at refused
    refine .inl ⟨f, p₁, ?_, grows⟩
    unfold replace
    rw [run_bind]
    exact congrArg (resume handler _) refused
  · rw [← Shelf.jobs.run_through] at planned
    have fits₁ := Shelf.jobs.fits_of_extends (grows.data w) fits
    have goesOn : (spec.replace session inDevelopment name).run handler p = _ :=
      run_bind_of_answered planned _
    obtain ⟨p₂, growsOn, ⟨f, refused⟩ | ⟨guarded, passes⟩⟩ :=
      run_guard_of_fits (ordered_of_extends ordered grows) fits₁
    · refine .inl ⟨f, p₂, ?_, grows.trans growsOn⟩
      rw [goesOn, run_bind, refused]
      rfl
    · rw [run_bind_of_answered guarded] at goesOn
      have grows₂ := grows.trans growsOn
      have fits₂ := Shelf.jobs.fits_of_extends (growsOn.data w) fits₁
      have passed : spec.Passes inDevelopment name w p := by
        unfold Passes at passes ⊢
        rw [← (grows.data w).jobs]
        exact passes
      rcases Shelf.jobs.run_apply w (d := spec.definition name) (ordered_of_extends ordered grows₂)
          fits₂ with ⟨f, q, refused, last⟩ | ⟨outcome, q, job, written, wrote⟩
      · rw [← Shelf.jobs.run_through] at refused
        exact .inl ⟨f, q, goesOn.trans refused, grows₂.trans last⟩
      · rw [← Shelf.jobs.run_through] at written
        exact .inr ⟨outcome, p₂, q, job, goesOn.trans written, grows₂, wrote, passed⟩

/-! Protection -/

/-- Of the jobs of this name none is lost, and what must stay in them has stayed. -/
structure Spared (inDevelopment : Bool) (name : String) (before after : Keyed StoredJob) : Prop where
  kept : ∀ e ∈ before, e.2.definition.name = name → ∃ job, after.find? e.1 = some job ∧
    (inDevelopment = true → e.2.definition.settings.same job.definition.settings = true) ∧
    (e.2.definition.settings.HasTasks → job.definition.settings.HasTasks)
  untouched : ∀ e ∈ before, ∀ e' ∈ before, e.2.definition.name = name → e'.2.definition.name = name →
    e ≠ e' → after = before

theorem spared_refl {jobs : Keyed StoredJob} (ordered : jobs.Ascending) :
    Spared inDevelopment name jobs jobs where
  kept e member _ := ⟨e.2, Keyed.find?_of_mem ordered member, fun _ => Json.same_refl _, id⟩
  untouched _ _ _ _ _ _ _ := rfl

theorem spared_replace (session : Session) (inDevelopment : Bool) (name : String) {p : Platform}
    (ordered : p.Ordered) (noOverride : spec.mayOverride = false) {settings : Json}
    (given : spec.settings? = some settings) :
    Spared inDevelopment name (p.data session.workspace.name).jobs
      (((spec.replace session inDevelopment name).run handler p).2.data session.workspace.name).jobs := by
  have start := (ordered session.workspace.name).jobs
  rcases run_replace spec session inDevelopment name ordered with
    ⟨f, q, refused, grows⟩ | ⟨outcome, r, q, job, written, grows, wrote, passes⟩
  · rw [refused, (grows.data _).jobs]
    exact spared_refl start
  · have sameJobs := (grows.data session.workspace.name).jobs
    have after : (q.data session.workspace.name).jobs =
        Keyed.insert outcome.reference.id job (p.data session.workspace.name).jobs := by
      rw [wrote.data, data_modifyData_same, ← sameJobs]
      rfl
    have only : ∀ e ∈ (p.data session.workspace.name).jobs, e.2.definition.name = name →
        e.1 = outcome.reference.id := by
      intro e member called
      rw [← sameJobs] at member
      exact wrote.only e member (beq_iff_eq.mpr called)
    rw [written]
    refine ⟨fun e member called => ⟨job, ?_, ?_⟩, ?_⟩
    · rw [after, only e member called, Keyed.find?_insert, if_pos rfl]
    · have kept := kept_of_checkOverride noOverride given (passes e member called)
      have defined : job.definition = spec.definition name := wrote.definition
      rw [defined, definition_settings given]
      exact kept
    · intro e member e' member' called called' differ
      have sameId := (only e member called).trans (only e' member' called').symm
      have found := Keyed.find?_of_mem start member
      rw [sameId, Keyed.find?_of_mem start member'] at found
      exact absurd (Prod.ext sameId (Option.some.inj found).symm) differ

theorem spared_establish {p : Platform} (ordered : p.Ordered) (s : Settings) (a : Accepted)
    (g : Ground) (noOverride : spec.mayOverride = false) (called : spec.name? = some name) :
    Spared (s.isDevelopment a.environment) name (p.data g.session.workspace.name).jobs
      (((spec.establish s a name g).run handler p).2.data g.session.workspace.name).jobs := by
  obtain ⟨settings, given⟩ := settings?_of_name? called
  have spared := spared_replace g.session (s.isDevelopment a.environment) name ordered noOverride given
  have quiet : ∀ outcome : UpsertOutcome, (do
      g.secure s a (.job outcome.reference.id) s.permissions.job
      pure (report name g outcome.reference.id) : Remote Completion).Asks (Call.Within [.nothing]) :=
    fun outcome => asks_bind (asks_of_straight (g.secure_straight s a _ _)) fun _ => asks_done _
  have last := extends_bind (spec.replace g.session (s.isDevelopment a.environment) name) quiet p
  rw [← (last.data _).jobs] at spared
  exact spared

/-- The ground of a workflow is in the workspace that its request names. -/
theorem place_of_prepared {p q : Platform} {s : Settings} {a : Accepted} {g : Ground}
    (ordered : p.Ordered) (named : p.Named)
    (prepared : (spec.workload.prepare s a).run handler p = (.answered g, q)) :
    g.session.workspace.name = spec.workspace :=
  invariant_of_run named_handler prepared named _ _ (answered_prepare ordered prepared).ready.1

theorem spared_provision {p : Platform} (ordered : p.Ordered) (named : p.Named) (s : Settings)
    (a : Accepted) (noOverride : spec.mayOverride = false) (called : spec.name? = some name) :
    Spared (s.isDevelopment a.environment) name (p.data spec.workspace).jobs
      (((spec.provision s a).run handler p).2.data spec.workspace).jobs := by
  have start := (ordered spec.workspace).jobs
  cases required : spec.requiredName with
  | error f =>
    rw [provision_eq_establish, required, ofExcept_error_bind]
    exact spared_refl start
  | ok other =>
    have same := (requiredName_eq_ok required).1
    rw [called] at same
    cases same
    rw [provision_of_required required]
    have preparation := confined_run (asks_of_straight (spec.workload.prepare_straight s a)) p
    have sameJobs := (preparation.data spec.workspace).jobs (by decide) (by decide)
    rcases stops_or_goes_on handler (spec.workload.prepare s a) (spec.establish s a name) p with
      stopped | ⟨ground, q, prepared, goesOn⟩
    · rw [stopped, sameJobs]
      exact spared_refl start
    · have spared := spared_establish (ordered_of_run prepared ordered) s a ground noOverride called
      rw [prepared] at sameJobs
      rw [place_of_prepared ordered named prepared, sameJobs] at spared
      rw [goesOn]
      exact spared

end WorkflowSpec

namespace Platform

/-- A workflow request that may not override loses no live job of its name, whatever is rejected on the
way: the settings stay as they are in the development environment, and tasks are not replaced by none
in any.  Where several jobs bear the name, nothing happens to any job. -/
theorem spared_run_provision {p : Platform} (reachable : Reachable p) (failures : List String)
    (s : Settings) (r : Request) {environment : String} {spec : WorkflowSpec}
    (described : r.Describes s.templates environment (.workflow spec))
    (noOverride : spec.mayOverride = false) {name : String} (called : spec.name? = some name) :
    WorkflowSpec.Spared (s.isDevelopment environment) name (p.data spec.workspace).jobs
      (((r.execute s .provision).run handler (p.injecting failures)).2.data spec.workspace).jobs := by
  have ordered : p.Ordered := ordered_of_reachable reachable
  have named : p.Named := named_of_reachable reachable
  cases accepted : r.accept s.templates with
  | error f =>
    rw [Request.execute, accepted, ofExcept_error_bind]
    exact WorkflowSpec.spared_refl (ordered spec.workspace).jobs
  | ok a =>
    obtain ⟨classified, rfl⟩ := described.of_accept accepted
    rw [Request.execute_of_accept accepted, Accepted.provision_of_workflow classified]
    exact WorkflowSpec.spared_provision (p := p.injecting failures) ordered named s a noOverride called

end Platform

/-- A request for a workflow in workspace `w`, with a member beside its settings. -/
def etlRequest : Request := .ofDescriptor <| String.ofList <| List.flatMap String.toList
  ["dataProduct:\n", " id: d\n", " name: n\n", " environment: Development\n",
    " dataProductOwner: user:a_b\n", " devGroup: group:g\n", " components:\n", " - id: c\n",
    "   name: c\n", "   kind: workload\n", "   useCaseTemplateId: f\n", "   specific:\n",
    "    workspace: w\n", "    repoPath: /r\n", "    git:\n", "     gitRepoUrl: https://g/r.git\n",
    "    workflow:\n", "     settings:\n", "      name: etl\n", "     format: MULTI_TASK\n",
    "componentIdToProvision: c"]

theorem etlRequest_accepted : ∃ a spec, etlRequest.accept nightlySettings.templates = .ok a ∧
    a.classified = .workflow spec ∧ a.environment = "Development" ∧ spec.workspace = "w" ∧
    spec.name? = some "etl" ∧ spec.mayOverride = false := by
  have read : (etlRequest.accept nightlySettings.templates).toOption.any (fun a =>
      match a.classified with
      | .workflow spec => a.environment == "Development" && spec.workspace == "w" &&
          spec.name? == some "etl" && !spec.mayOverride
      | _ => false) = true := by
    rw [etlRequest, Request.accept_ofList]
    decide +kernel
  obtain ⟨a, accepted, read⟩ := Request.accepts_of_check read
  cases classified : a.classified with
  | workflow spec =>
    simp only [classified, Bool.and_eq_true, beq_iff_eq, Bool.not_eq_true'] at read
    obtain ⟨⟨⟨environment, workspace⟩, name⟩, override⟩ := read
    exact ⟨a, spec, accepted, classified, environment, workspace, name, override⟩
  | _ => simp [classified] at read

namespace Platform

def etlPlatform : Platform :=
  (Seed.job "w" ⟨"etl", .object [("name", .text "etl"), ("tasks", .list [.null])]⟩).plant nightlyPlatform

theorem etlPlatform_reachable : Reachable etlPlatform :=
  .seeded _ (.seeded _ (.seeded _ (.seeded _ .empty trivial) trivial) trivial) trivial

def refusedWith (f : Failure) : Reply Completion → Bool
  | .refused g => g == f
  | _ => false

/-- The workflow is looked up and read, and the comparison with the request puts an end to the run. -/
theorem spared_etl_provision : ∃ spec,
    etlRequest.Describes nightlySettings.templates "Development" (.workflow spec) ∧
    spec.workspace = "w" ∧ spec.name? = some "etl" ∧ spec.mayOverride = false ∧
    ((etlPlatform.data "w").jobs.map fun e => (e.1, e.2.definition.name)) = [("2", "etl")] ∧
    refusedWith (WorkflowSpec.drifted "etl" "w") ((etlRequest.execute nightlySettings .provision).run handler
      (etlPlatform.injecting ["job.update"])).1 = true ∧
    WorkflowSpec.Spared (nightlySettings.isDevelopment "Development") "etl"
      (etlPlatform.data spec.workspace).jobs
      (((etlRequest.execute nightlySettings .provision).run handler
        (etlPlatform.injecting ["job.update"])).2.data spec.workspace).jobs := by
  obtain ⟨a, spec, accepted, classified, environment, workspace, called, noOverride⟩ :=
    etlRequest_accepted
  have described := Request.describes_of_accept accepted
  rw [classified, environment] at described
  have compared : refusedWith (WorkflowSpec.drifted "etl" "w") ((etlRequest.execute nightlySettings
      .provision).run handler (etlPlatform.injecting ["job.update"])).1 = true := by
    rw [etlRequest, Request.execute, Request.accept_ofList]
    decide +kernel
  exact ⟨spec, described, workspace, called, noOverride, by decide, compared,
    spared_run_provision etlPlatform_reachable ["job.update"] nightlySettings etlRequest described
      noOverride called⟩

end Platform
end Provisioning
