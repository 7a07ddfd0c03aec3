import Provisioning.Proofs.Chain.Replacement
import Provisioning.Proofs.Program.Asked

/-!
Workflows that are put again.  Where one job bears the name and has the definition that is requested,
only the comparison can still stop the chain; it always passes what read-back has proposed, and it
passes the request that has put the job in place unless that one has more in it than settings.
-/
namespace Provisioning

open Platform Program

theorem Session.update_eq_ask (session : Session) (reference : ResourceRef) (d : JobDefinition) :
    session.jobs (Scope.apply d (.update reference)) =
      session.ask (.jobs (.update reference.id d)) >>= fun updated => pure ⟨updated, .updated⟩ := by
  refine congrArg (Program.ask (I := remote) _) (funext fun (r : Except Failure ResourceRef) => ?_)
  cases r <;> rfl

theorem Session.settles_update {session : Session} {p : Platform} (ordered : p.Ordered)
    (calm : p.failures = []) {e : String × StoredJob}
    (found : (p.data session.workspace.name).jobs.find? e.1 = some e.2) :
    Settles (session.jobs (Scope.apply e.2.definition (.update (jobReference e)))) p
      ⟨jobReference e, .updated⟩ := by
  obtain ⟨q, updated, grows⟩ := Shelf.jobs.update_of_same session.workspace.name ordered calm found
  rw [← Shelf.jobs.run_through] at updated
  refine ⟨q, ?_, grows⟩
  change ((Objects.update e.1 e.2.definition >>= _).through (Shelf.jobs.embedding _)).run handler p = _
  rw [through_bind]
  exact run_bind_of_answered updated _

namespace WorkflowSpec

variable {spec : WorkflowSpec} {session : Session} {inDevelopment : Bool} {name : String}
  {p : Platform} {e : String × StoredJob}

theorem compared_of_alone (spec : WorkflowSpec) (inDevelopment : Bool) (ordered : p.Ordered)
    (calm : p.failures = [])
    (alone : (p.data session.workspace.name).jobs.filter (Shelf.jobs.called name) = [e]) :
    ∃ q r, p.Extends q ∧ q.Extends r ∧
      (session.jobs ((session.scope .workflow).plan name)).run handler p =
        (.answered (.update (jobReference e)), q) ∧
      (spec.guard session inDevelopment (.update (jobReference e))).run handler q =
        (.ofExcept (spec.checkOverride (jobResource e) inDevelopment session.workspace.name), r) := by
  have planned := Shelf.jobs.plan_of_alone session.workspace.name calm (session.scope .workflow) alone
  rw [← Shelf.jobs.run_through] at planned
  have noted := extends_record (Shelf.jobs.key (.listByName name)) p
  have read : (spec.guard session inDevelopment _).run handler (p.record _) = _ :=
    run_guard (found_of_alone (ordered_of_extends ordered noted) alone)
  rw [rejects_nothing (noted.failures.trans calm), if_neg (by decide)] at read
  exact ⟨_, _, noted, extends_record _ _, planned, read⟩

theorem refuses_replace (ordered : p.Ordered) (calm : p.failures = [])
    (alone : (p.data session.workspace.name).jobs.filter (Shelf.jobs.called name) = [e]) {f : Failure}
    (refused : spec.checkOverride (jobResource e) inDevelopment session.workspace.name = .error f) :
    ∃ q, (spec.replace session inDevelopment name).run handler p = (.refused f, q) ∧ p.Extends q := by
  obtain ⟨q, r, grows, growsOn, planned, compared⟩ := compared_of_alone spec inDevelopment
    ordered calm alone
  refine ⟨r, ?_, grows.trans growsOn⟩
  unfold replace
  rw [run_bind_of_answered planned, run_bind, compared, refused]
  rfl

theorem settles_replace (ordered : p.Ordered) (calm : p.failures = [])
    (alone : (p.data session.workspace.name).jobs.filter (Shelf.jobs.called name) = [e])
    (same : e.2.definition = spec.definition name)
    (passed : spec.checkOverride (jobResource e) inDevelopment session.workspace.name = .ok ()) :
    (∃ outcome : UpsertOutcome, outcome.reference.id = e.1 ∧
      Settles (spec.replace session inDevelopment name) p outcome) ∧
    Call.inside session.workspace.name (.jobs (.update e.1 e.2.definition)) ∈
      (spec.replace session inDevelopment name).asked handler p := by
  obtain ⟨q, r, grows, growsOn, planned, compared⟩ := compared_of_alone spec inDevelopment
    ordered calm alone
  rw [passed] at compared
  have whole := grows.trans growsOn
  have found : (r.data session.workspace.name).jobs.find? e.1 = some e.2 := by
    rw [(whole.data _).jobs]
    exact found_of_alone ordered alone
  unfold replace
  -- what is written is the very definition that is there
  rw [← same]
  constructor
  · obtain ⟨t, updated, last⟩ := Session.settles_update (ordered_of_extends ordered whole)
      (whole.failures.trans calm) found
    refine ⟨⟨jobReference e, .updated⟩, rfl, t, ?_, whole.trans last⟩
    rw [run_bind_of_answered planned, run_bind_of_answered compared]
    exact updated
  · refine mem_asked_bind_of_answered planned (mem_asked_bind_of_answered compared ?_)
    rw [session.update_eq_ask]
    refine mem_asked_bind ?_
    rw [Session.ask, asked_request]
    exact List.mem_singleton_self _

end WorkflowSpec

/-! Ground that is prepared -/

theorem Session.run_ensureRepository (s : Session) (url path provider : String) {p : Platform}
    (calm : p.failures = []) :
    ∃ repo q, (s.ensureRepository url path provider).run handler p = (.answered repo, q) := by
  cases registered : (p.data s.workspace.name).repositories.values.filter (·.path == path) with
  | cons repo others =>
    have there : p.HasRepository s.workspace.name path repo := congrArg List.head? registered
    obtain ⟨q, answered, -⟩ := s.settles_ensureRepository calm there url provider
    exact ⟨repo, q, answered⟩
  | nil =>
    have free : (p.data s.workspace.name).repositories.values.any (·.path == path) = false :=
      List.any_eq_false.mpr (List.filter_eq_nil_iff.mp registered)
    have created : ((s.repositories (.create url path provider)).run handler p).1 =
        .answered (.created ⟨p.nextId, url, path, provider⟩) := by
      change ((Program.request (I := remote) _).run handler p).1 = _
      rw [run_request, handler_accepted (rejects_nothing calm _)]
      simp only [answer, answerInner, answerRepositories, data_record, free]
      rfl
    exact ⟨_, _, run_bind_of_answered (Prod.ext created rfl) _⟩

theorem Workload.run_prepare {w : Workload} {s : Settings} {a : Accepted} {p : Platform}
    (calm : p.failures = []) {x : WorkspaceInfo} (ready : p.HasReady w.workspace x)
    (known : p.KnowsBoth a) :
    ∃ ground q, (w.prepare s a).run handler p = (.answered ground, q) ∧
      ground.session.workspace = x ∧ p.Confined [.nothing, .makeRepository] q := by
  obtain ⟨p₁, ensured, grows⟩ := settles_ensureWorkspace (s := s.workspace) calm ready
  have calm₁ := grows.failures.trans calm
  obtain ⟨p₂, granted, next⟩ := settles_grantWorkspaceAccess calm₁
    (known.congr grows.users grows.groups) s.workspace.role x
  have grows₂ := grows.trans next
  obtain ⟨p₃, started, next⟩ := Session.settles_start (grows₂.failures.trans calm) x
  have grows₃ := grows₂.trans next
  obtain ⟨repo, q, registered⟩ := Session.run_ensureRepository ⟨x⟩ w.repoUrl w.repoPath s.gitProvider
    (grows₃.failures.trans calm)
  have registration : p₃.Confined [.nothing, .makeRepository] q :=
    confined_of_run (asks_of_straight (Session.ensureRepository_straight _ _ _ _)) registered
  refine ⟨⟨⟨x⟩, repo⟩, q, ?_, rfl, (confined_of_extends grows₃).trans registration⟩
  unfold prepare
  rw [run_bind_of_answered ensured, run_bind_of_answered granted, run_bind_of_answered started,
    run_bind_of_answered registered]
  rfl

namespace WorkflowSpec

variable {spec : WorkflowSpec} {s : Settings} {a : Accepted} {name : String} {p : Platform}
  {e : String × StoredJob}

theorem settles_establish {g : Ground} (ordered : p.Ordered) (calm : p.failures = [])
    (known : p.KnowsBoth a)
    (alone : (p.data g.session.workspace.name).jobs.filter (Shelf.jobs.called name) = [e])
    (same : e.2.definition = spec.definition name)
    (passed : spec.checkOverride (jobResource e) (s.isDevelopment a.environment)
      g.session.workspace.name = .ok ()) :
    Settles (spec.establish s a name g) p (report name g e.1) ∧
      Call.inside g.session.workspace.name (.jobs (.update e.1 e.2.definition)) ∈
        (spec.establish s a name g).asked handler p := by
  obtain ⟨⟨outcome, isHere, replaced⟩, updates⟩ := settles_replace ordered calm alone same passed
  constructor
  · refine settles_bind replaced fun q grows => ?_
    rw [isHere]
    refine settles_bind (settles_secure (grows.failures.trans calm)
      (known.congr grows.users grows.groups) _ _) fun r _ => ?_
    exact settles_pure r _
  · exact mem_asked_bind updates

/-- Over the one live job of the name, with the definition that is requested, provisioning is done with
that job. -/
theorem reconciles (ordered : p.Ordered) (calm : p.failures = []) {w : WorkspaceInfo}
    (ready : p.HasReady spec.workspace w) (own : w.name = spec.workspace) (known : p.KnowsBoth a)
    (required : spec.requiredName = .ok name)
    (alone : (p.data spec.workspace).jobs.filter (Shelf.jobs.called name) = [e])
    (same : e.2.definition = spec.definition name)
    (passed : spec.checkOverride (jobResource e) (s.isDevelopment a.environment) spec.workspace =
      .ok ()) :
    (∃ c q, (spec.provision s a).run handler p = (.answered c, q) ∧ c.resourceId = some e.1 ∧
      ∀ x, (q.data x).jobs = (p.data x).jobs) ∧
    Call.inside spec.workspace (.jobs (.update e.1 e.2.definition)) ∈
      (spec.provision s a).asked handler p := by
  obtain ⟨ground, q, prepared, place, preparation⟩ :=
    Workload.run_prepare (w := spec.workload) (s := s) calm ready known
  have name_eq : ground.session.workspace.name = spec.workspace := by rw [place, own]
  have sameJobs := fun x => (preparation.data x).jobs (by decide) (by decide)
  rw [← name_eq] at alone passed ⊢
  rw [← sameJobs] at alone
  rw [provision_of_required required]
  obtain ⟨⟨r, established, last⟩, updates⟩ := settles_establish (s := s)
    (ordered_of_run prepared ordered) (preparation.failures.trans calm)
    (known.congr preparation.users preparation.groups) alone same passed
  constructor
  · refine ⟨_, r, (run_bind_of_answered prepared _).trans established, rfl, fun x => ?_⟩
    rw [(last.data x).jobs, sameJobs]
  · exact mem_asked_bind_of_answered prepared updates

end WorkflowSpec

/-! The same request again -/

namespace WorkflowSpec

variable {spec : WorkflowSpec} {s : Settings} {a : Accepted} {p q : Platform}

theorem replace_straight (spec : WorkflowSpec) (session : Session) (inDevelopment : Bool)
    (name : String) :
    (spec.replace session inDevelopment name).Straight (Call.Within [.nothing, .writeJob]) := by
  refine straight_bind ?_ fun plan => straight_bind ?_ fun _ => ?_
  · exact straight_mono (Call.within_mono (by decide))
      (Shelf.jobs.through_straight _ (Scope.plan_straight _ _))
  · exact straight_mono (Call.within_mono (by decide)) (spec.guard_straight _ _ _)
  · exact straight_mono (Call.within_mono (by decide))
      (Shelf.jobs.through_straight _ (Scope.apply_straight _ _))

theorem answered_replace {session : Session} {inDevelopment : Bool} {name : String}
    (ordered : p.Ordered) {outcome : UpsertOutcome}
    (answered : (spec.replace session inDevelopment name).run handler p = (.answered outcome, q)) :
    Shelf.jobs.Alone session.workspace.name (spec.definition name) outcome.reference.id q := by
  rcases run_replace spec session inDevelopment name ordered with
    ⟨f, _, refused, -⟩ | ⟨_, r, _, job, written, grows, wrote, -⟩
  · rw [answered] at refused
    cases refused
  · rw [answered] at written
    cases written
    exact Shelf.jobs.alone_of_wrote _ (ordered_of_extends ordered grows) wrote

structure Stands (spec : WorkflowSpec) (a : Accepted) (name : String) (g : Ground)
    (e : String × StoredJob) (p : Platform) : Prop where
  required : spec.requiredName = .ok name
  place : g.session.workspace.name = spec.workspace
  grounded : p.Grounded spec.workload a g
  alone : (p.data spec.workspace).jobs.filter (Shelf.jobs.called name) = [e]
  definition : e.2.definition = spec.definition name

theorem answered_provision (ordered : p.Ordered) (named : p.Named) {c : Completion}
    (first : (spec.provision s a).run handler p = (.answered c, q)) :
    ∃ name g e, spec.Stands a name g e q ∧ c = report name g e.1 := by
  rw [provision_eq_establish] at first
  obtain ⟨name, _, checked, rest⟩ := answered_bind_iff.mp first
  obtain ⟨required, rfl⟩ := answered_ofExcept_iff.mp checked
  obtain ⟨g, p₁, prepared, rest⟩ := answered_bind_iff.mp rest
  obtain ⟨outcome, p₂, replaced, rest⟩ := answered_bind_iff.mp rest
  obtain ⟨_, p₃, secured, done⟩ := answered_bind_iff.mp rest
  cases done
  have place := place_of_prepared ordered named prepared
  obtain ⟨job, defined, only⟩ := answered_replace (ordered_of_run prepared ordered) replaced
  have writes := confined_of_run (asks_of_straight (spec.replace_straight _ _ _)) replaced
  have security := extends_of_run (asks_of_straight (g.secure_straight _ _ _ _)) secured
  have later := writes.trans (confined_of_extends security)
  refine ⟨name, g, (outcome.reference.id, job), ⟨required, place, ?_, ?_, defined⟩, rfl⟩
  · exact (answered_prepare ordered prepared).of_confined (by decide) (by decide) (by decide) later
  · rw [← place, (security.data _).jobs]
    exact only

theorem Stands.settings {name : String} {g : Ground} {e : String × StoredJob}
    (stands : spec.Stands a name g e p) : spec.settings? = some e.2.definition.settings := by
  obtain ⟨settings, given⟩ := settings?_of_name? (requiredName_eq_ok stands.required).1
  rw [stands.definition, definition_settings given, given]

theorem run_of_stands {name : String} {g : Ground} {e : String × StoredJob} (ordered : p.Ordered)
    (calm : p.failures = []) (stands : spec.Stands a name g e p) :
    ∃ q, (spec.provision s a).run handler p =
      (match spec.checkOverride (jobResource e) (s.isDevelopment a.environment) spec.workspace with
        | .ok () => .answered (report name g e.1)
        | .error f => .refused f, q) ∧ p.Extends q := by
  obtain ⟨r, prepared, grows⟩ := settles_prepare (s := s) calm stands.grounded
  have orderedThen := ordered_of_extends ordered grows
  have calmThen := grows.failures.trans calm
  have known := stands.grounded.known.congr grows.users grows.groups
  have alone : (r.data g.session.workspace.name).jobs.filter (Shelf.jobs.called name) = [e] := by
    rw [(grows.data _).jobs, stands.place]
    exact stands.alone
  -- the ground is there already, so it is left to the comparison how the run ends
  rw [provision_of_required stands.required, run_bind_of_answered prepared, ← stands.place]
  cases check : spec.checkOverride (jobResource e) (s.isDevelopment a.environment)
      g.session.workspace.name with
  | ok _ =>
    obtain ⟨⟨q, established, last⟩, -⟩ :=
      settles_establish (s := s) orderedThen calmThen known alone stands.definition check
    exact ⟨q, established, grows.trans last⟩
  | error f =>
    obtain ⟨q, refused, last⟩ := refuses_replace orderedThen calmThen alone check
    refine ⟨q, ?_, grows.trans last⟩
    unfold establish
    rw [run_bind, refused]
    rfl

end WorkflowSpec

namespace Platform

/-- A workflow request that was provisioned finds the one job of its name as it has left it, and it
leaves it so.  It is refused in the development environment if it may not override and has more in
its workflow than settings, for only those have been written; otherwise the outcome is the same. -/
theorem run_workflow_again_eq {p q : Platform} (reachable : Reachable p)
    (calm : p.failures = []) (s : Settings) (r : Request) {a : Accepted} {spec : WorkflowSpec}
    (accepted : r.accept s.templates = .ok a) (classified : a.classified = .workflow spec)
    {c : Completion} (first : (r.execute s .provision).run handler p = (.answered c, q)) :
    ∃ name id job after, spec.name? = some name ∧ c.resourceId = some id ∧
      (q.data spec.workspace).jobs.filter (fun e => e.2.definition.name == name) = [(id, job)] ∧
      spec.settings? = some job.definition.settings ∧ q.Extends after ∧
      (r.execute s .provision).run handler q =
        (if s.isDevelopment a.environment && !spec.mayOverride && !spec.holdsOnlySettings then
          .refused (WorkflowSpec.drifted name spec.workspace) else .answered c, after) := by
  rw [Request.execute_of_accept accepted, Accepted.provision_of_workflow classified] at first ⊢
  have ordered : p.Ordered := ordered_of_reachable reachable
  obtain ⟨name, g, ⟨id, job⟩, stands, rfl⟩ :=
    WorkflowSpec.answered_provision ordered (named_of_reachable reachable) first
  have stillPlain : q.Plain := invariant_of_run plain_handler first (plain_of_reachable reachable)
  have stillCalm : q.failures = [] :=
    (confined_of_run (asks_of_straight (spec.provision_straight s a)) first).failures.trans calm
  have assigned : ∀ m ∈ job.serverFields, m.1 ∈ volatileFields := by
    have among := List.mem_singleton_self (id, job)
    rw [← stands.alone] at among
    exact stillPlain spec.workspace (id, job) (List.mem_filter.mp among).1
  have called : job.definition.name = name := congrArg JobDefinition.name stands.definition
  have check : spec.checkOverride (jobResource (id, job)) (s.isDevelopment a.environment)
      spec.workspace = _ := WorkflowSpec.checkOverride_of_applied assigned stands.settings
  obtain ⟨after, again, grows⟩ :=
    WorkflowSpec.run_of_stands (s := s) (ordered_of_run first ordered) stillCalm stands
  refine ⟨name, id, job, after, (WorkflowSpec.requiredName_eq_ok stands.required).1, rfl, stands.alone,
    stands.settings, grows, ?_⟩
  rw [again, check, ← called]
  generalize (s.isDevelopment a.environment && !spec.mayOverride && !spec.holdsOnlySettings) = drifts
  cases drifts <;> rfl

/-- A run that is answered, and the same run after it that is refused as drifted. -/
def answeredThenDrifted (program : Remote Completion) (p : Platform) (name workspace : String) : Bool :=
  match program.run handler p with
  | (.answered _, q) =>
    match (program.run handler q).1 with
    | .refused f => f == WorkflowSpec.drifted name workspace
    | _ => false
  | _ => false

theorem runs_of_answeredThenDrifted {program : Remote Completion} {p : Platform}
    {name workspace : String} (told : answeredThenDrifted program p name workspace = true) :
    ∃ c q after, program.run handler p = (.answered c, q) ∧
      program.run handler q = (.refused (WorkflowSpec.drifted name workspace), after) := by
  unfold answeredThenDrifted at told
  rcases first : program.run handler p with ⟨c | f | m, q⟩
  · rw [first] at told
    rcases second : program.run handler q with ⟨c' | f | m, after⟩
    · simp [second] at told
    · simp only [second, beq_iff_eq] at told
      subst told
      exact ⟨c, q, after, rfl, second⟩
    · simp [second] at told
  · simp [first] at told
  · simp [first] at told

theorem etl_drifts : answeredThenDrifted (etlRequest.execute nightlySettings .provision)
    nightlyPlatform "etl" "w" = true := by
  rw [etlRequest, Request.execute, Request.accept_ofList]
  decide +kernel

/-- In the development environment a workflow with a member beside its settings is provisioned once and
then refused. -/
theorem etl_workflow_again_refused :
    let program := etlRequest.execute nightlySettings .provision
    Reachable nightlyPlatform ∧ nightlyPlatform.failures = [] ∧
    (∃ a spec, etlRequest.accept nightlySettings.templates = .ok a ∧ a.classified = .workflow spec) ∧
    ∃ c q f after, program.run handler nightlyPlatform = (.answered c, q) ∧
      program.run handler q = (.refused f, after) := by
  intro program
  obtain ⟨a, spec, accepted, classified, -⟩ := etlRequest_accepted
  obtain ⟨c, q, after, first, second⟩ := runs_of_answeredThenDrifted etl_drifts
  exact ⟨nightlyPlatform_reachable, rfl,
    ⟨a, spec, accepted, classified⟩, c, q, _, after, first, second⟩

theorem etl_workflow_again_eq :
    ∃ a spec c q, etlRequest.accept nightlySettings.templates = .ok a ∧
      a.classified = .workflow spec ∧
      (etlRequest.execute nightlySettings .provision).run handler nightlyPlatform = (.answered c, q) ∧
      ∃ name id job after, spec.name? = some name ∧ c.resourceId = some id ∧
        (q.data spec.workspace).jobs.filter (fun e => e.2.definition.name == name) = [(id, job)] ∧
        spec.settings? = some job.definition.settings ∧ q.Extends after ∧
        (etlRequest.execute nightlySettings .provision).run handler q =
          (if nightlySettings.isDevelopment a.environment && !spec.mayOverride &&
              !spec.holdsOnlySettings then
            .refused (WorkflowSpec.drifted name spec.workspace) else .answered c, after) := by
  obtain ⟨a, spec, accepted, classified, -⟩ := etlRequest_accepted
  obtain ⟨c, q, _, first, -⟩ := runs_of_answeredThenDrifted etl_drifts
  exact ⟨a, spec, c, q, accepted, classified, first,
    run_workflow_again_eq nightlyPlatform_reachable rfl nightlySettings etlRequest accepted
      classified first⟩

end Platform

/-! Read-back -/

theorem WorkflowAddress.settles_readBack {target : WorkflowAddress} {p : Platform}
    {e : String × StoredJob} {w : WorkspaceInfo} (ordered : p.Ordered) (calm : p.failures = [])
    (ready : p.HasReady target.workspace w)
    (alone : (p.data w.name).jobs.filter (Shelf.jobs.called target.workflow) = [e]) :
    Settles target.readBack p (proposal (jobResource e)) := by
  have found := WorkflowSpec.found_of_alone ordered alone
  refine settles_bind (settles_existingWorkspace calm ready) fun p₁ grows => ?_
  refine settles_bind (Session.settles_start (grows.failures.trans calm) w) fun p₂ next => ?_
  have grows := grows.trans next
  have listed : Settles (Session.jobs ⟨w⟩ (Objects.listByName target.workflow)) p₂ [jobReference e] := by
    rw [Objects.listByName, Session.jobs_eq_ask]
    refine settles_quiet (grows.failures.trans calm) rfl ?_
    have same : (p₂.data w.name).jobs.filter (fun x => x.2.definition.name == target.workflow) =
        [e] := by
      rw [(grows.data w.name).jobs]
      exact alone
    simp only [answer, answerInner, answerJobs, data_record, same]
    rfl
  refine settles_bind listed fun p₃ next => ?_
  have grows := grows.trans next
  refine settles_bind (settles_ofExcept (a := jobReference e) rfl p₃) fun p₄ next => ?_
  have grows := grows.trans next
  have read : Settles (Session.jobs ⟨w⟩ (Objects.get e.1)) p₄ (some (jobResource e)) := by
    rw [Objects.get, Session.jobs_eq_ask]
    refine settles_quiet (grows.failures.trans calm) rfl ?_
    simp only [answer, answerInner, answerJobs, data_record, (grows.data w.name).jobs, found]
    rfl
  exact settles_bind read fun p₅ _ => settles_pure p₅ _

namespace Platform

/-- What is read back of a workflow can be provisioned: the comparison passes in every environment, the
same job is written again, and every job stays as it is. -/
theorem provision_readBack_updates_same_id {p : Platform} (reachable : Reachable p) (calm : p.failures = [])
    (s : Settings) (r : ReadBackRequest) (configured : r.templateId ∈ s.templates.workflow)
    {w : WorkspaceInfo} (ready : p.HasReady r.target.workspace w) {id : String} {job : StoredJob}
    (alone : (p.data r.target.workspace).jobs.filter
      (fun e => e.2.definition.name == r.target.workflow) = [(id, job)])
    (isObject : job.definition.settings.isObject = true)
    (named : job.definition.settings.member? "name" = some (.text r.target.workflow))
    (notBlank : Text.blank r.target.workflow = false) :
    ∃ c workflow q, (r.execute s).run handler p = (.answered c, q) ∧ p.Extends q ∧
      c.updates = some (.object [("spec.mesh.specific.workflow", workflow)]) ∧
      ∀ (a : Accepted) (spec : WorkflowSpec), a.classified = .workflow spec →
        spec.workspace = r.target.workspace → spec.workflow = workflow → p.KnowsBoth a →
        (∀ inDevelopment, spec.checkOverride (jobResource (id, job)) inDevelopment spec.workspace =
          .ok ()) ∧
        Call.inside spec.workspace (.jobs (.update id job.definition)) ∈
          (a.execute s .provision).asked handler q ∧
        ∃ done after, (a.execute s .provision).run handler q = (.answered done, after) ∧
          done.resourceId = some id ∧ ∀ x, (after.data x).jobs = (p.data x).jobs := by
  have ordered : p.Ordered := ordered_of_reachable reachable
  have own : w.name = r.target.workspace := named_of_reachable reachable _ _ ready.1
  have here : (p.data w.name).jobs.filter (Shelf.jobs.called r.target.workflow) = [(id, job)] := by
    rw [own]
    exact alone
  obtain ⟨q, readBack, grows⟩ := WorkflowAddress.settles_readBack ordered calm ready here
  have answered : (r.execute s).run handler p = (.answered (.proposing
      s!"Workflow '{r.target.workflow}' read back from workspace '{r.target.workspace}'"
      (WorkflowAddress.proposal (jobResource (id, job)))), q) := by
    unfold ReadBackRequest.execute
    rw [if_pos (List.contains_iff_mem.mpr configured)]
    exact run_bind_of_answered readBack _
  refine ⟨_, _, q, answered, grows, rfl, ?_⟩
  intro a spec classified place proposed known
  have passed : ∀ inDevelopment, spec.checkOverride (jobResource (id, job)) inDevelopment
      spec.workspace = .ok () := fun _ => WorkflowSpec.checkOverride_of_readBack proposed
  have given := WorkflowSpec.settings?_of_readBack proposed isObject
  have required := WorkflowSpec.requiredName_of_settings given named notBlank
  have same : job.definition = spec.definition r.target.workflow := by
    have among := List.mem_singleton_self (id, job)
    rw [← alone] at among
    have called : job.definition.name = r.target.workflow := eq_of_beq (List.mem_filter.mp among).2
    unfold WorkflowSpec.definition
    rw [given, ← called]
    rfl
  have aloneThen : (q.data spec.workspace).jobs.filter (Shelf.jobs.called r.target.workflow) =
      [(id, job)] := by
    rw [place, (grows.data _).jobs]
    exact alone
  have readyThen : q.HasReady spec.workspace w := by
    rw [place]
    exact ready.of_confined List.not_mem_nil (confined_of_extends grows)
  obtain ⟨⟨c, after, provisioned, sameId, sameJobs⟩, updates⟩ := WorkflowSpec.reconciles
    (ordered_of_extends ordered grows) (grows.failures.trans calm) readyThen (own.trans place.symm)
    (known.congr grows.users grows.groups) required aloneThen same (passed _)
  rw [Accepted.provision_of_workflow classified]
  refine ⟨passed, updates, c, after, provisioned, sameId, fun x => ?_⟩
  rw [sameJobs, (grows.data x).jobs]

/-- A request for a workflow in workspace `w` in the development environment, already accepted. -/
def etlAccepted (workflow : Json) : Accepted where
  product := ⟨"d", "n", "", "Development", "", "user:a_b", "group:g", []⟩
  component := ⟨"c", "c", none, "workload", some "f", none, none, .null⟩
  classified := .workflow ⟨"w", "/r", ⟨"https://g/r.git"⟩, workflow, false⟩
  removeData := false
  owner := .user "a@b"
  devGroup := .group "g"

theorem etl_readBack_updates_same_id :
    let readBack : ReadBackRequest := ⟨"f", "Development", ⟨"w", "etl"⟩⟩
    ∃ c workflow q, (readBack.execute nightlySettings).run handler etlPlatform = (.answered c, q) ∧
      c.updates = some (.object [("spec.mesh.specific.workflow", workflow)]) ∧
      ∃ done after, ((etlAccepted workflow).execute nightlySettings .provision).run handler q =
          (.answered done, after) ∧
        done.resourceId = some "2" ∧ ∀ x, (after.data x).jobs = (etlPlatform.data x).jobs := by
  intro readBack
  obtain ⟨c, workflow, q, answered, -, updates, reconciled⟩ :=
    provision_readBack_updates_same_id etlPlatform_reachable rfl nightlySettings readBack (by decide)
      ⟨rfl, rfl⟩ rfl rfl rfl (by decide)
  have known : etlPlatform.knows (.user "a@b") = true ∧ etlPlatform.knows (.group "g") = true := by
    decide
  obtain ⟨-, -, provisioned⟩ := reconciled (etlAccepted workflow)
    ⟨"w", "/r", ⟨"https://g/r.git"⟩, workflow, false⟩ rfl rfl rfl known
  exact ⟨c, workflow, q, answered, updates, provisioned⟩

end Platform
end Provisioning
