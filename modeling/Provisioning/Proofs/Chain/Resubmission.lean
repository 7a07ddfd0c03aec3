import Provisioning.Proofs.Chain.Names
import Provisioning.Proofs.Chain.Settled

/-!
Requests that are put again.  What the first run of a notebook job, a declarative pipeline or an output
port has put in place stands when it ends, since none of its later steps removes or rewrites it; so
the second run finds every step done, answers the same and only makes calls.
-/
namespace Provisioning

open Platform Program

variable {δ α : Type} {p q : Platform} {s : Settings} {a : Accepted} {c : Completion}

/-! Workloads -/

structure Platform.Grounded (p : Platform) (w : Workload) (a : Accepted) (g : Ground) : Prop where
  ready : p.HasReady w.workspace g.session.workspace
  known : p.KnowsBoth a
  repository : p.HasRepository g.session.workspace.name w.repoPath g.repository

theorem Platform.Grounded.of_confined {es : List Effect} {w : Workload} {g : Ground}
    (grounded : p.Grounded w a g) (noWorkspace : .makeWorkspace ∉ es)
    (noneMade : .makeRepository ∉ es) (noneRemoved : .removeRepository ∉ es)
    (confined : p.Confined es q) : q.Grounded w a g where
  ready := grounded.ready.of_confined noWorkspace confined
  known := grounded.known.congr confined.users confined.groups
  repository := grounded.repository.of_confined noneMade noneRemoved confined

theorem answered_prepare {w : Workload} {g : Ground} (ordered : p.Ordered)
    (answered : (w.prepare s a).run handler p = (.answered g, q)) : q.Grounded w a g := by
  obtain ⟨workspace, p₁, ensured, rest⟩ := answered_bind_iff.mp answered
  obtain ⟨_, p₂, granted, rest⟩ := answered_bind_iff.mp rest
  obtain ⟨session, p₃, started, rest⟩ := answered_bind_iff.mp rest
  obtain ⟨repository, p₄, registered, done⟩ := answered_bind_iff.mp rest
  cases done
  cases Session.answered_start started
  have access := extends_of_run (asks_of_straight (grantWorkspaceAccess_straight _ _ _)) granted
  have opening := extends_of_run (asks_of_straight (Session.start_straight _)) started
  have registration : p₃.Confined [.nothing, .makeRepository] q :=
    confined_of_run (asks_of_straight (Session.ensureRepository_straight _ _ _ _)) registered
  have later := (confined_of_extends (access.trans opening)).trans registration
  have orderedLater := ordered_of_run started (ordered_of_run granted (ordered_of_run ensured ordered))
  have known := answered_grantWorkspaceAccess granted
  exact {
    ready := (answered_ensureWorkspace ensured).of_confined (by decide) later
    known := known.congr later.users later.groups
    repository := Session.answered_ensureRepository orderedLater registered }

theorem settles_prepare {w : Workload} {g : Ground} (calm : p.failures = [])
    (grounded : p.Grounded w a g) : Settles (w.prepare s a) p g := by
  refine settles_bind (settles_ensureWorkspace calm grounded.ready) fun p₁ grows => ?_
  have calmThen := grows.failures.trans calm
  have knownThen := grounded.known.congr grows.users grows.groups
  refine settles_bind (settles_grantWorkspaceAccess calmThen knownThen _ _) fun p₂ next => ?_
  have grows := grows.trans next
  refine settles_bind (Session.settles_start (grows.failures.trans calm) _) fun p₃ next => ?_
  have grows := grows.trans next
  have there := grounded.repository.of_confined List.not_mem_nil List.not_mem_nil
    (confined_of_extends grows)
  have calmThen := grows.failures.trans calm
  exact settles_bind (Session.settles_ensureRepository calmThen there _ _) fun p₄ _ => settles_pure p₄ g

theorem settles_secure {g : Ground} (calm : p.failures = []) (known : p.KnowsBoth a)
    (object : SecuredObject) (levels : ObjectPermissions) :
    Settles (g.secure s a object levels) p () := by
  refine settles_bind (g.session.settles_assignLevels calm known _ _) fun q grows => ?_
  have knownThen := known.congr grows.users grows.groups
  exact g.session.settles_assignLevels (grows.failures.trans calm) knownThen _ _

theorem Shelf.settles_upsert (shelf : Shelf δ α) (w : String) (ordered : p.Ordered)
    (calm : p.failures = []) (s : Scope) {d : δ} {id : String} (alone : shelf.Alone w d id p) :
    ∃ outcome : UpsertOutcome, outcome.reference.id = id ∧
      Settles ((s.upsert (shelf.nameOf d) d).through (shelf.embedding w)) p outcome := by
  obtain ⟨outcome, q, answered, same, grows⟩ := shelf.upsert_again w ordered calm s alone
  exact ⟨outcome, same, q, answered, grows⟩

theorem Workload.settles_install {w : Workload} {shelf : Shelf δ α}
    (writing : shelf.write ∈ [Effect.writeJob, .writePipeline]) {kind : ResourceKind} {d : δ}
    {object : String → SecuredObject} {levels : ObjectPermissions}
    {report : Ground → String → Completion} (ordered : p.Ordered) (calm : p.failures = [])
    (first : (w.install shelf kind d s a object levels report).run handler p = (.answered c, q)) :
    Settles (w.install shelf kind d s a object levels report) q c := by
  obtain ⟨ground, p₁, prepared, rest⟩ := answered_bind_iff.mp first
  obtain ⟨outcome, p₂, written, rest⟩ := answered_bind_iff.mp rest
  obtain ⟨_, p₃, secured, done⟩ := answered_bind_iff.mp rest
  cases done
  have preparation := confined_of_run (asks_of_straight (w.prepare_straight s a)) prepared
  have writes := confined_of_run (asks_of_straight (shelf.upsert_straight _ _ _ _)) written
  have security := extends_of_run (asks_of_straight (ground.secure_straight _ _ _ _)) secured
  have later := writes.trans (confined_of_extends security)
  have others : ∀ e ∈ [Effect.makeWorkspace, .makeRepository, .removeRepository],
      e ∉ [Effect.nothing, shelf.write] := by
    generalize shelf.write = write at writing
    revert writing write
    decide
  have grounded : q.Grounded w a ground := (answered_prepare ordered prepared).of_confined
    (others _ (by decide)) (others _ (by decide)) (others _ (by decide)) later
  have alone := shelf.alone_congr _ (shelf.answered_upsert _ (ordered_of_run prepared ordered) written)
    (shelf.entries_extends _ _ (security.data _))
  have stillOrdered : q.Ordered := ordered_of_run first ordered
  have stillCalm : q.failures = [] := later.failures.trans (preparation.failures.trans calm)
  refine settles_bind (settles_prepare stillCalm grounded) fun r grows => ?_
  have calmThen := grows.failures.trans stillCalm
  have aloneThen := shelf.alone_congr _ alone (shelf.entries_extends _ _ (grows.data _))
  obtain ⟨again, same, settled⟩ := shelf.settles_upsert _ (ordered_of_extends stillOrdered grows)
    calmThen (ground.session.scope kind) aloneThen
  refine settles_bind settled fun t next => ?_
  have grows := grows.trans next
  have knownThen := grounded.known.congr grows.users grows.groups
  rw [same]
  refine settles_bind (settles_secure (grows.failures.trans stillCalm) knownThen _ _) fun u _ => ?_
  exact settles_pure u _

theorem JobSpec.settles_provision {spec : JobSpec} (ordered : p.Ordered) (calm : p.failures = [])
    (first : (spec.provision s a).run handler p = (.answered c, q)) :
    Settles (spec.provision s a) q c := by
  rw [provision_eq_install] at first ⊢
  exact Workload.settles_install (by decide) ordered calm first

theorem PipelineSpec.settles_provision {spec : PipelineSpec} (ordered : p.Ordered)
    (calm : p.failures = []) (first : (spec.provision s a).run handler p = (.answered c, q)) :
    Settles (spec.provision s a) q c := by
  rw [provision_eq_install] at first ⊢
  exact Workload.settles_install (by decide) ordered calm first

/-! Output ports -/

structure Platform.Publishes (p : Platform) (spec : OutputPortSpec) (s : Settings) (a : Accepted)
    (w : WorkspaceInfo) (id : String) : Prop where
  ready : p.HasReady spec.workspace w
  schema : p.HasSchema w.name spec.catalog spec.schema
  source : (p.data w.name).tables.contains spec.source.fullName = true
  view : Shelf.views.Alone w.name (spec.definition a.component.description) id p
  known : p.KnowsBoth a
  owner : p.Holds w.name spec.viewName a.owner s.permissions.outputPort.owner
  developers : p.Holds w.name spec.viewName a.devGroup s.permissions.outputPort.developers

theorem Platform.Publishes.of_extends {spec : OutputPortSpec} {w : WorkspaceInfo} {id : String}
    (published : p.Publishes spec s a w id) (grows : p.Extends q) :
    q.Publishes spec s a w id where
  ready := published.ready.of_confined List.not_mem_nil (confined_of_extends grows)
  schema := published.schema.of_confined List.not_mem_nil (confined_of_extends grows)
  source := by
    rw [(grows.data w.name).tables]
    exact published.source
  view := Shelf.views.alone_congr _ published.view (grows.data w.name).views
  known := published.known.congr grows.users grows.groups
  owner := published.owner.of_extends grows
  developers := published.developers.of_extends grows

namespace OutputPortSpec

variable {spec : OutputPortSpec}

def report (spec : OutputPortSpec) (w : WorkspaceInfo) (id : String) : Completion :=
  .provisioned id s!"View '{spec.viewName}' provisioned in workspace '{w.name}'" (spec.info w)

theorem answered_provision (ordered : p.Ordered)
    (first : (spec.provision s a).run handler p = (.answered c, q)) :
    ∃ w id, q.Publishes spec s a w id ∧ c = spec.report w id := by
  obtain ⟨w, p₁, found, rest⟩ := answered_bind_iff.mp first
  obtain ⟨session, p₂, started, rest⟩ := answered_bind_iff.mp rest
  cases Session.answered_start started
  obtain ⟨_, p₃, catalogMade, rest⟩ := answered_bind_iff.mp rest
  obtain ⟨_, p₄, schemaMade, rest⟩ := answered_bind_iff.mp rest
  obtain ⟨there, p₅, looked, rest⟩ := answered_bind_iff.mp rest
  cases there with
  | false => cases rest
  | true =>
    obtain ⟨outcome, p₆, written, rest⟩ := answered_bind_iff.mp rest
    obtain ⟨_, p₇, ownerServed, rest⟩ := answered_bind_iff.mp rest
    obtain ⟨_, p₈, groupServed, done⟩ := answered_bind_iff.mp rest
    cases done
    have whole := confined_of_run (asks_of_straight (spec.provision_straight s a)) first
    have finding := extends_of_run (asks_of_straight (existingWorkspace_straight _)) found
    obtain ⟨source, looking⟩ := Session.answered_tableExists looked
    have writing : p₅.Confined [.nothing, .writeView] p₆ :=
      confined_of_run (asks_of_straight (Shelf.views.upsert_straight _ _ _ _)) written
    have ownerServing := confined_of_run
      (asks_of_straight (Session.grantAll_straight _ _ _ _)) ownerServed
    have groupServing := confined_of_run
      (asks_of_straight (Session.grantAll_straight _ _ _ _)) groupServed
    have serving := ownerServing.trans groupServing
    obtain ⟨ownerKnown, ownerHolds⟩ := Session.answered_grantAll ownerServed
    obtain ⟨groupKnown, groupHolds⟩ := Session.answered_grantAll groupServed
    have kept := keepsGrants_of_run (asks_of_straight (Session.grantAll_straight _ _ _ _)) groupServed
    have schema := (Session.answered_ensureSchema schemaMade).of_confined List.not_mem_nil
      (confined_of_extends looking)
    have orderedThen : p₅.Ordered := ordered_of_run looked <| ordered_of_run schemaMade <|
      ordered_of_run catalogMade <| ordered_of_run started <| ordered_of_run found ordered
    have alone : Shelf.views.Alone w.name (spec.definition a.component.description)
        outcome.reference.id p₆ := Shelf.views.answered_upsert _ orderedThen written
    refine ⟨w, outcome.reference.id, ?_, rfl⟩
    exact {
      ready := by
        unfold Platform.HasReady
        rw [whole.workspaces (by decide), ← finding.workspaces]
        exact answered_existingWorkspace found
      schema := (schema.of_confined (by decide) writing).of_confined (by decide) serving
      source := by
        rw [(serving.data _).tables, (writing.data _).tables]
        exact source
      view := Shelf.views.alone_congr _ alone ((serving.data _).views (by decide) (by decide))
      known := by
        constructor
        · rw [knows_congr serving.users serving.groups]
          exact ownerKnown
        · rw [knows_congr groupServing.users groupServing.groups]
          exact groupKnown
      owner := fun privilege member => kept _ _ _ (ownerHolds privilege member)
      developers := groupHolds }

theorem settles_of_publishes {w : WorkspaceInfo} {id : String} (ordered : p.Ordered)
    (calm : p.failures = []) (published : p.Publishes spec s a w id) :
    Settles (spec.provision s a) p (spec.report w id) := by
  -- whatever has been asked so far, the platform is still as it was but for what it notes
  have calmThen : ∀ {q}, p.Extends q → q.failures = [] := fun grows => grows.failures.trans calm
  have publishedThen : ∀ {q}, p.Extends q → q.Publishes spec s a w id := published.of_extends
  refine settles_bind (settles_existingWorkspace calm published.ready) fun p₁ grows => ?_
  refine settles_bind (Session.settles_start (calmThen grows) w) fun p₂ next => ?_
  have grows := grows.trans next
  refine settles_bind (Session.settles_ensureCatalog ⟨w⟩ (calmThen grows) (publishedThen grows).schema)
    fun p₃ next => ?_
  have grows := grows.trans next
  refine settles_bind (Session.settles_ensureSchema ⟨w⟩ (calmThen grows) (publishedThen grows).schema)
    fun p₄ next => ?_
  have grows := grows.trans next
  refine settles_bind (Session.settles_tableExists ⟨w⟩ (calmThen grows) (publishedThen grows).source)
    fun p₅ next => ?_
  have grows := grows.trans next
  obtain ⟨outcome, same, settled⟩ := Shelf.views.settles_upsert _ (ordered_of_extends ordered grows)
    (calmThen grows) (Session.scope ⟨w⟩ .view) (publishedThen grows).view
  refine settles_bind settled fun p₆ next => ?_
  have grows := grows.trans next
  have people := publishedThen grows
  refine settles_bind (Session.settles_grantAll (calmThen grows) people.known.1 people.owner)
    fun p₇ next => ?_
  have grows := grows.trans next
  have people := publishedThen grows
  refine settles_bind (Session.settles_grantAll (calmThen grows) people.known.2 people.developers)
    fun p₈ _ => ?_
  rw [same]
  exact settles_pure p₈ _

theorem settles_provision (ordered : p.Ordered) (calm : p.failures = [])
    (first : (spec.provision s a).run handler p = (.answered c, q)) :
    Settles (spec.provision s a) q c := by
  have whole := confined_of_run (asks_of_straight (spec.provision_straight s a)) first
  obtain ⟨w, id, published, rfl⟩ := answered_provision ordered first
  exact settles_of_publishes (ordered_of_run first ordered) (whole.failures.trans calm) published

end OutputPortSpec

theorem Accepted.settles_provision (noWorkflow : ∀ spec, a.classified ≠ .workflow spec)
    (ordered : p.Ordered) (calm : p.failures = [])
    (first : (a.execute s .provision).run handler p = (.answered c, q)) :
    Settles (a.execute s .provision) q c := by
  unfold Accepted.execute at first ⊢
  generalize a.classified = kind at noWorkflow first ⊢
  cases kind with
  | job spec => exact spec.settles_provision ordered calm first
  | pipeline spec => exact spec.settles_provision ordered calm first
  | workflow spec => exact absurd rfl (noWorkflow spec)
  | outputPort spec => exact spec.settles_provision ordered calm first
  | unsupported reason => cases first

namespace Platform

/-- A notebook job, a pipeline or an output port that was provisioned can be provisioned again at once,
with the same outcome: of all that there is only the notes on calls, roles and permissions grow. -/
theorem run_provision_again_extends {p q : Platform} (reachable : Reachable p)
    (calm : p.failures = []) (s : Settings) (r : Request)
    (noWorkflow : ∀ a, r.accept s.templates = .ok a → ∀ spec, a.classified ≠ .workflow spec)
    {c : Completion} (first : (r.execute s .provision).run handler p = (.answered c, q)) :
    ∃ after, (r.execute s .provision).run handler q = (.answered c, after) ∧ q.Extends after := by
  have ordered : p.Ordered := ordered_of_reachable reachable
  obtain ⟨a, _, checked, ran⟩ := answered_bind_iff.mp first
  obtain ⟨accepted, rfl⟩ := answered_ofExcept_iff.mp checked
  have checkedAgain : (Program.ofExcept (r.accept s.templates) : Remote Accepted).run handler q =
      (.answered a, q) := by
    rw [accepted]
    rfl
  unfold Request.execute
  rw [run_bind_of_answered checkedAgain]
  exact Accepted.settles_provision (noWorkflow a accepted) ordered calm ran

end Platform

namespace Platform

theorem nightly_provision_again_extends :
    let program := nightlyRequest.execute nightlySettings .provision
    Reachable nightlyPlatform ∧ nightlyPlatform.failures = [] ∧
    (∀ a, nightlyRequest.accept nightlySettings.templates = .ok a →
      ∀ spec, a.classified ≠ .workflow spec) ∧
    ∃ c q, program.run handler nightlyPlatform = (.answered c, q) ∧ c.resourceId = some "3" ∧
      ∃ after, program.run handler q = (.answered c, after) ∧ q.Extends after := by
  intro program
  have calm : nightlyPlatform.failures = [] := rfl
  have noWorkflow : ∀ a, nightlyRequest.accept nightlySettings.templates = .ok a →
      ∀ spec, a.classified ≠ .workflow spec := by
    have labelled : (nightlyRequest.accept nightlySettings.templates).toOption.map
        (fun a => a.classified.label) = some "job" := by
      rw [nightlyRequest, Request.accept_ofList]
      decide +kernel
    intro a accepted spec classified
    rw [accepted] at labelled
    simp [Except.toOption, classified, Classified.label] at labelled
  have named : namedResource? (program.run handler nightlyPlatform).1 = some "3" := nightly_names_its_job
  refine ⟨nightlyPlatform_reachable, calm, noWorkflow, ?_⟩
  rcases first : program.run handler nightlyPlatform with ⟨c | f | m, q⟩
  · rw [first] at named
    exact ⟨c, q, rfl, named, run_provision_again_extends nightlyPlatform_reachable calm _ _ noWorkflow first⟩
  · rw [first] at named
    cases named
  · rw [first] at named
    cases named

end Platform
end Provisioning
