import Provisioning.Chain.Execution
import Provisioning.Proofs.Platform.Shelf

/-!
What the chains ask for.  The chains that provision are straight, so that every refusal ends them;
the chains that remove objects or set readers go on after some refusals.  Of each step it is told
which effects its calls may have.
-/
namespace Provisioning

open Program

variable {δ α : Type}

/-! Access -/

theorem grantWorkspaceAccess_straight (role : String) (w : WorkspaceInfo) (a : Accepted) :
    (grantWorkspaceAccess role w a).Straight (Call.Within [.nothing]) :=
  straight_bind (straight_request List.mem_cons_self) fun _ => straight_request List.mem_cons_self

namespace Session

theorem start_straight (w : WorkspaceInfo) : (start w).Straight (Call.Within [.nothing]) :=
  straight_bind (straight_request List.mem_cons_self) fun _ => straight_done _

theorem ask_straight (s : Session) (c : InnerCall) {es : List Effect} (among : c.effect ∈ es) :
    (s.ask c).Straight (Call.Within es) := straight_request among

theorem resolve_straight (s : Session) (p : PrincipalRef) :
    (s.resolve p).Straight (Call.Within [.nothing]) := by
  refine straight_bind (s.ask_straight _ List.mem_cons_self) fun found => ?_
  cases found <;> exact straight_done _

theorem assignLevel_straight (s : Session) (object : SecuredObject) (p : PrincipalRef)
    (l : PermissionLevel) : (s.assignLevel object p l).Straight (Call.Within [.nothing]) :=
  straight_bind (s.resolve_straight p) fun _ => s.ask_straight _ List.mem_cons_self

theorem assignLevels_straight (s : Session) (object : SecuredObject) (a : Accepted)
    (ls : ObjectPermissions) : (s.assignLevels object a ls).Straight (Call.Within [.nothing]) :=
  straight_bind (s.assignLevel_straight _ _ _) fun _ => s.assignLevel_straight _ _ _

def grantEach (s : Session) (view : String) (principal : Principal) (ps : List CatalogPrivilege) :
    Remote (List Unit) :=
  Program.each (fun privilege => s.catalog (.grant view principal privilege)) ps

theorem grantEach_straight (s : Session) (view : String) (principal : Principal)
    (ps : List CatalogPrivilege) :
    (s.grantEach view principal ps).Straight (Call.Within [.nothing, .grant]) := by
  refine straight_each (fun privilege => ?_) ps
  exact s.ask_straight _ (by simp [InnerCall.effect])

theorem grantAll_straight (s : Session) (view : String) (p : PrincipalRef)
    (ps : List CatalogPrivilege) :
    (s.grantAll view p ps).Straight (Call.Within [.nothing, .grant]) := by
  refine straight_bind ?_ fun principal => ?_
  · exact straight_mono (Call.within_mono (by decide)) (s.resolve_straight p)
  · exact straight_bind (s.grantEach_straight view principal ps) fun _ => straight_done _

end Session

/-! Readiness -/

theorem ensureWorkspace_straight (s : WorkspaceSettings) (name : String) :
    (ensureWorkspace s name).Straight (Call.Within [.nothing, .makeWorkspace]) := by
  refine straight_bind ?_ fun w => straight_bind (straight_done _) fun _ => straight_done _
  rw [obtainWorkspace]
  split
  · exact straight_request (by simp [Call.Within, Call.effect])
  · refine straight_bind (straight_request List.mem_cons_self) fun found => ?_
    cases found <;> exact straight_done _

theorem existingWorkspace_straight (name : String) :
    (existingWorkspace name).Straight (Call.Within [.nothing]) := by
  refine straight_bind (straight_request List.mem_cons_self) fun found => ?_
  cases found with
  | none => exact straight_done _
  | some w => exact straight_bind (straight_done _) fun _ => straight_done _

theorem workspaceIfAny_straight (name : String) :
    (workspaceIfAny name).Straight (Call.Within [.nothing]) := by
  refine straight_bind (straight_request List.mem_cons_self) fun found => ?_
  cases found with
  | none => exact straight_done _
  | some w => exact straight_bind (straight_done _) fun _ => straight_done _

/-! Repositories -/

namespace Session

theorem ensureRepository_straight (s : Session) (url path provider : String) :
    (s.ensureRepository url path provider).Straight (Call.Within [.nothing, .makeRepository]) := by
  refine straight_bind (s.ask_straight _ (by simp [InnerCall.effect])) fun creation => ?_
  cases creation with
  | created repo => exact straight_done _
  | alreadyExists =>
    refine straight_bind (s.ask_straight _ List.mem_cons_self) fun found => ?_
    cases found <;> exact straight_done _

theorem removeRepositories_asks (s : Session) (path : String) :
    (s.removeRepositories path).Asks (Call.Within [.nothing, .removeRepository]) := by
  refine asks_bind (asks_request List.mem_cons_self) fun found => ?_
  refine asks_bind (asks_each (fun repo => ?_) found) fun _ =>
    asks_bind (asks_done _) fun _ => asks_done _
  refine asks_bind (asks_attempt (asks_request ?_)) fun _ => asks_done _
  simp [Call.Within, Call.effect, InnerCall.effect]

theorem jobs_eq_ask (session : Session) (c : ObjectCall JobDefinition) :
    session.jobs (Program.request (I := objects JobDefinition) c) = session.ask (.jobs c) := by
  refine congrArg (Program.ask (I := remote) _) (funext fun (r : Except Failure c.Answer) => ?_)
  cases r <;> rfl

end Session

/-! Objects by name -/

namespace Scope

variable {write remove : Effect}

theorem plan_straight (s : Scope) (name : String) :
    (s.plan name : Program (objects δ) UpsertPlan).Straight
      (ObjectCall.Within write remove [.nothing]) :=
  straight_bind (straight_request List.mem_cons_self) fun _ => straight_done _

theorem apply_straight (definition : δ) (plan : UpsertPlan) :
    (Scope.apply definition plan).Straight (ObjectCall.Within write remove [write]) := by
  cases plan with
  | create => exact straight_bind (straight_request List.mem_cons_self) fun _ => straight_done _
  | update existing =>
    exact straight_bind (straight_request List.mem_cons_self) fun _ => straight_done _

theorem upsert_straight (s : Scope) (name : String) (definition : δ) :
    (s.upsert name definition).Straight (ObjectCall.Within write remove [.nothing, write]) := by
  refine straight_bind ?_ fun plan => ?_
  · exact straight_mono (fun _ => List.mem_append_left [write]) (s.plan_straight name)
  · exact straight_mono (fun _ => List.mem_append_right [Effect.nothing])
      (apply_straight definition plan)

theorem removeAll_asks (s : Scope) (name : String) : (s.removeAll name : Program (objects δ) Nat).Asks
    (ObjectCall.Within write remove [.nothing, remove]) := by
  refine asks_bind (asks_request List.mem_cons_self) fun found => ?_
  refine asks_bind (asks_each (fun r => ?_) found) fun _ =>
    asks_bind (asks_done _) fun _ => asks_done _
  refine asks_bind (asks_attempt (asks_request ?_)) fun _ => asks_done _
  exact List.mem_cons_of_mem _ List.mem_cons_self

end Scope

namespace Shelf

variable {β : Type} {es : List Effect} (shelf : Shelf δ α) (w : String)

theorem within_embedding {c : ObjectCall δ} (within : c.Within shelf.write shelf.remove es) :
    ((shelf.embedding w).question c).Within es := by
  rw [Call.Within, shelf.same_effect]
  exact within

theorem through_straight {p : Program (objects δ) β}
    (straight : p.Straight (ObjectCall.Within shelf.write shelf.remove es)) :
    (p.through (shelf.embedding w)).Straight (Call.Within es) :=
  straight_through (straight_mono (fun _ => shelf.within_embedding w) straight)

theorem through_asks {p : Program (objects δ) β}
    (asks : p.Asks (ObjectCall.Within shelf.write shelf.remove es)) :
    (p.through (shelf.embedding w)).Asks (Call.Within es) :=
  asks_through (asks_mono (fun _ => shelf.within_embedding w) asks)

theorem upsert_straight (s : Scope) (name : String) (definition : δ) :
    ((s.upsert name definition).through (shelf.embedding w)).Straight
      (Call.Within [.nothing, shelf.write]) :=
  shelf.through_straight w (s.upsert_straight name definition)

theorem removeAll_asks (s : Scope) (name : String) :
    ((s.removeAll name).through (shelf.embedding w)).Asks (Call.Within [.nothing, shelf.remove]) :=
  shelf.through_asks w (s.removeAll_asks name)

end Shelf

/-! Whole chains -/

theorem Workload.prepare_straight (w : Workload) (s : Settings) (a : Accepted) :
    (w.prepare s a).Straight (Call.Within [.nothing, .makeWorkspace, .makeRepository]) := by
  refine straight_bind ?_ fun workspace => straight_bind ?_ fun _ => straight_bind ?_ fun session =>
    straight_bind ?_ fun _ => straight_done _
  · exact straight_mono (Call.within_mono (by decide)) (ensureWorkspace_straight _ _)
  · exact straight_mono (Call.within_mono (by decide)) (grantWorkspaceAccess_straight _ _ _)
  · exact straight_mono (Call.within_mono (by decide)) (Session.start_straight _)
  · exact straight_mono (Call.within_mono (by decide)) (session.ensureRepository_straight _ _ _)

theorem Ground.secure_straight (g : Ground) (s : Settings) (a : Accepted) (object : SecuredObject)
    (levels : ObjectPermissions) : (g.secure s a object levels).Straight (Call.Within [.nothing]) :=
  straight_bind (g.session.assignLevels_straight _ _ _) fun _ =>
    g.session.assignLevels_straight _ _ _

theorem WorkflowSpec.guard_straight (s : WorkflowSpec) (session : Session) (inDevelopment : Bool)
    (plan : UpsertPlan) : (s.guard session inDevelopment plan).Straight (Call.Within [.nothing]) := by
  cases plan with
  | create => exact straight_done _
  | update existing =>
    refine straight_bind (Shelf.jobs.through_straight _ (straight_request List.mem_cons_self))
      fun found => ?_
    cases found <;> exact straight_done _

def Effect.installing : List Effect :=
  [.nothing, .makeWorkspace, .makeRepository, .writeJob, .writePipeline]

/-- The effects that provisioning may have: nothing is ever removed or revoked. -/
def Effect.provisioning : List Effect :=
  [.nothing, .makeWorkspace, .makeRepository, .writeJob, .writePipeline, .writeView, .makeCatalog,
    .grant]

def Workload.install (w : Workload) (shelf : Shelf δ α) (kind : ResourceKind) (definition : δ)
    (s : Settings) (a : Accepted) (object : String → SecuredObject) (levels : ObjectPermissions)
    (report : Ground → String → Completion) : Remote Completion := do
  let ground ← w.prepare s a
  let session := ground.session
  let outcome ← ((session.scope kind).upsert (shelf.nameOf definition) definition).through
    (shelf.embedding session.workspace.name)
  let id := outcome.reference.id
  ground.secure s a (object id) levels
  pure (report ground id)

theorem JobSpec.provision_eq_install (spec : JobSpec) (s : Settings) (a : Accepted) :
    spec.provision s a = spec.workload.install Shelf.jobs .job (spec.definition s.gitProvider) s a .job
      s.permissions.job fun ground id => .provisioned id
        s!"Job '{spec.name}' provisioned in workspace '{ground.session.workspace.name}'"
        (spec.info ground id) := rfl

theorem PipelineSpec.provision_eq_install (spec : PipelineSpec) (s : Settings) (a : Accepted) :
    spec.provision s a = spec.workload.install Shelf.pipelines .pipeline spec.definition s a .pipeline
      s.permissions.pipeline fun ground id => .provisioned id
        s!"DLT pipeline '{spec.name}' provisioned in workspace '{ground.session.workspace.name}'"
        (spec.info ground id) := rfl

theorem Workload.install_straight {shelf : Shelf δ α} (writing : shelf.write ∈ Effect.installing)
    (w : Workload) (kind : ResourceKind) (definition : δ) (s : Settings) (a : Accepted)
    (object : String → SecuredObject) (levels : ObjectPermissions)
    (report : Ground → String → Completion) :
    (w.install shelf kind definition s a object levels report).Straight
      (Call.Within Effect.installing) := by
  refine straight_bind ?_ fun ground => straight_bind ?_ fun _ => straight_bind ?_ fun _ =>
    straight_done _
  · exact straight_mono (Call.within_mono (by decide)) (w.prepare_straight s a)
  · refine straight_mono (Call.within_mono ?_) (shelf.upsert_straight _ _ _ _)
    exact List.cons_subset.mpr ⟨by decide, List.cons_subset.mpr ⟨writing, List.nil_subset _⟩⟩
  · exact straight_mono (Call.within_mono (by decide)) (ground.secure_straight _ _ _ _)

theorem JobSpec.provision_straight (spec : JobSpec) (s : Settings) (a : Accepted) :
    (spec.provision s a).Straight (Call.Within Effect.installing) := by
  rw [provision_eq_install]
  exact Workload.install_straight (by decide) _ _ _ _ _ _ _ _

theorem PipelineSpec.provision_straight (spec : PipelineSpec) (s : Settings) (a : Accepted) :
    (spec.provision s a).Straight (Call.Within Effect.installing) := by
  rw [provision_eq_install]
  exact Workload.install_straight (by decide) _ _ _ _ _ _ _ _

theorem WorkflowSpec.provision_straight (spec : WorkflowSpec) (s : Settings) (a : Accepted) :
    (spec.provision s a).Straight (Call.Within Effect.installing) := by
  refine straight_bind (straight_done _) fun name => straight_bind ?_ fun ground =>
    straight_bind ?_ fun plan => straight_bind ?_ fun _ => straight_bind ?_ fun _ =>
    straight_bind ?_ fun _ => straight_done _
  · exact straight_mono (Call.within_mono (by decide)) (spec.workload.prepare_straight s a)
  · exact straight_mono (Call.within_mono (by decide))
      (Shelf.jobs.through_straight _ (Scope.plan_straight _ _))
  · exact straight_mono (Call.within_mono (by decide)) (spec.guard_straight _ _ _)
  · exact straight_mono (Call.within_mono (by decide))
      (Shelf.jobs.through_straight _ (Scope.apply_straight _ _))
  · exact straight_mono (Call.within_mono (by decide)) (ground.secure_straight _ _ _ _)

def Effect.publishing : List Effect := [.nothing, .makeCatalog, .writeView, .grant]

theorem OutputPortSpec.provision_straight (spec : OutputPortSpec) (s : Settings) (a : Accepted) :
    (spec.provision s a).Straight (Call.Within Effect.publishing) := by
  refine straight_bind ?_ fun workspace => straight_bind ?_ fun session => straight_bind ?_ fun _ =>
    straight_bind ?_ fun _ => straight_bind ?_ fun there => ?_
  · exact straight_mono (Call.within_mono (by decide)) (existingWorkspace_straight _)
  · exact straight_mono (Call.within_mono (by decide)) (Session.start_straight _)
  · exact session.ask_straight _ (by simp [InnerCall.effect, Effect.publishing])
  · exact session.ask_straight _ (by simp [InnerCall.effect, Effect.publishing])
  · exact session.ask_straight _ (by simp [InnerCall.effect, Effect.publishing])
  · cases there with
    | false => exact straight_done _
    | true =>
      refine straight_bind ?_ fun _ => straight_bind ?_ fun _ => straight_bind ?_ fun _ =>
        straight_done _
      · exact straight_mono (Call.within_mono (by decide))
          (Shelf.views.upsert_straight _ _ _ _)
      · exact straight_mono (Call.within_mono (by decide)) (session.grantAll_straight _ _ _)
      · exact straight_mono (Call.within_mono (by decide)) (session.grantAll_straight _ _ _)

theorem Accepted.provision_straight (a : Accepted) (s : Settings) :
    (a.execute s .provision).Straight (Call.Within Effect.provisioning) := by
  have installing := Call.within_mono (show Effect.installing ⊆ Effect.provisioning by decide)
  unfold Accepted.execute
  cases a.classified with
  | job spec => exact straight_mono installing (spec.provision_straight s a)
  | pipeline spec => exact straight_mono installing (spec.provision_straight s a)
  | workflow spec => exact straight_mono installing (spec.provision_straight s a)
  | outputPort spec =>
    exact straight_mono (Call.within_mono (by decide)) (spec.provision_straight s a)
  | unsupported reason => exact straight_done _

theorem Request.provision_straight (r : Request) (s : Settings) :
    (r.execute s .provision).Straight (Call.Within Effect.provisioning) :=
  straight_bind (straight_done _) fun a => a.provision_straight s

/-! Removal, readers and read-back -/

theorem Workload.remove_asks (w : Workload) (a : Accepted) (kind : ResourceKind) (name : String)
    {collection : Session → Program (objects δ) Nat → Remote Nat} {removing : Effect}
    (collected : ∀ session : Session, (collection session ((session.scope kind).removeAll name)).Asks
      (Call.Within [.nothing, removing])) :
    (w.remove a kind name collection).Asks
      (Call.Within [.nothing, removing, .removeRepository]) := by
  refine asks_bind ?_ fun found => ?_
  · exact asks_of_straight (straight_mono (Call.within_mono (by simp)) (workspaceIfAny_straight _))
  · cases found with
    | none => exact asks_done _
    | some workspace =>
      refine asks_bind ?_ fun session => asks_bind ?_ fun _ => ?_
      · exact asks_of_straight (straight_mono (Call.within_mono (by simp)) (Session.start_straight _))
      · exact asks_mono (Call.within_mono (by simp)) (collected session)
      · cases a.removeData with
        | false => exact asks_done _
        | true =>
          refine asks_bind ?_ fun _ => asks_done _
          exact asks_mono (Call.within_mono (by simp)) (session.removeRepositories_asks _)

def Effect.removal : List Effect :=
  [.nothing, .removeJob, .removePipeline, .removeView, .removeRepository]

theorem OutputPortSpec.unprovision_asks (spec : OutputPortSpec) :
    spec.unprovision.Asks (Call.Within [.nothing, .removeView]) := by
  refine asks_bind ?_ fun found => ?_
  · exact asks_of_straight (straight_mono (Call.within_mono (by simp)) (workspaceIfAny_straight _))
  · cases found with
    | none => exact asks_done _
    | some workspace =>
      refine asks_bind ?_ fun session => asks_bind ?_ fun _ => asks_done _
      · exact asks_of_straight (straight_mono (Call.within_mono (by simp)) (Session.start_straight _))
      · exact Shelf.views.removeAll_asks _ _ _

theorem Accepted.unprovision_asks (a : Accepted) (s : Settings) :
    (a.execute s .unprovision).Asks (Call.Within Effect.removal) := by
  unfold Accepted.execute
  cases a.classified with
  | job spec =>
    exact asks_mono (Call.within_mono (by decide))
      (spec.workload.remove_asks a .job spec.name fun session =>
        Shelf.jobs.removeAll_asks _ _ _)
  | pipeline spec =>
    exact asks_mono (Call.within_mono (by decide))
      (spec.workload.remove_asks a .pipeline spec.name fun session =>
        Shelf.pipelines.removeAll_asks _ _ _)
  | workflow spec =>
    refine asks_bind (asks_done _) fun name => ?_
    exact asks_mono (Call.within_mono (by decide))
      (spec.workload.remove_asks a .workflow name fun session =>
        Shelf.jobs.removeAll_asks _ _ _)
  | outputPort spec => exact asks_mono (Call.within_mono (by decide)) spec.unprovision_asks
  | unsupported reason => exact asks_done _

namespace OutputPortSpec

theorem tryServe_asks (spec : OutputPortSpec) (session : Session) (privilege : CatalogPrivilege)
    (p : PrincipalRef) :
    (spec.tryServe session privilege p).Asks (Call.Within [.nothing, .grant]) := by
  refine asks_bind (asks_attempt (asks_bind ?_ fun _ => asks_bind ?_ fun _ => asks_done _))
    fun served => ?_
  · exact asks_of_straight (straight_mono (Call.within_mono (by decide)) (session.resolve_straight p))
  · exact asks_of_straight (session.ask_straight _ (by simp [InnerCall.effect]))
  · cases served <;> exact asks_done _

theorem tryRevoke_asks (spec : OutputPortSpec) (session : Session) (g : Grant) :
    (spec.tryRevoke session g).Asks (Call.Within [.revoke]) :=
  asks_bind (asks_attempt (asks_of_straight (session.ask_straight _ List.mem_cons_self)))
    fun _ => asks_done _

theorem setReaders_asks (spec : OutputPortSpec) (s : Settings) (a : Accepted)
    (refs : List String) :
    (spec.setReaders s a refs).Asks (Call.Within [.nothing, .grant, .revoke]) := by
  refine asks_bind ?_ fun workspace => asks_bind ?_ fun session => asks_bind ?_ fun current =>
    asks_bind ?_ fun services => asks_bind ?_ fun revocations => asks_bind (asks_done _) fun _ =>
    asks_done _
  · exact asks_of_straight (straight_mono (Call.within_mono (by decide)) (existingWorkspace_straight _))
  · exact asks_of_straight (straight_mono (Call.within_mono (by decide)) (Session.start_straight _))
  · exact asks_of_straight (session.ask_straight _ (by simp [InnerCall.effect]))
  · exact asks_each (fun p => asks_mono (Call.within_mono (by decide))
      (spec.tryServe_asks session _ p)) _
  · exact asks_each (fun g => asks_mono (Call.within_mono (by decide))
      (spec.tryRevoke_asks session g)) _

end OutputPortSpec

theorem AccessRequest.execute_asks (r : AccessRequest) (s : Settings) :
    (r.execute s).Asks (Call.Within [.nothing, .grant, .revoke]) := by
  refine asks_bind (asks_done _) fun a => ?_
  unfold Accepted.setReaders
  cases a.classified with
  | outputPort spec => exact spec.setReaders_asks s a r.refs
  | _ => exact asks_done _

theorem WorkflowAddress.readBack_straight (w : WorkflowAddress) :
    w.readBack.Straight (Call.Within [.nothing]) := by
  refine straight_bind (existingWorkspace_straight _) fun workspace =>
    straight_bind (Session.start_straight _) fun session => straight_bind ?_ fun found =>
    straight_bind (straight_done _) fun reference => straight_bind ?_ fun live => ?_
  · exact Shelf.jobs.through_straight _ (straight_request List.mem_cons_self)
  · exact Shelf.jobs.through_straight _ (straight_request List.mem_cons_self)
  · cases live <;> exact straight_done _

theorem ReadBackRequest.execute_straight (r : ReadBackRequest) (s : Settings) :
    (r.execute s).Straight (Call.Within [.nothing]) := by
  rw [ReadBackRequest.execute]
  split
  · exact straight_bind r.target.readBack_straight fun _ => straight_done _
  · exact straight_done _

end Provisioning
