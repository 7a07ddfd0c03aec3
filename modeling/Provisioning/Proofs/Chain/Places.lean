import Provisioning.Platform.Disturbed
import Provisioning.Proofs.Chain.Upkeep
import Provisioning.Proofs.Chain.Settled
import Provisioning.Proofs.Chain.Readiness

/-!
Where the engine works.  Every chain first looks for the workspace that its request names; what it asks
after that, it asks in that workspace or for it, and only when it has found it ready.  So the data of
every other workspace is as it was.
-/
namespace Provisioning

open Program Platform

variable {δ α β γ : Type} {w : String}

def Call.At (w : String) : Call → Prop
  | .inside x _ => x = w
  | _ => True

/-- The call is made in this workspace, or it opens it or gives rights on it. -/
def Call.Concerns (v : WorkspaceInfo) : Call → Prop
  | .assignRole scope _ _ => scope = v.resourceId
  | .openSession x | .inside x _ => x = v.name
  | .createIfAbsent _ _ _ | .findWorkspace _ => False

theorem Call.at_of_concerns {v : WorkspaceInfo} (c : Call) (concerns : c.Concerns v) : c.At v.name := by
  cases c with
  | inside x c => exact concerns
  | _ => trivial

theorem Call.at_of_lookedUp (c : Call) {x : String} (looks : lookedUp? c = some x) : c.At w := by
  cases c with
  | inside x c => cases looks
  | _ => trivial

namespace Platform

def Elsewhere (w : String) (p q : Platform) : Prop := ∀ x, x ≠ w → q.data x = p.data x

theorem elsewhere_refl (p : Platform) : p.Elsewhere w p := fun _ _ => rfl

theorem elsewhere_trans (p q r : Platform) (first : p.Elsewhere w q) (second : q.Elsewhere w r) :
    p.Elsewhere w r := fun x other => (second x other).trans (first x other)

theorem elsewhere_of_updated {p q : Platform} {d : WorkspaceData} (put : q.data = updated p.data w d) :
    p.Elsewhere w q := by
  intro x other
  rw [put]
  exact updated_other _ _ other

theorem elsewhere_answerInner (c : InnerCall) (p : Platform) : p.Elsewhere w (answerInner w c p).2 := by
  have same : p.Elsewhere w p := p.elsewhere_refl
  cases c with
  | jobs c =>
    cases c with
    | listByName _ | get _ => exact same
    | create _ | delete _ => exact elsewhere_of_updated rfl
    | update id d =>
      simp only [answerInner, answerJobs]
      split
      · exact elsewhere_of_updated rfl
      · exact same
  | pipelines c =>
    cases c with
    | listByName _ | get _ => exact same
    | create _ | delete _ => exact elsewhere_of_updated rfl
    | update id d =>
      simp only [answerInner, answerPipelines]
      split
      · exact elsewhere_of_updated rfl
      · exact same
  | views c =>
    cases c with
    | listByName _ | get _ => exact same
    | update _ _ | delete _ => exact elsewhere_of_updated rfl
    | create d =>
      simp only [answerInner, answerViews]
      split
      · exact elsewhere_of_updated rfl
      · exact same
  | catalog c =>
    cases c with
    | tableExists _ | listGrants _ => exact same
    | ensureCatalog _ | grant _ _ _ | revoke _ _ _ => exact elsewhere_of_updated rfl
    | ensureSchema catalog schema =>
      simp only [answerInner, answerCatalog]
      split
      · exact elsewhere_of_updated rfl
      · exact same
  | repositories c =>
    cases c with
    | listByPath _ => exact same
    | delete _ => exact elsewhere_of_updated rfl
    | create url path provider =>
      simp only [answerInner, answerRepositories]
      split
      · exact same
      · exact elsewhere_of_updated rfl
  | identity c =>
    cases c with
    | resolve _ => exact same
    | assignPermission _ _ _ => exact elsewhere_of_updated rfl

theorem elsewhere_handler {c : Call} (at_ : c.At w) (p : Platform) : p.Elsewhere w (handler c p).2 := by
  rcases handler_snd c p with noted | answered
  · rw [noted]
    exact elsewhere_refl p
  · rw [answered]
    cases c with
    | inside x c =>
      cases at_
      exact elsewhere_answerInner c (p.record _)
    | createIfAbsent name region params =>
      simp only [answer]
      split <;> exact elsewhere_refl p
    | assignRole scope principal role =>
      simp only [answer]
      split <;> exact elsewhere_refl p
    | findWorkspace _ | openSession _ => exact elsewhere_refl p

theorem elsewhere_run {program : Remote α} (asks : program.Asks (Call.At w)) (p : Platform) :
    p.Elsewhere w (program.run handler p).2 :=
  keeps_of_asks elsewhere_refl elsewhere_trans (fun _ => elsewhere_handler) asks p

/-- What follows a program stays at the workspace when it does so after every answer that can come. -/
theorem elsewhere_bind {program : Remote α} {f : α → Remote β} {p : Platform}
    (first : p.Elsewhere w (program.run handler p).2)
    (next : ∀ a q, program.run handler p = (.answered a, q) → (f a).Asks (Call.At w)) :
    p.Elsewhere w ((program >>= f).run handler p).2 :=
  ends_bind first fun a q answered reached =>
    elsewhere_trans _ _ _ reached (elsewhere_run (next a q answered) q)

end Platform

/-! Sessions -/

namespace Session

section Asking

variable (s : Session) {Q : Call → Prop}

theorem jobs_at (jobs : ∀ c, Q (.inside s.workspace.name (.jobs c)))
    (program : Program (objects JobDefinition) β) : (s.jobs program).Asks Q :=
  asks_through (asks_mono (fun _ _ => jobs _) program.asks_anything)

theorem pipelines_at (pipelines : ∀ c, Q (.inside s.workspace.name (.pipelines c)))
    (program : Program (objects PipelineDefinition) β) : (s.pipelines program).Asks Q :=
  asks_through (asks_mono (fun _ _ => pipelines _) program.asks_anything)

theorem views_at (views : ∀ c, Q (.inside s.workspace.name (.views c)))
    (program : Program (objects ViewDefinition) β) : (s.views program).Asks Q :=
  asks_through (asks_mono (fun _ _ => views _) program.asks_anything)

theorem ask_at (inner : ∀ c, Q (.inside s.workspace.name c)) (c : InnerCall) : (s.ask c).Asks Q :=
  asks_request (inner c)

section Identity

variable (identity : ∀ c, Q (.inside s.workspace.name (.identity c)))

include identity

theorem resolve_at (r : PrincipalRef) : (s.resolve r).Asks Q := by
  refine asks_bind (asks_request (identity _)) fun found => ?_
  cases found <;> exact asks_done _

theorem assignLevels_at (object : SecuredObject) (a : Accepted) (levels : ObjectPermissions) :
    (s.assignLevels object a levels).Asks Q := by
  have one : ∀ r level, (s.assignLevel object r level).Asks Q :=
    fun r level => asks_bind (s.resolve_at identity r) fun _ => asks_request (identity _)
  exact asks_bind (one _ _) fun _ => one _ _

theorem grantAll_at (catalog : ∀ c, Q (.inside s.workspace.name (.catalog c))) (view : String)
    (r : PrincipalRef) (ps : List CatalogPrivilege) : (s.grantAll view r ps).Asks Q := by
  refine asks_bind (s.resolve_at identity r) fun principal => asks_bind ?_ fun _ => asks_done _
  refine asks_each (fun privilege => ?_) ps
  exact asks_request (catalog (.grant view principal privilege))

end Identity

section Repositories

variable (repositories : ∀ c, Q (.inside s.workspace.name (.repositories c)))

include repositories

theorem ensureRepository_at (url path provider : String) :
    (s.ensureRepository url path provider).Asks Q := by
  refine asks_bind (asks_request (repositories _)) fun creation => ?_
  cases creation with
  | created repo => exact asks_done _
  | alreadyExists =>
    refine asks_bind (asks_request (repositories _)) fun found => ?_
    cases found <;> exact asks_done _

theorem removeRepositories_at (path : String) : (s.removeRepositories path).Asks Q := by
  refine asks_bind (asks_request (repositories _)) fun found => asks_bind ?_ fun _ =>
    asks_bind (asks_done _) fun _ => asks_done _
  exact asks_each (fun repo => asks_bind (asks_attempt (asks_request (repositories _))) fun _ =>
    asks_done _) found

end Repositories
end Asking

theorem start_bind_at {Q : Call → Prop} {v : WorkspaceInfo} {f : Session → Remote β}
    (opened : Q (.openSession v.name)) (next : (f ⟨v⟩).Asks Q) : (start v >>= f).Asks Q := by
  refine ⟨opened, fun answer => ?_⟩
  cases answer with
  | ok => exact next
  | error => trivial

end Session

theorem Ground.secure_at (g : Ground) {Q : Call → Prop}
    (identity : ∀ c, Q (.inside g.session.workspace.name (.identity c))) (s : Settings) (a : Accepted)
    (object : SecuredObject) (levels : ObjectPermissions) : (g.secure s a object levels).Asks Q :=
  asks_bind (g.session.assignLevels_at identity _ _ _) fun _ => g.session.assignLevels_at identity _ _ _

/-! Ways in -/

/-- The program does nothing but look for the workspace, until it has found it ready; from then on it
works there.  Where it finds none, it asks for nothing more. -/
inductive Enters : Option String → Remote β → Prop where
  | refused (target : Option String) (f : Failure) : Enters target (Program.fail f)
  | looked {α : Type} {w : String} {way : Remote α} {inside : α → Remote β}
      (looks : way.Asks fun c => lookedUp? c = some w)
      (next : ∀ p q a, way.run handler p = (.answered a, q) →
        (q.workspaces w = none ∧ (inside a).Asks fun _ => False) ∨
        ∃ v, q.HasReady w v ∧ (inside a).Asks (Call.Concerns v)) :
      Enters (some w) (way >>= inside)

/-- What is made of the value in the end is no matter. -/
theorem enters_bind_pure {target : Option String} {program : Remote β} (enters : Enters target program)
    (f : β → γ) : Enters target (program >>= fun b => pure (f b)) := by
  cases enters with
  | refused _ e => exact .refused _ e
  | looked looks next =>
    rw [Program.bind_assoc]
    refine .looked looks fun p q a answered => ?_
    rcases next p q a answered with ⟨none, ends⟩ | ⟨v, ready, concerns⟩
    · exact .inl ⟨none, asks_bind ends fun _ => asks_done _⟩
    · exact .inr ⟨v, ready, asks_bind concerns fun _ => asks_done _⟩

theorem ensureWorkspace_looks (s : WorkspaceSettings) (name : String) :
    (ensureWorkspace s name).Asks fun c => lookedUp? c = some name := by
  refine asks_bind ?_ fun v => asks_bind (asks_done _) fun _ => asks_done _
  unfold obtainWorkspace
  split
  · exact asks_request rfl
  · refine asks_bind (asks_request rfl) fun found => ?_
    cases found <;> exact asks_done _

theorem workspaceIfAny_looks (name : String) :
    (workspaceIfAny name).Asks fun c => lookedUp? c = some name := by
  refine asks_bind (asks_request rfl) fun found => ?_
  cases found with
  | none => exact asks_done _
  | some v => exact asks_bind (asks_done _) fun _ => asks_done _

theorem answered_workspaceIfAny {name : String} {found : Option WorkspaceInfo} {p q : Platform}
    (answered : (workspaceIfAny name).run handler p = (.answered found, q)) :
    found = none ∧ q.workspaces name = none ∨ ∃ v, found = some v ∧ q.HasReady name v := by
  obtain ⟨found, p₁, lookup, rest⟩ := answered_bind_iff.mp answered
  have there := answered_findWorkspace lookup
  cases found with
  | none =>
    cases rest
    exact .inl ⟨rfl, there⟩
  | some u =>
    obtain ⟨_, p₂, checked, done⟩ := answered_bind_iff.mp rest
    obtain ⟨isReady, rfl⟩ := answered_ofExcept_iff.mp checked
    cases done
    exact .inr ⟨u, rfl, there, isReady⟩

theorem enters_ensured (s : WorkspaceSettings) (name : String) {f : WorkspaceInfo → Remote β}
    (next : ∀ v, (f v).Asks (Call.Concerns v)) : Enters (some name) (ensureWorkspace s name >>= f) :=
  .looked (ensureWorkspace_looks s name) fun _ _ v answered =>
    .inr ⟨v, answered_ensureWorkspace answered, next v⟩

theorem enters_whenThere {name : String} (missing : Except Failure β)
    {f : WorkspaceInfo → Session → Remote β} (next : ∀ v, (f v ⟨v⟩).Asks (Call.Concerns v)) :
    Enters (some name) (whenThere name (done missing) f) := by
  refine .looked (workspaceIfAny_looks name) fun p q found answered => ?_
  rcases answered_workspaceIfAny answered with ⟨rfl, none⟩ | ⟨v, rfl, ready⟩
  · exact .inl ⟨none, asks_done missing⟩
  · exact .inr ⟨v, ready, Session.start_bind_at rfl (next v)⟩

/-- A workspace that must be there is entered like one that need not be. -/
theorem enters_existing {name : String} {f : WorkspaceInfo → Session → Remote β}
    (next : ∀ v, (f v ⟨v⟩).Asks (Call.Concerns v)) :
    Enters (some name) (existingWorkspace name >>= fun v => Session.start v >>= f v) := by
  rw [existing_eq_whenThere]
  exact enters_whenThere _ next

/-- A workspace that has been found bears the name that was asked for. -/
theorem Platform.name_of_hasReady {p q : Platform} {name : String} (named : p.NamedAt name)
    {program : Remote α} {reply : Reply α} (run : program.run handler p = (reply, q)) {v : WorkspaceInfo}
    (ready : q.HasReady name v) : v.name = name :=
  invariant_of_run namedAt_handler run named v ready.1

theorem Platform.elsewhere_of_enters {p : Platform} (named : p.Named) {target : Option String}
    {program : Remote β} (enters : Enters target program) {x : String} (other : target ≠ some x) :
    (program.run handler p).2.data x = p.data x := by
  cases enters with
  | refused => rfl
  | looked looks next =>
    rename_i w way inside
    refine elsewhere_bind (elsewhere_run (asks_mono (fun c => c.at_of_lookedUp) looks) p) ?_ x
      fun same => other (congrArg some same.symm)
    intro a q answered
    rcases next p q a answered with ⟨-, ends⟩ | ⟨v, ready, concerns⟩
    · exact asks_mono (fun _ => False.elim) ends
    · rw [← name_of_hasReady (named w) answered ready]
      exact asks_mono (fun c => c.at_of_concerns) concerns

/-! Chains -/

section Chains

variable (s : Settings) (a : Accepted)

/-- The ground of a workload is taken in its workspace, once that is there. -/
theorem Workload.prepare_bind (work : Workload) (f : Ground → Remote β) :
    work.prepare s a >>= f = ensureWorkspace s.workspace work.workspace >>= fun v =>
      grantWorkspaceAccess s.workspace.role v a >>= fun _ => Session.start v >>= fun session =>
        session.ensureRepository work.repoUrl work.repoPath s.gitProvider >>= fun repository =>
          f ⟨session, repository⟩ := by
  unfold prepare
  simp only [Program.bind_assoc]
  rfl

theorem Workload.enters_on_ground (work : Workload) {f : Ground → Remote β}
    (next : ∀ g, (f g).Asks (Call.Concerns g.session.workspace)) :
    Enters (some work.workspace) (work.prepare s a >>= f) := by
  rw [work.prepare_bind s a]
  refine enters_ensured _ _ fun v => ?_
  refine asks_bind (asks_bind (asks_request rfl) fun _ => asks_request rfl) fun _ =>
    Session.start_bind_at rfl ?_
  exact asks_bind (Session.ensureRepository_at ⟨v⟩ (fun _ => rfl) _ _ _) fun repository =>
    next ⟨⟨v⟩, repository⟩

theorem JobSpec.enters_provision (spec : JobSpec) : Enters (some spec.workspace) (spec.provision s a) := by
  refine spec.workload.enters_on_ground s a fun g => ?_
  exact asks_bind (g.session.jobs_at (fun _ => rfl) _) fun _ =>
    asks_bind (g.secure_at (fun _ => rfl) s a _ _) fun _ => asks_done _

theorem PipelineSpec.enters_provision (spec : PipelineSpec) :
    Enters (some spec.workspace) (spec.provision s a) := by
  refine spec.workload.enters_on_ground s a fun g => ?_
  exact asks_bind (g.session.pipelines_at (fun _ => rfl) _) fun _ =>
    asks_bind (g.secure_at (fun _ => rfl) s a _ _) fun _ => asks_done _

theorem WorkflowSpec.enters_provision (spec : WorkflowSpec) :
    Enters (some spec.workspace) (spec.provision s a) := by
  unfold provision
  cases spec.requiredName with
  | error f => exact .refused _ f
  | ok name =>
    refine spec.workload.enters_on_ground s a fun g => ?_
    have asksJobs : ∀ {γ : Type} (program : Program (objects JobDefinition) γ),
        (g.session.jobs program).Asks (Call.Concerns g.session.workspace) :=
      g.session.jobs_at fun _ => rfl
    refine asks_bind (asksJobs _) fun plan => asks_bind ?_ fun _ => asks_bind (asksJobs _) fun _ =>
      asks_bind (g.secure_at (fun _ => rfl) s a _ _) fun _ => asks_done _
    cases plan with
    | create => exact asks_done _
    | update existing =>
      refine asks_bind (asksJobs _) fun found => ?_
      cases found <;> exact asks_done _

theorem OutputPortSpec.enters_provision (spec : OutputPortSpec) :
    Enters (some spec.workspace) (spec.provision s a) := by
  refine enters_existing fun v => ?_
  let session : Session := ⟨v⟩
  have inner : ∀ c, Call.Concerns v (.inside session.workspace.name c) := fun _ => rfl
  refine asks_bind (session.ask_at inner _) fun _ => asks_bind (session.ask_at inner _) fun _ =>
    asks_bind (session.ask_at inner _) fun there => ?_
  cases there with
  | false => exact asks_done _
  | true =>
    have granted := session.grantAll_at (fun _ => inner _) fun _ => inner _
    exact asks_bind (session.views_at (fun _ => inner _) _) fun _ => asks_bind (granted _ _ _)
      fun _ => asks_bind (granted _ _ _) fun _ => asks_done _

theorem Workload.enters_remove {δ : Type} (work : Workload) (kind : ResourceKind) (name : String)
    {collection : Session → Program (objects δ) Nat → Remote Nat}
    (collected : ∀ (session : Session) program,
      (collection session program).Asks (Call.Concerns session.workspace)) :
    Enters (some work.workspace) (work.remove a kind name collection) := by
  refine enters_whenThere (.ok (skippedRemoval work kind name)) fun v => ?_
  refine asks_bind (collected ⟨v⟩ _) fun removed => ?_
  cases a.removeData with
  | false => exact asks_done _
  | true => exact asks_bind (Session.removeRepositories_at ⟨v⟩ (fun _ => rfl) _) fun _ => asks_done _

theorem OutputPortSpec.enters_unprovision (spec : OutputPortSpec) :
    Enters (some spec.workspace) spec.unprovision := by
  refine enters_whenThere (.ok spec.skippedRemoval) fun v => ?_
  exact asks_bind (Session.views_at ⟨v⟩ (fun _ => rfl) _) fun removed => asks_done _

theorem OutputPortSpec.enters_setReaders (spec : OutputPortSpec) (refs : List String) :
    Enters (some spec.workspace) (spec.setReaders s a refs) := by
  refine enters_existing fun v => ?_
  let session : Session := ⟨v⟩
  have inner : ∀ c, Call.Concerns v (.inside session.workspace.name c) := fun _ => rfl
  have served : ∀ privilege r, (spec.tryServe session privilege r).Asks (Call.Concerns v) := by
    intro privilege r
    refine asks_bind (asks_attempt (asks_bind (session.resolve_at (fun _ => inner _) r) fun _ => ?_)) fun outcome => ?_
    · exact asks_bind (session.ask_at inner _) fun _ => asks_done _
    · cases outcome <;> exact asks_done _
  have revoked : ∀ g, (spec.tryRevoke session g).Asks (Call.Concerns v) := fun g =>
    asks_bind (asks_attempt (session.ask_at inner _)) fun _ => asks_done _
  exact asks_bind (session.ask_at inner _) fun current => asks_bind (asks_each (served _) _) fun services =>
    asks_bind (asks_each revoked _) fun revocations => asks_bind (asks_done _) fun _ => asks_done _

theorem WorkflowAddress.enters_readBack (target : WorkflowAddress) :
    Enters (some target.workspace) target.readBack := by
  refine enters_existing fun v => ?_
  have asksJobs : ∀ {γ : Type} (program : Program (objects JobDefinition) γ),
      (Session.jobs ⟨v⟩ program).Asks (Call.Concerns v) := Session.jobs_at ⟨v⟩ fun _ => rfl
  refine asks_bind (asksJobs _) fun found => asks_bind (asks_done _) fun reference =>
    asks_bind (asksJobs _) fun live => ?_
  cases live <;> exact asks_done _

end Chains

/-! Operations -/

def Classified.workspace? : Classified → Option String
  | .job spec => some spec.workspace
  | .pipeline spec => some spec.workspace
  | .workflow spec => some spec.workspace
  | .outputPort spec => some spec.workspace
  | .unsupported _ => none

def Request.workspace? (r : Request) (t : Templates) : Option String :=
  (r.accept t).toOption.bind (·.classified.workspace?)

def Operation.workspace? (s : Settings) : Operation → Option String
  | .work (.request r _) => r.workspace? s.templates
  | .work (.readBack r) => some r.target.workspace
  | .access r => (Request.ofDescriptor r.descriptor).workspace? s.templates

theorem Accepted.enters_execute (a : Accepted) (s : Settings) (direction : Direction) :
    Enters a.classified.workspace? (a.execute s direction) := by
  unfold execute
  cases a.classified with
  | unsupported reason => exact .refused _ _
  | job spec =>
    cases direction with
    | provision => exact spec.enters_provision s a
    | unprovision =>
      exact spec.workload.enters_remove a .job spec.name fun session => session.jobs_at fun _ => rfl
  | pipeline spec =>
    cases direction with
    | provision => exact spec.enters_provision s a
    | unprovision =>
      exact spec.workload.enters_remove a .pipeline spec.name fun session =>
        session.pipelines_at fun _ => rfl
  | workflow spec =>
    cases direction with
    | provision => exact spec.enters_provision s a
    | unprovision =>
      dsimp only
      unfold WorkflowSpec.unprovision
      cases spec.requiredName with
      | error f => exact .refused _ f
      | ok name =>
        exact spec.workload.enters_remove a .workflow name fun session => session.jobs_at fun _ => rfl
  | outputPort spec =>
    cases direction with
    | provision => exact spec.enters_provision s a
    | unprovision => exact spec.enters_unprovision

theorem Accepted.enters_setReaders (a : Accepted) (s : Settings) (refs : List String) :
    Enters a.classified.workspace? (a.setReaders s refs) := by
  unfold setReaders
  cases a.classified with
  | outputPort spec => exact spec.enters_setReaders s a refs
  | _ => exact .refused _ _

theorem enters_accepted (r : Request) (t : Templates) {f : Accepted → Remote Completion}
    (next : ∀ a, Enters a.classified.workspace? (f a)) :
    Enters (r.workspace? t) (Program.ofExcept (r.accept t) >>= f) := by
  unfold Request.workspace?
  cases r.accept t with
  | error e => exact .refused _ e
  | ok a => exact next a

/-- No operation asks for more than the way to its workspace, before it has found it ready. -/
theorem Operation.enters (o : Operation) (s : Settings) : Enters (o.workspace? s) (o.program s) := by
  cases o with
  | work work =>
    cases work with
    | request r direction => exact enters_accepted r s.templates fun a => a.enters_execute s direction
    | readBack r =>
      change Enters (some r.target.workspace) (r.execute s)
      unfold ReadBackRequest.execute
      split
      · exact enters_bind_pure r.target.enters_readBack _
      · exact .refused _ _
  | access r =>
    exact enters_accepted (Request.ofDescriptor r.descriptor) s.templates fun a =>
      a.enters_setReaders s r.refs

namespace Platform

variable {p : Platform} {s : Settings} {a : Accepted}

theorem data_execute (named : p.Named) (direction : Direction) {x : String}
    (other : a.classified.workspace? ≠ some x) :
    ((a.execute s direction).run handler p).2.data x = p.data x :=
  elsewhere_of_enters named (a.enters_execute s direction) other

/-- An operation leaves the data of every workspace alone but that of its own. -/
theorem data_operation (named : p.Named) (o : Operation) {x : String} (other : o.workspace? s ≠ some x) :
    ((o.program s).run handler p).2.data x = p.data x :=
  elsewhere_of_enters named (o.enters s) other

end Platform
end Provisioning
