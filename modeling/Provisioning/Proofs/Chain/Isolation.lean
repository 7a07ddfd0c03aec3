import Provisioning.Proofs.Chain.Places
import Provisioning.Proofs.Definition.Workflow
import Provisioning.Proofs.Platform.Alike
import Provisioning.Proofs.Program.Asked

/-!
What an operation comes to is settled by its own workspace.  The engine looks at the dates of jobs
nowhere, since the one comparison that sees them leaves out whatever the platform assigns, and it asks
about no workspace but the one that it was sent to.  So on platforms that agree on that workspace an
operation runs alike.
-/
namespace Provisioning

open Program Platform

variable {δ β : Type} {w : String}

/-! Dates -/

theorem withoutVolatile_undated (live : RemoteResource JobDefinition) :
    withoutVolatile (liveObject live.undated) = withoutVolatile (liveObject live) := by
  have dropped : ∀ fields : Json.Members,
      (undatedFields fields).filter (fun m => !volatileFields.contains m.1) =
        fields.filter fun m => !volatileFields.contains m.1 := by
    intro fields
    rw [undatedFields, Keyed.erase, List.filter_filter]
    refine List.filter_congr fun m _ => ?_
    cases date : m.1 != "created_time" with
    | true => rw [Bool.and_true]
    | false =>
      rw [show m.1 = "created_time" by simpa using date]
      rfl
  rw [withoutVolatile_liveObject_eq, withoutVolatile_liveObject_eq]
  exact congrArg (fun fields => Json.object (Json.put "settings" live.definition.settings fields))
    (dropped live.serverFields)

theorem WorkflowSpec.checkOverride_undated (spec : WorkflowSpec) (live : RemoteResource JobDefinition)
    (inDevelopment : Bool) (workspace : String) :
    spec.checkOverride live.undated inDevelopment workspace =
      spec.checkOverride live inDevelopment workspace := by
  unfold checkOverride
  rw [withoutVolatile_undated]
  rfl

theorem WorkflowAddress.proposal_undated (live : RemoteResource JobDefinition) :
    proposal live.undated = proposal live := by
  rw [proposal, proposal, withoutVolatile_undated]

/-- The answer holds no date of a job. -/
def Call.Dateless (c : Call) : Prop := c.undated = id

theorem Call.dateless_of_lookedUp (c : Call) (looks : lookedUp? c = some w) : c.Dateless := by
  cases c with
  | createIfAbsent _ _ _ | findWorkspace _ => rfl
  | assignRole _ _ _ | openSession _ | inside _ _ => cases looks

/-! Pieces of chains that see no date -/

theorem Scope.plan_dateless (scope : Scope) (name : String) (session : Session) :
    (session.jobs (scope.plan name)).Asks Call.Dateless :=
  asks_through (asks_bind (asks_request rfl) fun _ => asks_done _)

theorem Scope.apply_dateless (d : JobDefinition) (plan : UpsertPlan) (session : Session) :
    (session.jobs (Scope.apply d plan)).Asks Call.Dateless := by
  refine asks_through ?_
  cases plan <;> exact asks_bind (asks_request rfl) fun _ => asks_done _

theorem Scope.upsert_dateless (scope : Scope) (name : String) (d : JobDefinition) (session : Session) :
    (session.jobs (scope.upsert name d)).Asks Call.Dateless := by
  unfold Scope.upsert Session.jobs
  rw [through_bind]
  exact asks_bind (scope.plan_dateless name session) fun plan => Scope.apply_dateless d plan session

theorem Scope.removeAll_dateless (scope : Scope) (name : String) (session : Session) :
    (session.jobs (scope.removeAll name)).Asks Call.Dateless := by
  refine asks_through (asks_bind (asks_request rfl) fun found => asks_bind ?_ fun _ =>
    asks_bind (asks_done _) fun _ => asks_done _)
  refine asks_each (fun r => asks_bind (asks_attempt ?_) fun _ => asks_done _) found
  exact asks_request rfl

/-! Chains -/

section Chains

variable (s : Settings) (a : Accepted)

theorem whenThere_heedless (name : String) (missing : Except Failure β)
    {f : WorkspaceInfo → Session → Remote β} (next : ∀ v session, (f v session).Heedless Call.undated) :
    (whenThere name (done missing) f).Heedless Call.undated := by
  refine heedless_bind (heedless_of_asks (asks_mono Call.dateless_of_lookedUp (workspaceIfAny_looks name)))
    fun found => ?_
  cases found with
  | none => exact heedless_done missing
  | some v =>
    exact heedless_bind (heedless_of_asks (asks_bind (asks_request rfl) fun _ => asks_done _)) (next v)

theorem existing_heedless (name : String) {f : WorkspaceInfo → Session → Remote β}
    (next : ∀ v session, (f v session).Heedless Call.undated) :
    (existingWorkspace name >>= fun v => Session.start v >>= f v).Heedless Call.undated := by
  rw [existing_eq_whenThere]
  exact whenThere_heedless name _ next

theorem Workload.prepare_dateless (work : Workload) : (work.prepare s a).Asks Call.Dateless := by
  refine asks_bind (asks_mono Call.dateless_of_lookedUp (ensureWorkspace_looks _ _)) fun v =>
    asks_bind (asks_bind (asks_request rfl) fun _ => asks_request rfl) fun _ =>
      Session.start_bind_at rfl ?_
  exact asks_bind (Session.ensureRepository_at ⟨v⟩ (fun _ => rfl) _ _ _) fun _ => asks_done _

theorem JobSpec.provision_dateless (spec : JobSpec) : (spec.provision s a).Asks Call.Dateless := by
  refine asks_bind (spec.workload.prepare_dateless s a) fun g => ?_
  exact asks_bind (Scope.upsert_dateless _ _ _ _) fun _ =>
    asks_bind (g.secure_at (fun _ => rfl) s a _ _) fun _ => asks_done _

theorem PipelineSpec.provision_dateless (spec : PipelineSpec) :
    (spec.provision s a).Asks Call.Dateless := by
  refine asks_bind (spec.workload.prepare_dateless s a) fun g => ?_
  exact asks_bind (g.session.pipelines_at (fun _ => rfl) _) fun _ =>
    asks_bind (g.secure_at (fun _ => rfl) s a _ _) fun _ => asks_done _

/-- The live workflow is looked at only to be compared. -/
theorem WorkflowSpec.guard_heedless (spec : WorkflowSpec) (session : Session) (inDevelopment : Bool)
    (plan : UpsertPlan) : (spec.guard session inDevelopment plan).Heedless Call.undated := by
  cases plan with
  | create => exact heedless_done _
  | update existing =>
    change (session.jobs (Objects.get existing.id) >>= _).Heedless _
    rw [Objects.get, session.jobs_eq_ask]
    refine heedless_request_bind (fun found => ?_) fun found => ?_
    · cases found with
      | none => rfl
      | some live => exact congrArg Program.ofExcept (spec.checkOverride_undated live _ _)
    · cases found <;> exact heedless_done _

theorem WorkflowSpec.provision_heedless (spec : WorkflowSpec) :
    (spec.provision s a).Heedless Call.undated := by
  unfold provision
  refine heedless_bind (heedless_done _) fun name =>
    heedless_bind (heedless_of_asks (spec.workload.prepare_dateless s a)) fun g =>
      heedless_bind (heedless_of_asks (Scope.plan_dateless _ _ _)) fun plan =>
        heedless_bind (spec.guard_heedless _ _ plan) fun _ => heedless_of_asks ?_
  exact asks_bind (Scope.apply_dateless _ plan _) fun _ =>
    asks_bind (g.secure_at (fun _ => rfl) s a _ _) fun _ => asks_done _

theorem OutputPortSpec.provision_heedless (spec : OutputPortSpec) :
    (spec.provision s a).Heedless Call.undated := by
  refine existing_heedless _ fun v session => heedless_of_asks ?_
  refine asks_bind (asks_request rfl) fun _ => asks_bind (asks_request rfl) fun _ =>
    asks_bind (asks_request rfl) fun there => ?_
  cases there with
  | false => exact asks_done _
  | true =>
    have granted := session.grantAll_at (Q := Call.Dateless) (fun _ => rfl) fun _ => rfl
    exact asks_bind (session.views_at (fun _ => rfl) _) fun _ => asks_bind (granted _ _ _)
      fun _ => asks_bind (granted _ _ _) fun _ => asks_done _

theorem Workload.remove_heedless {δ : Type} (work : Workload) (kind : ResourceKind) (name : String)
    {collection : Session → Program (objects δ) Nat → Remote Nat}
    (collected : ∀ session : Session,
      (collection session ((session.scope kind).removeAll name)).Asks Call.Dateless) :
    (work.remove a kind name collection).Heedless Call.undated := by
  refine whenThere_heedless _ (.ok (skippedRemoval work kind name)) fun v session => heedless_of_asks ?_
  refine asks_bind (collected session) fun removed => ?_
  cases a.removeData with
  | false => exact asks_done _
  | true => exact asks_bind (session.removeRepositories_at (fun _ => rfl) _) fun _ => asks_done _

theorem OutputPortSpec.unprovision_heedless (spec : OutputPortSpec) :
    spec.unprovision.Heedless Call.undated := by
  refine whenThere_heedless _ (.ok spec.skippedRemoval) fun v session => heedless_of_asks ?_
  exact asks_bind (session.views_at (fun _ => rfl) _) fun _ => asks_done _

theorem OutputPortSpec.setReaders_heedless (spec : OutputPortSpec) (refs : List String) :
    (spec.setReaders s a refs).Heedless Call.undated := by
  refine existing_heedless _ fun v session => heedless_of_asks ?_
  have served : ∀ privilege r, (spec.tryServe session privilege r).Asks Call.Dateless := by
    intro privilege r
    refine asks_bind (asks_attempt (asks_bind (session.resolve_at (fun _ => rfl) r) fun _ => ?_))
      fun outcome => ?_
    · exact asks_bind (asks_request rfl) fun _ => asks_done _
    · cases outcome <;> exact asks_done _
  have revoked : ∀ g, (spec.tryRevoke session g).Asks Call.Dateless := fun g =>
    asks_bind (asks_attempt (asks_request rfl)) fun _ => asks_done _
  exact asks_bind (asks_request rfl) fun current => asks_bind (asks_each (served _) _) fun services =>
    asks_bind (asks_each revoked _) fun revocations => asks_bind (asks_done _) fun _ => asks_done _

theorem WorkflowAddress.readBack_heedless (target : WorkflowAddress) :
    target.readBack.Heedless Call.undated := by
  refine existing_heedless _ fun v session => ?_
  refine heedless_bind (heedless_of_asks ?_) fun found => heedless_bind (heedless_done _) fun reference => ?_
  · exact asks_through (asks_request rfl)
  · rw [Objects.get, session.jobs_eq_ask]
    refine heedless_request_bind (fun found => ?_) fun found => ?_
    · cases found with
      | none => rfl
      | some live => exact congrArg pure (proposal_undated live)
    · cases found <;> exact heedless_done _

end Chains

theorem Accepted.execute_heedless (a : Accepted) (s : Settings) (direction : Direction) :
    (a.execute s direction).Heedless Call.undated := by
  unfold execute
  cases a.classified with
  | unsupported reason => exact heedless_done _
  | job spec =>
    cases direction with
    | provision => exact heedless_of_asks (spec.provision_dateless s a)
    | unprovision => exact spec.workload.remove_heedless a _ _ fun session => Scope.removeAll_dateless _ _ session
  | pipeline spec =>
    cases direction with
    | provision => exact heedless_of_asks (spec.provision_dateless s a)
    | unprovision =>
      exact spec.workload.remove_heedless a _ _ fun session => session.pipelines_at (fun _ => rfl) _
  | workflow spec =>
    cases direction with
    | provision => exact spec.provision_heedless s a
    | unprovision =>
      refine heedless_bind (heedless_done _) fun name => ?_
      exact spec.workload.remove_heedless a _ _ fun session => Scope.removeAll_dateless _ _ session
  | outputPort spec =>
    cases direction with
    | provision => exact spec.provision_heedless s a
    | unprovision => exact spec.unprovision_heedless

theorem Operation.heedless (o : Operation) (s : Settings) : (o.program s).Heedless Call.undated := by
  cases o with
  | work work =>
    cases work with
    | request r direction =>
      exact heedless_bind (heedless_done _) fun a => a.execute_heedless s direction
    | readBack r =>
      change (r.execute s).Heedless _
      unfold ReadBackRequest.execute
      split
      · exact heedless_bind r.target.readBack_heedless fun _ => heedless_done _
      · exact heedless_done _
  | access r =>
    refine heedless_bind (heedless_done _) fun a => ?_
    unfold Accepted.setReaders
    cases a.classified with
    | outputPort spec => exact spec.setReaders_heedless s a r.refs
    | _ => exact heedless_done _

/-! Whereabouts -/

theorem Call.about_of_lookedUp (c : Call) (looks : lookedUp? c = some w) : c.About w := by
  cases c with
  | createIfAbsent _ _ _ | findWorkspace _ => exact Option.some.inj looks
  | assignRole _ _ _ | openSession _ | inside _ _ => cases looks

theorem Call.about_of_concerns {v : WorkspaceInfo} (c : Call) (concerns : c.Concerns v) :
    c.About v.name := by
  cases c with
  | createIfAbsent _ _ _ | findWorkspace _ => exact concerns.elim
  | assignRole _ _ _ | openSession _ => trivial
  | inside x c => exact concerns

/-- What asks for nothing but the way to its workspace, and then for what is in it, asks about no other. -/
theorem poses_of_enters {program : Remote β} (enters : Enters (some w) program) {p : Platform}
    (named : p.NamedAt w) : program.Poses handler (Call.About w) p := by
  cases enters with
  | refused => exact fun _ member => nomatch member
  | looked looks next =>
    refine poses_bind (poses_of_asks (asks_mono Call.about_of_lookedUp looks) p) fun a q answered => ?_
    rcases next p q a answered with ⟨-, ends⟩ | ⟨v, ready, concerns⟩
    · exact poses_of_asks (asks_mono (fun _ => False.elim) ends) q
    · have own : v.name = w := name_of_hasReady named answered ready
      rw [← own]
      exact poses_of_asks (asks_mono Call.about_of_concerns concerns) q

/-- On platforms that agree on its workspace an operation comes to the same reply, asks for the same, and
leaves them to agree again. -/
theorem Operation.runs_abreast {o : Operation} {s : Settings} (target : o.workspace? s = some w)
    {p q : Platform} (alike : p.Alike w q) (named : p.NamedAt w) :
    ((o.program s).run handler p).1 = ((o.program s).run handler q).1 ∧
      (o.program s).asked handler p = (o.program s).asked handler q ∧
      Abreast w p q ((o.program s).run handler p).2 ((o.program s).run handler q).2 := by
  have enters := o.enters s
  rw [target] at enters
  exact run_heedless (answersAlike_abreast w p q) (o.heedless s) (poses_of_enters enters named)
    (abreast_of_alike alike)

end Provisioning
