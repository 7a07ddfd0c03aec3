import Provisioning.Proofs.Chain.Upkeep
import Provisioning.Proofs.Platform.Names

/-!
The engine never gives a name a second bearer.  Whatever it is asked to do, and wherever it stops, no
job name, pipeline name or repository path is borne more than once that was not borne as often
before.  A chain writes an object only after it has looked for its name and found it on no other
object, and between the look and the write it makes no call that changes anything.
-/
namespace Provisioning

open Platform Program

variable {δ α β : Type}

namespace Shelf

variable (shelf : Shelf δ α) (w : String)

theorem noFuller_apply (spares : shelf.Spares) {p : Platform} {d : δ} {plan : UpsertPlan}
    (fits : shelf.Fits (shelf.nameOf d) (shelf.entries (p.data w)) plan) :
    p.NoFuller (((Scope.apply d plan).through (shelf.embedding w)).run Platform.handler p).2 := by
  intro ordered
  refine ⟨ordered_run _ ordered, ?_⟩
  rw [shelf.run_through]
  rcases shelf.run_apply w ordered fits with ⟨e, q, refused, grows⟩ | ⟨outcome, q, a, answered, wrote⟩
  · rw [refused]
    exact fun x => WorkspaceData.noFuller_of_extends (grows.data x)
  · rw [answered]
    exact spares ordered wrote

theorem respects_noFuller (spares : shelf.Spares) (name : String) : shelf.Respects name NoFuller where
  refl := noFuller_refl
  trans := noFuller_trans
  other := noFuller_run (by decide) (by decide)
  write w := by
    rintro d plan p rfl fits
    exact shelf.noFuller_apply w spares fits

end Shelf

section Chains

variable (s : Settings) (a : Accepted)

theorem Accepted.noFuller_provision : (a.execute s .provision).Keeps handler NoFuller := by
  unfold Accepted.execute
  cases a.classified with
  | job spec => exact spec.keeps_provision s a (Shelf.jobs.respects_noFuller Shelf.spares_jobs _)
  | pipeline spec =>
    exact spec.keeps_provision s a (Shelf.pipelines.respects_noFuller Shelf.spares_pipelines _)
  | workflow spec =>
    cases required : spec.requiredName with
    | error f =>
      change (spec.provision s a).Keeps handler NoFuller
      rw [WorkflowSpec.provision_of_unnamed s a required]
      exact keeps_done noFuller_refl _
    | ok name =>
      exact spec.keeps_provision s a required (Shelf.jobs.respects_noFuller Shelf.spares_jobs name)
  | outputPort spec =>
    exact noFuller_run (by decide) (by decide) (asks_of_straight (spec.provision_straight s a))
  | unsupported reason => exact keeps_done noFuller_refl _

theorem Operation.noFuller (o : Operation) : (o.program s).Keeps handler NoFuller := by
  cases o with
  | work work =>
    cases work with
    | request r direction =>
      refine keeps_bind noFuller_trans (keeps_done noFuller_refl _) fun a => ?_
      cases direction with
      | provision => exact a.noFuller_provision s
      | unprovision => exact noFuller_run (by decide) (by decide) (a.unprovision_asks s)
    | readBack r => exact noFuller_run (by decide) (by decide) (asks_of_straight (r.execute_straight s))
  | access r => exact noFuller_run (by decide) (by decide) (r.execute_asks s)

end Chains

namespace Platform

/-- Whatever is rejected on the way, a run gives no name and no path a second bearer; so where no job
and no pipeline was ever seeded, none has two. -/
theorem run_noFuller_and_names_le_one :
    (∀ p, Reachable p → ∀ (failures : List String) (s : Settings) (o : Operation) (w : String),
      (p.data w).NoFuller (((o.program s).run handler (p.injecting failures)).2.data w)) ∧
    (∀ p, ReachableBy (fun x => ¬ x.IsNamed) p → ∀ w name, (p.data w).jobsNamed name ≤ 1 ∧
      (p.data w).pipelinesNamed name ≤ 1 ∧ (p.data w).repositoriesAt name ≤ 1) := by
  constructor
  · intro p reachable failures s o w
    have ordered : p.Ordered := ordered_of_reachable reachable
    exact (o.noFuller s (p.injecting failures) ordered).2 w
  · intro p reachable
    have distinct : ∀ {d e : WorkspaceData}, d.NoFuller e →
        (∀ name, d.jobsNamed name ≤ 1 ∧ d.pipelinesNamed name ≤ 1 ∧ d.repositoriesAt name ≤ 1) →
        ∀ name, e.jobsNamed name ≤ 1 ∧ e.pipelinesNamed name ≤ 1 ∧ e.repositoriesAt name ≤ 1 := by
      intro d e notFuller before name
      have jobs := notFuller.jobs name
      have pipelines := notFuller.pipelines name
      have repositories := notFuller.repositories name
      have bounds := before name
      omega
    induction reachable with
    | empty =>
      intro w name
      exact ⟨Nat.zero_le _, Nat.zero_le _, Nat.zero_le _⟩
    | seeded x _ unnamed ih => exact fun w => distinct (noFuller_plant unnamed _ w) (ih w)
    | operated s o before ih =>
      exact fun w => distinct ((o.noFuller s _ (ordered_of_reachable before)).2 w) (ih w)

end Platform

def nightlySource : List Char := List.flatMap String.toList
  ["dataProduct:\n", " id: d\n", " name: n\n", " environment: e\n", " dataProductOwner: user:a_b\n",
    " devGroup: group:g\n", " components:\n", " - id: c\n", "   name: c\n", "   kind: workload\n",
    "   useCaseTemplateId: j\n", "   specific:\n", "    workspace: w\n", "    jobName: nightly\n",
    "    repoPath: /r\n", "    git:\n", "     gitRepoUrl: https://g/r.git\n", "     gitReference: main\n",
    "     gitReferenceType: BRANCH\n", "     gitPath: run\n", "    cluster:\n",
    "     clusterSparkVersion: s\n", "     nodeTypeId: n\n", "     numWorkers: 1\n",
    "componentIdToProvision: c"]

def nightlyRequest : Request := .ofDescriptor (String.ofList nightlySource)

def Request.acceptSource (source : List Char) (removeData : Bool) (t : Templates) :
    Except Failure Accepted :=
  match Descriptor.ofChars source with
  | .error f => .error f
  | .ok d =>
    match d.component? with
    | none => .error (Validation.undeclared d)
    | some c => Validation.acceptComponent d.product c removeData t

theorem Request.accept_ofList (source : List Char) (removeData : Bool) (t : Templates) :
    (Request.ofDescriptor (String.ofList source) removeData).accept t =
      acceptSource source removeData t := by
  simp only [accept, ofDescriptor, Descriptor.read, String.toList_ofList]
  rfl

/-- What is computed of a request to be accepted is had as a fact about what it is accepted as. -/
theorem Request.accepts_of_check {r : Request} {t : Templates} {check : Accepted → Bool}
    (checked : (r.accept t).toOption.any check = true) : ∃ a, r.accept t = .ok a ∧ check a = true := by
  cases accepted : r.accept t with
  | error f =>
    rw [accepted] at checked
    cases checked
  | ok a =>
    rw [accepted] at checked
    exact ⟨a, rfl, checked⟩

def nightlySettings : Settings :=
  { Settings.standard with templates := ⟨["j"], ["p"], ["f"], ["t"]⟩ }

namespace Platform

def nightlyPlatform : Platform :=
  (Seed.workspace "w" .succeeded).plant ((Seed.group "g").plant ((Seed.user "a@b").plant {}))

theorem nightlyPlatform_reachable : Reachable nightlyPlatform :=
  .seeded _ (.seeded _ (.seeded _ .empty trivial) trivial) trivial

def namedResource? : Reply Completion → Option String
  | .answered c => c.resourceId
  | _ => none

theorem nightly_names_its_job :
    namedResource? ((nightlyRequest.execute nightlySettings .provision).run handler nightlyPlatform).1 =
      some "3" := by
  rw [nightlyRequest, Request.execute, Request.accept_ofList]
  decide +kernel

/-- A platform on which two jobs run under the name of the nightly request. -/
def twiceNightly : Platform :=
  (Seed.job "w" ⟨"nightly", .null⟩).plant ((Seed.job "w" ⟨"nightly", .null⟩).plant nightlyPlatform)

theorem twiceNightly_reachable : Reachable twiceNightly :=
  .seeded _ (.seeded _ nightlyPlatform_reachable trivial) trivial

def nightlyProvisioning : Remote Completion :=
  Operation.program nightlySettings (.work (.request nightlyRequest .provision))

/-- Two jobs of the name stay two though a run makes the repository; a run that stops once it has made the
job, and one that comes to its end and is repeated, leave one. -/
theorem nightlyProvisioning_names_le_one :
    (twiceNightly.data "w").jobsNamed "nightly" = 2 ∧
    ((nightlyProvisioning.run handler (twiceNightly.injecting ["job.create"])).2.data
      "w").repositoriesAt "/r" = 1 ∧
    (twiceNightly.data "w").NoFuller
      ((nightlyProvisioning.run handler (twiceNightly.injecting ["job.create"])).2.data "w") ∧
    ((nightlyProvisioning.run handler (nightlyPlatform.injecting ["identity.assign_permission"])).2.data
      "w").jobsNamed "nightly" = 1 ∧
    (nightlyPlatform.data "w").NoFuller
      ((nightlyProvisioning.run handler (nightlyPlatform.injecting ["identity.assign_permission"])).2.data
        "w") ∧
    ((nightlyProvisioning.run handler nightlyPlatform).2.data "w").jobsNamed "nightly" = 1 ∧
    ((nightlyProvisioning.run handler (nightlyProvisioning.run handler nightlyPlatform).2).2.data
      "w").jobsNamed "nightly" ≤ 1 := by
  have twice : (twiceNightly.data "w").jobsNamed "nightly" = 2 := by decide
  have made : ((nightlyProvisioning.run handler (twiceNightly.injecting ["job.create"])).2.data
        "w").repositoriesAt "/r" = 1 ∧
      ((nightlyProvisioning.run handler (nightlyPlatform.injecting ["identity.assign_permission"])).2.data
        "w").jobsNamed "nightly" = 1 ∧
      ((nightlyProvisioning.run handler nightlyPlatform).2.data "w").jobsNamed "nightly" = 1 := by
    rw [nightlyProvisioning, Operation.program, Work.program, nightlyRequest, Request.execute,
      Request.accept_ofList]
    decide +kernel
  obtain ⟨repository, afterStop, once⟩ := made
  have unnamed : ReachableBy (fun x => ¬ x.IsNamed) nightlyPlatform :=
    .seeded _ (.seeded _ (.seeded _ .empty id) id) id
  -- the definition is rewritten, since the kernel would evaluate the runs to compare them
  rw [nightlyProvisioning] at repository afterStop once ⊢
  have again := run_noFuller_and_names_le_one.2 _
    (.operated nightlySettings (.work (.request nightlyRequest .provision))
      (.operated nightlySettings (.work (.request nightlyRequest .provision)) unnamed))
  have spared := fun p (reachable : Reachable p) failures =>
    run_noFuller_and_names_le_one.1 p reachable failures nightlySettings
      (.work (.request nightlyRequest .provision)) "w"
  exact ⟨twice, repository, spared twiceNightly twiceNightly_reachable ["job.create"], afterStop,
    spared nightlyPlatform nightlyPlatform_reachable ["identity.assign_permission"], once,
    (again "w" "nightly").1⟩

end Platform
end Provisioning
