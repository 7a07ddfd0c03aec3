import Provisioning.Proofs.Chain.Independence
import Provisioning.Proofs.Engine.Outcomes

/-!
Removals that wait one behind the other.  When they are about different objects it does not matter
which of them comes first: each job ends as it would have ended, and the platform is left the same.
-/
namespace Provisioning

open Platform

namespace Engine

variable {e : Engine Platform} {s : EngineState Platform} {p : Platform}

namespace Meets

theorem step (meets : e.Meets s p) (event : Event Platform) :
    e.Meets (e.step event s) (e.step event s).world := by
  obtain ⟨start, now, events, reached⟩ := meets.reached
  refine ⟨meets.direct, meets.distinct, ⟨start, now, events ++ [event], ?_⟩, rfl⟩
  rw [after, List.foldl_append, reached]
  rfl

/-- Two tasks that wait are done one after the other, each on the platform that it finds. -/
theorem runs_two (meets : e.Meets s p) {t u : Task} {rest : List Task} (next : s.queue = t :: u :: rest) :
    let first := (t.work.program e.settings).run Platform.handler p
    let second := (u.work.program e.settings).run Platform.handler first.2
    let last := e.runNext (e.runNext s)
    (e.status t.token last).Tells first.1 ∧ (e.status u.token last).Tells second.1 ∧
      last.world = second.2 := by
  intro first second last
  have world : (e.runNext s).world = first.2 := meets.world_runNext next
  have queue : (e.runNext s).queue = u :: rest := by
    simp only [runNext, next, complete]
  have between : e.Meets (e.runNext s) first.2 := world ▸ meets.step .runNext
  obtain ⟨reply, run, tells⟩ := between.runs_next queue
  refine ⟨?_, ?_, between.world_runNext queue⟩
  · have done : e.perform t.token (.work t.work) s ∈ e.executions .runNext s := by
      simp only [executions, next, List.mem_singleton]
    have told := meets.tells_after .runNext done [.runNext]
    have whole : first = ((e.perform t.token (.work t.work) s).reply, (e.runNext s).world) :=
      meets.run_execution .runNext done
    rw [whole]
    exact told
  · rw [show second.1 = reply from congrArg Prod.fst run.symm]
    exact tells

end Meets

/-- Two valid removals about different objects, on whatever platform and whatever is rejected, with or
without the data and also where both take the repositories at one path: in either order each of the
two jobs ends alike, and the platform is left the same but for the order of the calls. -/
theorem removals_commute {p : Platform} (reachable : Reachable p) (failures : List String)
    {s x : EngineState Platform} (meets : e.Meets s (p.injecting failures))
    (also : e.Meets x (p.injecting failures)) {r q : Request}
    (valid : (e.validate r).valid = true) (valid' : (e.validate q).valid = true)
    (apart : r.main? e.settings.templates ≠ q.main? e.settings.templates)
    {t u t' u' : JobToken} {rest rest' : List Task}
    (next : s.queue = ⟨t, .request r .unprovision⟩ :: ⟨u, .request q .unprovision⟩ :: rest)
    (next' : x.queue = ⟨u', .request q .unprovision⟩ :: ⟨t', .request r .unprovision⟩ :: rest') :
    let last := e.runNext (e.runNext s)
    let other := e.runNext (e.runNext x)
    (e.status t last).Agrees (e.status t' other) ∧ (e.status u last).Agrees (e.status u' other) ∧
      last.world.SameButOrder other.world := by
  intro last other
  have ordered : p.Ordered := ordered_of_reachable reachable
  have named : p.Named := named_of_reachable reachable
  have numbered : p.Numbered := numbered_of_reachable reachable
  have runs := meets.runs_two next
  have otherRuns := also.runs_two next'
  simp only [Work.program] at runs otherRuns
  obtain ⟨told, told', world⟩ := runs
  obtain ⟨otherTold', otherTold, otherWorld⟩ := otherRuns
  obtain ⟨sameFirst, sameSecond, same⟩ := removals_in_either_order (p := p.injecting failures) ordered named
    numbered valid valid' apart
  rw [sameFirst] at otherTold
  rw [sameSecond] at told'
  refine ⟨JobRecord.agrees_of_tells told otherTold, JobRecord.agrees_of_tells told' otherTold', ?_⟩
  rw [world, otherWorld]
  exact same

def withData (r : Request) : Request := .ofDescriptor r.descriptor true

def removingBoth (r q : Request) (p : Platform) : EngineState Platform :=
  nightlyEngine.after [.change fun _ => p, .submit r .unprovision, .submit q .unprovision]
    { world := {}, now := .epoch }

theorem removingBoth_meets (r q : Request) (p : Platform) :
    nightlyEngine.Meets (removingBoth r q p) p where
  direct := rfl
  distinct := nightlyEngine_distinct
  reached := ⟨_, _, _, rfl⟩
  world := rfl

/-- A platform with the nightly job, its repository, and a job under the name of the workflow. -/
def sharedRepository : Platform :=
  (Seed.job "w" ⟨"etl", .null⟩).plant
    ((nightlyRequest.execute nightlySettings .provision).run Platform.handler nightlyPlatform).2

theorem sharedRepository_reachable : Reachable sharedRepository :=
  .seeded _ (.operated nightlySettings (.work (.request nightlyRequest .provision))
    (.seeded _ (.seeded _ (.seeded _ .empty trivial) trivial) trivial)) trivial

theorem nightly_etl_removals_commute :
    let r := withData nightlyRequest
    let q := withData etlRequest
    let p := sharedRepository.injecting ["repository.delete"]
    let last := nightlyEngine.runNext (nightlyEngine.runNext (removingBoth r q p))
    let other := nightlyEngine.runNext (nightlyEngine.runNext (removingBoth q r p))
    let token := nightlyEngine.tokenOf
    (nightlyEngine.validate r).valid = true ∧ (nightlyEngine.validate q).valid = true ∧
    r.main? nightlySettings.templates = some ⟨"w", .jobs, "nightly"⟩ ∧
    q.main? nightlySettings.templates = some ⟨"w", .jobs, "etl"⟩ ∧
    (nightlyEngine.status (token 0) last).Agrees (nightlyEngine.status (token 1) other) ∧
    (nightlyEngine.status (token 1) last).Agrees (nightlyEngine.status (token 0) other) ∧
    last.world.SameButOrder other.world := by
  intro r q p last other token
  have main : r.main? nightlySettings.templates = some ⟨"w", .jobs, "nightly"⟩ := by
    change Request.main? (.ofDescriptor (String.ofList _) true) _ = _
    rw [Request.main?, Request.accept_ofList]
    decide +kernel
  have main' : q.main? nightlySettings.templates = some ⟨"w", .jobs, "etl"⟩ := by
    change Request.main? (.ofDescriptor (String.ofList _) true) _ = _
    rw [Request.main?, Request.accept_ofList]
    decide +kernel
  have valid : (nightlyEngine.validate r).valid = true := Request.valid_of_main main
  have valid' : (nightlyEngine.validate q).valid = true := Request.valid_of_main main'
  have apart : r.main? nightlyEngine.settings.templates ≠ q.main? nightlyEngine.settings.templates := by
    rw [nightlyEngine_settings, main, main']
    decide
  exact ⟨valid, valid', main, main', removals_commute sharedRepository_reachable ["repository.delete"]
    (removingBoth_meets r q p) (removingBoth_meets q r p) valid valid' apart rfl rfl⟩

end Engine
end Provisioning
