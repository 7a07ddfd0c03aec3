import Provisioning.Proofs.Chain.ReadBack
import Provisioning.Proofs.Engine.Outcomes

/-!
What a read-back that an engine works off can come to: the platform is only read, the record says completed
exactly when there is a way to the one workflow of the name, and then it proposes what is there.
-/
namespace Provisioning

open Platform Program

theorem JobRecord.Tells.completed_iff {r : JobRecord} {reply : Reply Completion} (tells : r.Tells reply) :
    r.status = .completed ↔ ∃ c, reply = .answered c := by
  constructor
  · intro completed
    obtain ⟨c, answered, -⟩ := tells.answered completed
    exact ⟨c, answered⟩
  · rintro ⟨c, rfl⟩
    exact tells.1

namespace Engine

variable {e : Engine Platform} {s : EngineState Platform} {p : Platform} {token : JobToken}
  {r : ReadBackRequest} {rest : List Task}

/-- Whatever the platform holds and whatever is rejected: a read-back changes nothing but the call log.
It is recorded as completed exactly when its template is one for workflows, the workspace is there and ready,
one job in it bears the name, and no call on the way is rejected; then the settings of that job and the
fields that the platform has not assigned are proposed.  Without such a template nothing is asked, and
without exactly one job of the name no job is read. -/
theorem runNext_readBack_completed_iff (reachable : Reachable p) (failures : List String)
    (meets : e.Meets s (p.injecting failures)) (next : s.queue = ⟨token, .readBack r⟩ :: rest) :
    let met := p.injecting failures
    let calls := (r.execute e.settings).asked Platform.handler met
    let record := e.status token (e.runNext s)
    (e.runNext s).world = met.logged (calls.map Call.key) ∧
    (record.status = .completed ↔ r.templateId ∈ e.settings.templates.workflow ∧
      ∃ w id job, r.target.Readable met w id job) ∧
    (r.templateId ∈ e.settings.templates.workflow → ∀ w id job, r.target.Readable met w id job →
      ∃ members, record.updates = some (.object [("spec.mesh.specific.workflow", .object members)]) ∧
        ∀ key, Keyed.find? key members =
          if key = "settings" then some job.definition.settings
          else if key ∈ ["job_id", "created_time", "creator_user_name", "run_as_user_name"] then none
          else Keyed.find? key job.serverFields) ∧
    (r.templateId ∉ e.settings.templates.workflow → calls = []) ∧
    ((r.target.matching met).length ≠ 1 →
      ∀ workspace id, Call.inside workspace (.jobs (.get id)) ∉ calls) := by
  intro met calls record
  have ordered : p.Ordered := ordered_of_reachable reachable
  have named : p.Named := named_of_reachable reachable
  have poses := r.execute_poses (s := e.settings) (p := met) named
  obtain ⟨reply, run, tells⟩ := meets.runs_next next
  change (reply, _) = (r.execute e.settings).run Platform.handler met at run
  have answers : ∀ c q, (r.execute e.settings).run Platform.handler met = (.answered c, q) ↔ _ :=
    fun c q => ReadBackRequest.answered_execute_iff (p := met) named ordered
  refine ⟨?_, ?_, ?_, fun unlisted => ReadBackRequest.asked_of_unlisted unlisted, ?_⟩
  · rw [meets.world_runNext next]
    exact run_of_reads fun x asked => (poses x asked).reads
  · rw [tells.completed_iff]
    constructor
    · rintro ⟨c, rfl⟩
      obtain ⟨listed, w, id, job, readable, -⟩ := (answers _ _).mp run.symm
      exact ⟨listed, w, id, job, readable⟩
    · rintro ⟨listed, w, id, job, readable⟩
      have answered := (answers _ _).mpr ⟨listed, w, id, job, readable, rfl, rfl⟩
      exact ⟨_, congrArg Prod.fst (run.trans answered)⟩
  · intro listed w id job readable
    have answered := (answers _ _).mpr ⟨listed, w, id, job, readable, rfl, rfl⟩
    cases congrArg Prod.fst (run.trans answered)
    refine ⟨ownFields (jobResource (id, job)), ?_, find?_ownFields _⟩
    rw [tells.2.2.2, ← withoutVolatile_liveObject_eq]
    rfl
  · intro several workspace id asked
    exact several ((asked_of_poses poses _ asked).single workspace id rfl)

def readingState (r : ReadBackRequest) (p : Platform) : EngineState Platform :=
  nightlyEngine.after [.change fun _ => p, .submitReadBack r] { world := {}, now := .epoch }

theorem readingState_meets (r : ReadBackRequest) (p : Platform) :
    nightlyEngine.Meets (readingState r p) p where
  direct := rfl
  distinct := nightlyEngine_distinct
  reached := ⟨_, _, _, rfl⟩
  world := rfl

/-- The workflow is read back, and it is not where reading the job is rejected. -/
theorem etl_runNext_readBack_completed :
    let r : ReadBackRequest := ⟨"f", "Development", ⟨"w", "etl"⟩⟩
    let record (p : Platform) :=
      nightlyEngine.status (nightlyEngine.tokenOf 0) (nightlyEngine.runNext (readingState r p))
    (record etlPlatform).status = .completed ∧
    (∃ members, (record etlPlatform).updates =
        some (.object [("spec.mesh.specific.workflow", .object members)]) ∧
      Keyed.find? "settings" members =
        some (.object [("name", .text "etl"), ("tasks", .list [.null])]) ∧
      Keyed.find? "job_id" members = none) ∧
    (record (etlPlatform.injecting ["job.get"])).status ≠ .completed := by
  intro r record
  have listed : r.templateId ∈ nightlyEngine.settings.templates.workflow := by decide
  obtain ⟨-, completed, proposes, -⟩ := runNext_readBack_completed_iff etlPlatform_reachable []
    (readingState_meets r etlPlatform) rfl
  obtain ⟨-, stuck, -⟩ := runNext_readBack_completed_iff etlPlatform_reachable ["job.get"]
    (readingState_meets r (etlPlatform.injecting ["job.get"])) rfl
  have readable : ∃ w job, r.target.Readable etlPlatform w "2" job ∧
      job.definition.settings = .object [("name", .text "etl"), ("tasks", .list [.null])] :=
    ⟨_, _, ⟨⟨⟨rfl, rfl, rfl⟩, rfl⟩, rfl, rfl, rfl⟩, rfl⟩
  obtain ⟨w, job, readable, settings⟩ := readable
  refine ⟨completed.mpr ⟨listed, w, "2", job, readable⟩, ?_, ?_⟩
  · obtain ⟨members, updates, found⟩ := proposes listed w "2" job readable
    refine ⟨members, updates, ?_, found "job_id"⟩
    rw [found "settings", if_pos rfl, settings]
  · intro completed
    obtain ⟨-, v, id, other, readable⟩ := stuck.mp completed
    have alone : r.target.matching etlPlatform = [("2", _)] := rfl
    cases alone.symm.trans readable.alone
    exact absurd readable.read (by decide)

end Engine
end Provisioning
