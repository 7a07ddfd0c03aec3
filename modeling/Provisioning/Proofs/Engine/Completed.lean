import Provisioning.Proofs.Chain.Catalog
import Provisioning.Proofs.Chain.Installation
import Provisioning.Proofs.Engine.Outcomes

/-!
What a completed provisioning can be relied on for.  A record says completed only where the chain ran to
its end, so everything that the chain does to a workload or a view has been done by then, whatever was
on the platform before and whatever it rejects.
-/
namespace Provisioning

open Platform

namespace Engine

variable {e : Engine Platform} {s : EngineState Platform} {p : Platform} {token : JobToken} {r : Request}
  {rest : List Task} {a : Accepted}

theorem Meets.answered_provision (meets : e.Meets s p)
    (next : s.queue = ⟨token, .request r .provision⟩ :: rest)
    (accepted : r.accept e.settings.templates = .ok a)
    (completed : (e.status token (e.runNext s)).status = .completed) :
    ∃ c, (a.execute e.settings .provision).run Platform.handler p = (.answered c, (e.runNext s).world) ∧
      (e.status token (e.runNext s)).info = c.info := by
  obtain ⟨reply, run, tells⟩ := meets.runs_next next
  obtain ⟨c, rfl, info⟩ := tells.answered completed
  refine ⟨c, ?_, info⟩
  rw [run, ← Request.execute_of_accept accepted .provision]
  rfl

theorem Meets.completed_of_named (meets : e.Meets s p) {d : Direction}
    (next : s.queue = ⟨token, .request r d⟩ :: rest) {id : String}
    (named : namedResource? ((r.execute e.settings d).run Platform.handler p).1 = some id) :
    (e.status token (e.runNext s)).status = .completed := by
  obtain ⟨reply, run, tells⟩ := meets.runs_next next
  change (reply, _) = (r.execute e.settings d).run Platform.handler p at run
  rw [← run] at named
  rcases reply with c | f | m
  · exact tells.1
  · exact nomatch named
  · exact nomatch named

/-- Every view stands on a table, a catalog and a schema that are there, as long as none is seeded.  And
whatever the platform holds and whatever is rejected: where the provisioning of an output port is recorded
as completed, its view is shown as requested. -/
theorem backed_and_shown_of_completed : (∀ p : Platform, p.WithoutSeededViews → p.Backed) ∧
    ∀ (e : Engine Platform) (s : EngineState Platform) (p : Platform) (failures : List String)
      (token : JobToken) (r : Request) (rest : List Task) (a : Accepted) (spec : OutputPortSpec),
      Reachable p → e.Meets s (p.injecting failures) →
      s.queue = ⟨token, .request r .provision⟩ :: rest →
      r.accept e.settings.templates = .ok a → a.classified = .outputPort spec →
      (e.status token (e.runNext s)).status = .completed →
      spec.Shown e.settings a (p.injecting failures) (e.runNext s).world := by
  refine ⟨fun p reached => (backed_of_reached reached).2, ?_⟩
  intro e s p failures token r rest a spec reachable meets next accepted port completed
  obtain ⟨c, answered, -⟩ := meets.answered_provision next accepted completed
  unfold Accepted.execute at answered
  rw [port] at answered
  have ordered : p.Ordered := ordered_of_reachable reachable
  have named : p.Named := named_of_reachable reachable
  exact OutputPortSpec.shown_of_answered (p := p.injecting failures) ordered named answered

end Engine

namespace Platform

/-- A platform with the table that the sales view reads, and with grants on that view. -/
def tablePlatform : Platform := (Seed.table "w" "c.s.t").plant salesPlatform

theorem tablePlatform_reachable : Reachable tablePlatform := .seeded _ salesPlatform_reachable trivial

theorem tablePlatform_withoutSeededViews : tablePlatform.WithoutSeededViews :=
  .seeded _ (.seeded _ (.seeded _ (.seeded _ (.seeded _ (.seeded _ .empty id) id) id) id) id) id

theorem sales_names_its_view :
    namedResource? ((salesDescription.execute nightlySettings .provision).run handler tablePlatform).1 =
      some "c.s.v" := by
  rw [salesDescription, Request.execute, Request.accept_ofList]
  decide +kernel

end Platform

namespace Engine

theorem shown_completed_sales : tablePlatform.Backed ∧ ∃ a spec,
    salesDescription.accept nightlySettings.templates = .ok a ∧ a.classified = .outputPort spec ∧
    spec.Shown nightlySettings a tablePlatform
      (nightlyEngine.runNext (submittedState salesDescription .provision tablePlatform)).world := by
  obtain ⟨a, spec, accepted, port, -, -⟩ := salesRequest_accepted
  rw [salesRequest_described] at accepted
  have meets := submittedState_meets salesDescription .provision tablePlatform
  have next := submittedState_queue salesDescription .provision tablePlatform
  have shown := backed_and_shown_of_completed.2 _ _ _ [] _ _ _ a spec tablePlatform_reachable meets next accepted
    port (meets.completed_of_named next sales_names_its_view)
  exact ⟨backed_and_shown_of_completed.1 _ tablePlatform_withoutSeededViews, a, spec, accepted, port, shown⟩

end Engine
end Provisioning
