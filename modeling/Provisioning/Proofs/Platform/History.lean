import Provisioning.Engine
import Provisioning.Platform.Seeding
import Provisioning.Proofs.Keyed.Ascending
import Provisioning.Proofs.Platform.Change

/-!
The states that a platform can come to.  It begins empty; then it is seeded, and the engine works on
it, in any order, under any settings, one operation after another.  In every such state all keyed
lists are in ascending order.
-/
namespace Provisioning

inductive Seed where
  | user (email : String)
  | group (name : String)
  | failure (key : String)
  | newWorkspaceState (state : WorkspaceState)
  | workspace (name : String) (state : WorkspaceState)
  | workspaceState (name : String) (state : WorkspaceState)
  | job (workspace : String) (d : JobDefinition)
  | pipeline (workspace : String) (d : PipelineDefinition)
  | table (workspace fullName : String)
  | view (workspace : String) (d : ViewDefinition)
  | grant (workspace fullName : String) (g : Grant)
  | time (clock : Int)
  deriving Repr

namespace Seed

def plant : Seed → Platform → Platform
  | user email, p => p.addUser email
  | group name, p => p.addGroup name
  | failure key, p => p.failOn key
  | newWorkspaceState state, p => p.createIn state
  | workspace name state, p => (p.seedWorkspace name state).2
  | workspaceState name state, p => p.setWorkspaceState name state
  | job w d, p => (p.seedJob w d).2
  | pipeline w d, p => (p.seedPipeline w d).2
  | table w fullName, p => p.seedTable w fullName
  | view w d, p => p.seedView w d
  | grant w fullName g, p => p.seedGrant w fullName g
  | time clock, p => { p with clock }

def IsNamed : Seed → Prop
  | job _ _ | pipeline _ _ => True
  | _ => False

end Seed

inductive Operation where
  | work (w : Work)
  | access (r : AccessRequest)
  deriving DecidableEq, Repr

def Operation.program (s : Settings) : Operation → Remote Completion
  | work w => w.program s
  | access r => r.execute s

namespace Platform

/-- The same platform with other calls to be rejected. -/
def injecting (failures : List String) (p : Platform) : Platform := { p with failures }

/-- The states that come from the empty platform by allowed seeds and by operations of the engine. -/
inductive ReachableBy (allowed : Seed → Prop) : Platform → Prop where
  | empty : ReachableBy allowed {}
  | seeded {p} (x : Seed) : ReachableBy allowed p → allowed x → ReachableBy allowed (x.plant p)
  | operated {p} (s : Settings) (o : Operation) : ReachableBy allowed p →
      ReachableBy allowed ((o.program s).run handler p).2

abbrev Reachable : Platform → Prop := ReachableBy fun _ => True

theorem invariant_run {α : Type} {P : Platform → Prop} (call : ∀ c p, P p → P (handler c p).2)
    (program : Remote α) (p : Platform) (start : P p) : P (program.run handler p).2 :=
  Program.keeps_of_asks (R := fun p q => P p → P q) (fun _ => id)
    (fun _ _ _ first second => second ∘ first)
    (fun c _ p => call c p) program.asks_anything p start

theorem invariant_of_run {α : Type} {P : Platform → Prop} (call : ∀ c p, P p → P (handler c p).2)
    {program : Remote α} {p q : Platform} {reply : Reply α} (run : program.run handler p = (reply, q))
    (start : P p) : P q := by
  have still := invariant_run call program p start
  rw [run] at still
  exact still

theorem reachable_invariant {allowed : Seed → Prop} {P : Platform → Prop} (empty : P {})
    (seed : ∀ x p, allowed x → P p → P (x.plant p)) (call : ∀ c p, P p → P (handler c p).2)
    {p : Platform} (reachable : ReachableBy allowed p) : P p := by
  induction reachable with
  | empty => exact empty
  | seeded x _ isAllowed ih => exact seed x _ isAllowed ih
  | operated s o _ ih => exact invariant_run call (o.program s) _ ih

end Platform

structure WorkspaceData.Ordered (d : WorkspaceData) : Prop where
  jobs : d.jobs.Ascending
  pipelines : d.pipelines.Ascending
  views : d.views.Ascending
  repositories : d.repositories.Ascending

theorem WorkspaceData.ordered_of_change {e : Effect} {d d' : WorkspaceData} (change : Change e d d')
    (ordered : d.Ordered) : d'.Ordered := by
  cases change with
  | none | permission | catalog | schema | grant | noGrant => exact { ordered with }
  | job id job => exact { ordered with jobs := Keyed.ascending_insert _ _ ordered.jobs }
  | noJob id => exact { ordered with jobs := Keyed.ascending_erase _ ordered.jobs }
  | pipeline id d => exact { ordered with pipelines := Keyed.ascending_insert _ _ ordered.pipelines }
  | noPipeline id => exact { ordered with pipelines := Keyed.ascending_erase _ ordered.pipelines }
  | view id d => exact { ordered with views := Keyed.ascending_insert _ _ ordered.views }
  | noView id => exact { ordered with views := Keyed.ascending_erase _ ordered.views }
  | repository id repo free =>
    exact { ordered with repositories := Keyed.ascending_insert _ _ ordered.repositories }
  | noRepository id =>
    exact { ordered with repositories := Keyed.ascending_erase _ ordered.repositories }

namespace Platform

def Ordered (p : Platform) : Prop := ∀ w, (p.data w).Ordered

theorem ordered_modifyData {p : Platform} (ordered : p.Ordered) {w : String}
    {f : WorkspaceData → WorkspaceData} (change : (f (p.data w)).Ordered) :
    (p.modifyData w f).Ordered := by
  intro x
  by_cases same : x = w
  · subst same
    rw [data_modifyData_same]
    exact change
  · rw [data_modifyData_other p f same]
    exact ordered x

theorem ordered_handler (c : Call) (p : Platform) (ordered : p.Ordered) :
    (handler c p).2.Ordered := fun x =>
  WorkspaceData.ordered_of_change (change_handler p x c) (ordered x)

theorem ordered_run {α : Type} (program : Remote α) {p : Platform} (ordered : p.Ordered) :
    (program.run handler p).2.Ordered := invariant_run ordered_handler program p ordered

theorem ordered_of_run {α : Type} {program : Remote α} {p q : Platform} {reply : Reply α}
    (run : program.run handler p = (reply, q)) (ordered : p.Ordered) : q.Ordered :=
  invariant_of_run ordered_handler run ordered

theorem ordered_of_extends {p q : Platform} (ordered : p.Ordered) (grows : p.Extends q) :
    q.Ordered := by
  intro w
  have before := ordered w
  have same := grows.data w
  exact ⟨same.jobs ▸ before.jobs, same.pipelines ▸ before.pipelines, same.views ▸ before.views,
    same.repositories ▸ before.repositories⟩

theorem ordered_plant (x : Seed) (p : Platform) (ordered : p.Ordered) : (x.plant p).Ordered := by
  cases x with
  | job w d =>
    simp only [Seed.plant, seedJob]
    refine ordered_modifyData (p := p.spendId) ordered ?_
    exact { ordered w with jobs := Keyed.ascending_insert _ _ (ordered w).jobs }
  | pipeline w d =>
    simp only [Seed.plant, seedPipeline]
    refine ordered_modifyData (p := p.spendId) ordered ?_
    exact { ordered w with pipelines := Keyed.ascending_insert _ _ (ordered w).pipelines }
  | view w d =>
    simp only [Seed.plant, seedView]
    refine ordered_modifyData ordered ?_
    exact { ordered w with views := Keyed.ascending_insert _ _ (ordered w).views }
  | table w fullName =>
    simp only [Seed.plant, seedTable]
    exact ordered_modifyData ordered { ordered w with }
  | grant w fullName g =>
    simp only [Seed.plant, seedGrant]
    exact ordered_modifyData ordered { ordered w with }
  | workspaceState name state =>
    simp only [Seed.plant, setWorkspaceState]
    split <;> exact ordered
  | _ => exact ordered

theorem ordered_of_reachable {allowed : Seed → Prop} {p : Platform}
    (reachable : ReachableBy allowed p) : p.Ordered :=
  reachable_invariant
    (fun _ => ⟨Keyed.ascending_nil, Keyed.ascending_nil, Keyed.ascending_nil, Keyed.ascending_nil⟩)
    (fun x p _ => ordered_plant x p) ordered_handler reachable

end Platform
end Provisioning
