import Provisioning.Proofs.Platform.Change

/-!
What calls leave alone.  A call changes only the collections that its effect is about, only in the
workspace that it is put to, and no call changes the directory, the tables, the clock or what is to
be rejected.
-/
namespace Provisioning

structure WorkspaceData.Confined (es : List Effect) (d e : WorkspaceData) : Prop where
  jobs : .writeJob ∉ es → .removeJob ∉ es → e.jobs = d.jobs
  pipelines : .writePipeline ∉ es → .removePipeline ∉ es → e.pipelines = d.pipelines
  views : .writeView ∉ es → .removeView ∉ es → e.views = d.views
  catalogs : .makeCatalog ∉ es → e.catalogs = d.catalogs
  schemas : .makeCatalog ∉ es → e.schemas = d.schemas
  tables : e.tables = d.tables
  grants : .grant ∉ es → .revoke ∉ es → .removeView ∉ es → e.grants = d.grants
  repositories : .makeRepository ∉ es → .removeRepository ∉ es → e.repositories = d.repositories

namespace WorkspaceData

variable {es : List Effect}

theorem confined_refl (d : WorkspaceData) : d.Confined es d :=
  ⟨fun _ _ => rfl, fun _ _ => rfl, fun _ _ => rfl, fun _ => rfl, fun _ => rfl, rfl,
    fun _ _ _ => rfl, fun _ _ => rfl⟩

theorem Confined.trans {d e f : WorkspaceData} (first : d.Confined es e) (second : e.Confined es f) :
    d.Confined es f where
  jobs w r := (second.jobs w r).trans (first.jobs w r)
  pipelines w r := (second.pipelines w r).trans (first.pipelines w r)
  views w r := (second.views w r).trans (first.views w r)
  catalogs m := (second.catalogs m).trans (first.catalogs m)
  schemas m := (second.schemas m).trans (first.schemas m)
  tables := second.tables.trans first.tables
  grants g r v := (second.grants g r v).trans (first.grants g r v)
  repositories m r := (second.repositories m r).trans (first.repositories m r)

theorem confined_of_extends {d e : WorkspaceData} (grows : d.Extends e) : d.Confined es e where
  jobs _ _ := grows.jobs
  pipelines _ _ := grows.pipelines
  views _ _ := grows.views
  catalogs _ := grows.catalogs
  schemas _ := grows.schemas
  tables := grows.tables
  grants _ _ _ := grows.grants
  repositories _ _ := grows.repositories

theorem confined_of_change {e : Effect} (among : e ∈ es) {d d' : WorkspaceData}
    (change : Change e d d') : d.Confined es d' := by
  have same : d.Confined es d := d.confined_refl
  cases change with
  | none => exact same
  | permission entry => exact { same with }
  | job | pipeline | view | catalog | schema | grant | repository =>
    constructor <;> intros <;> first | rfl | contradiction
  | noJob | noPipeline | noView | noGrant | noRepository =>
    constructor <;> intros <;> first | rfl | contradiction

end WorkspaceData

namespace Platform

open WorkspaceData

structure Confined (es : List Effect) (p q : Platform) : Prop where
  workspaces : .makeWorkspace ∉ es → q.workspaces = p.workspaces
  data : ∀ w, (p.data w).Confined es (q.data w)
  users : q.users = p.users
  groups : q.groups = p.groups
  newWorkspaceState : q.newWorkspaceState = p.newWorkspaceState
  failures : q.failures = p.failures
  clock : q.clock = p.clock

variable {es : List Effect}

theorem confined_refl (p : Platform) : p.Confined es p :=
  ⟨fun _ => rfl, fun w => (p.data w).confined_refl, rfl, rfl, rfl, rfl, rfl⟩

theorem Confined.trans {p q r : Platform} (first : p.Confined es q) (second : q.Confined es r) :
    p.Confined es r where
  workspaces m := (second.workspaces m).trans (first.workspaces m)
  data w := (first.data w).trans (second.data w)
  users := second.users.trans first.users
  groups := second.groups.trans first.groups
  newWorkspaceState := second.newWorkspaceState.trans first.newWorkspaceState
  failures := second.failures.trans first.failures
  clock := second.clock.trans first.clock

theorem confined_of_extends {p q : Platform} (grows : p.Extends q) : p.Confined es q where
  workspaces _ := grows.workspaces
  data w := WorkspaceData.confined_of_extends (grows.data w)
  users := grows.users
  groups := grows.groups
  newWorkspaceState := grows.newWorkspaceState
  failures := grows.failures
  clock := grows.clock

theorem confined_handler {c : Call} (within : c.Within es) (p : Platform) :
    p.Confined es (handler c p).2 := by
  have data := fun x => confined_of_change within (change_handler p x c)
  rcases handler_snd c p with noted | answered
  · exact { confined_of_extends (noted ▸ extends_record c.key p) with data }
  · have kept := kept_answer (p.record c.key) c
    rw [← answered] at kept
    exact {
      workspaces := fun none => by
        rw [answered]
        exact workspaces_answer _ fun same => none (same ▸ within)
      data := data
      users := (congrArg Platform.users kept :)
      groups := (congrArg Platform.groups kept :)
      newWorkspaceState := (congrArg Platform.newWorkspaceState kept :)
      failures := (congrArg Platform.failures kept :)
      clock := (congrArg Platform.clock kept :) }

theorem confined_run {α : Type} {program : Remote α} (asks : program.Asks (Call.Within es))
    (p : Platform) : p.Confined es (program.run handler p).2 :=
  Program.keeps_of_asks confined_refl (fun _ _ _ => Confined.trans)
    (fun _ => confined_handler) asks p

theorem confined_of_run {α : Type} {program : Remote α} {p q : Platform} {reply : Reply α}
    (asks : program.Asks (Call.Within es)) (run : program.run handler p = (reply, q)) :
    p.Confined es q := by
  have confined := confined_run asks p
  rw [run] at confined
  exact confined

end Platform
end Provisioning
