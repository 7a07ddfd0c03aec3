import Provisioning.Proofs.Chain.Effects
import Provisioning.Proofs.Upsert

/-!
What the provisioning of a workload sends.  Whoever answers and in whatever way: of the calls about objects
of its kind the first looks the name up that the definition itself bears, at most one more follows, and that
one sends the definition.  Where provisioning completes, it has been sent.
-/
namespace Provisioning

open Program

variable {σ δ α β : Type}

def Call.Aside : Call → Prop
  | .inside _ (.jobs _) | .inside _ (.pipelines _) | .inside _ (.views _) => False
  | _ => True

namespace Session

theorem ensureRepository_aside (s : Session) (url path provider : String) :
    (s.ensureRepository url path provider).Asks Call.Aside := by
  refine asks_bind (asks_request trivial) fun creation => ?_
  cases creation with
  | created repo => exact asks_done _
  | alreadyExists =>
    refine asks_bind (asks_request trivial) fun found => ?_
    cases found <;> exact asks_done _

theorem assignLevels_aside (s : Session) (object : SecuredObject) (a : Accepted)
    (levels : ObjectPermissions) : (s.assignLevels object a levels).Asks Call.Aside := by
  have assigns : ∀ p l, (s.assignLevel object p l).Asks Call.Aside := fun p l => by
    refine asks_bind (asks_bind (asks_request trivial) fun found => ?_) fun _ => asks_request trivial
    cases found <;> exact asks_done _
  exact asks_bind (assigns _ _) fun _ => assigns _ _

end Session

theorem ensureWorkspace_aside (s : WorkspaceSettings) (name : String) :
    (ensureWorkspace s name).Asks Call.Aside := by
  refine asks_bind ?_ fun w => asks_bind (asks_done _) fun _ => asks_done _
  unfold obtainWorkspace
  split
  · exact asks_request trivial
  · refine asks_bind (asks_request trivial) fun found => ?_
    cases found <;> exact asks_done _

theorem Workload.prepare_aside (w : Workload) (s : Settings) (a : Accepted) :
    (w.prepare s a).Asks Call.Aside := by
  refine asks_bind (ensureWorkspace_aside _ _) fun workspace => asks_bind ?_ fun _ =>
    asks_bind ?_ fun session => asks_bind (session.ensureRepository_aside _ _ _) fun _ => asks_done _
  · exact asks_bind (asks_request trivial) fun _ => asks_request trivial
  · exact asks_bind (asks_request trivial) fun _ => asks_done _

theorem Ground.secure_aside (g : Ground) (s : Settings) (a : Accepted) (object : SecuredObject)
    (levels : ObjectPermissions) : (g.secure s a object levels).Asks Call.Aside :=
  asks_bind (g.session.assignLevels_aside _ _ _) fun _ => g.session.assignLevels_aside _ _ _

/-- Calls by which an object of this name and definition is put in place, as far as they have come. -/
inductive Putting (name : String) (definition : δ) : List (ObjectCall δ) → Prop
  | nothing : Putting name definition []
  | lookup : Putting name definition [.listByName name]
  | creation : Putting name definition [.listByName name, .create definition]
  | replacement (id : String) : Putting name definition [.listByName name, .update id definition]

theorem Scope.putting_upsert (s : Scope) (name : String) (definition : δ) (h : Handler (objects δ) σ)
    (world : σ) : Putting name definition ((s.upsert name definition).asked h world) := by
  rcases s.asked_upsert_cases name definition h world with asked | asked | ⟨id, asked⟩
  · exact asked ▸ .lookup
  · exact asked ▸ .creation
  · exact asked ▸ .replacement id

/-- `pick` finds the calls about the objects of the shelf, and takes no call aside for one. -/
structure Shelf.Picks (shelf : Shelf δ α) (pick : Call → Option (ObjectCall δ)) : Prop where
  own : ∀ w c, pick ((shelf.embedding w).question c) = some c
  aside : ∀ c, c.Aside → pick c = none

def Call.job? : Call → Option (ObjectCall JobDefinition)
  | .inside _ (.jobs c) => some c
  | _ => none

def Call.pipeline? : Call → Option (ObjectCall PipelineDefinition)
  | .inside _ (.pipelines c) => some c
  | _ => none

theorem Call.Aside.eq_none {c : Call} (aside : c.Aside) : c.job? = none ∧ c.pipeline? = none := by
  cases c with
  | inside w c => cases c <;> first | exact ⟨rfl, rfl⟩ | cases aside
  | _ => exact ⟨rfl, rfl⟩

theorem Shelf.pipelines_picks : Shelf.pipelines.Picks Call.pipeline? :=
  ⟨fun _ _ => rfl, fun _ aside => aside.eq_none.2⟩

def Program.picked (pick : Call → Option (ObjectCall δ)) (h : Handler remote σ) (program : Remote β)
    (world : σ) : List (ObjectCall δ) := (program.asked h world).filterMap pick

section Picking

variable {shelf : Shelf δ α} {pick : Call → Option (ObjectCall δ)} (picks : shelf.Picks pick)
  (h : Handler remote σ)

include picks

theorem Shelf.Picks.nothing {program : Remote β} (aside : program.Asks Call.Aside) (world : σ) :
    program.picked pick h world = [] :=
  List.filterMap_eq_nil_iff.mpr fun c member => picks.aside c (forall_asked aside world c member)

theorem Shelf.Picks.through (w : String) (program : Program (objects δ) β) (world : σ) :
    (program.through (shelf.embedding w)).picked pick h world =
      program.asked (h.through (shelf.embedding w)) world := by
  have all : (pick ∘ (shelf.embedding w).question) = some := funext (picks.own w)
  rw [picked, asked_through, List.filterMap_map, all, List.filterMap_some]

section Installing

variable (w : Workload) (kind : ResourceKind) (definition : δ) (s : Settings) (a : Accepted)
  (object : String → SecuredObject) (levels : ObjectPermissions) (report : Ground → String → Completion)
  (world : σ)

theorem Workload.picked_install_of_answered {ground : Ground} {between : σ}
    (prepared : (w.prepare s a).run h world = (.answered ground, between)) :
    (w.install shelf kind definition s a object levels report).picked pick h world =
      ((ground.session.scope kind).upsert (shelf.nameOf definition) definition).asked
        (h.through (shelf.embedding ground.session.workspace.name)) between := by
  have before := picks.nothing h (w.prepare_aside s a) world
  have put := picks.through h ground.session.workspace.name
    ((ground.session.scope kind).upsert (shelf.nameOf definition) definition) between
  unfold picked at before put ⊢
  rw [install, asked_bind, List.filterMap_append, before, List.nil_append, prepared, askedOn, asked_bind,
    List.filterMap_append, put]
  refine (congrArg _ ?_).trans (List.append_nil _)
  rcases Program.run h _ between with ⟨outcome | f | m, last⟩
  · exact picks.nothing h (asks_bind (ground.secure_aside s a (object outcome.reference.id) levels)
      fun _ => asks_done (.ok (report ground outcome.reference.id))) last
  · rfl
  · rfl

theorem Workload.picked_install_of_stopped
    (stopped : ∀ ground between, (w.prepare s a).run h world ≠ (.answered ground, between)) :
    (w.install shelf kind definition s a object levels report).picked pick h world = [] := by
  have before := picks.nothing h (w.prepare_aside s a) world
  unfold picked at before ⊢
  rw [install, asked_bind, List.filterMap_append, before, List.nil_append]
  rcases prepared : (w.prepare s a).run h world with ⟨ground | f | m, between⟩
  · exact absurd prepared (stopped ground between)
  · rfl
  · rfl

theorem Workload.putting_install : Putting (shelf.nameOf definition) definition
    ((w.install shelf kind definition s a object levels report).picked pick h world) := by
  by_cases answers : ∃ ground between, (w.prepare s a).run h world = (.answered ground, between)
  · obtain ⟨ground, between, prepared⟩ := answers
    rw [w.picked_install_of_answered picks h kind definition s a object levels report world prepared]
    exact Scope.putting_upsert _ _ _ _ _
  · have stopped : ∀ ground between, (w.prepare s a).run h world ≠ (.answered ground, between) :=
      fun ground between prepared => answers ⟨ground, between, prepared⟩
    rw [w.picked_install_of_stopped picks h kind definition s a object levels report world stopped]
    exact .nothing

end Installing

end Picking

end Provisioning
