import Provisioning.Proofs.Program.Asked
import Provisioning.Proofs.Program.Attempts
import Provisioning.Remote.Scripted
import Provisioning.Upsert

/-!
What removing a name asks of a collection, whoever answers and in whatever way.  The lookup comes
first; every object that it finds is then deleted once, whatever has become of those before it.  All
that could not be deleted is told together, and otherwise the deleted ones are counted.
-/
namespace Provisioning

open Program

variable {δ σ : Type} {h : Handler (objects δ) σ}

namespace Objects

variable (h)

/-- What the deletion of each object is answered, in the world that the deletions before it leave. -/
def deletions : List ResourceRef → σ → List (Reply Deletion)
  | [], _ => []
  | r :: rest, world =>
    (h (.delete r.id) world).1 :: deletions rest (h (.delete r.id) world).2

theorem length_deletions (found : List ResourceRef) (world : σ) :
    (deletions h found world).length = found.length := by
  induction found generalizing world with
  | nil => rfl
  | cons r rest ih => exact congrArg (· + 1) (ih _)

def afterDeletions (found : List ResourceRef) (world : σ) : σ :=
  found.foldl (fun world r => (h (.delete r.id) world).2) world

end Objects

def Reply.Comes : Reply α → Prop
  | aborted _ => False
  | _ => True

open Objects

namespace Scope

variable (s : Scope) (name : String)

/-- What is told of a deletion: nothing, or its problems, each with the object before it. -/
def complaints : ResourceRef × Reply Deletion → List Problem
  | (r, .refused f) => f.problems.map fun p =>
    ⟨s!"Failed to delete {s.kind.name} '{r.name}' ({r.id}) in {s.place}" ++ ": " ++ p.description, p.cause⟩
  | _ => []

def outcome : ResourceRef × Reply Deletion → Except Failure Deletion
  | (_, .answered d) => .ok d
  | (r, .refused f) => .error (f.inContext (s.deletionContext r))
  | (_, .aborted m) => .error (.single m)

theorem deletionContext_eq (r : ResourceRef) : s.deletionContext r =
    s!"Failed to delete {s.kind.name} '{r.name}' ({r.id}) in {s.place}" := rfl

theorem told_outcome {x : ResourceRef × Reply Deletion} (comes : x.2.Comes) :
    Failure.told (s.outcome x) = s.complaints x := by
  obtain ⟨r, d | f | m⟩ := x
  · rfl
  · simp only [outcome, complaints, Failure.told, Failure.problems_inContext]
    rw [← deletionContext_eq]
    rfl
  · exact comes.elim

section Deleting

variable {world : σ} {r : ResourceRef}

theorem asked_removeOne (h : Handler (objects δ) σ) (r : ResourceRef) (world : σ) :
    (s.removeOne r).asked h world = [.delete r.id] := by
  rw [removeOne, asked_bind_pure, asked_attempt]
  exact asked_request h _ world

theorem run_removeOne (comes : (h (.delete r.id) world).1.Comes) : (s.removeOne r).run h world =
    (.answered (s.outcome (r, (h (.delete r.id) world).1)), (h (.delete r.id) world).2) := by
  have deleted : (Objects.delete r.id : Program (objects δ) Deletion).run h world =
      h (.delete r.id) world := run_request h _ world
  rw [removeOne, run_bind_pure, run_attempt, deleted]
  revert comes
  rcases h (.delete r.id) world with ⟨d | f | m, after⟩
  · exact fun _ => rfl
  · exact fun _ => rfl
  · exact fun comes => comes.elim

theorem run_removeOne_of_aborted {m : String} {after : σ}
    (aborted : h (.delete r.id) world = (.aborted m, after)) :
    (s.removeOne r).run h world = (.aborted m, after) := by
  have deleted : (Objects.delete r.id : Program (objects δ) Deletion).run h world =
      (.aborted m, after) := (run_request h _ world).trans aborted
  rw [removeOne, run_bind_pure, run_attempt, deleted]
  rfl

/-- Every object is tried, and each has its own outcome. -/
theorem removals_of_comes {found : List ResourceRef} {world : σ}
    (come : ∀ reply ∈ deletions h found world, reply.Comes) :
    (each s.removeOne found).asked h world = found.map (.delete ·.id) ∧
      (each s.removeOne found).run h world =
        (.answered ((found.zip (deletions h found world)).map s.outcome),
          afterDeletions h found world) := by
  induction found generalizing world with
  | nil => exact ⟨rfl, rfl⟩
  | cons r rest ih =>
    obtain ⟨here, later⟩ := List.forall_mem_cons.mp come
    obtain ⟨asked, run⟩ := ih later
    have first := s.run_removeOne here
    constructor
    · rw [each, asked_bind_of_answered first, asked_removeOne, asked_bind_pure, asked]
      rfl
    · rw [each, run_bind_of_answered first, run_bind_of_answered run]
      rfl

theorem removals_of_aborted {before : List ResourceRef} (rest : List ResourceRef) {world after : σ}
    {m : String} (come : ∀ reply ∈ deletions h before world, reply.Comes)
    (aborted : h (.delete r.id) (afterDeletions h before world) = (.aborted m, after)) :
    (each s.removeOne (before ++ r :: rest)).asked h world = (before ++ [r]).map (.delete ·.id) ∧
      (each s.removeOne (before ++ r :: rest)).run h world = (.aborted m, after) := by
  induction before generalizing world with
  | nil =>
    have first : (s.removeOne r).run h world = (.aborted m, after) := s.run_removeOne_of_aborted aborted
    constructor
    · rw [List.nil_append, each, asked_bind, first, asked_removeOne]
      rfl
    · rw [List.nil_append, each, run_bind, first]
      rfl
  | cons x before ih =>
    obtain ⟨here, later⟩ := List.forall_mem_cons.mp come
    obtain ⟨asked, run⟩ := ih later aborted
    have first := s.run_removeOne here
    constructor
    · rw [List.cons_append, each, asked_bind_of_answered first, asked_removeOne, asked_bind_pure, asked]
      rfl
    · rw [List.cons_append, each, run_bind_of_answered first, run_bind, run]
      rfl

end Deleting

def clear (found : List ResourceRef) : Program (objects δ) Nat :=
  each s.removeOne found >>= fun results =>
    Program.ofExcept (accumulate results) >>= fun deletions => pure (deletions.count .deleted)

theorem removeAll_eq_clear : s.removeAll name =
    (Objects.listByName name >>= s.clear : Program (objects δ) Nat) := rfl

variable {name} {world after : σ}

theorem asked_removeAll : (s.removeAll name).asked h world =
    .listByName name :: askedOn h s.clear (h (.listByName name) world) := by
  rw [removeAll_eq_clear, asked_bind, Objects.listByName, asked_request, run_request]
  rfl

theorem run_removeAll : (s.removeAll name).run h world =
    resume h s.clear (h (.listByName name) world) := by
  rw [removeAll_eq_clear, run_bind, Objects.listByName, run_request]

theorem told_outcomes {found : List ResourceRef} {replies : List (Reply Deletion)}
    (come : ∀ reply ∈ replies, reply.Comes) :
    ((found.zip replies).map s.outcome).flatMap Failure.told = (found.zip replies).flatMap s.complaints := by
  rw [List.flatMap_map, List.flatMap_def, List.flatMap_def]
  exact congrArg List.flatten
    (List.map_congr_left fun x member => s.told_outcome (come x.2 (List.of_mem_zip member).2))

theorem outcomes_of_answered {found : List ResourceRef} {ds : List Deletion}
    (same : found.length = ds.length) :
    ((found.zip (ds.map Reply.answered)).map s.outcome).filterMap Except.toOption = ds := by
  induction found generalizing ds with
  | nil => exact (List.length_eq_zero_iff.mp same.symm).symm
  | cons r rest ih =>
    cases ds with
    | nil => cases same
    | cons d ds => exact congrArg (d :: ·) (ih (Nat.succ.inj same))

theorem complaints_of_answered {found : List ResourceRef} {ds : List Deletion} :
    (found.zip (ds.map Reply.answered)).flatMap s.complaints = [] := by
  refine List.flatMap_eq_nil_iff.mpr fun x member => ?_
  obtain ⟨d, -, answered⟩ := List.mem_map.mp (List.of_mem_zip member).2
  obtain ⟨r, reply⟩ := x
  cases answered
  rfl

theorem asked_clear {found : List ResourceRef} (come : ∀ reply ∈ deletions h found world, reply.Comes) :
    (s.clear found).asked h world = found.map (.delete ·.id) := by
  obtain ⟨asked, run⟩ := s.removals_of_comes come
  rw [clear, asked_bind_of_answered run, asked, asked_bind_pure]
  exact List.append_nil _

theorem run_clear {found : List ResourceRef} (come : ∀ reply ∈ deletions h found world, reply.Comes) :
    (s.clear found).run h world =
      (match Failure.ofProblems? ((found.zip (deletions h found world)).flatMap s.complaints) with
        | some f => .refused f
        | none => .answered ((((found.zip (deletions h found world)).map s.outcome).filterMap
            Except.toOption).count .deleted), afterDeletions h found world) := by
  obtain ⟨-, run⟩ := s.removals_of_comes come
  rw [clear, run_bind_of_answered run, ← s.told_outcomes come]
  exact run_accumulate h _ (fun ds : List Deletion => ds.count .deleted) _

variable (name)

/-- All that a run can come to: what is asked, in order, and what that leads to. -/
structure Removes (h : Handler (objects δ) σ) (world : σ) : Prop where
  refused : ∀ f after, h (.listByName name) world = (.refused f, after) →
    (s.removeAll name).asked h world = [.listByName name] ∧
    (s.removeAll name).run h world = (.refused f, after)
  aborted : ∀ m after, h (.listByName name) world = (.aborted m, after) →
    (s.removeAll name).asked h world = [.listByName name] ∧
    (s.removeAll name).run h world = (.aborted m, after)
  /-- One deletion for every match, however the others are answered. -/
  tried : ∀ found after, h (.listByName name) world = (.answered found, after) →
    (∀ reply ∈ deletions h found after, reply.Comes) →
    (s.removeAll name).asked h world = .listByName name :: found.map (.delete ·.id) ∧
    ((s.removeAll name).run h world).2 = afterDeletions h found after
  counted : ∀ found after (ds : List Deletion), h (.listByName name) world = (.answered found, after) →
    deletions h found after = ds.map .answered →
    ((s.removeAll name).run h world).1 = .answered (ds.count .deleted)
  reported : ∀ found after, h (.listByName name) world = (.answered found, after) →
    (∀ reply ∈ deletions h found after, reply.Comes) →
    (∃ f, .refused f ∈ deletions h found after) →
    ∃ f, ((s.removeAll name).run h world).1 = .refused f ∧
      f.problems = (found.zip (deletions h found after)).flatMap s.complaints
  brokenOff : ∀ before r rest after m last,
    h (.listByName name) world = (.answered (before ++ r :: rest), after) →
    (∀ reply ∈ deletions h before after, reply.Comes) →
    h (.delete r.id) (afterDeletions h before after) = (.aborted m, last) →
    (s.removeAll name).asked h world = .listByName name :: (before ++ [r]).map (.delete ·.id) ∧
    (s.removeAll name).run h world = (.aborted m, last)

variable {found : List ResourceRef}

theorem removal_tries (answered : h (.listByName name) world = (.answered found, after))
    (come : ∀ reply ∈ deletions h found after, reply.Comes) :
    (s.removeAll name).asked h world = .listByName name :: found.map (.delete ·.id) ∧
      ((s.removeAll name).run h world).2 = afterDeletions h found after := by
  constructor
  · rw [asked_removeAll, answered]
    exact congrArg (_ :: ·) (s.asked_clear come)
  · rw [run_removeAll, answered]
    exact congrArg Prod.snd (s.run_clear come)

theorem removal_counts {ds : List Deletion}
    (answered : h (.listByName name) world = (.answered found, after))
    (all : deletions h found after = ds.map .answered) :
    ((s.removeAll name).run h world).1 = .answered (ds.count .deleted) := by
  have come : ∀ reply ∈ deletions h found after, reply.Comes := by
    rw [all]
    exact List.forall_mem_map.mpr fun _ _ => trivial
  have same : found.length = ds.length := by
    rw [← length_deletions h found after, all, List.length_map]
  rw [run_removeAll, answered]
  refine (congrArg Prod.fst (s.run_clear come)).trans ?_
  rw [all, s.complaints_of_answered, s.outcomes_of_answered same]
  rfl

theorem complaints_of_refused {f : Failure} {replies : List (Reply Deletion)}
    (same : replies.length = found.length) (failing : .refused f ∈ replies) :
    (found.zip replies).flatMap s.complaints ≠ [] := by
  obtain ⟨i, within, here⟩ := List.getElem_of_mem failing
  have member : (found[i], .refused f) ∈ found.zip replies := by
    rw [← here, ← List.getElem_zip (h := by simp [same, same ▸ within])]
    exact List.getElem_mem _
  exact fun nothing => absurd (List.flatMap_eq_nil_iff.mp nothing _ member) (by simp [complaints, Failure.problems])

theorem removal_reports (answered : h (.listByName name) world = (.answered found, after))
    (come : ∀ reply ∈ deletions h found after, reply.Comes)
    (failing : ∃ f, .refused f ∈ deletions h found after) :
    ∃ f, ((s.removeAll name).run h world).1 = .refused f ∧
      f.problems = (found.zip (deletions h found after)).flatMap s.complaints := by
  rw [run_removeAll, answered]
  have cleared := congrArg Prod.fst (s.run_clear come)
  rcases collected : Failure.ofProblems? ((found.zip (deletions h found after)).flatMap s.complaints)
    with _ | f
  · obtain ⟨f, refused⟩ := failing
    exact absurd (Failure.eq_nil_of_ofProblems? collected)
      (s.complaints_of_refused (length_deletions h found after) refused)
  · rw [collected] at cleared
    exact ⟨f, cleared, Failure.problems_of_ofProblems? collected⟩

theorem removal_breaks_off {before rest : List ResourceRef} {r : ResourceRef} {m : String} {last : σ}
    (answered : h (.listByName name) world = (.answered (before ++ r :: rest), after))
    (come : ∀ reply ∈ deletions h before after, reply.Comes)
    (aborted : h (.delete r.id) (afterDeletions h before after) = (.aborted m, last)) :
    (s.removeAll name).asked h world = .listByName name :: (before ++ [r]).map (.delete ·.id) ∧
      (s.removeAll name).run h world = (.aborted m, last) := by
  obtain ⟨asked, run⟩ := s.removals_of_aborted rest come aborted
  constructor
  · rw [asked_removeAll, answered, askedOn, clear, asked_bind, run, asked]
    exact congrArg (_ :: ·) (List.append_nil _)
  · rw [run_removeAll, answered, resume, clear, run_bind, run]
    rfl

/-- Whoever answers and however: the lookup is asked for first, what it finds is deleted one by one
whatever has become of the others, what fails is told with its object, and otherwise those that
were still there are counted. -/
theorem removeAll_removes (h : Handler (objects δ) σ) (world : σ) : s.Removes name h world where
  refused f after refused := by
    rw [asked_removeAll, run_removeAll, refused]
    exact ⟨rfl, rfl⟩
  aborted m after aborted := by
    rw [asked_removeAll, run_removeAll, aborted]
    exact ⟨rfl, rfl⟩
  tried _ _ := s.removal_tries name
  counted _ _ _ := s.removal_counts name
  reported _ _ := s.removal_reports name
  brokenOff _ _ _ _ _ _ := s.removal_breaks_off name

end Scope

namespace Scripted

/-- Three objects of one name, of which one is lost meanwhile and one cannot be deleted, and an object
of another name. -/
def triplets : Scripted where
  objects := [⟨"1", "a"⟩, ⟨"2", "a"⟩, ⟨"3", "a"⟩, ⟨"4", "b"⟩]
  failing := ["delete:2"]
  vanished := ["1"]

theorem triplets_removeAll :
    ((⟨.job, "here"⟩ : Scope).removeAll "a").asked handler triplets =
      [.listByName "a", .delete "1", .delete "2", .delete "3"] ∧
    ∃ f, (((⟨.job, "here"⟩ : Scope).removeAll "a").run handler triplets).1 = .refused f ∧
      f.descriptions = ["Failed to delete job 'a' (2) in here: scripted delete:2 failed. " ++
        "Details: scripted failure"] := by
  have removes := (⟨.job, "here"⟩ : Scope).removeAll_removes "a" handler triplets
  have found : handler (.listByName "a") triplets = (.answered [⟨"1", "a"⟩, ⟨"2", "a"⟩, ⟨"3", "a"⟩],
    { triplets with calls := ["list:a"] }) := rfl
  have replies : deletions handler [⟨"1", "a"⟩, ⟨"2", "a"⟩, ⟨"3", "a"⟩]
      { triplets with calls := ["list:a"] } =
        [.answered .notFound, .refused (rejection "delete:2"), .answered .deleted] := rfl
  have come : ∀ reply ∈ deletions handler [⟨"1", "a"⟩, ⟨"2", "a"⟩, ⟨"3", "a"⟩]
      { triplets with calls := ["list:a"] }, reply.Comes := by
    rw [replies]
    simp [Reply.Comes]
  refine ⟨(removes.tried _ _ found come).1, ?_⟩
  obtain ⟨f, refused, problems⟩ := removes.reported _ _ found come ⟨rejection "delete:2", by rw [replies]; simp⟩
  refine ⟨f, refused, ?_⟩
  rw [Failure.descriptions, problems, replies]
  decide +kernel

end Scripted
end Provisioning
