import Provisioning.Proofs.Program.Asked
import Provisioning.Remote.Scripted
import Provisioning.Upsert

/-!
What putting an object under a name asks of a collection, whoever answers and in whatever way.  The
lookup comes first; what it finds decides on the one write that may follow, and what comes of that
write comes of the whole.
-/
namespace Provisioning

open Program

variable {δ σ : Type} {h : Handler (objects δ) σ} {world after : σ}

namespace Scope

variable (s : Scope) (name : String) (definition : δ)

def settle (found : List ResourceRef) : Program (objects δ) UpsertOutcome :=
  Program.ofExcept (s.planFor name found) >>= Scope.apply definition

theorem upsert_eq_settle :
    s.upsert name definition = Objects.listByName name >>= s.settle name definition := by
  unfold upsert plan settle
  exact bind_assoc _ _ _

theorem settle_of_several {found : List ResourceRef} (several : 2 ≤ found.length) :
    s.settle name definition found = Program.fail (s.notUnique name found) := by
  match found, several with
  | _ :: _ :: _, _ => rfl

/-- One problem, in which the ids of all that was found stand in order. -/
theorem problems_notUnique (found : List ResourceRef) : ∃ before behind,
    (s.notUnique name found).problems =
      [⟨before ++ Text.joinWith ", " (found.map (·.id)) ++ behind, none⟩] := by
  refine ⟨s!"Found {found.length} {s.kind.name}s named '{name}' in {s.place} (ids: ", "), " ++
    "but the name must be unique. Remove the duplicates and retry", ?_⟩
  simp only [notUnique, Failure.single, Failure.ofProblem, Failure.problems, toString, String.append_assoc]

variable {s name definition}

theorem run_upsert_of_answered {found : List ResourceRef}
    (answered : h (.listByName name) world = (.answered found, after)) :
    (s.upsert name definition).run h world = (s.settle name definition found).run h after := by
  have looked : (Objects.listByName name).run h world = (.answered found, after) := by
    rw [Objects.listByName, run_request, answered]
  rw [upsert_eq_settle, run_bind_of_answered looked]

theorem asked_upsert : (s.upsert name definition).asked h world =
    .listByName name :: askedOn h (s.settle name definition) (h (.listByName name) world) := by
  rw [upsert_eq_settle, asked_bind, Objects.listByName, asked_request, run_request]
  rfl

variable (s name definition)

/-- All that a run can come to: what is asked, in order, and what that leads to. -/
structure Resolves (h : Handler (objects δ) σ) (world : σ) : Prop where
  refused : ∀ f after, h (.listByName name) world = (.refused f, after) →
    (s.upsert name definition).asked h world = [.listByName name] ∧
    (s.upsert name definition).run h world = (.refused f, after)
  aborted : ∀ m after, h (.listByName name) world = (.aborted m, after) →
    (s.upsert name definition).asked h world = [.listByName name] ∧
    (s.upsert name definition).run h world = (.aborted m, after)
  created : ∀ after, h (.listByName name) world = (.answered [], after) →
    (s.upsert name definition).asked h world = [.listByName name, .create definition] ∧
    (s.upsert name definition).run h world =
      ((h (.create definition) after).1.map fun reference => ⟨reference, .created⟩,
        (h (.create definition) after).2)
  updated : ∀ existing after, h (.listByName name) world = (.answered [existing], after) →
    (s.upsert name definition).asked h world =
      [.listByName name, .update existing.id definition] ∧
    (s.upsert name definition).run h world =
      ((h (.update existing.id definition) after).1.map fun reference => ⟨reference, .updated⟩,
        (h (.update existing.id definition) after).2)
  /-- The failure depends on nothing but the lookup. -/
  several : ∀ found, 2 ≤ found.length → ∃ f before behind,
    f.problems = [⟨before ++ Text.joinWith ", " (found.map (·.id)) ++ behind, none⟩] ∧
    ∀ world after, h (.listByName name) world = (.answered found, after) →
      (s.upsert name definition).asked h world = [.listByName name] ∧
      (s.upsert name definition).run h world = (.refused f, after)
  neverDeletes : ∀ id, .delete id ∉ (s.upsert name definition).asked h world

theorem upsert_of_refused {f : Failure} (refused : h (.listByName name) world = (.refused f, after)) :
    (s.upsert name definition).asked h world = [.listByName name] ∧
      (s.upsert name definition).run h world = (.refused f, after) := by
  constructor
  · rw [asked_upsert, refused]
    rfl
  · rw [upsert_eq_settle, run_bind, Objects.listByName, run_request, refused]
    rfl

theorem upsert_of_aborted {m : String} (aborted : h (.listByName name) world = (.aborted m, after)) :
    (s.upsert name definition).asked h world = [.listByName name] ∧
      (s.upsert name definition).run h world = (.aborted m, after) := by
  constructor
  · rw [asked_upsert, aborted]
    rfl
  · rw [upsert_eq_settle, run_bind, Objects.listByName, run_request, aborted]
    rfl

theorem upsert_of_none (none : h (.listByName name) world = (.answered [], after)) :
    (s.upsert name definition).asked h world = [.listByName name, .create definition] ∧
      (s.upsert name definition).run h world =
        ((h (.create definition) after).1.map fun reference => ⟨reference, .created⟩,
          (h (.create definition) after).2) := by
  have settled : s.settle name definition [] =
      Objects.create definition >>= fun reference => pure ⟨reference, .created⟩ := rfl
  constructor
  · have asked := asked_bind_pure h (Objects.create definition)
      (fun reference => (⟨reference, .created⟩ : UpsertOutcome)) after
    rw [asked_upsert, none, askedOn, settled, asked, Objects.create, asked_request]
  · rw [run_upsert_of_answered none, settled, run_bind_pure, Objects.create, run_request]

theorem upsert_of_one {existing : ResourceRef}
    (one : h (.listByName name) world = (.answered [existing], after)) :
    (s.upsert name definition).asked h world =
        [.listByName name, .update existing.id definition] ∧
      (s.upsert name definition).run h world =
        ((h (.update existing.id definition) after).1.map fun reference => ⟨reference, .updated⟩,
          (h (.update existing.id definition) after).2) := by
  have settled : s.settle name definition [existing] =
      Objects.update existing.id definition >>= fun reference => pure ⟨reference, .updated⟩ := rfl
  constructor
  · have asked := asked_bind_pure h (Objects.update existing.id definition)
      (fun reference => (⟨reference, .updated⟩ : UpsertOutcome)) after
    rw [asked_upsert, one, askedOn, settled, asked, Objects.update, asked_request]
  · rw [run_upsert_of_answered one, settled, run_bind_pure, Objects.update, run_request]

theorem upsert_of_several {found : List ResourceRef} (several : 2 ≤ found.length)
    (answered : h (.listByName name) world = (.answered found, after)) :
    (s.upsert name definition).asked h world = [.listByName name] ∧
      (s.upsert name definition).run h world = (.refused (s.notUnique name found), after) := by
  have settled := s.settle_of_several name definition several
  constructor
  · rw [asked_upsert, answered, askedOn, settled]
    rfl
  · rw [run_upsert_of_answered answered, settled, run_fail]

/-- A run asks for the lookup, then for at most one write, and for nothing else. -/
theorem asked_upsert_cases (h : Handler (objects δ) σ) (world : σ) :
    (s.upsert name definition).asked h world = [.listByName name] ∨
      (s.upsert name definition).asked h world = [.listByName name, .create definition] ∨
      ∃ id, (s.upsert name definition).asked h world = [.listByName name, .update id definition] := by
  rcases lookup : h (.listByName name) world with ⟨found | f | m, after⟩
  · match found, lookup with
    | [], lookup => exact .inr (.inl (s.upsert_of_none name definition lookup).1)
    | [existing], lookup =>
      exact .inr (.inr ⟨existing.id, (s.upsert_of_one name definition lookup).1⟩)
    | first :: second :: rest, lookup =>
      have several : 2 ≤ (first :: second :: rest).length := by simp
      exact .inl (s.upsert_of_several name definition several lookup).1
  · exact .inl (s.upsert_of_refused name definition lookup).1
  · exact .inl (s.upsert_of_aborted name definition lookup).1

/-- Whoever answers and however: the lookup is asked for first, nothing found means one creation, one
object found means one update of it, several found mean no more calls and a failure that names
them, and what refuses a call refuses the whole. -/
theorem upsert_resolves (h : Handler (objects δ) σ) (world : σ) : s.Resolves name definition h world where
  refused _ _ := s.upsert_of_refused name definition
  aborted _ _ := s.upsert_of_aborted name definition
  created _ := s.upsert_of_none name definition
  updated _ _ := s.upsert_of_one name definition
  several found several := by
    obtain ⟨before, behind, named⟩ := s.problems_notUnique name found
    exact ⟨_, before, behind, named, fun _ _ => s.upsert_of_several name definition several⟩
  neverDeletes id member := by
    rcases s.asked_upsert_cases name definition h world with only | created | ⟨_, updated⟩
    · simp [only] at member
    · simp [created] at member
    · simp [updated] at member

end Scope

namespace Scripted

def twins : Scripted where
  objects := [⟨"1", "a"⟩, ⟨"2", "b"⟩, ⟨"3", "a"⟩]
  failing := ["update:2"]

theorem twins_upsert_refused : ∃ f before behind,
    f.problems = [⟨before ++ "1, 3" ++ behind, none⟩] ∧
    ((⟨.job, "here"⟩ : Scope).upsert "a" "a").run handler twins =
      (.refused f, { twins with calls := ["list:a"] }) := by
  obtain ⟨f, before, behind, named, runs⟩ :=
    ((⟨.job, "here"⟩ : Scope).upsert_resolves "a" "a" handler twins).several
      [⟨"1", "a"⟩, ⟨"3", "a"⟩] (by decide)
  exact ⟨f, before, behind, named, (runs twins { twins with calls := ["list:a"] } rfl).2⟩

end Scripted
end Provisioning
