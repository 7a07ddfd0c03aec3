import Mathlib.Data.List.Forall2
import Provisioning.Proofs.Failure

/-!
The algebra of failures.  However a failure arises, it holds the problems that went into it, in order, each in
the contexts that were put before it since.  Merging is associative and a context goes through it.  Collecting
results takes appending to combining, and a context on every failure among them to a context on the outcome.
-/
namespace Provisioning

variable {α : Type}

/-- One problem seen in a context: the context stands before the description, and the cause is kept. -/
structure Problem.Within (context : String) (p q : Problem) : Prop where
  description : q.description = context ++ ": " ++ p.description
  cause : q.cause = p.cause

theorem Problem.within_iff {context : String} {p q : Problem} :
    p.Within context q ↔ p.inContext context = q := by
  constructor
  · rintro ⟨description, cause⟩
    rw [inContext, ← description, ← cause]
  · rintro rfl
    exact ⟨rfl, rfl⟩

theorem Problem.forall₂_within_iff {context : String} {ps qs : List Problem} :
    List.Forall₂ (Within context) ps qs ↔ ps.map (inContext context) = qs := by
  have within : Within context = fun p q => p.inContext context = q := funext₂ fun _ _ => propext within_iff
  rw [within, ← List.forall₂_map_left_iff, List.forall₂_eq_eq_eq]

namespace Failure

mutual

/-- How a failure can arise: of a problem or a description, of an error raised beside a run or met at the edge of
the platform, of a list of problems, by merging, in a context, and where results are collected.  With it go the
problems that it was made of, each in the contexts that were put before it since. -/
inductive Arises : Failure → List Problem → Prop where
  | problem (p : Problem) : Arises (ofProblem p) [p]
  | single (description : String) : Arises (single description) [⟨description, none⟩]
  | source (e : SourceError) : Arises (ofProblem e.problem) [⟨e.message, some e.message⟩]
  | wrapped (description cause : String) :
    Arises (wrap description cause) [⟨description ++ ". Details: " ++ cause, some cause⟩]
  | listed {f : Failure} {ps : List Problem} : ofProblems? ps = some f → Arises f ps
  | merged {f g : Failure} {ps qs : List Problem} : Arises f ps → Arises g qs → Arises (f.merge g) (ps ++ qs)
  | inContext {f : Failure} {context : String} {ps qs : List Problem} : Arises f ps →
    List.Forall₂ (Problem.Within context) ps qs → Arises (f.inContext context) qs
  | collected {α : Type} {results : List (Except Failure α)} {f : Failure} {ps : List Problem} :
    Collects results ps → accumulate results = .error f → Arises f ps

inductive Collects : {α : Type} → List (Except Failure α) → List Problem → Prop where
  | nil {α : Type} : Collects ([] : List (Except Failure α)) []
  | value {α : Type} {rest : List (Except Failure α)} {ps : List Problem} (a : α) : Collects rest ps →
    Collects (.ok a :: rest) ps
  | failure {α : Type} {rest : List (Except Failure α)} {f : Failure} {ps qs : List Problem} : Arises f ps →
    Collects rest qs → Collects (.error f :: rest) (ps ++ qs)

end

theorem problems_of_accumulate {results : List (Except Failure α)} {f : Failure}
    (failed : accumulate results = .error f) : f.problems = results.flatMap told := by
  rw [accumulate_eq] at failed
  cases collected : ofProblems? (results.flatMap told) with
  | none =>
    rw [collected] at failed
    cases failed
  | some g =>
    rw [collected] at failed
    cases failed
    exact problems_of_ofProblems? collected

-- The induction is on how the failure arose, and for a collection on the results that were collected.
mutual

theorem problems_of_arises {f : Failure} {ps : List Problem} : f.Arises ps → f.problems = ps
  | .problem _ | .single _ | .source _ | .wrapped _ _ => rfl
  | .listed collected => problems_of_ofProblems? collected
  | .merged first second => by
    rw [problems_merge, problems_of_arises first, problems_of_arises second]
  | .inContext inner within => by
    rw [problems_inContext, problems_of_arises inner]
    exact Problem.forall₂_within_iff.mp within
  | .collected all failed => by
    rw [problems_of_accumulate failed, told_of_collects all]

theorem told_of_collects {α : Type} {results : List (Except Failure α)} {ps : List Problem} :
    Collects results ps → results.flatMap told = ps
  | .nil => rfl
  | .value a rest => by
    rw [List.flatMap_cons, told_of_collects rest]
    rfl
  | .failure first rest => by
    rw [List.flatMap_cons, told_of_collects rest, told, problems_of_arises first]

end

theorem ofProblems?_eq_some_iff {ps : List Problem} {f : Failure} : ofProblems? ps = some f ↔ f.problems = ps := by
  constructor
  · exact problems_of_ofProblems?
  · rintro rfl
    rfl

theorem problems_ne_nil (f : Failure) : f.problems ≠ [] := List.cons_ne_nil f.first f.rest

theorem merge_assoc (f g h : Failure) : (f.merge g).merge h = f.merge (g.merge h) := by
  have rest : f.rest ++ g.problems ++ h.problems = f.rest ++ (g.problems ++ h.problems) := List.append_assoc ..
  exact congrArg (Failure.mk f.first) rest

instance : Std.Associative Failure.merge := ⟨merge_assoc⟩

theorem inContext_merge (context : String) (f g : Failure) :
    (f.merge g).inContext context = (f.inContext context).merge (g.inContext context) :=
  congrArg (Failure.mk _) List.map_append

def failed : Except Failure α → Option Failure
  | .ok _ => none
  | .error f => some f

def failures (results : List (Except Failure α)) : List Failure := results.filterMap failed

theorem failures_ok (a : α) (rest : List (Except Failure α)) : failures (.ok a :: rest) = failures rest := rfl

theorem failures_error (f : Failure) (rest : List (Except Failure α)) :
    failures (.error f :: rest) = f :: failures rest := rfl

def combine : Except Failure (List α) → Except Failure (List α) → Except Failure (List α)
  | .ok as, .ok bs => .ok (as ++ bs)
  | .ok _, .error g => .error g
  | .error f, .ok _ => .error f
  | .error f, .error g => .error (f.merge g)

theorem nil_combine (r : Except Failure (List α)) : combine (.ok []) r = r := by
  cases r <;> rfl

theorem combine_assoc (r s t : Except Failure (List α)) :
    combine (combine r s) t = combine r (combine s t) := by
  cases r <;> cases s <;> cases t <;> simp [combine, merge_assoc]

theorem mapError_combine (context : String) (r s : Except Failure (List α)) :
    (combine r s).mapError (inContext context) =
      combine (r.mapError (inContext context)) (s.mapError (inContext context)) := by
  cases r <;> cases s <;> simp [combine, Except.mapError, inContext_merge]

end Failure

open Failure

theorem accumulate_cons (r : Except Failure α) (rest : List (Except Failure α)) :
    accumulate (r :: rest) = combine (r.map ([·])) (accumulate rest) := by
  rw [accumulate_eq, accumulate_eq, List.flatMap_cons]
  cases r with
  | ok a =>
    rw [told, List.nil_append]
    cases ofProblems? (rest.flatMap told) <;> rfl
  | error f =>
    -- whether the others fail as well decides if there is anything to merge with
    cases collected : ofProblems? (rest.flatMap told) with
    | none =>
      rw [eq_nil_of_ofProblems? collected, List.append_nil]
      rfl
    | some g =>
      rw [← problems_of_ofProblems? collected]
      rfl

theorem accumulate_append (results more : List (Except Failure α)) :
    accumulate (results ++ more) = combine (accumulate results) (accumulate more) := by
  induction results with
  | nil => exact (nil_combine _).symm
  | cons r rest ih => rw [List.cons_append, accumulate_cons, ih, accumulate_cons, combine_assoc]

theorem accumulate_mapError (context : String) (results : List (Except Failure α)) :
    accumulate (results.map (Except.mapError (inContext context))) =
      (accumulate results).mapError (inContext context) := by
  induction results with
  | nil => rfl
  | cons r rest ih =>
    have first : (r.mapError (inContext context)).map ([·]) = (r.map ([·])).mapError (inContext context) := by
      cases r <;> rfl
    rw [List.map_cons, accumulate_cons, ih, accumulate_cons, mapError_combine, first]

theorem accumulate_values (values : List α) : accumulate (values.map .ok) = .ok values := by
  induction values with
  | nil => rfl
  | cons a rest ih =>
    rw [List.map_cons, accumulate_cons, ih]
    rfl

theorem exists_values_of_failures {results : List (Except Failure α)} (unharmed : failures results = []) :
    ∃ values : List α, results = values.map .ok := by
  induction results with
  | nil => exact ⟨[], rfl⟩
  | cons r rest ih =>
    cases r with
    | error f =>
      rw [failures_error] at unharmed
      cases unharmed
    | ok a =>
      rw [failures_ok] at unharmed
      obtain ⟨values, rfl⟩ := ih unharmed
      exact ⟨a :: values, rfl⟩

/-- The failures are merged from left to right, whatever stands between them. -/
theorem accumulate_of_failures {results : List (Except Failure α)} {first : Failure} {more : List Failure}
    (harmed : failures results = first :: more) : accumulate results = .error (more.foldl merge first) := by
  induction results generalizing first more with
  | nil => cases harmed
  | cons r rest ih =>
    rw [accumulate_cons]
    cases r with
    | ok a =>
      rw [failures_ok] at harmed
      rw [ih harmed]
      rfl
    | error f =>
      rw [failures_error] at harmed
      obtain ⟨rfl, rfl⟩ := List.cons.inj harmed
      cases others : failures rest with
      | nil =>
        obtain ⟨values, rfl⟩ := exists_values_of_failures others
        rw [accumulate_values]
        rfl
      | cons second later =>
        -- the first failure meets the others already merged, and the fold has it met by the second alone
        rw [ih others, List.foldl_cons, List.foldl_assoc]
        rfl

theorem values_or_failures (results : List (Except Failure α)) :
    (∃ values : List α, results = values.map .ok) ∨ ∃ first more, failures results = first :: more := by
  cases others : failures results with
  | nil => exact .inl (exists_values_of_failures others)
  | cons first more => exact .inr ⟨first, more, rfl⟩

theorem accumulate_eq_ok_iff {results : List (Except Failure α)} {values : List α} :
    accumulate results = .ok values ↔ results = values.map .ok := by
  constructor
  · intro collected
    rcases values_or_failures results with ⟨found, rfl⟩ | ⟨first, more, harmed⟩
    · rw [accumulate_values] at collected
      cases collected
      rfl
    · rw [accumulate_of_failures harmed] at collected
      cases collected
  · rintro rfl
    exact accumulate_values values

theorem accumulate_eq_error_iff {results : List (Except Failure α)} {f : Failure} :
    accumulate results = .error f ↔
      ∃ first more, failures results = first :: more ∧ more.foldl merge first = f := by
  constructor
  · intro collected
    rcases values_or_failures results with ⟨found, rfl⟩ | ⟨first, more, harmed⟩
    · rw [accumulate_values] at collected
      cases collected
    · rw [accumulate_of_failures harmed] at collected
      cases collected
      exact ⟨first, more, harmed, rfl⟩
  · rintro ⟨first, more, harmed, rfl⟩
    exact accumulate_of_failures harmed

/-- A failure holds the problems that went into it however it arises, and there is one at least; a list of
problems makes a failure just when it is not empty.  Merging is associative and appends the problems.  A context
is put before each problem in its place, with its cause kept, and goes through a merge.  Collecting results gives
the values in order where there is no failure, and else the failures merged from left to right; two collections
combine into that of the appended results, and a context on every failure among the results is a context on what
they come to. -/
theorem problems_of_combined_failures :
    (∀ {f : Failure} {ps : List Problem}, f.Arises ps → f.problems = ps ∧ ps ≠ []) ∧
    (∀ (f : Failure) (ps : List Problem), ofProblems? ps = some f ↔ f.problems = ps) ∧
    (∀ f g : Failure, (f.merge g).problems = f.problems ++ g.problems ∧
      ∀ h, (f.merge g).merge h = f.merge (g.merge h)) ∧
    (∀ (context : String) (f : Failure),
      List.Forall₂ (Problem.Within context) f.problems (f.inContext context).problems ∧
      ∀ g, (f.merge g).inContext context = (f.inContext context).merge (g.inContext context)) ∧
    ∀ {α : Type} (results : List (Except Failure α)),
      (∀ values, accumulate results = .ok values ↔ results = values.map .ok) ∧
      (∀ f, accumulate results = .error f ↔
        ∃ first more, failures results = first :: more ∧ more.foldl merge first = f) ∧
      (∀ more, accumulate (results ++ more) = combine (accumulate results) (accumulate more)) ∧
      ∀ context, accumulate (results.map (Except.mapError (inContext context))) =
        (accumulate results).mapError (inContext context) := by
  refine ⟨?arises, ?listed, ?merged, ?context, ?collected⟩
  case arises =>
    intro f ps arises
    have held := problems_of_arises arises
    have some : ps ≠ [] := held ▸ f.problems_ne_nil
    exact ⟨held, some⟩
  case listed => exact fun f ps => ofProblems?_eq_some_iff
  case merged =>
    intro f g
    exact ⟨problems_merge f g, merge_assoc f g⟩
  case context =>
    intro context f
    have within := Problem.forall₂_within_iff.mpr (problems_inContext context f).symm
    exact ⟨within, inContext_merge context f⟩
  case collected =>
    intro α results
    exact ⟨fun _ => accumulate_eq_ok_iff, fun _ => accumulate_eq_error_iff, accumulate_append results,
      fun context => accumulate_mapError context results⟩

/-- A deletion that times out, with a remark, both told with the job they are about. -/
def etlDeletion : Failure :=
  ((wrap "Remote call 'job.delete:2' failed" "timeout").merge (single "second")).inContext
    "Failed to delete job 'etl' (2)"

/-- A cleanup in which this deletion fails, and a value after it cannot be written. -/
def etlCleanup : List (Except Failure Unit) :=
  [.ok (), .error etlDeletion, .ok (), .error (ofProblem (SourceError.serialization "no text").problem)]

def etlTrouble : List Problem :=
  [⟨"Failed to delete job 'etl' (2): Remote call 'job.delete:2' failed. Details: timeout", some "timeout"⟩,
    ⟨"Failed to delete job 'etl' (2): second", none⟩,
    ⟨"Serialization error: no text", some "Serialization error: no text"⟩]

theorem etl_cleanup_problems :
    ∃ f, accumulate etlCleanup = .error f ∧ f.Arises etlTrouble ∧ f.problems = etlTrouble ∧ etlTrouble ≠ [] := by
  have deletion : etlDeletion.Arises (etlTrouble.take 2) :=
    .inContext (.merged (.wrapped "Remote call 'job.delete:2' failed" "timeout") (.single "second"))
      (.cons ⟨by decide, rfl⟩ (.cons ⟨by decide, rfl⟩ .nil))
  have all : Collects etlCleanup etlTrouble :=
    .value () (.failure deletion (.value () (.failure (.source (.serialization "no text")) .nil)))
  have arises := Arises.collected all rfl
  exact ⟨_, rfl, arises, problems_of_combined_failures.1 arises⟩

end Provisioning
