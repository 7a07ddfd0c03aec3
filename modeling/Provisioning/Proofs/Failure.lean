import Provisioning.Failure

/-!
What a collection of results comes to.  Every problem of every failure is told, in order, and only
where there is none do the values count.
-/
namespace Provisioning

variable {α β : Type}

namespace Failure

theorem problems_of_ofProblems? {ps : List Problem} {f : Failure} (collected : ofProblems? ps = some f) :
    f.problems = ps := by
  cases ps with
  | nil => cases collected
  | cons p ps =>
    cases collected
    rfl

theorem eq_nil_of_ofProblems? {ps : List Problem} (none : ofProblems? ps = .none) : ps = [] := by
  cases ps with
  | nil => rfl
  | cons p ps => cases none

theorem right_of_ofProblems? {wrong : α → Bool} {problem : α → Problem} {as : List α}
    (none : ofProblems? ((as.filter wrong).map problem) = .none) : ∀ a ∈ as, wrong a = false := by
  have nothing := List.map_eq_nil_iff.mp (eq_nil_of_ofProblems? none)
  exact fun a member => eq_false_of_ne_true (List.filter_eq_nil_iff.mp nothing a member)

def told : Except Failure α → List Problem
  | .ok _ => []
  | .error f => f.problems

end Failure

open Failure

theorem accumulate_eq (results : List (Except Failure α)) : accumulate results =
    match ofProblems? (results.flatMap told) with
    | some f => .error f
    | none => .ok (results.filterMap Except.toOption) := by
  have values : (fun r : Except Failure α => match r with | .ok a => some a | .error _ => none) =
      Except.toOption := by
    funext r
    cases r <;> rfl
  have problems : (fun r : Except Failure α => match r with | .ok _ => [] | .error f => f.problems) =
      told := by
    funext r
    cases r <;> rfl
  rw [← values, ← problems]
  rfl

/-- The result of an attempt that has one problem of its own where it goes wrong. -/
def tried (wrong : α → Bool) (problem : α → Problem) (value : α → β) (a : α) : Except Failure β :=
  if wrong a then .error (.ofProblem (problem a)) else .ok (value a)

variable (wrong : α → Bool) (problem : α → Problem) (value : α → β)

variable {wrong} in
theorem tried_of_wrong {a : α} (here : wrong a = true) :
    tried wrong problem value a = .error (.ofProblem (problem a)) := if_pos here

variable {wrong} in
theorem tried_of_right {a : α} (here : wrong a = false) : tried wrong problem value a = .ok (value a) :=
  if_neg (ne_true_of_eq_false here)

theorem told_tried (as : List α) : (as.map (tried wrong problem value)).flatMap told =
    (as.filter wrong).map problem := by
  induction as with
  | nil => rfl
  | cons a rest ih =>
    rw [List.map_cons, List.flatMap_cons, ih]
    cases decision : wrong a <;> simp [tried, decision, told, Failure.ofProblem, Failure.problems]

theorem countP_tried (as : List α) : (as.map (tried wrong problem value)).countP (·.isOk) =
    as.countP fun a => !wrong a := by
  rw [List.countP_map]
  refine List.countP_congr fun a _ => ?_
  cases decision : wrong a <;> simp [tried, decision, Except.isOk, Except.toBool]

theorem accumulate_tried (as : List α) : accumulate (as.map (tried wrong problem value)) =
    match ofProblems? ((as.filter wrong).map problem) with
    | some f => .error f
    | none => .ok (as.map value) := by
  rw [accumulate_eq, told_tried]
  cases none : as.filter wrong with
  | cons a rest => rfl
  | nil =>
    have right : ∀ a ∈ as, tried wrong problem value a = .ok (value a) := fun a member =>
      tried_of_right problem value (eq_false_of_ne_true (List.filter_eq_nil_iff.mp none a member))
    simp only [List.map_nil, ofProblems?]
    rw [List.map_congr_left right, List.filterMap_map]
    exact congrArg Except.ok (congrFun List.filterMap_eq_map as)

end Provisioning
