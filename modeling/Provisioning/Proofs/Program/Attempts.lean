import Provisioning.Proofs.Failure
import Provisioning.Proofs.Program.Run

/-!
Programs that go on after a failure.  An attempt answers with the failure, and a program for every
item of a list answers for every item when each of its parts does.
-/
namespace Provisioning

variable {I : Interface} {σ α β : Type}

def Reply.caught : Reply α → Reply (Except Failure α)
  | answered a => answered (.ok a)
  | refused f => answered (.error f)
  | aborted m => aborted m

namespace Program

theorem run_attempt (h : Handler I σ) (p : Program I α) (s : σ) :
    p.attempt.run h s = ((p.run h s).1.caught, (p.run h s).2) := by
  induction p generalizing s with
  | done r => cases r <;> rfl
  | ask q next ih =>
    simp only [attempt, run]
    rcases h q s with ⟨a | f | m, t⟩
    · exact ih (.ok a) t
    · exact ih (.error f) t
    · rfl

theorem each_map {γ : Type} (f : β → Program I γ) (g : α → β) (as : List α) :
    each f (as.map g) = each (fun a => f (g a)) as := by
  induction as with
  | nil => rfl
  | cons a rest ih => simp only [List.map_cons, each, ih]

/-- `standing` is what is known of the world while some items are still to come. -/
theorem run_each {h : Handler I σ} {f : α → Program I β} {value : α → β} {act : σ → α → σ}
    {standing : List α → σ → Prop}
    (part : ∀ a rest s, standing (a :: rest) s →
      (f a).run h s = (.answered (value a), act s a) ∧ standing rest (act s a))
    (as : List α) {s : σ} (start : standing as s) :
    (each f as).run h s = (.answered (as.map value), as.foldl act s) := by
  induction as generalizing s with
  | nil => rfl
  | cons a rest ih =>
    obtain ⟨answered, still⟩ := part a rest s start
    rw [each, run_bind_of_answered answered, run_bind_of_answered (ih still)]
    rfl

/-- A program that ends with what its attempts come to together. -/
theorem run_accumulate (h : Handler I σ) (results : List (Except Failure α)) (f : List α → β) (s : σ) :
    (Program.ofExcept (accumulate results) >>= fun as => pure (f as)).run h s =
      (match Failure.ofProblems? (results.flatMap Failure.told) with
        | some f => .refused f
        | none => .answered (f (results.filterMap Except.toOption)), s) := by
  rw [accumulate_eq]
  cases Failure.ofProblems? (results.flatMap Failure.told) <;> rfl

end Program
end Provisioning
