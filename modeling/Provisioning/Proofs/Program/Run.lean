import Provisioning.Program

/-!
Runs of composed programs.  A program followed by another runs like the first and, when that
answers, like the second in the world the first has left.  Questions put to another interface are
answered by the handler of that interface.  A relation between worlds that holds between before and
after every single question holds between the two ends of a run, and what holds of every answer
that a program can come to holds of the answer of every run.
-/
namespace Provisioning

variable {I J : Interface} {σ α β : Type}

namespace Program

/-- What follows a run: an answer is gone on with, anything else is the end. -/
def resume (h : Handler I σ) (f : α → Program I β) : Reply α × σ → Reply β × σ
  | (.answered a, s) => (f a).run h s
  | (.refused e, s) => (.refused e, s)
  | (.aborted m, s) => (.aborted m, s)

@[simp] theorem run_pure (h : Handler I σ) (a : α) (s : σ) :
    (pure a : Program I α).run h s = (.answered a, s) := rfl

@[simp] theorem run_fail (h : Handler I σ) (f : Failure) (s : σ) :
    (fail f : Program I α).run h s = (.refused f, s) := rfl

@[simp] theorem run_ofExcept_ok (h : Handler I σ) (a : α) (s : σ) :
    (ofExcept (.ok a) : Program I α).run h s = (.answered a, s) := rfl

@[simp] theorem run_ofExcept_error (h : Handler I σ) (f : Failure) (s : σ) :
    (ofExcept (.error f) : Program I α).run h s = (.refused f, s) := rfl

@[simp] theorem run_request (h : Handler I σ) (q : I.Question) (s : σ) :
    (request q).run h s = h q s := by
  unfold request run
  rcases h q s with ⟨_ | _ | _, t⟩ <;> rfl

theorem ofExcept_ok_bind (a : α) (f : α → Program I β) : ofExcept (.ok a) >>= f = f a := rfl

theorem ofExcept_error_bind (e : Failure) (f : α → Program I β) :
    ofExcept (.error e) >>= f = fail e := rfl

theorem run_bind (h : Handler I σ) (p : Program I α) (f : α → Program I β) (s : σ) :
    (p >>= f).run h s = resume h f (p.run h s) := by
  change (p.bind f).run h s = _
  induction p generalizing s with
  | done r => cases r <;> rfl
  | ask q next ih =>
    simp only [Program.bind, run]
    rcases h q s with ⟨a | e | m, t⟩
    · exact ih (.ok a) t
    · exact ih (.error e) t
    · rfl

theorem bind_assoc {γ : Type} (p : Program I α) (f : α → Program I β) (g : β → Program I γ) :
    p >>= f >>= g = p >>= fun a => f a >>= g := by
  change (p.bind f).bind g = p.bind fun a => (f a).bind g
  induction p with
  | done r => cases r <;> rfl
  | ask q next ih => exact congrArg (ask q) (funext ih)

/-- The run of a composition answers when both runs do. -/
theorem answered_bind_iff {h : Handler I σ} {p : Program I α} {f : α → Program I β} {s u : σ}
    {b : β} : (p >>= f).run h s = (.answered b, u) ↔
      ∃ a t, p.run h s = (.answered a, t) ∧ (f a).run h t = (.answered b, u) := by
  rw [run_bind]
  rcases p.run h s with ⟨a | e | m, t⟩
  · constructor
    · intro run
      exact ⟨a, t, rfl, run⟩
    · rintro ⟨_, _, same, run⟩
      cases same
      exact run
  all_goals
    simp only [resume, Prod.mk.injEq, reduceCtorEq, false_and, false_iff, not_exists]
    intro _ _ same
    cases same

theorem answered_ofExcept_iff {h : Handler I σ} {r : Except Failure α} {a : α} {s t : σ} :
    (ofExcept r : Program I α).run h s = (.answered a, t) ↔ r = .ok a ∧ t = s := by
  cases r <;> simp [eq_comm]

theorem run_bind_of_answered {h : Handler I σ} {p : Program I α} {s t : σ} {a : α}
    (answered : p.run h s = (.answered a, t)) (f : α → Program I β) :
    (p >>= f).run h s = (f a).run h t := by
  rw [run_bind, answered]
  rfl

/-- The run of a composition stops where the first program does, or it goes on with its answer. -/
theorem stops_or_goes_on (h : Handler I σ) (p : Program I α) (f : α → Program I β) (s : σ) :
    ((p >>= f).run h s).2 = (p.run h s).2 ∨
      ∃ a t, p.run h s = (.answered a, t) ∧ (p >>= f).run h s = (f a).run h t := by
  rw [run_bind]
  rcases p.run h s with ⟨a | e | m, t⟩
  · exact .inr ⟨a, t, rfl, rfl⟩
  · exact .inl rfl
  · exact .inl rfl

/-- What holds where the first program ends, and still where the second does, holds at the end. -/
theorem ends_bind {P : σ → Prop} {h : Handler I σ} {p : Program I α} {f : α → Program I β} {s : σ}
    (first : P (p.run h s).2)
    (next : ∀ a t, p.run h s = (.answered a, t) → P t → P ((f a).run h t).2) :
    P ((p >>= f).run h s).2 := by
  rcases stops_or_goes_on h p f s with stopped | ⟨a, t, answered, goesOn⟩
  · rw [stopped]
    exact first
  · rw [answered] at first
    rw [goesOn]
    exact next a t answered first

theorem through_bind (e : Embedding I J) (p : Program I α) (f : α → Program I β) :
    (p >>= f).through e = p.through e >>= fun a => (f a).through e := by
  change (p.bind f).through e = (p.through e).bind _
  induction p with
  | done r => cases r <;> rfl
  | ask q next ih =>
    simp only [Program.bind, through]
    exact congrArg (ask (e.question q)) (funext fun r => ih _)

/-- Between the ends of every run stands `R`. -/
def Keeps (h : Handler I σ) (R : σ → σ → Prop) (p : Program I α) : Prop :=
  ∀ s, R s (p.run h s).2

section Keeping

variable {h : Handler I σ} {R : σ → σ → Prop}

theorem keeps_done (refl : ∀ s, R s s) (r : Except Failure α) : (done r : Program I α).Keeps h R := by
  intro s
  cases r <;> exact refl s

theorem bind_keeps (trans : ∀ s t u, R s t → R t u → R s u) {p : Program I α}
    {f : α → Program I β} {s : σ} (first : R s (p.run h s).2) (second : ∀ a, (f a).Keeps h R) :
    R s ((p >>= f).run h s).2 :=
  ends_bind first fun a t _ reached => trans _ _ _ reached (second a t)

theorem keeps_bind (trans : ∀ s t u, R s t → R t u → R s u) {p : Program I α}
    {f : α → Program I β} (first : p.Keeps h R) (second : ∀ a, (f a).Keeps h R) :
    (p >>= f).Keeps h R := fun s => bind_keeps trans (first s) second

end Keeping

/-- Every answer, after whatever answers to the questions, satisfies `P`. -/
def Yields (P : α → Prop) : Program I α → Prop
  | done (.ok a) => P a
  | done (.error _) => True
  | ask _ next => ∀ r, (next r).Yields P

theorem yields_bind {P : β → Prop} (p : Program I α) {f : α → Program I β}
    (second : ∀ a, (f a).Yields P) : (p >>= f).Yields P := by
  change (p.bind f).Yields P
  induction p with
  | done r =>
    cases r with
    | ok a => exact second a
    | error e => trivial
  | ask q next ih => exact fun r => ih r

theorem yields_fail {P : α → Prop} (f : Failure) : (fail f : Program I α).Yields P := trivial

theorem yields_run {P : α → Prop} {h : Handler I σ} {p : Program I α} (yields : p.Yields P) {s t : σ}
    {a : α} (answered : p.run h s = (.answered a, t)) : P a := by
  induction p generalizing s with
  | done r =>
    cases r with
    | ok b =>
      cases answered
      exact yields
    | error e => cases answered
  | ask q next ih =>
    rw [run] at answered
    split at answered
    · exact ih _ (yields _) answered
    · exact ih _ (yields _) answered
    · cases answered

end Program

def Reply.map (f : α → β) : Reply α → Reply β
  | answered a => answered (f a)
  | refused e => refused e
  | aborted m => aborted m

theorem Program.run_bind_pure (h : Handler I σ) (p : Program I α) (f : α → β) (s : σ) :
    (p >>= fun a => pure (f a)).run h s = ((p.run h s).1.map f, (p.run h s).2) := by
  rw [run_bind]
  rcases p.run h s with ⟨a | e | m, t⟩ <;> rfl

def Handler.through (e : Embedding I J) (h : Handler J σ) : Handler I σ := fun q s =>
  ((h (e.question q) s).1.map (e.answer q), (h (e.question q) s).2)

theorem Program.run_through (e : Embedding I J) (h : Handler J σ) (p : Program I α) (s : σ) :
    (p.through e).run h s = p.run (h.through e) s := by
  induction p generalizing s with
  | done r => cases r <;> rfl
  | ask q next ih =>
    simp only [Program.through, run, Handler.through]
    rcases h (e.question q) s with ⟨a | f | m, t⟩
    · exact ih (.ok (e.answer q a)) t
    · exact ih (.error f) t
    · rfl

end Provisioning
