import Provisioning.Proofs.Program.Run

/-!
The questions that the run of a composed program asks: those of the first program and, when that
answers, those of the second in the world that the first has left.
-/
namespace Provisioning.Program

variable {I : Interface} {σ α β : Type} {h : Handler I σ}

def askedOn (h : Handler I σ) (f : α → Program I β) : Reply α × σ → List I.Question
  | (.answered a, s) => (f a).asked h s
  | _ => []

theorem asked_bind (h : Handler I σ) (p : Program I α) (f : α → Program I β) (s : σ) :
    (p >>= f).asked h s = p.asked h s ++ askedOn h f (p.run h s) := by
  change (p.bind f).asked h s = _
  induction p generalizing s with
  | done r => cases r <;> rfl
  | ask q next ih =>
    simp only [Program.bind, asked, run, List.cons_append]
    rcases h q s with ⟨a | e | m, t⟩
    · exact congrArg (q :: ·) (ih (.ok a) t)
    · exact congrArg (q :: ·) (ih (.error e) t)
    · rfl

theorem asked_request (h : Handler I σ) (q : I.Question) (s : σ) : (request q).asked h s = [q] := by
  unfold request asked
  rcases h q s with ⟨_ | _ | _, t⟩ <;> rfl

theorem asked_bind_pure (h : Handler I σ) (p : Program I α) (f : α → β) (s : σ) :
    (p >>= fun a => pure (f a)).asked h s = p.asked h s := by
  rw [asked_bind]
  rcases p.run h s with ⟨_ | _ | _, t⟩ <;> exact List.append_nil _

theorem asked_attempt (h : Handler I σ) (p : Program I α) (s : σ) : p.attempt.asked h s = p.asked h s := by
  induction p generalizing s with
  | done r => rfl
  | ask q next ih =>
    simp only [attempt, asked]
    rcases h q s with ⟨a | e | m, t⟩
    · exact congrArg (q :: ·) (ih (.ok a) t)
    · exact congrArg (q :: ·) (ih (.error e) t)
    · rfl

theorem asked_through {J : Interface} (e : Embedding I J) (h : Handler J σ) (p : Program I α) (s : σ) :
    (p.through e).asked h s = (p.asked (h.through e) s).map e.question := by
  induction p generalizing s with
  | done r => rfl
  | ask q next ih =>
    simp only [through, asked, Handler.through, List.map_cons]
    rcases h (e.question q) s with ⟨a | f | m, t⟩
    · exact congrArg (e.question q :: ·) (ih (.ok (e.answer q a)) t)
    · exact congrArg (e.question q :: ·) (ih (.error f) t)
    · rfl

variable {p : Program I α} {f : α → Program I β} {q : I.Question} {s t : σ}

theorem asked_bind_of_answered {a : α} (answered : p.run h s = (.answered a, t))
    (f : α → Program I β) : (p >>= f).asked h s = p.asked h s ++ (f a).asked h t := by
  rw [asked_bind, answered]
  rfl

theorem mem_asked_bind (member : q ∈ p.asked h s) : q ∈ (p >>= f).asked h s := by
  rw [asked_bind]
  exact List.mem_append_left _ member

theorem mem_asked_bind_of_answered {a : α} (answered : p.run h s = (.answered a, t))
    (member : q ∈ (f a).asked h t) : q ∈ (p >>= f).asked h s := by
  rw [asked_bind_of_answered answered]
  exact List.mem_append_right _ member

def Opens : Program I α → Prop
  | done _ => False
  | ask _ _ => True

theorem opens_request (q : I.Question) : (request q).Opens := trivial

theorem opens_bind {p : Program I α} {f : α → Program I β} (first : p.Opens) : (p >>= f).Opens := by
  cases p with
  | done r => cases first
  | ask q next => trivial

theorem asked_of_opens {p : Program I α} (opens : p.Opens) (h : Handler I σ) (s : σ) :
    p.asked h s ≠ [] := by
  cases p with
  | done r => cases opens
  | ask q next => simp [asked]

end Provisioning.Program
