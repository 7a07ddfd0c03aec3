import Provisioning.Proofs.Program.Straight

/-!
Programs that do not look at all there is in an answer.  `seen` gives of every answer what is looked
at.  Worlds that answer alike, as far as that is seen, cannot be told apart by such a program: it asks
both for the same and comes to the same reply.
-/
namespace Provisioning

namespace Program

variable {I J : Interface} {σ α β : Type} {Q : I.Question → Prop}
  {seen : (q : I.Question) → I.Answer q → I.Answer q}

/-- How the program goes on depends on nothing but what is seen of the answers. -/
def Heedless (seen : (q : I.Question) → I.Answer q → I.Answer q) : Program I α → Prop
  | done _ => True
  | ask q next => (∀ r, next (r.map (seen q)) = next r) ∧ ∀ r, (next r).Heedless seen

theorem heedless_done (r : Except Failure α) : (done r : Program I α).Heedless seen := trivial

/-- A program that only asks for what is seen whole has nothing to overlook. -/
theorem heedless_of_asks {p : Program I α} (whole : p.Asks fun q => seen q = id) : p.Heedless seen := by
  induction p with
  | done r => trivial
  | ask q next ih =>
    refine ⟨fun r => ?_, fun r => ih r (whole.2 r)⟩
    rw [whole.1, Except.map_id]
    rfl

theorem heedless_bind {p : Program I α} {f : α → Program I β} (first : p.Heedless seen)
    (second : ∀ a, (f a).Heedless seen) : (p >>= f).Heedless seen := by
  change (p.bind f).Heedless seen
  induction p with
  | done r =>
    cases r with
    | ok a => exact second a
    | error e => trivial
  | ask q next ih =>
    obtain ⟨same, later⟩ := first
    exact ⟨fun r => congrArg (Program.bind · f) (same r), fun r => ih r (later r)⟩

/-- One answer is overlooked in part by what comes after it. -/
theorem heedless_request_bind {q : I.Question} {f : I.Answer q → Program I β}
    (same : ∀ a, f (seen q a) = f a) (next : ∀ a, (f a).Heedless seen) :
    (request q >>= f).Heedless seen := by
  constructor
  · intro r
    cases r with
    | ok a => exact same a
    | error e => rfl
  · intro r
    cases r with
    | ok a => exact next a
    | error e => trivial

/-- Worlds that stand in this relation answer such questions alike, and stand in it again afterwards. -/
def AnswersAlike (h : Handler I σ) (seen : (q : I.Question) → I.Answer q → I.Answer q)
    (Q : I.Question → Prop) (R : σ → σ → Prop) : Prop :=
  ∀ q s t, Q q → R s t → (h q s).1.map (seen q) = (h q t).1.map (seen q) ∧ R (h q s).2 (h q t).2

/-- By induction on the program: after every answer it goes on as one and the same program, in worlds
that are related again. -/
theorem run_heedless {h : Handler I σ} {R : σ → σ → Prop} (alike : AnswersAlike h seen Q R)
    {p : Program I α} (heedless : p.Heedless seen) {s t : σ} (poses : p.Poses h Q s) (related : R s t) :
    (p.run h s).1 = (p.run h t).1 ∧ p.asked h s = p.asked h t ∧ R (p.run h s).2 (p.run h t).2 := by
  induction p generalizing s t with
  | done r => cases r <;> exact ⟨rfl, rfl, related⟩
  | ask q next ih =>
    obtain ⟨same, later⟩ := heedless
    simp only [Poses, trace, List.forall_mem_cons] at poses
    obtain ⟨posed, poses⟩ := poses
    obtain ⟨replies, still⟩ := alike q s t posed related
    simp only [run, asked]
    generalize h q s = x at replies still poses ⊢
    generalize h q t = y at replies still ⊢
    rcases x with ⟨a | f | m, u⟩
    · rcases y with ⟨b | g | n, v⟩
      · have overlooked : next (.ok a) = next (.ok b) :=
          (same (.ok a)).symm.trans ((congrArg (fun c => next (.ok c)) (Reply.answered.inj replies)).trans
            (same (.ok b)))
        dsimp only
        rw [← overlooked]
        obtain ⟨reply, questions, last⟩ := ih (.ok a) (later _) poses still
        exact ⟨reply, congrArg (q :: ·) questions, last⟩
      all_goals cases replies
    · rcases y with ⟨b | g | n, v⟩
      case refused =>
        cases replies
        obtain ⟨reply, questions, last⟩ := ih (.error f) (later _) poses still
        exact ⟨reply, congrArg (q :: ·) questions, last⟩
      all_goals cases replies
    · rcases y with ⟨b | g | n, v⟩
      case aborted =>
        cases replies
        exact ⟨rfl, rfl, still⟩
      all_goals cases replies

end Program
end Provisioning
