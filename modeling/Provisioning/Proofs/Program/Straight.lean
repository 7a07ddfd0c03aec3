import Provisioning.Proofs.Program.Run

/-!
What a program may ask, and whether it attends to failures.  A straight program does not: a refusal
in place of an answer is its end.  Rejecting some of the questions of a straight program therefore
cuts its run short at the first of them and changes nothing before that place.
-/
namespace Provisioning.Program

variable {I J : Interface} {σ α β : Type} {Q : I.Question → Prop}

/-- Every question, after whatever answers, satisfies `Q`. -/
def Asks (Q : I.Question → Prop) : Program I α → Prop
  | done _ => True
  | ask q next => Q q ∧ ∀ r, (next r).Asks Q

/-- Every question satisfies `Q`, and each of them ends the program when it is refused. -/
def Straight (Q : I.Question → Prop) : Program I α → Prop
  | done _ => True
  | ask q next => Q q ∧ (∀ f, next (.error f) = done (.error f)) ∧ ∀ a, (next (.ok a)).Straight Q

theorem asks_done (r : Except Failure α) : (done r : Program I α).Asks Q := trivial

theorem asks_request {q : I.Question} (allowed : Q q) : (request q).Asks Q :=
  ⟨allowed, fun _ => trivial⟩

theorem asks_bind {p : Program I α} {f : α → Program I β} (first : p.Asks Q)
    (second : ∀ a, (f a).Asks Q) : (p >>= f).Asks Q := by
  change (p.bind f).Asks Q
  induction p with
  | done r =>
    cases r with
    | ok a => exact second a
    | error e => trivial
  | ask q next ih => exact ⟨first.1, fun r => ih r (first.2 r)⟩

theorem asks_attempt {p : Program I α} (asks : p.Asks Q) : p.attempt.Asks Q := by
  induction p with
  | done r => trivial
  | ask q next ih => exact ⟨asks.1, fun r => ih r (asks.2 r)⟩

theorem asks_each_mem {f : α → Program I β} {as : List α} (asks : ∀ a ∈ as, (f a).Asks Q) :
    (each f as).Asks Q := by
  induction as with
  | nil => trivial
  | cons a rest ih =>
    have later := ih fun b member => asks b (List.mem_cons_of_mem _ member)
    exact asks_bind (asks a List.mem_cons_self) fun _ => asks_bind later fun _ => trivial

theorem asks_each {f : α → Program I β} (asks : ∀ a, (f a).Asks Q) (as : List α) :
    (each f as).Asks Q := asks_each_mem fun a _ => asks a

theorem asks_through {e : Embedding I J} {Q : J.Question → Prop} {p : Program I α}
    (asks : p.Asks fun q => Q (e.question q)) : (p.through e).Asks Q := by
  induction p with
  | done r => trivial
  | ask q next ih => exact ⟨asks.1, fun r => ih _ (asks.2 _)⟩

theorem asks_mono {Q' : I.Question → Prop} {p : Program I α} (weaker : ∀ q, Q q → Q' q)
    (asks : p.Asks Q) : p.Asks Q' := by
  induction p with
  | done r => trivial
  | ask q next ih => exact ⟨weaker q asks.1, fun r => ih r (asks.2 r)⟩

theorem asks_anything (p : Program I α) : p.Asks fun _ => True := by
  induction p with
  | done r => trivial
  | ask q next ih => exact ⟨trivial, ih⟩

theorem straight_done (r : Except Failure α) : (done r : Program I α).Straight Q := trivial

theorem straight_request {q : I.Question} (allowed : Q q) : (request q).Straight Q :=
  ⟨allowed, fun _ => rfl, fun _ => trivial⟩

theorem straight_bind {p : Program I α} {f : α → Program I β} (first : p.Straight Q)
    (second : ∀ a, (f a).Straight Q) : (p >>= f).Straight Q := by
  change (p.bind f).Straight Q
  induction p with
  | done r =>
    cases r with
    | ok a => exact second a
    | error e => trivial
  | ask q next ih =>
    obtain ⟨allowed, ends, rest⟩ := first
    refine ⟨allowed, ?_, fun a => ih (.ok a) (rest a)⟩
    intro e
    change Program.bind (next (.error e)) f = _
    rw [ends e]
    rfl

theorem straight_each {f : α → Program I β} (straight : ∀ a, (f a).Straight Q) (as : List α) :
    (each f as).Straight Q := by
  induction as with
  | nil => trivial
  | cons a rest ih => exact straight_bind (straight a) fun _ => straight_bind ih fun _ => trivial

theorem straight_through {e : Embedding I J} {Q : J.Question → Prop} {p : Program I α}
    (straight : p.Straight fun q => Q (e.question q)) : (p.through e).Straight Q := by
  induction p with
  | done r => trivial
  | ask q next ih =>
    obtain ⟨allowed, ends, rest⟩ := straight
    refine ⟨allowed, ?_, fun a => ih _ (rest _)⟩
    intro f
    change through e (next (.error f)) = _
    rw [ends f]
    rfl

theorem straight_mono {Q' : I.Question → Prop} {p : Program I α} (weaker : ∀ q, Q q → Q' q)
    (straight : p.Straight Q) : p.Straight Q' := by
  induction p with
  | done r => trivial
  | ask q next ih =>
    exact ⟨weaker q straight.1, straight.2.1, fun a => ih (.ok a) (straight.2.2 a)⟩

theorem asks_of_straight {p : Program I α} (straight : p.Straight Q) : p.Asks Q := by
  induction p with
  | done r => trivial
  | ask q next ih =>
    obtain ⟨allowed, ends, rest⟩ := straight
    refine ⟨allowed, fun r => ?_⟩
    cases r with
    | ok a => exact ih (.ok a) (rest a)
    | error f =>
      rw [ends f]
      trivial

theorem keeps_of_asks {h : Handler I σ} {R : σ → σ → Prop} (refl : ∀ s, R s s)
    (trans : ∀ s t u, R s t → R t u → R s u) (step : ∀ q, Q q → ∀ s, R s (h q s).2)
    {p : Program I α} (asks : p.Asks Q) : p.Keeps h R := by
  induction p with
  | done r => exact keeps_done refl r
  | ask q next ih =>
    intro s
    have first := step q asks.1 s
    rw [run]
    generalize h q s = x at first ⊢
    rcases x with ⟨a | f | m, t⟩
    · exact trans _ _ _ first (ih (.ok a) (asks.2 _) t)
    · exact trans _ _ _ first (ih (.error f) (asks.2 _) t)
    · exact first

/-- The questions of a run in order, each with the world that it meets. -/
def trace (h : Handler I σ) : Program I α → σ → List (I.Question × σ)
  | done _, _ => []
  | ask q next, s =>
    (q, s) :: match h q s with
      | (.answered a, t) => trace h (next (.ok a)) t
      | (.refused f, t) => trace h (next (.error f)) t
      | (.aborted _, _) => []

theorem asked_eq_trace (h : Handler I σ) (p : Program I α) (s : σ) :
    p.asked h s = (p.trace h s).map Prod.fst := by
  induction p generalizing s with
  | done r => rfl
  | ask q next ih =>
    simp only [asked, trace, List.map_cons]
    rcases h q s with ⟨a | f | m, t⟩
    · exact congrArg (q :: ·) (ih (.ok a) t)
    · exact congrArg (q :: ·) (ih (.error f) t)
    · rfl

/-- A question meets the world that the questions before it have left. -/
theorem world_of_trace {h : Handler I σ} {p : Program I α} {s t : σ} {q : I.Question}
    {before after : List (I.Question × σ)} (cut : p.trace h s = before ++ (q, t) :: after) :
    t = before.foldl (fun world x => (h x.1 world).2) s := by
  induction p generalizing s before with
  | done r => simp [trace] at cut
  | ask q₀ next ih =>
    cases before with
    | nil =>
      simp only [trace, List.nil_append, List.cons.injEq, Prod.mk.injEq] at cut
      exact cut.1.2.symm
    | cons x before =>
      simp only [trace, List.cons_append, List.cons.injEq] at cut
      obtain ⟨rfl, cut⟩ := cut
      simp only [List.foldl_cons]
      generalize h q₀ s = x at cut ⊢
      rcases x with ⟨a | f | m, u⟩
      · exact ih (.ok a) cut
      · exact ih (.error f) cut
      · exact absurd cut (by simp)

theorem mem_trace_bind {h : Handler I σ} {p : Program I α} {f : α → Program I β} {s : σ}
    {x : I.Question × σ} (member : x ∈ (p >>= f).trace h s) :
    x ∈ p.trace h s ∨ ∃ a t, p.run h s = (.answered a, t) ∧ x ∈ (f a).trace h t := by
  change x ∈ (p.bind f).trace h s at member
  induction p generalizing s with
  | done r =>
    cases r with
    | ok a => exact .inr ⟨a, s, rfl, member⟩
    | error e => cases member
  | ask q next ih =>
    simp only [Program.bind, trace, run, List.mem_cons] at member ⊢
    rcases member with first | later
    · exact .inl (.inl first)
    · generalize h q s = y at later ⊢
      rcases y with ⟨a | e | m, t⟩
      · exact (ih (.ok a) later).imp_left .inr
      · exact (ih (.error e) later).imp_left .inr
      · cases later

/-- What holds before a run, and is kept by every question that may come, holds at each of them. -/
theorem forall_trace {h : Handler I σ} {P : σ → Prop} (step : ∀ q s, Q q → P s → P (h q s).2)
    {p : Program I α} (asks : p.Asks Q) {s : σ} (start : P s) : ∀ x ∈ p.trace h s, Q x.1 ∧ P x.2 := by
  induction p generalizing s with
  | done r => exact fun _ member => nomatch member
  | ask q next ih =>
    have kept := step q s asks.1 start
    intro x member
    simp only [trace, List.mem_cons] at member
    rcases member with rfl | later
    · exact ⟨asks.1, start⟩
    · generalize h q s = y at kept later
      rcases y with ⟨a | e | m, t⟩
      · exact ih _ (asks.2 _) kept x later
      · exact ih _ (asks.2 _) kept x later
      · cases later

/-- Every question that a run comes to ask satisfies `Q`.  Unlike `Asks` this is about the answers that
do come, so a question may depend on what has been found before. -/
def Poses (h : Handler I σ) (Q : I.Question → Prop) (p : Program I α) (s : σ) : Prop :=
  ∀ x ∈ p.trace h s, Q x.1

section Posing

variable {h : Handler I σ} {p : Program I α} {s : σ}

theorem poses_of_asks (asks : p.Asks Q) (s : σ) : p.Poses h Q s := fun x member =>
  (forall_trace (P := fun _ => True) (fun _ _ _ _ => trivial) asks trivial x member).1

theorem asked_of_poses (poses : p.Poses h Q s) : ∀ q ∈ p.asked h s, Q q := by
  intro q member
  rw [asked_eq_trace] at member
  obtain ⟨x, traced, rfl⟩ := List.mem_map.mp member
  exact poses x traced

theorem forall_asked (asks : p.Asks Q) (s : σ) : ∀ q ∈ p.asked h s, Q q :=
  asked_of_poses (poses_of_asks asks s)

theorem poses_bind {f : α → Program I β} (first : p.Poses h Q s)
    (next : ∀ a t, p.run h s = (.answered a, t) → (f a).Poses h Q t) : (p >>= f).Poses h Q s := by
  intro x member
  rcases mem_trace_bind member with early | ⟨a, t, answered, late⟩
  · exact first x early
  · exact next a t answered x late

/-- What every such question keeps stands between the beginning and every world of the run. -/
theorem keeps_along {R : σ → σ → Prop} (refl : ∀ s, R s s) (trans : ∀ s t u, R s t → R t u → R s u)
    (step : ∀ q, Q q → ∀ s, R s (h q s).2) (poses : p.Poses h Q s) :
    (∀ x ∈ p.trace h s, R s x.2) ∧ R s (p.run h s).2 := by
  induction p generalizing s with
  | done r => exact ⟨List.forall_mem_nil _, keeps_done refl r s⟩
  | ask q next ih =>
    simp only [Poses, trace, List.forall_mem_cons] at poses
    obtain ⟨asked, later⟩ := poses
    have first := step q asked s
    simp only [trace, run, List.forall_mem_cons]
    generalize h q s = y at first later ⊢
    rcases y with ⟨a | f | m, t⟩
    · obtain ⟨along, last⟩ := ih (.ok a) (s := t) later
      exact ⟨⟨refl s, fun x member => trans _ _ _ first (along x member)⟩, trans _ _ _ first last⟩
    · obtain ⟨along, last⟩ := ih (.error f) (s := t) later
      exact ⟨⟨refl s, fun x member => trans _ _ _ first (along x member)⟩, trans _ _ _ first last⟩
    · exact ⟨⟨refl s, List.forall_mem_nil _⟩, first⟩

end Posing

/-- In worlds armed by `arm` a handler rejects some questions, for a reason, and notes that it was
asked; all else it answers there as in the clean worlds. -/
structure Rejecting (h : Handler I σ) (clean : σ → Prop) (arm : σ → σ)
    (rejected : I.Question → Prop) (reason : I.Question → Failure) (note : I.Question → σ → σ) :
    Prop where
  clean_stays : ∀ q s, clean s → clean (h q s).2
  passes : ∀ q s, clean s → ¬ rejected q → h q (arm s) = ((h q s).1, arm (h q s).2)
  stops : ∀ q s, clean s → rejected q → h q (arm s) = (.refused (reason q), arm (note q s))

section Rejection

variable {h : Handler I σ} {clean : σ → Prop} {arm : σ → σ} {rejected : I.Question → Prop}
  {reason : I.Question → Failure} {note : I.Question → σ → σ}

theorem run_unrejected (r : Rejecting h clean arm rejected reason note) (p : Program I α) {s : σ}
    (start : clean s) (none_rejected : ∀ x ∈ p.trace h s, ¬ rejected x.1) :
    p.run h (arm s) = ((p.run h s).1, arm (p.run h s).2) ∧
      p.asked h (arm s) = p.asked h s := by
  induction p generalizing s with
  | done result => cases result <;> exact ⟨rfl, rfl⟩
  | ask q next ih =>
    simp only [trace, List.mem_cons] at none_rejected
    have pass := r.passes q s start (none_rejected (q, s) (.inl rfl))
    have still := r.clean_stays q s start
    simp only [run, asked, pass]
    generalize h q s = x at still none_rejected ⊢
    rcases x with ⟨a | f | m, t⟩
    · obtain ⟨sameRun, sameAsked⟩ := ih (.ok a) still fun x member => none_rejected x (.inr member)
      exact ⟨sameRun, congrArg (q :: ·) sameAsked⟩
    · obtain ⟨sameRun, sameAsked⟩ := ih (.error f) still fun x member => none_rejected x (.inr member)
      exact ⟨sameRun, congrArg (q :: ·) sameAsked⟩
    · exact ⟨rfl, rfl⟩

/-- The run of a straight program ends with the first rejected question, in the world that the
undisturbed run meets there. -/
theorem run_rejected (r : Rejecting h clean arm rejected reason note) {p : Program I α}
    (straight : p.Straight Q) {s t : σ} (start : clean s) {q : I.Question}
    {before after : List (I.Question × σ)} (cut : p.trace h s = before ++ (q, t) :: after)
    (none_before : ∀ x ∈ before, ¬ rejected x.1) (first : rejected q) :
    p.run h (arm s) = (.refused (reason q), arm (note q t)) ∧
      p.asked h (arm s) = before.map Prod.fst ++ [q] := by
  induction p generalizing s before with
  | done result => simp [trace] at cut
  | ask q₀ next ih =>
    obtain ⟨-, ends, rest⟩ := straight
    cases before with
    | nil =>
      simp only [trace, List.nil_append, List.cons.injEq, Prod.mk.injEq] at cut
      obtain ⟨⟨rfl, rfl⟩, -⟩ := cut
      simp only [run, asked, r.stops q₀ s start first, ends, List.map_nil, List.nil_append,
        and_self]
    | cons x before =>
      simp only [trace, List.cons_append, List.cons.injEq] at cut
      obtain ⟨rfl, cut⟩ := cut
      have pass := r.passes q₀ s start (none_before _ List.mem_cons_self)
      have still := r.clean_stays q₀ s start
      have later : ∀ x ∈ before, ¬ rejected x.1 := fun x member =>
        none_before x (List.mem_cons_of_mem _ member)
      simp only [run, asked, pass]
      generalize h q₀ s = x at still cut ⊢
      rcases x with ⟨a | f | m, u⟩
      · obtain ⟨sameRun, sameAsked⟩ := ih (.ok a) (rest a) still cut later
        exact ⟨sameRun, congrArg (q₀ :: ·) sameAsked⟩
      · -- an answer that is a refusal of its own ends the program, so nothing is left to reject
        simp only [ends, trace] at cut
        exact absurd cut (by simp)
      · exact absurd cut (by simp)

end Rejection
end Provisioning.Program
