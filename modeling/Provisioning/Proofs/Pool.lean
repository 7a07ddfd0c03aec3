import Mathlib.Data.List.Forall2
import Provisioning.Pool

/-!
What a pool of workers keeps to, whichever task makes the next step.  A slot is either free or held by one
task, the counter is raised after a slot was taken and lowered before it is given back, and a panic takes the
same way out as a value.  So a counter that differs from the number of held slots tells of tasks that are just
entering or leaving, and there are none of these where every task waits.
-/
namespace Provisioning

variable {α : Type}

/-- What the handle carries, by how the body of the task ended. -/
inductive Carries : Ending α → TaskEnd α → Prop where
  | value (a : α) : Carries (.ok a) (.ok a)
  | text (message : String) : Carries (.error (some message)) (.error ⟨message⟩)
  | other : Carries (.error none) (.error ⟨"unknown panic payload"⟩)

theorem carries_panic (payload : Payload) :
    Carries (.error payload : Ending α) (.error (.ofPayload payload)) := by
  cases payload with
  | none => exact .other
  | some message => exact .text message

inductive PoolEvent (α : Type) where
  | spawn (ending : Ending α) (waits : Nat)
  | move (place : Nat)

namespace PoolTask

def Sound (t : PoolTask α) : Prop :=
  match t.phase with
  | .panicking payload => t.ending = .error payload
  | .ended result | .leaving result | .finished result => Carries t.ending result
  | _ => True

def left (t : PoolTask α) : Nat :=
  match t.phase with
  | .waiting => t.waits + 6
  | .admitted => t.waits + 5
  | .running n => n + 4
  | .panicking _ => 3
  | .ended _ => 2
  | .leaving _ => 1
  | .finished _ => 0

end PoolTask

namespace Pool

/-- What happens to a pool whose tasks go on by such moves; one that cannot move is passed over. -/
def happen (move : Pool α → Nat → Option (Pool α)) (p : Pool α) : PoolEvent α → Pool α
  | .spawn ending waits => p.spawn ending waits
  | .move place => (move p place).getD p

def after (move : Pool α → Nat → Option (Pool α)) (p : Pool α) (events : List (PoolEvent α)) : Pool α :=
  events.foldl (happen move) p

/-- The steps that there are, with what each does to the slots and to the counter. -/
inductive Steps : Pool α → Nat → Pool α → Prop where
  | takesSlot {size free waits : Nat} {active : Int} {before after : List (PoolTask α)} {ending : Ending α} :
    Steps ⟨size, free + 1, active, before ++ ⟨ending, waits, .waiting⟩ :: after⟩ before.length
      ⟨size, free, active, before ++ ⟨ending, waits, .admitted⟩ :: after⟩
  | isCounted {size free waits : Nat} {active : Int} {before after : List (PoolTask α)} {ending : Ending α} :
    Steps ⟨size, free, active, before ++ ⟨ending, waits, .admitted⟩ :: after⟩ before.length
      ⟨size, free, active + 1, before ++ ⟨ending, waits, .running waits⟩ :: after⟩
  | goesOn {size free waits n : Nat} {active : Int} {before after : List (PoolTask α)} {ending : Ending α} :
    Steps ⟨size, free, active, before ++ ⟨ending, waits, .running (n + 1)⟩ :: after⟩ before.length
      ⟨size, free, active, before ++ ⟨ending, waits, .running n⟩ :: after⟩
  | returns {size free waits : Nat} {active : Int} {before after : List (PoolTask α)} {a : α} :
    Steps ⟨size, free, active, before ++ ⟨.ok a, waits, .running 0⟩ :: after⟩ before.length
      ⟨size, free, active, before ++ ⟨.ok a, waits, .ended (.ok a)⟩ :: after⟩
  | panics {size free waits : Nat} {active : Int} {before after : List (PoolTask α)} {payload : Payload} :
    Steps ⟨size, free, active, before ++ ⟨.error payload, waits, .running 0⟩ :: after⟩ before.length
      ⟨size, free, active, before ++ ⟨.error payload, waits, .panicking payload⟩ :: after⟩
  | isCaught {size free waits : Nat} {active : Int} {before after : List (PoolTask α)} {ending : Ending α}
      {payload : Payload} :
    Steps ⟨size, free, active, before ++ ⟨ending, waits, .panicking payload⟩ :: after⟩ before.length
      ⟨size, free, active, before ++ ⟨ending, waits, .ended (.error (.ofPayload payload))⟩ :: after⟩
  | isUncounted {size free waits : Nat} {active : Int} {before after : List (PoolTask α)} {ending : Ending α}
      {result : TaskEnd α} :
    Steps ⟨size, free, active, before ++ ⟨ending, waits, .ended result⟩ :: after⟩ before.length
      ⟨size, free, active - 1, before ++ ⟨ending, waits, .leaving result⟩ :: after⟩
  | givesBack {size free waits : Nat} {active : Int} {before after : List (PoolTask α)} {ending : Ending α}
      {result : TaskEnd α} :
    Steps ⟨size, free, active, before ++ ⟨ending, waits, .leaving result⟩ :: after⟩ before.length
      ⟨size, free + 1, active, before ++ ⟨ending, waits, .finished result⟩ :: after⟩

structure Kept (bound : Nat) (spawned : List (Ending α)) (p : Pool α) : Prop where
  slots : p.free + p.held = bound
  counted : p.active = p.counted
  sound : ∀ t ∈ p.tasks, t.Sound
  endings : p.tasks.map (·.ending) = spawned

def left (p : Pool α) : Nat := p.tasks.foldr (fun t n => t.left + n) 0

variable {p q : Pool α} {bound i : Nat} {spawned : List (Ending α)}

/-! One step -/

theorem countP_cut (f : PoolTask α → Bool) (before after : List (PoolTask α)) (t : PoolTask α) :
    (before ++ t :: after).countP f = before.countP f + after.countP f + if f t then 1 else 0 := by
  rw [List.countP_append, List.countP_cons]
  omega

theorem Steps.sound (steps : p.Steps i q) (sound : ∀ t ∈ p.tasks, t.Sound) : ∀ t ∈ q.tasks, t.Sound := by
  have cut : ∀ {before after : List (PoolTask α)} {t u : PoolTask α}, (t.Sound → u.Sound) →
      (∀ x ∈ before ++ t :: after, x.Sound) → ∀ x ∈ before ++ u :: after, x.Sound := by
    intro before after t u keeps all x member
    rcases List.mem_append.mp member with early | late
    · exact all x (List.mem_append_left _ early)
    · rcases List.mem_cons.mp late with rfl | late
      · exact keeps (all t (List.mem_append_right _ List.mem_cons_self))
      · exact all x (List.mem_append_right _ (List.mem_cons_of_mem _ late))
  cases steps with
  | takesSlot | isCounted | goesOn => exact cut (fun _ => trivial) sound
  | returns => exact cut (fun _ => .value _) sound
  | panics => exact cut (fun _ => rfl) sound
  | isCaught =>
    refine cut ?_ sound
    intro raised
    change _ = _ at raised
    subst raised
    exact carries_panic _
  | isUncounted | givesBack =>
    refine cut ?_ sound
    intro carries
    exact carries

theorem Steps.endings (steps : p.Steps i q) : q.tasks.map (·.ending) = p.tasks.map (·.ending) := by
  cases steps <;> simp

theorem Steps.kept (steps : p.Steps i q) (kept : p.Kept bound spawned) : q.Kept bound spawned := by
  have sound := steps.sound kept.sound
  have endings := steps.endings.trans kept.endings
  obtain ⟨slots, counted, -, -⟩ := kept
  cases steps
  all_goals
    simp only [held, Pool.counted, countP_cut, Phase.holdsSlot, Phase.isCounted, if_true, if_false,
      Bool.false_eq_true] at slots counted
    refine ⟨?_, ?_, sound, endings⟩
    all_goals
      simp only [held, Pool.counted, countP_cut, Phase.holdsSlot, Phase.isCounted, if_true, if_false,
        Bool.false_eq_true]
      omega

theorem pending_cut (size free : Nat) (active : Int) (before after : List (PoolTask α)) (t : PoolTask α) :
    pending ⟨size, free, active, before ++ t :: after⟩ before.length = t.phase.pending := by
  simp [pending]

theorem Steps.pending (steps : p.Steps i q) {n : Nat} (hurries : p.pending i = n + 1) : q.pending i = n := by
  cases steps
  all_goals
    rw [pending_cut] at hurries ⊢
    simp only [Phase.pending] at hurries ⊢
    omega

end Pool
end Provisioning
