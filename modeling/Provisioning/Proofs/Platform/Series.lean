import Provisioning.Proofs.Platform.Growth
import Provisioning.Proofs.Program.Attempts

/-!
Series of calls to one workspace.  Calls that read leave their keys in the log; what a series has
changed in the workspace is what its calls have changed one after another.
-/
namespace Provisioning.Platform

open Program

variable {I : Interface} {α β : Type}

def logged (keys : List String) (p : Platform) : Platform := { p with calls := p.calls ++ keys }

variable (p : Platform) (w : String) (keys : List String) (f g : WorkspaceData → WorkspaceData)

@[simp] theorem data_logged : (p.logged keys).data = p.data := rfl

@[simp] theorem rejects_logged (key : String) : (p.logged keys).rejects key = p.rejects key := rfl

theorem record_eq_logged (key : String) : p.record key = p.logged [key] := rfl

theorem logged_nil : p.logged [] = p := by
  unfold logged
  rw [List.append_nil]

@[simp] theorem logged_logged (first second : List String) :
    (p.logged first).logged second = p.logged (first ++ second) := by
  unfold logged
  simp only [List.append_assoc]

theorem logged_modifyData : (p.modifyData w f).logged keys = (p.logged keys).modifyData w f := rfl

theorem modifyData_modifyData :
    (p.modifyData w f).modifyData w g = p.modifyData w fun d => g (f d) := by
  unfold modifyData setData
  simp only [updated_same, updated_updated]

theorem modifyData_id : p.modifyData w (fun d => d) = p := by
  unfold modifyData setData
  rw [updated_self]

variable {f g} in
theorem modifyData_congr (same : f (p.data w) = g (p.data w)) : p.modifyData w f = p.modifyData w g :=
  congrArg (p.setData w) same

variable {w f g} in
theorem modifyData_comm {v : String} (commute : ∀ d, f (g d) = g (f d)) :
    (p.modifyData w f).modifyData v g = (p.modifyData v g).modifyData w f := by
  by_cases same : v = w
  · subst same
    rw [modifyData_modifyData, modifyData_modifyData]
    exact congrArg (p.modifyData v) (funext fun d => (commute d).symm)
  · have other : w ≠ v := fun equal => same equal.symm
    unfold modifyData setData
    simp only [updated_other _ _ same, updated_other _ _ other]
    rw [updated_comm _ other]

theorem handler_eq (c : Call) : handler c p =
    if p.rejects c.key then (.refused (rejection c.key), p.logged [c.key])
    else (.ofExcept (answer c (p.logged [c.key])).1, (answer c (p.logged [c.key])).2) := by
  cases decision : p.rejects c.key with
  | true => exact handler_rejected decision
  | false => exact handler_accepted decision

variable {p w}

theorem handler_of_reading {c : Call} {a : c.Answer}
    (reads : answer c (p.logged [c.key]) = (.ok a, p.logged [c.key])) : handler c p =
      (if p.rejects c.key then .refused (rejection c.key) else .answered a, p.logged [c.key]) := by
  rw [handler_eq, reads]
  split <;> rfl

/-- A series whose parts each make their calls and change the workspace in their own way. -/
theorem run_series {h : Handler I Platform} {part : α → Program I β} {value : α → β}
    {keys : α → List String} {change : α → WorkspaceData → WorkspaceData}
    {standing : List α → Platform → Prop}
    (single : ∀ a rest q, standing (a :: rest) q →
      (part a).run h q = (.answered (value a), (q.logged (keys a)).modifyData w (change a)) ∧
      standing rest ((q.logged (keys a)).modifyData w (change a)))
    (as : List α) (start : standing as p) :
    (each part as).run h p = (.answered (as.map value),
      (p.logged (as.flatMap keys)).modifyData w fun d => as.foldl (fun d a => change a d) d) := by
  have folded : ∀ (as : List α) (q : Platform),
      as.foldl (fun q a => (q.logged (keys a)).modifyData w (change a)) q =
        (q.logged (as.flatMap keys)).modifyData w fun d => as.foldl (fun d a => change a d) d := by
    intro as
    induction as with
    | nil =>
      intro q
      exact ((modifyData_id _ w).trans (logged_nil q)).symm
    | cons a rest ih =>
      intro q
      rw [List.foldl_cons, ih, logged_modifyData, modifyData_modifyData, logged_logged]
      rfl
  rw [run_each single as start, folded]

end Provisioning.Platform
