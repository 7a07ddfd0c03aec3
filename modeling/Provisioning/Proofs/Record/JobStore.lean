import Provisioning.Engine

/-!
What is found in the store after writing a record, and what final records are like.
-/
namespace Provisioning

namespace JobStore

theorem find?_others (s : JobStore) {t u : JobToken} (other : t ≠ u) :
    (s.records.filter (·.token ≠ u)).find? (·.token = t) = s.find? t := by
  rw [List.find?_filter, find?]
  congr 1
  funext r
  by_cases hit : r.token = t
  · simp [hit, other]
  · simp [hit]

/-- A record is found under its token, provided that it could be written; the rest is as before. -/
theorem find?_put (s : JobStore) (r : JobRecord) (t : JobToken) :
    (s.put r).2.find? t = if t = r.token ∧ s.isOpen r.token then some r else s.find? t := by
  unfold put
  cases writable : s.isOpen r.token with
  | false => simp
  | true =>
    by_cases same : t = r.token
    · subst same
      simp [find?]
    · have miss : ¬ (t = r.token ∧ true = true) := fun both => same both.1
      rw [if_neg miss, if_pos rfl]
      exact (List.find?_cons_of_neg (by simpa using Ne.symm same)).trans (s.find?_others same)

theorem find?_put_other {s : JobStore} {r : JobRecord} {t : JobToken} (other : t ≠ r.token) :
    (s.put r).2.find? t = s.find? t := by
  rw [find?_put, if_neg fun both => other both.1]

/-- What has come to its end is found unchanged, whatever is written. -/
theorem find?_put_of_terminal {s : JobStore} {t : JobToken} {old : JobRecord}
    (found : s.find? t = some old) (terminal : old.status.isTerminal = true) (r : JobRecord) :
    (s.put r).2.find? t = some old := by
  rw [find?_put]
  split
  · rename_i both
    obtain ⟨rfl, writable⟩ := both
    simp [isOpen, found, terminal] at writable
  · exact found

theorem get_of_find? {s : JobStore} {t : JobToken} {r : JobRecord} (found : s.find? t = some r)
    (now : Timestamp) : s.get t now = r := by
  rw [get, found, Option.getD_some]

theorem token_of_find? (s : JobStore) {t : JobToken} {r : JobRecord} (found : s.find? t = some r) :
    r.token = t := by
  simpa using List.find?_some found

theorem token_get (s : JobStore) (t : JobToken) (now : Timestamp) : (s.get t now).token = t := by
  unfold get
  cases found : s.find? t with
  | none => rfl
  | some r => exact s.token_of_find? found

end JobStore

namespace JobRecord

variable (r : JobRecord) (now : Timestamp) (reply : Reply Completion)

theorem finish_answered (c : Completion) : r.finish now (.answered c) =
    { r.complete c.message c.info now with updates := c.updates.or r.updates } := by
  obtain ⟨_, _, _, _ | _⟩ := c <;> rfl

theorem token_finish : (r.finish now reply).token = r.token := by
  rcases reply with c | f | m
  · rw [finish_answered]
    rfl
  · rfl
  · rfl

theorem terminal_finish : (r.finish now reply).status.isTerminal = true := by
  rcases reply with c | f | m
  · rw [finish_answered]
    rfl
  · rfl
  · rfl

end JobRecord
end Provisioning
