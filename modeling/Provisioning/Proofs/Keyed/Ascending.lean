import Mathlib.Data.String.Basic
import Provisioning.Keyed

/-!
Keyed lists in ascending order, each key once.  Inserting and erasing keep the order, and in such a
list inserting puts one entry in the place of the one under its key, if there is one.
-/
namespace Provisioning.Keyed

variable {α : Type} {m : Keyed α}

def Ascending (m : Keyed α) : Prop := m.Pairwise (·.1 < ·.1)

theorem ascending_nil : Ascending ([] : Keyed α) := List.Pairwise.nil

theorem ascending_erase (key : String) (ordered : Ascending m) : Ascending (erase key m) :=
  List.Pairwise.filter _ ordered

theorem mem_insert {key : String} {a : α} {e : String × α} (member : e ∈ insert key a m) :
    e = (key, a) ∨ e ∈ m := by
  induction m with
  | nil => exact .inl (List.mem_singleton.mp member)
  | cons first rest ih =>
    obtain ⟨k, b⟩ := first
    rw [insert] at member
    split at member
    · exact List.mem_cons.mp member
    · split at member
      · rcases List.mem_cons.mp member with new | old
        · exact .inl new
        · exact .inr (List.mem_cons_of_mem _ old)
      · rcases List.mem_cons.mp member with old | later
        · exact .inr (old ▸ List.mem_cons_self)
        · rcases ih later with new | old
          · exact .inl new
          · exact .inr (List.mem_cons_of_mem _ old)

theorem ascending_insert (key : String) (a : α) (ordered : Ascending m) :
    Ascending (insert key a m) := by
  induction m with
  | nil => exact List.pairwise_singleton _ _
  | cons first rest ih =>
    obtain ⟨k, b⟩ := first
    obtain ⟨least, tail⟩ := List.pairwise_cons.mp ordered
    rw [insert]
    split
    · rename_i before
      refine List.pairwise_cons.mpr ⟨?_, ordered⟩
      intro e member
      rcases List.mem_cons.mp member with rfl | later
      · exact before
      · exact lt_trans before (least e later)
    · rename_i notBefore
      split
      · rename_i same
        subst same
        exact List.pairwise_cons.mpr ⟨least, tail⟩
      · rename_i different
        refine List.pairwise_cons.mpr ⟨?_, ih tail⟩
        intro e member
        rcases mem_insert member with rfl | old
        · exact lt_of_le_of_ne (not_lt.mp notBefore) (Ne.symm different)
        · exact least e old

theorem find?_of_mem (ordered : Ascending m) {key : String} {a : α} (member : (key, a) ∈ m) :
    m.find? key = some a := by
  induction m with
  | nil => simp at member
  | cons first rest ih =>
    obtain ⟨k, b⟩ := first
    obtain ⟨least, tail⟩ := List.pairwise_cons.mp ordered
    rw [find?_cons]
    rcases List.mem_cons.mp member with same | later
    · cases same
      simp
    · have before : k < key := least _ later
      rw [if_neg (ne_of_gt before)]
      exact ih tail later

theorem mem_of_find? {key : String} {a : α} (found : m.find? key = some a) : (key, a) ∈ m := by
  induction m with
  | nil => simp [find?] at found
  | cons first rest ih =>
    obtain ⟨k, b⟩ := first
    rw [find?_cons] at found
    split at found
    · rename_i same
      cases found
      rw [same]
      exact List.mem_cons_self
    · exact List.mem_cons_of_mem _ (ih found)

theorem insert_of_find? (ordered : Ascending m) {key : String} {a : α}
    (found : m.find? key = some a) : insert key a m = m := by
  induction m with
  | nil => simp [find?] at found
  | cons first rest ih =>
    obtain ⟨k, b⟩ := first
    obtain ⟨least, tail⟩ := List.pairwise_cons.mp ordered
    rw [find?_cons] at found
    rw [insert]
    split at found
    · rename_i same
      cases found
      simp [same]
    · rename_i different
      have later := least _ (mem_of_find? found)
      rw [if_neg (not_lt_of_gt later), if_neg different, ih tail found]

theorem erase_of_forall_lt {key : String} (above : ∀ e ∈ m, key < e.1) : erase key m = m := by
  refine List.filter_eq_self.mpr ?_
  intro e member
  simpa using ne_of_gt (above e member)

theorem perm_insert (key : String) (a : α) (ordered : Ascending m) :
    (insert key a m).Perm ((key, a) :: erase key m) := by
  induction m with
  | nil => exact List.Perm.refl _
  | cons first rest ih =>
    obtain ⟨k, b⟩ := first
    obtain ⟨least, tail⟩ := List.pairwise_cons.mp ordered
    rw [insert]
    split
    · rename_i before
      rw [erase_of_forall_lt]
      intro e member
      rcases List.mem_cons.mp member with rfl | later
      · exact before
      · exact lt_trans before (least e later)
    · split
      · rename_i same
        subst same
        have dropped : erase key ((key, b) :: rest) = rest := by
          have kept : erase key rest = rest := erase_of_forall_lt least
          rw [erase] at kept ⊢
          simp [kept]
        rw [dropped]
      · rename_i different
        have kept : erase key ((k, b) :: rest) = (k, b) :: erase key rest := by
          simp [erase, Ne.symm different]
        rw [kept]
        exact ((ih tail).cons (k, b)).trans (List.Perm.swap _ _ _)

/-- When only the entry under the key satisfied `P`, its successor alone does afterwards. -/
theorem filter_insert (ordered : Ascending m) {P : String × α → Bool} {key : String} {a : α}
    (only : ∀ e ∈ m, P e = true → e.1 = key) (new : P (key, a) = true) :
    (insert key a m).filter P = [(key, a)] := by
  have others : (erase key m).filter P = [] := by
    refine List.filter_eq_nil_iff.mpr ?_
    intro e member satisfies
    obtain ⟨old, different⟩ := List.mem_filter.mp member
    simp [only e old satisfies] at different
  have moved := (perm_insert key a ordered).filter P
  rw [List.filter_cons_of_pos new, others] at moved
  exact List.perm_singleton.mp moved

/-- Where nothing satisfied `P`, what is inserted alone does afterwards. -/
theorem filter_insert_of_none {P : String × α → Bool} (none : ∀ e ∈ m, P e = false) {key : String}
    {a : α} (new : P (key, a) = true) : (insert key a m).filter P = [(key, a)] := by
  induction m with
  | nil => simp [insert, new]
  | cons first rest ih =>
    have dropped : P first = false := none first List.mem_cons_self
    have later : ∀ e ∈ rest, P e = false := fun e member => none e (List.mem_cons_of_mem _ member)
    have others : rest.filter P = [] := List.filter_eq_nil_iff.mpr fun e member => by
      simp [later e member]
    obtain ⟨k, b⟩ := first
    rw [insert]
    split
    · simp [new, dropped, others]
    · split
      · simp [new, others]
      · simp [dropped, ih later]

theorem find?_filter {key : String} (keep : String → Bool) (m : Keyed α) :
    find? key (m.filter fun e => keep e.1) = if keep key then m.find? key else none := by
  induction m with
  | nil => exact (ite_self none).symm
  | cons first rest ih =>
    obtain ⟨k, a⟩ := first
    rw [List.filter_cons, find?_cons]
    by_cases here : key = k
    · subst here
      cases kept : keep key with
      | true => simp [find?_cons]
      | false => simp [ih, kept]
    · rw [if_neg here, ← ih]
      split
      · rw [find?_cons, if_neg here]
      · rfl

theorem find?_filter_of_kept {key : String} (keep : String → Bool) (kept : keep key = true)
    (m : Keyed α) : find? key (m.filter fun e => keep e.1) = m.find? key := by
  rw [find?_filter, if_pos kept]

/-- What stands before the key may be left out before or after something is put there. -/
theorem filter_insert_of_before {keep : String → Bool} {key : String} (kept : keep key = true)
    (before : ∀ k, keep k = false → k < key) (a : α) (m : Keyed α) :
    (insert key a m).filter (fun e => keep e.1) = insert key a (m.filter fun e => keep e.1) := by
  induction m with
  | nil => exact List.filter_cons_of_pos kept
  | cons first rest ih =>
    obtain ⟨k, b⟩ := first
    cases here : keep k with
    | false =>
      have passed : insert key a ((k, b) :: rest) = (k, b) :: insert key a rest := by
        rw [insert, if_neg (not_lt_of_gt (before k here)), if_neg (ne_of_gt (before k here))]
      have dropped : ¬ keep k = true := by simp [here]
      rw [passed, List.filter_cons, if_neg dropped, List.filter_cons, if_neg dropped, ih]
    | true =>
      have stays : ((k, b) :: rest).filter (fun e => keep e.1) = (k, b) :: rest.filter fun e => keep e.1 :=
        List.filter_cons_of_pos here
      rw [stays, insert, insert]
      split
      · rw [List.filter_cons, if_pos kept, stays]
      · split
        · rw [List.filter_cons, if_pos kept]
        · rw [List.filter_cons, if_pos here, ih]

theorem filter_values (m : Keyed α) (f : α → Bool) :
    m.values.filter f = values (m.filter fun e => f e.2) := List.filter_map

theorem countP_erase_le (P : String × α → Bool) (key : String) (m : Keyed α) :
    (erase key m).countP P ≤ m.countP P :=
  List.Sublist.countP_le List.filter_sublist

theorem countP_insert_le (P : String × α → Bool) (key : String) (a : α) (m : Keyed α) :
    (insert key a m).countP P ≤ m.countP P + if P (key, a) then 1 else 0 := by
  induction m with
  | nil => simp [insert, List.countP_cons]
  | cons first rest ih =>
    obtain ⟨k, b⟩ := first
    rw [insert]
    split
    · simp only [List.countP_cons]
      omega
    · split
      · simp only [List.countP_cons]
        omega
      · simp only [List.countP_cons]
        omega

/-- Where only the entry under the key can satisfy what the new one does, no second one comes. -/
theorem countP_insert_le_max (ordered : Ascending m) {P : String × α → Bool} {key : String} {a : α}
    (only : P (key, a) = true → ∀ e ∈ m, P e = true → e.1 = key) :
    (insert key a m).countP P ≤ max 1 (m.countP P) := by
  cases new : P (key, a) with
  | true =>
    rw [List.countP_eq_length_filter, filter_insert ordered (only new) new]
    exact Nat.le_max_left _ _
  | false =>
    have bound := countP_insert_le P key a m
    simp only [new, Bool.false_eq_true, if_false, Nat.add_zero] at bound
    exact Nat.le_trans bound (Nat.le_max_right _ _)

end Provisioning.Keyed
