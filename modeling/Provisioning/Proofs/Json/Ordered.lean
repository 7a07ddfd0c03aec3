import Provisioning.Json.Reader
import Provisioning.Proofs.Keyed.Ascending

/-!
JSON values whose objects keep their members in ascending order of the keys, each key once, at every level.
Reading a text gives no others.
-/
namespace Provisioning.Json

inductive Ordered : Json → Prop where
  | null : Ordered .null
  | bool {b : Bool} : Ordered (.bool b)
  | number {n : Number} : Ordered (.number n)
  | text {s : String} : Ordered (.text s)
  | list {items : List Json} : (∀ v ∈ items, Ordered v) → Ordered (.list items)
  | object {ms : Members} : Keyed.Ascending ms → (∀ m ∈ ms, Ordered m.2) → Ordered (.object ms)

theorem ordered_object_nil : Ordered (.object []) := .object Keyed.ascending_nil (List.forall_mem_nil _)

theorem ordered_put {key : String} {v : Json} {ms : Members} (ordered : Ordered (.object ms))
    (value : v.Ordered) : Ordered (.object (put key v ms)) := by
  cases ordered with
  | object ascending values =>
    refine .object (Keyed.ascending_insert key v ascending) fun m member => ?_
    rcases Keyed.mem_insert member with rfl | old
    · exact value
    · exact values m old

/-- What the readers give with this much fuel, when all that was read before is ordered. -/
structure ReadOrdered (fuel : Nat) : Prop where
  value : ∀ {cs rest : List Char} {v : Json}, readValue fuel cs = some (v, rest) → v.Ordered
  items : ∀ {acc : List Json} {cs rest : List Char} {v : Json}, (∀ a ∈ acc, a.Ordered) →
    readItems fuel acc cs = some (v, rest) → v.Ordered
  members : ∀ {acc : Members} {cs rest : List Char} {v : Json}, Ordered (.object acc) →
    readMembers fuel acc cs = some (v, rest) → v.Ordered

theorem readOrdered_zero : ReadOrdered 0 where
  value done := by cases done
  items _ done := by cases done
  members _ done := by cases done

theorem readOrdered_succ {fuel : Nat} (less : ReadOrdered fuel) : ReadOrdered (fuel + 1) where
  value done := by
    rw [readValue] at done
    split at done
    · split at done
      · cases done
        exact ordered_object_nil
      · exact less.members ordered_object_nil done
    · split at done
      · cases done
        exact .list (List.forall_mem_nil _)
      · exact less.items (List.forall_mem_nil _) done
    · obtain ⟨⟨s, rest⟩, -, same⟩ := Option.map_eq_some_iff.mp done
      cases same
      exact .text
    · cases done
      exact .bool
    · cases done
      exact .bool
    · cases done
      exact .null
    · obtain ⟨⟨n, rest⟩, -, same⟩ := Option.map_eq_some_iff.mp done
      cases same
      exact .number
  items before done := by
    rw [readItems] at done
    split at done
    · cases done
    · rename_i v rest read
      have all := List.forall_mem_cons.mpr ⟨less.value read, before⟩
      split at done
      · exact less.items all done
      · cases done
        exact .list fun v member => all v (List.mem_reverse.mp member)
      · cases done
  members before done := by
    rw [readMembers] at done
    split at done
    case h_2 => cases done
    split at done
    · cases done
    · split at done
      case h_2 => cases done
      split at done
      · cases done
      · rename_i v _ read
        have more : ∀ key, Ordered (.object (put key v _)) := fun key => ordered_put before (less.value read)
        split at done
        · exact less.members (more _) done
        · cases done
          exact more _
        · cases done

theorem readOrdered (fuel : Nat) : ReadOrdered fuel := by
  induction fuel with
  | zero => exact readOrdered_zero
  | succ fuel less => exact readOrdered_succ less

theorem ordered_of_read {s : String} {v : Json} (done : read s = some v) : v.Ordered := by
  rw [read] at done
  split at done
  · rename_i found
    split at done
    · cases done
      exact (readOrdered _).value found
    · cases done
  · cases done

end Provisioning.Json
