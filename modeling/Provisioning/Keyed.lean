/-!
Values by key, as a list in ascending order of the keys.  Putting a value under a key keeps the
place of the key, or gives it its place in the order; what stands under other keys is not touched.
-/
namespace Provisioning

abbrev Keyed (α : Type) := List (String × α)

namespace Keyed

def insert (key : String) (a : α) : Keyed α → Keyed α
  | [] => [(key, a)]
  | (k, b) :: rest =>
    if key < k then (key, a) :: (k, b) :: rest
    else if key = k then (key, a) :: rest
    else (k, b) :: insert key a rest

def erase (key : String) (m : Keyed α) : Keyed α := m.filter (·.1 != key)

def find? (key : String) (m : Keyed α) : Option α := m.lookup key

def contains (key : String) (m : Keyed α) : Bool := (m.find? key).isSome

def keys (m : Keyed α) : List String := m.map (·.1)

def values (m : Keyed α) : List α := m.map (·.2)

theorem find?_cons (key k : String) (a : α) (m : Keyed α) :
    find? key ((k, a) :: m) = if key = k then some a else find? key m := by
  by_cases h : key = k
  · simp [find?, h]
  · simp [find?, List.lookup_cons, h, beq_eq_false_iff_ne.2 h]

theorem find?_insert (key other : String) (a : α) (m : Keyed α) :
    (insert key a m).find? other = if other = key then some a else m.find? other := by
  induction m with
  | nil => simp [insert, find?_cons]
  | cons x rest ih => grind [insert, find?_cons]

theorem find?_erase (key other : String) (m : Keyed α) :
    (erase key m).find? other = if other = key then none else m.find? other := by
  induction m with
  | nil => simp [erase, find?]
  | cons x rest ih => grind [erase, find?_cons]

end Keyed
end Provisioning
