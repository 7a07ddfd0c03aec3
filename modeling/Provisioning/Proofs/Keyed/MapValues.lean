import Provisioning.Keyed

/-!
Keyed lists with every value replaced.  The keys stay, so looking up, inserting and erasing may as well
be done before as after.
-/
namespace Provisioning.Keyed

variable {α β : Type} (f : α → β) (key : String) (m : Keyed α)

def mapValues (m : Keyed α) : Keyed β := m.map fun e => (e.1, f e.2)

theorem mapValues_cons (e : String × α) : mapValues f (e :: m) = (e.1, f e.2) :: mapValues f m := rfl

theorem find?_mapValues : (m.mapValues f).find? key = (m.find? key).map f := by
  induction m with
  | nil => rfl
  | cons first rest ih =>
    rw [mapValues_cons, find?_cons, find?_cons, ih]
    split <;> rfl

theorem contains_mapValues : (m.mapValues f).contains key = m.contains key := by
  rw [contains, find?_mapValues, Option.isSome_map]
  rfl

theorem mapValues_insert (a : α) :
    (insert key a m).mapValues f = insert key (f a) (m.mapValues f) := by
  induction m with
  | nil => rfl
  | cons first rest ih =>
    rw [mapValues_cons, insert, insert, ← ih]
    split
    · rfl
    · split <;> rfl

theorem mapValues_erase : (erase key m).mapValues f = erase key (m.mapValues f) := by
  rw [erase, erase, mapValues, mapValues, List.filter_map]
  rfl

end Provisioning.Keyed
