import Provisioning.Json.Value

/-!
JSON values that are the same.  To be the same is an equivalence, and values that are the same hold the
same at every place inside them, however deep.
-/
namespace Provisioning

theorem Decimal.Double.same_refl (x : Decimal.Double) : x.same x = true := by
  simp [Decimal.Double.same]

theorem Number.same_refl (n : Number) : n.same n = true := by
  cases n with
  | int n => exact BEq.rfl
  | float x => exact x.same_refl

theorem Decimal.Double.same_symm {x y : Decimal.Double} (same : x.same y = true) : y.same x = true := by
  grind [Decimal.Double.same]

theorem Decimal.Double.same_trans {x y z : Decimal.Double} (first : x.same y = true)
    (second : y.same z = true) : x.same z = true := by
  grind [Decimal.Double.same]

theorem Number.same_symm {n m : Number} (same : n.same m = true) : m.same n = true := by
  cases n with
  | int a =>
    cases m with
    | int b => exact BEq.symm same
    | float y => cases same
  | float x =>
    cases m with
    | int b => cases same
    | float y => exact Decimal.Double.same_symm same

theorem Number.same_trans {n m k : Number} (first : n.same m = true) (second : m.same k = true) :
    n.same k = true := by
  cases n with
  | int a =>
    cases m with
    | int b =>
      cases k with
      | int c => exact BEq.trans first second
      | float z => cases second
    | float y => cases first
  | float x =>
    cases m with
    | int b => cases first
    | float y =>
      cases k with
      | int c => cases second
      | float z => exact Decimal.Double.same_trans first second

namespace Json

mutual

theorem same_refl (v : Json) : v.same v = true := by
  cases v with
  | null => rfl
  | bool b => cases b <;> rfl
  | number n => exact n.same_refl
  | text s => exact BEq.rfl
  | list items => exact sameItems_refl items
  | object members => exact sameMembers_refl members

theorem sameItems_refl (vs : List Json) : sameItems vs vs = true := by
  cases vs with
  | nil => rfl
  | cons v rest => exact Bool.and_eq_true_iff.mpr ⟨same_refl v, sameItems_refl rest⟩

theorem sameMembers_refl (ms : Members) : sameMembers ms ms = true := by
  cases ms with
  | nil => rfl
  | cons m rest =>
    obtain ⟨k, v⟩ := m
    simp only [sameMembers, BEq.rfl, Bool.true_and, Bool.and_eq_true]
    exact ⟨same_refl v, sameMembers_refl rest⟩

end

mutual

theorem same_symm {v w : Json} (same : v.same w = true) : w.same v = true :=
  match v, w with
  | .null, .null => rfl
  | .bool _, .bool _ => BEq.symm same
  | .number _, .number _ => Number.same_symm same
  | .text _, .text _ => BEq.symm same
  | .list _, .list _ => sameItems_symm same
  | .object _, .object _ => sameMembers_symm same

theorem sameItems_symm {as bs : List Json} (same : sameItems as bs = true) :
    sameItems bs as = true :=
  match as, bs with
  | [], [] => rfl
  | a :: as, b :: bs => by
    simp only [sameItems, Bool.and_eq_true] at same ⊢
    exact ⟨same_symm same.1, sameItems_symm same.2⟩

theorem sameMembers_symm {as bs : Members} (same : sameMembers as bs = true) :
    sameMembers bs as = true :=
  match as, bs with
  | [], [] => rfl
  | (k, a) :: as, (l, b) :: bs => by
    simp only [sameMembers, Bool.and_eq_true] at same ⊢
    exact ⟨⟨BEq.symm same.1.1, same_symm same.1.2⟩, sameMembers_symm same.2⟩

end

mutual

theorem same_trans {u v w : Json} (first : u.same v = true) (second : v.same w = true) :
    u.same w = true :=
  match u, v, w with
  | .null, .null, .null => rfl
  | .bool _, .bool b, .bool _ => BEq.trans (b := b) first second
  | .number _, .number m, .number _ => Number.same_trans (m := m) first second
  | .text _, .text t, .text _ => BEq.trans (b := t) first second
  | .list _, .list bs, .list _ => sameItems_trans (show sameItems _ bs = true from first) second
  | .object _, .object bs, .object _ => sameMembers_trans (show sameMembers _ bs = true from first) second

theorem sameItems_trans {as bs cs : List Json} (first : sameItems as bs = true)
    (second : sameItems bs cs = true) : sameItems as cs = true :=
  match as, bs, cs with
  | [], [], [] => rfl
  | a :: as, b :: bs, c :: cs => by
    simp only [sameItems, Bool.and_eq_true] at first second ⊢
    exact ⟨same_trans first.1 second.1, sameItems_trans first.2 second.2⟩

theorem sameMembers_trans {as bs cs : Members} (first : sameMembers as bs = true)
    (second : sameMembers bs cs = true) : sameMembers as cs = true :=
  match as, bs, cs with
  | [], [], [] => rfl
  | (k, a) :: as, (l, b) :: bs, (m, c) :: cs => by
    simp only [sameMembers, Bool.and_eq_true] at first second ⊢
    exact ⟨⟨BEq.trans first.1.1 second.1.1, same_trans first.1.2 second.1.2⟩,
      sameMembers_trans first.2 second.2⟩

end

theorem same_text_iff {s t : String} : (text s).same (text t) = true ↔ s = t := by simp [same]

theorem same_int_iff {m n : Int} : (int m).same (int n) = true ↔ m = n := by
  simp [int, same, Number.same]

theorem sameItems_map_iff {α : Type} {f : α → Json} (injective : ∀ a b, (f a).same (f b) = true ↔ a = b)
    {as bs : List α} : sameItems (as.map f) (bs.map f) = true ↔ as = bs := by
  induction as generalizing bs with
  | nil => cases bs <;> simp [sameItems]
  | cons a rest ih => cases bs <;> simp [sameItems, injective, ih]

theorem find?_of_sameMembers {as bs : Members} (same : sameMembers as bs = true) {key : String}
    {v : Json} (found : Keyed.find? key as = some v) :
    ∃ u, Keyed.find? key bs = some u ∧ v.same u = true := by
  induction as generalizing bs with
  | nil => cases found
  | cons m rest ih =>
    obtain ⟨k, a⟩ := m
    cases bs with
    | nil => cases same
    | cons n others =>
      obtain ⟨l, b⟩ := n
      simp only [sameMembers, Bool.and_eq_true, beq_iff_eq] at same
      obtain ⟨⟨rfl, values⟩, later⟩ := same
      rw [Keyed.find?_cons] at found ⊢
      by_cases here : key = k
      · rw [if_pos here] at found ⊢
        cases found
        exact ⟨b, rfl, values⟩
      · rw [if_neg here] at found ⊢
        exact ih later found

theorem member?_of_same {v w : Json} (same : v.same w = true) {key : String} {a : Json}
    (found : v.member? key = some a) : ∃ b, w.member? key = some b ∧ a.same b = true := by
  cases v with
  | object ms =>
    cases w with
    | object ns => exact find?_of_sameMembers same found
    | _ => cases same
  | _ => cases found

theorem sameMembers_insert {as bs : Members} (same : sameMembers as bs = true) {key : String} {a b : Json}
    (values : a.same b = true) :
    sameMembers (Keyed.insert key a as) (Keyed.insert key b bs) = true := by
  induction as generalizing bs with
  | nil =>
    cases bs with
    | nil => simp [Keyed.insert, sameMembers, values]
    | cons n others => cases same
  | cons m rest ih =>
    obtain ⟨k, u⟩ := m
    cases bs with
    | nil => cases same
    | cons n others =>
      obtain ⟨l, w⟩ := n
      simp only [sameMembers, Bool.and_eq_true, beq_iff_eq] at same
      obtain ⟨⟨rfl, here⟩, later⟩ := same
      rw [Keyed.insert, Keyed.insert]
      split
      · simp [sameMembers, values, here, later]
      · split
        · simp [sameMembers, values, later]
        · simp [sameMembers, here, ih later]

/-! Places inside a value -/

inductive Step where
  | member (key : String)
  | item (index : Nat)
  deriving DecidableEq, Repr

def down? : Step → Json → Option Json
  | .member key, v => v.member? key
  | .item index, v => v.asList?.bind (·[index]?)

/-- What stands at the end of a way down, if it leads anywhere. -/
def at? : List Step → Json → Option Json
  | [], v => some v
  | step :: rest, v => (v.down? step).bind (at? rest)

def Alike : Option Json → Option Json → Prop
  | some v, some w => v.same w = true
  | none, none => True
  | _, _ => False

instance : (v w : Option Json) → Decidable (Alike v w)
  | some v, some w => inferInstanceAs (Decidable (v.same w = true))
  | none, none => .isTrue trivial
  | some _, none => .isFalse id
  | none, some _ => .isFalse id

theorem getElem?_of_sameItems {as bs : List Json} (same : sameItems as bs = true) {index : Nat}
    {a : Json} (found : as[index]? = some a) : ∃ b, bs[index]? = some b ∧ a.same b = true := by
  induction as generalizing bs index with
  | nil => cases found
  | cons first rest ih =>
    cases bs with
    | nil => cases same
    | cons other others =>
      simp only [sameItems, Bool.and_eq_true] at same
      cases index with
      | zero =>
        cases found
        exact ⟨other, rfl, same.1⟩
      | succ index => exact ih same.2 found

theorem down?_of_same {v w : Json} (same : v.same w = true) {step : Step} {a : Json}
    (found : v.down? step = some a) : ∃ b, w.down? step = some b ∧ a.same b = true := by
  cases step with
  | member key => exact member?_of_same same found
  | item index =>
    cases v with
    | list as =>
      cases w with
      | list bs => exact getElem?_of_sameItems same found
      | _ => cases same
    | _ => cases found

theorem at?_of_same {v w : Json} (same : v.same w = true) {path : List Step} {a : Json}
    (found : v.at? path = some a) : ∃ b, w.at? path = some b ∧ a.same b = true := by
  induction path generalizing v w with
  | nil =>
    cases found
    exact ⟨w, rfl, same⟩
  | cons step rest ih =>
    obtain ⟨u, here, later⟩ := Option.bind_eq_some_iff.mp found
    obtain ⟨x, there, alike⟩ := down?_of_same same here
    rw [at?, there, Option.bind_some]
    exact ih alike later

theorem alike_of_same {v w : Json} (same : v.same w = true) (path : List Step) :
    Alike (v.at? path) (w.at? path) := by
  cases left : v.at? path with
  | some a =>
    obtain ⟨b, right, alike⟩ := at?_of_same same left
    rw [right]
    exact alike
  | none =>
    cases right : w.at? path with
    | none => trivial
    | some b =>
      obtain ⟨a, found, -⟩ := at?_of_same (same_symm same) right
      rw [left] at found
      cases found

end Json
end Provisioning
