import Mathlib.Data.List.Sort
import Provisioning.Json.Difference
import Provisioning.Proofs.Json.Ordered
import Provisioning.Proofs.Json.Same

/-!
The differences of two JSON values are all there are.  Two objects are walked together, key by key, so
whatever holds of two values that are not both objects, and of two objects when it holds of the members
under every key, holds of any two: all that is said here of differences is shown along that walk.
-/
namespace Provisioning
namespace Json

variable {key : String} {ls rs ms ns : Members} {l r v w : Json}

/-! Members -/

theorem memberOrNull_cons (key k : String) (v : Json) (ms : Members) :
    memberOrNull key ((k, v) :: ms) = if key = k then v else memberOrNull key ms := by
  have found := Keyed.find?_cons key k v ms
  unfold Keyed.find? at found
  rw [memberOrNull, found]
  split <;> rfl

theorem memberOrNull_of_not_mem (missing : key ∉ Keyed.keys ms) : memberOrNull key ms = .null := by
  induction ms with
  | nil => rfl
  | cons first rest ih =>
    obtain ⟨other, later⟩ := not_or.mp (mt List.mem_cons.mpr missing)
    rw [memberOrNull_cons, if_neg other, ih later]

theorem memberOrNull_of_forall_lt (above : ∀ m ∈ ms, key < m.1) : memberOrNull key ms = .null := by
  refine memberOrNull_of_not_mem fun here => ?_
  obtain ⟨m, member, rfl⟩ := List.mem_map.mp here
  exact lt_irrefl _ (above m member)

/-! Keys of two objects -/

theorem mem_keys_insert {a : Unit} {k : String} {m : Keyed Unit} :
    key ∈ Keyed.keys (Keyed.insert k a m) ↔ key = k ∨ key ∈ Keyed.keys m := by
  induction m with
  | nil => simp [Keyed.insert, Keyed.keys]
  | cons first rest ih =>
    obtain ⟨other, b⟩ := first
    simp only [Keyed.keys, List.map_cons] at ih ⊢
    rw [Keyed.insert]
    split
    · simp
    · split
      · rename_i same
        simp [same]
      · simp only [List.map_cons, List.mem_cons, ih]
        exact or_left_comm

theorem mem_keys_foldl_insert {ms : Members} {m : Keyed Unit} :
    key ∈ Keyed.keys (ms.foldl (fun keys e => Keyed.insert e.1 () keys) m) ↔
      key ∈ Keyed.keys ms ∨ key ∈ Keyed.keys m := by
  induction ms generalizing m with
  | nil => simp [Keyed.keys]
  | cons first rest ih =>
    rw [List.foldl_cons, ih, mem_keys_insert]
    simp only [Keyed.keys, List.map_cons, List.mem_cons]
    exact or_left_comm.trans or_assoc.symm

theorem mem_joinedKeys : key ∈ joinedKeys ls rs ↔ key ∈ Keyed.keys ls ∨ key ∈ Keyed.keys rs := by
  rw [joinedKeys, mem_keys_foldl_insert]
  simp [Keyed.keys]

theorem ascending_joinedKeys (ls rs : Members) : (joinedKeys ls rs).Pairwise (· < ·) := by
  have kept : ∀ (ms : Members) (m : Keyed Unit), Keyed.Ascending m →
      Keyed.Ascending (ms.foldl (fun keys e => Keyed.insert e.1 () keys) m) := by
    intro ms
    induction ms with
    | nil => exact fun m ordered => ordered
    | cons first rest ih => exact fun m ordered => ih _ (Keyed.ascending_insert first.1 () ordered)
  exact List.pairwise_map.mpr (kept (ls ++ rs) [] Keyed.ascending_nil)

theorem joinedKeys_comm (ls rs : Members) : joinedKeys rs ls = joinedKeys ls rs :=
  (ascending_joinedKeys rs ls).eq_of_mem_iff (ascending_joinedKeys ls rs) fun key => by
    rw [mem_joinedKeys, mem_joinedKeys, or_comm]

/-! The walk -/

/-- Both sides are objects, so it is their members that are compared. -/
def Paired (l r : Json) : Prop := l.isObject = true ∧ r.isObject = true

instance (l r : Json) : Decidable (Paired l r) := inferInstanceAs (Decidable (_ ∧ _))

theorem pairs_induction {motive : Json → Json → Prop}
    (objects : ∀ ls rs, (∀ key, motive (memberOrNull key ls) (memberOrNull key rs)) →
      motive (.object ls) (.object rs))
    (others : ∀ l r, ¬ Paired l r → motive l r) (l r : Json) : motive l r := by
  by_cases paired : Paired l r
  · cases l with
    | object ls =>
      cases r with
      | object rs => exact objects ls rs fun key => pairs_induction objects others _ _
      | _ => cases paired.2
    | _ => cases paired.1
  · exact others l r paired
termination_by sizeOf l
decreasing_by exact sizeOf_memberOrNull_lt key ls

end Json

namespace Difference

/-- The same difference, seen from an object in which it stands under a key. -/
def under (key : String) (d : Difference) : Difference := { d with position := key :: d.position }

def swap (d : Difference) : Difference := { d with left := d.right, right := d.left }

end Difference

namespace Json

variable {key : String} {ls rs : Members} {l r v w : Json} {p : List String} {d : Difference}

theorem differencesAt_of_not_paired (p : List String) (apart : ¬ Paired l r) :
    differencesAt p l r = if l.same r then [] else [⟨p, l, r⟩] := by
  rw [differencesAt]
  rintro ls rs rfl rfl
  exact apart ⟨rfl, rfl⟩

theorem differencesAt_cons (key : String) (p : List String) (l r : Json) :
    differencesAt (key :: p) l r = (differencesAt p l r).map (.under key) := by
  induction l, r using pairs_induction generalizing p with
  | objects ls rs ih =>
    rw [differencesAt, differencesAt, List.map_flatMap]
    exact List.flatMap_congr fun k _ => ih k (p ++ [k])
  | others l r apart =>
    rw [differencesAt_of_not_paired _ apart, differencesAt_of_not_paired _ apart]
    split <;> rfl

theorem differences_object (ls rs : Members) : differences (.object ls) (.object rs) =
    (joinedKeys ls rs).flatMap fun key =>
      (differences (memberOrNull key ls) (memberOrNull key rs)).map (.under key) := by
  rw [differences, differencesAt]
  exact List.flatMap_congr fun key _ => differencesAt_cons key [] _ _

theorem differences_of_not_paired (apart : ¬ Paired l r) :
    differences l r = if l.same r then [] else [⟨[], l, r⟩] := differencesAt_of_not_paired [] apart

theorem differences_null : differences .null .null = [] := by
  rw [differences_of_not_paired (by decide), if_pos (same_refl _)]

/-- Keys that neither side has lead to no difference, so that of two objects may be said of all keys. -/
theorem mem_differences_object : d ∈ differences (.object ls) (.object rs) ↔
    ∃ key, ∃ e ∈ differences (memberOrNull key ls) (memberOrNull key rs), d = e.under key := by
  rw [differences_object]
  simp only [List.mem_flatMap, List.mem_map]
  constructor
  · rintro ⟨key, -, e, member, rfl⟩
    exact ⟨key, e, member, rfl⟩
  · rintro ⟨key, e, member, rfl⟩
    refine ⟨key, ?_, e, member, rfl⟩
    rw [mem_joinedKeys]
    by_contra neither
    obtain ⟨left, right⟩ := not_or.mp neither
    rw [memberOrNull_of_not_mem left, memberOrNull_of_not_mem right, differences_null] at member
    cases member

theorem differences_object_eq_nil_iff : differences (.object ls) (.object rs) = [] ↔
    ∀ key, differences (memberOrNull key ls) (memberOrNull key rs) = [] := by
  simp only [List.eq_nil_iff_forall_not_mem, mem_differences_object]
  constructor
  · intro none key e member
    exact none (e.under key) ⟨key, e, member, rfl⟩
  · rintro none d ⟨key, e, member, -⟩
    exact none key e member

/-! Swapping the sides -/

theorem same_comm (v w : Json) : w.same v = v.same w :=
  Bool.eq_iff_iff.mpr ⟨same_symm, same_symm⟩

theorem differences_swap (l r : Json) : differences r l = (differences l r).map .swap := by
  induction l, r using pairs_induction with
  | objects ls rs ih =>
    rw [differences_object, differences_object, List.map_flatMap, joinedKeys_comm]
    refine List.flatMap_congr fun key _ => ?_
    rw [ih key, List.map_map, List.map_map]
    rfl
  | others l r apart =>
    rw [differences_of_not_paired apart, differences_of_not_paired (mt And.symm apart), same_comm]
    split <;> rfl

/-! The order -/

/-- At the first key in which they part, the one comes before the other. -/
inductive Before : List String → List String → Prop where
  | here {k k' : String} {p q : List String} : k < k' → Before (k :: p) (k' :: q)
  | deeper {k : String} {p q : List String} : Before p q → Before (k :: p) (k :: q)

theorem pairwise_before (l r : Json) :
    (differences l r).Pairwise fun d e => Before d.position e.position := by
  induction l, r using pairs_induction with
  | objects ls rs ih =>
    rw [differences_object, List.pairwise_flatMap]
    constructor
    · intro key _
      exact List.pairwise_map.mpr ((ih key).imp .deeper)
    · refine (ascending_joinedKeys ls rs).imp fun before d first e second => ?_
      obtain ⟨x, -, rfl⟩ := List.mem_map.mp first
      obtain ⟨y, -, rfl⟩ := List.mem_map.mp second
      exact .here before
  | others l r apart =>
    rw [differences_of_not_paired apart]
    split
    · exact List.Pairwise.nil
    · exact List.pairwise_singleton _ _

/-! Positions -/

/-- What a position leads to; a member that is not there reads as null. -/
def reading : List String → Json → Json
  | [], v => v
  | key :: rest, v => reading rest ((v.member? key).getD .null)

/-- Up to this position the sides are both objects, so that they are compared there. -/
def Met : Json → Json → List String → Prop
  | _, _, [] => True
  | l, r, key :: rest => Paired l r ∧ Met ((l.member? key).getD .null) ((r.member? key).getD .null) rest

/-- The sides differ and are not both objects. -/
def Parted (l r : Json) : Prop := ¬ Paired l r ∧ l.same r = false

theorem same_member (same : v.same w = true) (key : String) :
    ((v.member? key).getD .null).same ((w.member? key).getD .null) = true := by
  cases left : v.member? key with
  | some a =>
    obtain ⟨b, right, alike⟩ := member?_of_same same left
    rw [right]
    exact alike
  | none =>
    cases right : w.member? key with
    | none => rfl
    | some b =>
      obtain ⟨a, found, -⟩ := member?_of_same (same_symm same) right
      rw [left] at found
      cases found

theorem same_reading (same : v.same w = true) (p : List String) :
    (reading p v).same (reading p w) = true := by
  induction p generalizing v w with
  | nil => exact same
  | cons key rest ih => exact ih (same_member same key)

/-- There is an entry for each position that is met and where the sides are parted, and no other. -/
theorem mem_differences_iff : d ∈ differences l r ↔
    Met l r d.position ∧ d.left = reading d.position l ∧ d.right = reading d.position r ∧
      Parted d.left d.right := by
  induction l, r using pairs_induction generalizing d with
  | objects ls rs ih =>
    rw [mem_differences_object]
    constructor
    · rintro ⟨key, e, member, rfl⟩
      obtain ⟨met, left, right, parted⟩ := ih key |>.mp member
      exact ⟨⟨⟨rfl, rfl⟩, met⟩, left, right, parted⟩
    · obtain ⟨p, left, right⟩ := d
      rintro ⟨met, first, second, parted⟩
      dsimp only at met first second parted
      subst first second
      cases p with
      | nil => exact absurd ⟨rfl, rfl⟩ parted.1
      | cons key rest =>
        exact ⟨key, ⟨rest, _, _⟩, (ih key).mpr ⟨met.2, rfl, rfl, parted⟩, rfl⟩
  | others l r apart =>
    rw [differences_of_not_paired apart]
    constructor
    · intro member
      split at member
      · cases member
      · rename_i differ
        cases List.mem_singleton.mp member
        exact ⟨trivial, rfl, rfl, apart, Bool.eq_false_iff.mpr differ⟩
    · obtain ⟨p, left, right⟩ := d
      rintro ⟨met, first, second, parted⟩
      dsimp only at met first second parted
      subst first second
      cases p with
      | nil =>
        have differ : ¬ l.same r = true := Bool.eq_false_iff.mp parted.2
        rw [if_neg differ]
        exact List.mem_singleton_self _
      | cons key rest => exact absurd met.1 apart

/-- Entries at different positions are different, so each position has one at most. -/
theorem eq_of_same_position {e : Difference} (first : d ∈ differences l r) (second : e ∈ differences l r)
    (same : d.position = e.position) : d = e := by
  obtain ⟨p, a, b⟩ := d
  obtain ⟨q, a', b'⟩ := e
  dsimp only at same
  subst same
  obtain ⟨-, left, right, -⟩ := mem_differences_iff.mp first
  obtain ⟨-, left', right', -⟩ := mem_differences_iff.mp second
  dsimp only at left right left' right'
  rw [left, right, left', right']

theorem not_before_self (p : List String) : ¬ Before p p := by
  intro before
  induction p with
  | nil => cases before
  | cons key rest ih =>
    cases before with
    | here less => exact lt_irrefl _ less
    | deeper later => exact ih later

theorem nodup_differences (l r : Json) : (differences l r).Nodup := by
  refine (pairwise_before l r).imp fun {d e} before same => ?_
  rw [same] at before
  exact not_before_self _ before

/-- Where one entry alone satisfies `P`, it is what `P` picks, once. -/
theorem filter_differences {P : Difference → Bool} (member : d ∈ differences l r) (holds : P d = true)
    (only : ∀ e ∈ differences l r, P e = true → e.position = d.position) :
    (differences l r).filter P = [d] := by
  refine List.perm_singleton.mp ?_
  rw [List.perm_ext_iff_of_nodup ((nodup_differences l r).filter P) (List.nodup_singleton d)]
  intro e
  rw [List.mem_filter, List.mem_singleton]
  constructor
  · rintro ⟨among, also⟩
    exact eq_of_same_position among member (only e among also)
  · rintro rfl
    exact ⟨member, holds⟩

/-- Exactly one entry for each position that is met and where the sides are parted. -/
theorem filter_position (met : Met l r p) (parted : Parted (reading p l) (reading p r)) :
    (differences l r).filter (·.position == p) = [⟨p, reading p l, reading p r⟩] :=
  filter_differences (mem_differences_iff.mpr ⟨met, rfl, rfl, parted⟩) BEq.rfl
    fun _ _ here => beq_iff_eq.mp here

/-- Where readings are parted, the sides are parted where the two were met last. -/
theorem exists_position_above (parted : Parted (reading p l) (reading p r)) :
    ∃ q, q <+: p ∧ Met l r q ∧ Parted (reading q l) (reading q r) ∧
      ∀ e ∈ differences l r, e.position <+: p → e.position = q := by
  induction p generalizing l r with
  | nil =>
    refine ⟨[], List.prefix_rfl, trivial, parted, fun e _ above => ?_⟩
    exact List.prefix_nil.mp above
  | cons key rest ih =>
    by_cases paired : Paired l r
    · obtain ⟨q, above, met, apart, only⟩ := ih parted
      refine ⟨key :: q, List.cons_prefix_cons.mpr ⟨rfl, above⟩, ⟨paired, met⟩, apart, ?_⟩
      intro e member here
      cases l with
      | object ls =>
        cases r with
        | object rs =>
          obtain ⟨k, x, inside, rfl⟩ := mem_differences_object.mp member
          obtain ⟨rfl, later⟩ := List.cons_prefix_cons.mp here
          exact congrArg (k :: ·) (only x inside later)
        | _ => cases paired.2
      | _ => cases paired.1
    · have differ : l.same r = false := by
        refine Bool.eq_false_iff.mpr fun same => ?_
        have alike := same_reading same (key :: rest)
        rw [parted.2] at alike
        cases alike
      refine ⟨[], List.nil_prefix, trivial, ⟨paired, differ⟩, fun e member _ => ?_⟩
      rw [differences_of_not_paired paired, if_neg (Bool.eq_false_iff.mp differ)] at member
      rw [List.mem_singleton.mp member]

/-- Exactly one entry at or above each position whose readings are parted. -/
theorem filter_above (parted : Parted (reading p l) (reading p r)) :
    ∃ d, (differences l r).filter (·.position.isPrefixOf p) = [d] := by
  obtain ⟨q, above, met, apart, only⟩ := exists_position_above parted
  refine ⟨⟨q, reading q l, reading q r⟩, filter_differences ?_ ?_ ?_⟩
  · exact mem_differences_iff.mpr ⟨met, rfl, rfl, apart⟩
  · exact List.isPrefixOf_iff_prefix.mpr above
  · exact fun e member here => only e member (List.isPrefixOf_iff_prefix.mp here)

theorem differences_eq_nil_of_same (same : l.same r = true) : differences l r = [] := by
  refine List.eq_nil_iff_forall_not_mem.mpr fun d member => ?_
  obtain ⟨-, left, right, -, differ⟩ := mem_differences_iff.mp member
  rw [left, right, same_reading same] at differ
  cases differ

theorem same_of_differences_eq_nil (leaf : l.isObject = false) (none : differences l r = []) :
    l.same r = true := by
  have apart : ¬ Paired l r := fun paired => by rw [paired.1] at leaf; cases leaf
  rw [differences_of_not_paired apart] at none
  by_contra differ
  rw [if_neg differ] at none
  cases none

/-! Values without null members -/

mutual

/-- The value with every member that is null left out, of objects in objects too; lists stay as they are. -/
def withoutNulls : Json → Json
  | .object ms => .object (filledMembers ms)
  | v => v

def filledMembers : Members → Members
  | [] => []
  | (_, .null) :: rest => filledMembers rest
  | (key, v) :: rest => (key, v.withoutNulls) :: filledMembers rest

end

theorem filledMembers_cons (key : String) (v : Json) (rest : Members) (some : v ≠ .null) :
    filledMembers ((key, v) :: rest) = (key, v.withoutNulls) :: filledMembers rest := by
  cases v <;> first | rfl | exact absurd rfl some

theorem isObject_withoutNulls (v : Json) : v.withoutNulls.isObject = v.isObject := by
  cases v <;> rfl

theorem withoutNulls_of_not_object (other : v.isObject = false) : v.withoutNulls = v := by
  cases v <;> first | rfl | cases other

theorem withoutNulls_eq_null_iff : v.withoutNulls = .null ↔ v = .null := by
  cases v <;> simp [withoutNulls]

theorem mem_filledMembers {m : String × Json} (member : m ∈ filledMembers ls) :
    ∃ v, (m.1, v) ∈ ls ∧ v ≠ .null ∧ m.2 = v.withoutNulls := by
  induction ls with
  | nil => cases member
  | cons first rest ih =>
    obtain ⟨k, v⟩ := first
    by_cases none : v = .null
    · subst none
      obtain ⟨w, among, found⟩ := ih member
      exact ⟨w, List.mem_cons_of_mem _ among, found⟩
    · rw [filledMembers_cons k v rest none] at member
      rcases List.mem_cons.mp member with rfl | later
      · exact ⟨v, List.mem_cons_self, none, rfl⟩
      · obtain ⟨w, among, found⟩ := ih later
        exact ⟨w, List.mem_cons_of_mem _ among, found⟩

theorem ascending_filledMembers (ascending : Keyed.Ascending ls) : Keyed.Ascending (filledMembers ls) := by
  induction ls with
  | nil => exact Keyed.ascending_nil
  | cons first rest ih =>
    obtain ⟨k, v⟩ := first
    obtain ⟨least, tail⟩ := List.pairwise_cons.mp ascending
    by_cases none : v = .null
    · subst none
      exact ih tail
    · rw [filledMembers_cons k v rest none]
      refine List.pairwise_cons.mpr ⟨fun m member => ?_, ih tail⟩
      obtain ⟨w, among, -⟩ := mem_filledMembers member
      exact least (m.1, w) among

theorem memberOrNull_filledMembers (ascending : Keyed.Ascending ls) (key : String) :
    memberOrNull key (filledMembers ls) = (memberOrNull key ls).withoutNulls := by
  induction ls with
  | nil => rfl
  | cons first rest ih =>
    obtain ⟨k, v⟩ := first
    obtain ⟨least, tail⟩ := List.pairwise_cons.mp ascending
    rw [memberOrNull_cons]
    by_cases none : v = .null
    · subst none
      rw [filledMembers, ih tail]
      split
      · rename_i here
        rw [memberOrNull_of_forall_lt fun m member => here ▸ least m member]
      · rfl
    · rw [filledMembers_cons k v rest none, memberOrNull_cons, ih tail]
      split <;> rfl

theorem eq_null_of_same (same : v.same .null = true) : v = .null := by
  cases v <;> first | rfl | cases same

theorem sameMembers_memberOrNull (same : sameMembers ls rs = true) (key : String) :
    (memberOrNull key ls).same (memberOrNull key rs) = true :=
  same_member (v := .object ls) (w := .object rs) same key

/-- A key that comes before all keys of the other side has nothing there to be the same as. -/
theorem eq_null_of_before {k : String} (ascending : Keyed.Ascending ((k, w) :: rs)) (before : key < k)
    (same : v.same (memberOrNull key ((k, w) :: rs)) = true) : v = .null := by
  have above : ∀ m ∈ (k, w) :: rs, key < m.1 := List.forall_mem_cons.mpr
    ⟨before, fun m member => lt_trans before ((List.pairwise_cons.mp ascending).1 m member)⟩
  rw [memberOrNull_of_forall_lt above] at same
  exact eq_null_of_same same

/-- Two lists of members, none of them null, are the same when they hold the same under every key. -/
theorem sameMembers_of_forall (left : Keyed.Ascending ls) (right : Keyed.Ascending rs)
    (filledLeft : ∀ m ∈ ls, m.2 ≠ .null) (filledRight : ∀ m ∈ rs, m.2 ≠ .null)
    (alike : ∀ key, (memberOrNull key ls).same (memberOrNull key rs) = true) : sameMembers ls rs = true := by
  induction ls generalizing rs with
  | nil =>
    cases rs with
    | nil => rfl
    | cons n others =>
      have none := alike n.1
      rw [memberOrNull_cons, if_pos rfl] at none
      exact absurd (eq_null_of_same (same_symm none)) (filledRight n List.mem_cons_self)
  | cons m rest ih =>
    obtain ⟨k, v⟩ := m
    obtain ⟨least, tail⟩ := List.pairwise_cons.mp left
    have first := alike k
    rw [memberOrNull_cons, if_pos rfl] at first
    cases rs with
    | nil => exact absurd (eq_null_of_same first) (filledLeft (k, v) List.mem_cons_self)
    | cons n others =>
      obtain ⟨k', w⟩ := n
      obtain ⟨leastRight, tailRight⟩ := List.pairwise_cons.mp right
      have firstRight := alike k'
      rw [memberOrNull_cons k' k', if_pos rfl] at firstRight
      have together : k = k' := by
        rcases lt_trichotomy k k' with before | same | after
        · exact absurd (eq_null_of_before right before first) (filledLeft (k, v) List.mem_cons_self)
        · exact same
        · exact absurd (eq_null_of_before left after (same_symm firstRight))
            (filledRight (k', w) List.mem_cons_self)
      subst together
      rw [memberOrNull_cons, if_pos rfl] at first
      have later : ∀ key, (memberOrNull key rest).same (memberOrNull key others) = true := by
        intro key
        by_cases here : key = k
        · subst here
          rw [memberOrNull_of_forall_lt least, memberOrNull_of_forall_lt leastRight]
          exact same_refl _
        · have there := alike key
          rwa [memberOrNull_cons, memberOrNull_cons, if_neg here, if_neg here] at there
      have rest := ih tail tailRight (fun x member => filledLeft x (List.mem_cons_of_mem _ member))
        (fun x member => filledRight x (List.mem_cons_of_mem _ member)) later
      simp [sameMembers, first, rest]

theorem same_withoutNulls_object (left : Keyed.Ascending ls) (right : Keyed.Ascending rs) :
    (Json.object ls).withoutNulls.same (Json.object rs).withoutNulls = true ↔
      ∀ key, (memberOrNull key ls).withoutNulls.same (memberOrNull key rs).withoutNulls = true := by
  have filled : ∀ {ms : Members}, ∀ m ∈ filledMembers ms, m.2 ≠ .null := by
    intro ms m member none
    obtain ⟨v, -, some, value⟩ := mem_filledMembers member
    exact some (withoutNulls_eq_null_iff.mp (value ▸ none))
  simp only [← memberOrNull_filledMembers left, ← memberOrNull_filledMembers right]
  constructor
  · exact sameMembers_memberOrNull
  · exact sameMembers_of_forall (ascending_filledMembers left) (ascending_filledMembers right) filled filled

theorem ordered_memberOrNull (ordered : Ordered (.object ls)) (key : String) :
    (memberOrNull key ls).Ordered := by
  cases ordered with
  | object _ values =>
    cases found : Keyed.find? key ls with
    | none =>
      rw [memberOrNull, show ls.lookup key = none from found]
      exact .null
    | some v =>
      rw [memberOrNull, show ls.lookup key = some v from found]
      exact values _ (Keyed.mem_of_find? found)

theorem isObject_of_same (same : v.same w = true) : v.isObject = w.isObject := by
  cases v <;> cases w <;> first | rfl | cases same

theorem same_withoutNulls_of_not_paired (apart : ¬ Paired l r) :
    l.withoutNulls.same r.withoutNulls = l.same r := by
  by_cases alike : l.isObject = r.isObject
  · have left : l.isObject = false := Bool.eq_false_iff.mpr fun object => apart ⟨object, alike ▸ object⟩
    rw [withoutNulls_of_not_object left, withoutNulls_of_not_object (alike ▸ left)]
  · have differ : l.same r = false := Bool.eq_false_iff.mpr (mt isObject_of_same alike)
    rw [differ]
    refine Bool.eq_false_iff.mpr fun same => alike ?_
    have objects := isObject_of_same same
    rwa [isObject_withoutNulls, isObject_withoutNulls] at objects

/-- There is no difference just when the two are the same as far as they hold anything. -/
theorem differences_eq_nil_iff (left : l.Ordered) (right : r.Ordered) :
    differences l r = [] ↔ l.withoutNulls.same r.withoutNulls = true := by
  induction l, r using pairs_induction with
  | objects ls rs ih =>
    rw [differences_object_eq_nil_iff]
    have inside := fun key => ih key (ordered_memberOrNull left key) (ordered_memberOrNull right key)
    cases left with
    | object leftAscending =>
      cases right with
      | object rightAscending =>
        rw [same_withoutNulls_object leftAscending rightAscending]
        exact forall_congr' inside
  | others l r apart =>
    rw [differences_of_not_paired apart, same_withoutNulls_of_not_paired apart]
    split
    · rename_i same
      simp [same]
    · rename_i differ
      simp [differ]

end Json
end Provisioning
