import Provisioning.Wire.Decode

/-!
Reading typed values.  A record is read from an object when each of its fields is: a present one by its
decoder, a missing one by its value of its own.  A value is faithful on the wire when it is read back as
it was written, and nothing is read that would not be.  Options, lists and maps of faithful values are
faithful again.
-/
namespace Provisioning.Wire

variable {α β : Type} {d : Decoder α} {encode : α → Json}

/-- Every value that fits is read back as it was written, and only such values are read. -/
structure Faithful (fits : α → Prop) (encode : α → Json) (d : Decoder α) : Prop where
  reads : ∀ a, fits a → d (encode a) = .ok a
  sound : ∀ v a, d v = .ok a → fits a

theorem Faithful.again {fits : α → Prop} (faithful : Faithful fits encode d) {v : Json} {a : α}
    (decoded : d v = .ok a) : d (encode a) = .ok a := faithful.reads a (faithful.sound v a decoded)

/-- There is a result, and this holds of it.  A result that is written out is taken out of it by rewriting,
and none of an unwieldy type is asked for. -/
def Comes {ε α : Type} (result : Except ε α) (P : α → Prop) : Prop := ∃ a, result = .ok a ∧ P a

@[simp] theorem comes_ok {ε α : Type} {P : α → Prop} (a : α) : Comes (.ok a : Except ε α) P ↔ P a := by
  simp [Comes]

/-! Plain values -/

@[simp] theorem text_text (s : String) : text (.text s) = .ok s := rfl

@[simp] theorem bool_bool (b : Bool) : bool (.bool b) = .ok b := rfl

@[simp] theorem any_eq (v : Json) : any v = .ok v := rfl

theorem word_int {name : String} {bound n : Nat} (small : n < bound) :
    word name bound (.int n) = .ok n := by
  simp only [word, Json.int, Int.natCast_nonneg, Int.ofNat_lt, small, decide_true, Bool.and_self, if_true,
    Int.toNat_natCast]

theorem lt_of_word {name : String} {bound n : Nat} {v : Json} (decoded : word name bound v = .ok n) :
    n < bound := by
  unfold word at decoded
  split at decoded
  · split at decoded
    · rename_i m within
      simp only [Bool.and_eq_true, decide_eq_true_eq] at within
      cases decoded
      omega
    · cases decoded
  · cases decoded

/-! Options, lists and maps -/

theorem optional_of_ne {v : Json} (there : v ≠ .null) : optional d v = some <$> d v := by
  cases v with
  | null => exact absurd rfl there
  | _ => rfl

theorem optional_ofOption {o : Option α} (there : ∀ a, encode a ≠ .null)
    (reads : ∀ a ∈ o, d (encode a) = .ok a) : optional d (.ofOption encode o) = .ok o := by
  cases o with
  | none => rfl
  | some a =>
    have decoded := reads a rfl
    change optional d (encode a) = _
    rw [optional_of_ne (there a), decoded]
    rfl

theorem of_optional {Q : α → Prop} (decodes : ∀ v a, d v = .ok a → Q a) {v : Json} {o : Option α}
    (decoded : optional d v = .ok o) : ∀ a ∈ o, Q a := by
  by_cases there : v = .null
  · cases there
    cases decoded
    exact fun _ none => nomatch none
  · rw [optional_of_ne there] at decoded
    cases read : d v with
    | error f => rw [read] at decoded; cases decoded
    | ok b =>
      rw [read] at decoded
      cases decoded
      exact fun a same => Option.some.inj same ▸ decodes v b read

@[simp] theorem listOf_map {as : List α} (reads : ∀ a ∈ as, d (encode a) = .ok a) :
    listOf d (.list (as.map encode)) = .ok as := by
  change items d (as.map encode) = _
  induction as with
  | nil => rfl
  | cons a rest ih =>
    have first := reads a List.mem_cons_self
    have later := ih fun b member => reads b (List.mem_cons_of_mem _ member)
    simp only [List.map_cons, items, first, later]
    rfl

theorem mapOf_map {as : List (String × α)} (reads : ∀ a, d (encode a) = .ok a) :
    mapOf d (.object (as.map fun (k, a) => (k, encode a))) = .ok as := by
  change entries d (as.map fun (k, a) => (k, encode a)) = _
  induction as with
  | nil => rfl
  | cons a rest ih =>
    simp only [List.map_cons, entries, reads, ih]
    rfl

@[simp] theorem listOf_texts (ss : List String) : listOf text (.texts ss) = .ok ss :=
  listOf_map fun _ _ => rfl

@[simp] theorem optional_text (o : Option String) : optional text (.ofOption .text o) = .ok o :=
  optional_ofOption (fun _ same => nomatch same) fun _ _ => rfl

/-! Fields by name.  What a record is read from by name is read field by field, so a record with all its
members written is computed to the end by rewriting. -/

namespace Fields

variable {look : String → Option Json} {name : String} {P : β → Prop} {Q : α → Prop}

@[simp] theorem comes_seq {f : Fields (α → β)} {x : Fields α} :
    Comes ((f <*> x).byName look) P ↔
      Comes (f.byName look) fun g => Comes (x.byName look) fun a => P (g a) := by
  change Comes ((seq f fun _ => x).byName look) P ↔ _
  simp only [seq, Comes]
  cases f.byName look <;> cases x.byName look <;> simp

@[simp] theorem comes_map {f : α → β} {x : Fields α} :
    Comes ((f <$> x).byName look) P ↔ Comes (x.byName look) fun a => P (f a) := by
  change Comes ((seq (given f) fun _ => x).byName look) P ↔ _
  simp only [seq, given, Comes]
  cases x.byName look <;> simp

@[simp] theorem comes_required :
    Comes ((required name d).byName look) Q ↔ ∃ v, look name = some v ∧ Comes (d v) Q := by
  simp only [Comes, required, field]
  cases look name with
  | none => simp
  | some v => cases read : d v <;> simp [read]

theorem comes_of_missing {missing : α} {inList : Option α} :
    Comes ((field name d (some missing) inList).byName look) Q ↔
      (∃ v, look name = some v ∧ Comes (d v) Q) ∨ look name = none ∧ Q missing := by
  simp only [Comes, field]
  cases look name with
  | none => simp
  | some v => cases read : d v <;> simp [read]

@[simp] theorem comes_defaulted {missing : α} :
    Comes ((defaulted name d missing).byName look) Q ↔
      (∃ v, look name = some v ∧ Comes (d v) Q) ∨ look name = none ∧ Q missing := comes_of_missing

@[simp] theorem comes_nullable {Q : Option α → Prop} :
    Comes ((nullable name d).byName look) Q ↔
      (∃ v, look name = some v ∧ Comes (optional d v) Q) ∨ look name = none ∧ Q none := comes_of_missing

@[simp] theorem comes_maybe {Q : Option α → Prop} :
    Comes ((maybe name d).byName look) Q ↔
      (∃ v, look name = some v ∧ Comes (optional d v) Q) ∨ look name = none ∧ Q none := comes_defaulted

def among (ms : List (String × Json)) (name : String) : Option Json := ms.lookup name

@[simp] theorem among_cons (key : String) (v : Json) (ms : List (String × Json)) :
    among ((key, v) :: ms) name = if name = key then some v else among ms name := by
  by_cases same : name = key
  · subst same
    simp only [among, List.lookup_cons, beq_self_eq_true, if_true]
  · simp only [among, List.lookup_cons, beq_eq_false_iff_ne.mpr same, same, if_false]

@[simp] theorem among_nil : among [] name = none := rfl

/-! What fields give from anything at all, by name or by position. -/

structure Yields (P : α → Prop) (f : Fields α) : Prop where
  byName : ∀ look a, f.byName look = .ok a → P a
  byPosition : ∀ i vs a rest, f.byPosition i vs = .ok (a, rest) → P a

theorem yields_seq {f : Fields (α → β)} {x : Fields α} (first : f.Yields fun g => ∀ a, Q a → P (g a))
    (second : x.Yields Q) : (f <*> x).Yields P where
  byName look b read := by
    change (seq f fun _ => x).byName look = _ at read
    simp only [seq] at read
    split at read
    · rename_i g a readFirst readSecond
      cases read
      exact first.byName look g readFirst a (second.byName look a readSecond)
    all_goals cases read
  byPosition i vs b rest read := by
    change (seq f fun _ => x).byPosition i vs = _ at read
    simp only [seq] at read
    split at read
    · cases read
    · rename_i g between readFirst
      split at read
      · cases read
      · rename_i a rest readSecond
        cases read
        exact first.byPosition i vs g between readFirst a (second.byPosition _ _ a _ readSecond)

theorem yields_true (x : Fields α) : x.Yields fun _ => True := ⟨fun _ _ _ => trivial, fun _ _ _ _ _ => trivial⟩

theorem yields_past {f : Fields (α → β)} {x : Fields α} (first : f.Yields fun g => ∀ a, P (g a)) :
    (f <*> x).Yields P :=
  yields_seq (Q := fun _ => True)
    ⟨fun look g read a _ => first.byName look g read a,
      fun i vs g rest read a _ => first.byPosition i vs g rest read a⟩
    x.yields_true

theorem yields_map {f : α → β} {x : Fields α} (all : ∀ a, Q a → P (f a)) (second : x.Yields Q) :
    (f <$> x).Yields P := by
  refine yields_seq (f := given f) ⟨?_, ?_⟩ second
  · intro look g read
    cases read
    exact all
  · intro i vs g rest read
    cases read
    exact all

theorem yields_field {inObject inList : Option α} (decodes : ∀ v a, d v = .ok a → Q a)
    (missing : ∀ a ∈ inObject, Q a) (short : ∀ a ∈ inList, Q a) :
    (field name d inObject inList).Yields Q where
  byName look a read := by
    simp only [field] at read
    split at read
    · split at read
      · rename_i decoded
        cases read
        exact decodes _ _ decoded
      · cases read
    · split at read
      · cases read
        exact missing _ rfl
      · cases read
  byPosition i vs a rest read := by
    simp only [field] at read
    split at read
    · split at read
      · rename_i decoded
        cases read
        exact decodes _ _ decoded
      · cases read
    · split at read
      · cases read
        exact short _ rfl
      · cases read

theorem yields_required (decodes : ∀ v a, d v = .ok a → Q a) : (required name d).Yields Q :=
  yields_field decodes (fun _ none => nomatch none) fun _ none => nomatch none

theorem yields_defaulted {missing : α} (decodes : ∀ v a, d v = .ok a → Q a) (fits : Q missing) :
    (defaulted name d missing).Yields Q :=
  yields_field decodes (fun _ same => Option.some.inj same ▸ fits) fun _ same => Option.some.inj same ▸ fits

theorem yields_maybe (decodes : ∀ v a, d v = .ok a → Q a) : (maybe name d).Yields fun o => ∀ a ∈ o, Q a :=
  yields_defaulted (fun _ _ => of_optional decodes) fun _ none => nomatch none

end Fields

@[simp] theorem comes_record (name : String) {fields : Fields α} {ms : List (String × Json)} {P : α → Prop} :
    Comes (record name fields (.object ms)) P ↔ Comes (fields.byName (Fields.among ms)) P := by
  have same : (fun n => ms.lookup n) = Fields.among ms := rfl
  simp only [record, same, Comes]
  cases fields.byName (Fields.among ms) <;> simp

@[simp] theorem record_object_iff {name : String} {fields : Fields α} {ms : List (String × Json)} {a : α} :
    record name fields (.object ms) = .ok a ↔ Comes (fields.byName (Fields.among ms)) fun b => b = a := by
  rw [← comes_record name]
  simp only [Comes, exists_eq_right]

theorem record_sound {name : String} {fields : Fields α} {P : α → Prop} (yields : fields.Yields P)
    {v : Json} {a : α} (decoded : record name fields v = .ok a) : P a := by
  unfold record at decoded
  split at decoded
  · split at decoded
    · rename_i read
      cases decoded
      exact yields.byName _ _ read
    · cases decoded
  · split at decoded
    · rename_i read
      cases decoded
      exact yields.byPosition _ _ _ _ read
    all_goals cases decoded
  · cases decoded

end Provisioning.Wire
