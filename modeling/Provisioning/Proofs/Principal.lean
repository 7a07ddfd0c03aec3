import Mathlib.Data.List.TakeDrop
import Mathlib.Data.List.TakeWhile
import Provisioning.Principal
import Provisioning.Proofs.Validation.Demand

/-!
References to principals as texts.  Reading takes the last underscore for the at sign of an address,
and writing takes the last at sign for the underscore.  So each of the two undoes the other where the
last underscore of the text is in the place of the last at sign of the address, and nowhere else.
-/
namespace Provisioning

namespace Text

theorem after?_append (front rest : String) : after? front (front ++ rest) = some rest := by
  have leads : front.toList.isPrefixOf (front ++ rest).toList = true := by
    rw [List.isPrefixOf_iff_prefix, String.toList_append]
    exact List.prefix_append _ _
  unfold after?
  rw [if_pos leads, String.toList_append, ← String.length_toList, List.drop_left, String.ofList_toList]

theorem after?_eq_some_iff {front s rest : String} : after? front s = some rest ↔ s = front ++ rest := by
  constructor
  · intro found
    by_cases leads : front.toList.isPrefixOf s.toList = true
    · obtain ⟨tail, whole⟩ := List.isPrefixOf_iff_prefix.mp leads
      have split : s = front ++ String.ofList tail := by
        refine String.toList_injective ?_
        rw [String.toList_append, String.toList_ofList, whole]
      rw [split, after?_append] at found
      cases found
      exact split
    · rw [after?, if_neg leads] at found
      cases found
  · rintro rfl
    exact after?_append front rest

section Splitting

variable {c : Char} {cs l d : List Char}

theorem splitLast_append (last : c ∉ d) : splitLast c (l ++ c :: d) = some (l, d) := by
  have others : ∀ x ∈ d.reverse, (x != c) = true := by
    intro x member
    exact bne_iff_ne.mpr fun same => last (same ▸ List.mem_reverse.mp member)
  unfold splitLast
  rw [List.reverse_append, List.reverse_cons, List.append_assoc, List.span_eq_takeWhile_dropWhile,
    List.takeWhile_append_of_pos others, List.dropWhile_append_of_pos others]
  simp

theorem exists_last (member : c ∈ cs) : ∃ l d, cs = l ++ c :: d ∧ c ∉ d := by
  obtain ⟨back, front, whole, first⟩ := List.eq_append_cons_of_mem (List.mem_reverse.mpr member)
  refine ⟨front.reverse, back.reverse, ?_, fun member => first (List.mem_reverse.mp member)⟩
  rw [← List.reverse_reverse cs, whole]
  simp

theorem splitLast_of_notMem (absent : c ∉ cs) : splitLast c cs = none := by
  have others : ∀ x ∈ cs.reverse, (x != c) = true := by
    intro x member
    exact bne_iff_ne.mpr fun same => absent (same ▸ List.mem_reverse.mp member)
  unfold splitLast
  rw [List.span_eq_takeWhile_dropWhile, List.dropWhile_eq_nil_iff.mpr others]

theorem splitLast_eq_some_iff : splitLast c cs = some (l, d) ↔ cs = l ++ c :: d ∧ c ∉ d := by
  constructor
  · intro found
    by_cases member : c ∈ cs
    · obtain ⟨l', d', rfl, last⟩ := exists_last member
      rw [splitLast_append last] at found
      cases found
      exact ⟨rfl, last⟩
    · rw [splitLast_of_notMem member] at found
      cases found
  · rintro ⟨rfl, last⟩
    exact splitLast_append last

end Splitting

/-! Texts that are cut at a character -/

section Cut

variable {c : Char} {between : String} (one : between.toList = [c])

include one

theorem toList_cut (front back : String) :
    (front ++ between ++ back).toList = front.toList ++ c :: back.toList := by
  simp [one]

theorem exists_last_cut {s : String} (member : c ∈ s.toList) :
    ∃ front back, s = front ++ between ++ back ∧ c ∉ back.toList := by
  obtain ⟨l, d, whole, last⟩ := exists_last member
  refine ⟨String.ofList l, String.ofList d, ?_, by simpa using last⟩
  refine String.toList_injective ?_
  rw [toList_cut one, whole, String.toList_ofList, String.toList_ofList]

theorem last_cut_unique {front back front' back' : String} (last : c ∉ back.toList)
    (last' : c ∉ back'.toList) (same : front ++ between ++ back = front' ++ between ++ back') :
    front = front' ∧ back = back' := by
  have lists := congrArg String.toList same
  rw [toList_cut one, toList_cut one] at lists
  have parts := splitLast_append (l := front.toList) last
  rw [lists, splitLast_append last', Option.some.injEq, Prod.mk.injEq] at parts
  exact ⟨(String.toList_injective parts.1).symm, (String.toList_injective parts.2).symm⟩

end Cut

end Text

namespace PrincipalRef

/-- The texts that are references, each with the principal that it refers to. -/
inductive Refers : String → PrincipalRef → Prop where
  | user (name domain : String) (named : name ≠ "") (placed : domain ≠ "")
      (last : '_' ∉ domain.toList) :
      Refers ("user:" ++ name ++ "_" ++ domain) (.user (name ++ "@" ++ domain))
  | group (name : String) (filled : Text.Filled name) : Refers ("group:" ++ name) (.group name)

/-! Addresses -/

theorem underscore : "_".toList = ['_'] := rfl

theorem atSign : "@".toList = ['@'] := rfl

theorem address?_eq_some_iff {written email : String} : address? written.toList = some email ↔
    ∃ name domain, written = name ++ "_" ++ domain ∧ name ≠ "" ∧ domain ≠ "" ∧
      '_' ∉ domain.toList ∧ email = name ++ "@" ++ domain := by
  unfold address?
  constructor
  · intro found
    cases split : Text.splitLast '_' written.toList with
    | none =>
      rw [split] at found
      cases found
    | some parts =>
      obtain ⟨l, d⟩ := parts
      rw [split] at found
      dsimp only at found
      obtain ⟨whole, last⟩ := Text.splitLast_eq_some_iff.mp split
      split at found
      · cases found
      · rename_i both
        cases found
        simp only [Bool.or_eq_true, List.isEmpty_iff, not_or] at both
        refine ⟨String.ofList l, String.ofList d, ?_, ?_, ?_, ?_, ?_⟩
        · refine String.toList_injective ?_
          rw [Text.toList_cut underscore, whole]
          simp
        · simpa using both.1
        · simpa using both.2
        · simpa using last
        · refine String.toList_injective ?_
          rw [Text.toList_cut atSign]
          simp
  · rintro ⟨name, domain, rfl, named, placed, last, rfl⟩
    rw [Text.toList_cut underscore, Text.splitLast_append last]
    dsimp only
    rw [if_neg (by simp [named, placed])]
    refine congrArg some (String.toList_injective ?_)
    rw [Text.toList_cut atSign]
    simp

theorem written_user (name domain : String) :
    "user:" ++ name ++ "_" ++ domain = "user:" ++ (name ++ "_" ++ domain) := by
  simp only [String.append_assoc]

/-- No text begins both as a user and as a group. -/
theorem user_ne_group (written name : String) : "user:" ++ written ≠ "group:" ++ name := by
  intro same
  have first := congrArg (fun s : String => s.toList.head?) same
  simp at first

/-! Reading -/

theorem parse_user (written : String) : parse ("user:" ++ written) =
    match address? written.toList with
    | some email => .ok (.user email)
    | none => .error (.user ("user:" ++ written)) := by
  cases read : address? written.toList <;> simp only [parse, Text.after?_append, read]

theorem parse_user_eq_ok_iff {written email : String} :
    parse ("user:" ++ written) = .ok (.user email) ↔
      ∃ name domain, written = name ++ "_" ++ domain ∧ name ≠ "" ∧ domain ≠ "" ∧
        '_' ∉ domain.toList ∧ email = name ++ "@" ++ domain := by
  rw [parse_user, ← address?_eq_some_iff]
  cases address? written.toList <;> simp

theorem parse_group (name : String) : parse ("group:" ++ name) =
    if Text.blank name then .error (.group ("group:" ++ name)) else .ok (.group name) := by
  unfold parse
  cases asUser : Text.after? "user:" ("group:" ++ name) with
  | some written => exact absurd (Text.after?_eq_some_iff.mp asUser).symm (user_ne_group written name)
  | none => rw [Text.after?_append]

theorem parse_of_refers {s : String} {p : PrincipalRef} (refers : Refers s p) : parse s = .ok p := by
  cases refers with
  | user name domain named placed last =>
    rw [written_user]
    exact parse_user_eq_ok_iff.mpr ⟨name, domain, rfl, named, placed, last, rfl⟩
  | group name filled =>
    rw [parse_group, Text.blank_eq_false_iff.mpr filled, if_neg (by decide)]

theorem refers_of_parse {s : String} {p : PrincipalRef} (parsed : parse s = .ok p) : Refers s p := by
  unfold parse at parsed
  split at parsed
  · rename_i written asUser
    rw [Text.after?_eq_some_iff.mp asUser]
    split at parsed
    · rename_i email address
      obtain ⟨name, domain, rfl, named, placed, last, rfl⟩ := address?_eq_some_iff.mp address
      cases parsed
      rw [← written_user]
      exact .user name domain named placed last
    · cases parsed
  · split at parsed
    · rename_i name asGroup
      rw [Text.after?_eq_some_iff.mp asGroup]
      split at parsed
      · cases parsed
      · rename_i filled
        cases parsed
        exact .group name (Text.blank_eq_false_iff.mp (eq_false_of_ne_true filled))
    · cases parsed

theorem parse_eq_ok_iff {s : String} {p : PrincipalRef} : parse s = .ok p ↔ Refers s p :=
  ⟨refers_of_parse, parse_of_refers⟩

/-! Writing -/

theorem display_of_last (name domain : String) (last : '@' ∉ domain.toList) :
    display (.user (name ++ "@" ++ domain)) = "user:" ++ (name ++ "_" ++ domain) := by
  unfold display writtenAddress
  dsimp only
  rw [Text.toList_cut atSign, Text.splitLast_append last]
  refine congrArg ("user:" ++ ·) (String.toList_injective ?_)
  rw [Text.toList_cut underscore, String.toList_ofList]

theorem display_of_none {email : String} (none : '@' ∉ email.toList) :
    display (.user email) = "user:" ++ email := by
  unfold display writtenAddress
  dsimp only
  rw [Text.splitLast_of_notMem none, String.ofList_toList]

/-- Texts that have different characters in one place are not the same. -/
theorem underscore_ne_atSign (name back back' : String) :
    name ++ ("_" ++ back) ≠ name ++ ("@" ++ back') := by
  intro same
  have lists := congrArg String.toList same
  simp at lists

def MarkedBehind (s : String) : Prop :=
  ∃ name domain, s = "user:" ++ name ++ "_" ++ domain ∧ '_' ∉ domain.toList ∧ '@' ∈ domain.toList

theorem display_eq_iff {s : String} {p : PrincipalRef} (refers : Refers s p) :
    p.display = s ↔ ¬ MarkedBehind s := by
  cases refers with
  | group name filled =>
    refine iff_of_true rfl ?_
    rintro ⟨name', domain', same, -, -⟩
    rw [written_user] at same
    exact user_ne_group _ _ same.symm
  | user name domain named placed last =>
    rw [written_user]
    constructor
    · rintro back ⟨name', domain', same, last', marked⟩
      rw [written_user] at same
      obtain ⟨rfl, rfl⟩ := Text.last_cut_unique underscore last last' ((String.append_right_inj _).mp same)
      obtain ⟨front, behind, rfl, lastAt⟩ := Text.exists_last_cut atSign marked
      rw [← String.append_assoc, ← String.append_assoc, display_of_last _ _ lastAt] at back
      have written := (String.append_right_inj _).mp back
      simp only [String.append_assoc] at written
      exact underscore_ne_atSign _ _ _ written.symm
    · intro unmarked
      exact display_of_last name domain fun marked =>
        unmarked ⟨name, domain, written_user name domain ▸ rfl, last, marked⟩

theorem parse_display_user_iff {email : String} :
    parse (display (.user email)) = .ok (.user email) ↔
      ∃ name domain, email = name ++ "@" ++ domain ∧ '@' ∉ domain.toList ∧
        name ≠ "" ∧ domain ≠ "" ∧ '_' ∉ domain.toList := by
  constructor
  · intro back
    by_cases marked : '@' ∈ email.toList
    · obtain ⟨name, domain, rfl, lastAt⟩ := Text.exists_last_cut atSign marked
      rw [display_of_last name domain lastAt] at back
      obtain ⟨name', domain', written, named, placed, last, same⟩ := parse_user_eq_ok_iff.mp back
      by_cases among : '_' ∈ domain.toList
      · -- the last underscore is behind the at sign, so it is another one that is read as the at sign
        obtain ⟨front, behind, rfl, lastToo⟩ := Text.exists_last_cut underscore among
        rw [← String.append_assoc, ← String.append_assoc] at written
        obtain ⟨rfl, rfl⟩ := Text.last_cut_unique underscore lastToo last written
        simp only [String.append_assoc] at same
        exact absurd same.symm (underscore_ne_atSign _ _ _)
      · obtain ⟨rfl, rfl⟩ := Text.last_cut_unique underscore among last written
        exact ⟨name, domain, rfl, lastAt, named, placed, last⟩
    · rw [display_of_none marked] at back
      obtain ⟨name, domain, -, -, -, -, rfl⟩ := parse_user_eq_ok_iff.mp back
      exact absurd (by simp) marked
  · rintro ⟨name, domain, rfl, lastAt, named, placed, last⟩
    rw [display_of_last name domain lastAt, ← written_user]
    exact parse_of_refers (.user name domain named placed last)

theorem parse_display_group_iff {name : String} :
    parse (display (.group name)) = .ok (.group name) ↔ Text.Filled name := by
  change parse ("group:" ++ name) = _ ↔ _
  rw [parse_group, ← Text.blank_eq_false_iff]
  cases Text.blank name <;> simp

/-- What is read as a reference; which references are written as they were read; and which principals
are read from the references that are written for them. -/
theorem parse_display_iff :
    (∀ s p, parse s = .ok p ↔ Refers s p) ∧
    (∀ s p, parse s = .ok p → (p.display = s ↔ ¬ MarkedBehind s)) ∧
    (∀ email, parse (display (.user email)) = .ok (.user email) ↔
      ∃ name domain, email = name ++ "@" ++ domain ∧ '@' ∉ domain.toList ∧
        name ≠ "" ∧ domain ≠ "" ∧ '_' ∉ domain.toList) ∧
    ∀ name, parse (display (.group name)) = .ok (.group name) ↔ Text.Filled name := by
  refine ⟨?_, ?_, ?_, ?_⟩
  · intro s p
    exact parse_eq_ok_iff
  · intro s p parsed
    exact display_eq_iff (parse_eq_ok_iff.mp parsed)
  · intro email
    exact parse_display_user_iff
  · intro name
    exact parse_display_group_iff

theorem marked_domain_parse_display :
    parse "user:a_b@c" = .ok (.user "a@b@c") ∧ display (.user "a@b@c") ≠ "user:a_b@c" := by
  obtain ⟨read, written, -, -⟩ := parse_display_iff
  have parsed : parse "user:a_b@c" = .ok (.user "a@b@c") :=
    (read _ _).mpr (.user "a" "b@c" (by decide) (by decide) (by decide))
  refine ⟨parsed, fun back => (written _ _ parsed).mp back ?_⟩
  exact ⟨"a", "b@c", rfl, by decide, by decide⟩

end PrincipalRef
end Provisioning
