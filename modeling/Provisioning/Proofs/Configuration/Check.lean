import Mathlib.Data.List.Nodup
import Provisioning.Configuration.Check
import Provisioning.Proofs.Validation.Demand

/-!
What it says of settings that they pass their check.  The ids of all lists are marked one after another
in one set, so that set grows into the list of all ids, and it does so to the end just where no id
occurs twice in that list.
-/
namespace Provisioning

namespace Templates

theorem mark_eq_ok_iff {seen ids later : List String} (distinct : seen.Nodup) :
    mark seen ids = .ok later ↔ later = ids.reverse ++ seen ∧ later.Nodup := by
  induction ids generalizing seen with
  | nil =>
    simp only [mark, Except.ok.injEq, List.reverse_nil, List.nil_append]
    constructor
    · rintro rfl
      exact ⟨rfl, distinct⟩
    · exact fun same => same.1.symm
  | cons id rest ih =>
    rw [mark]
    by_cases again : id ∈ seen
    · rw [if_pos (List.contains_iff_mem.mpr again)]
      refine iff_of_false nofun ?_
      rintro ⟨rfl, nodup⟩
      have apart := (List.nodup_append.mp nodup).2.2 id (by simp) id again
      exact apart rfl
    · rw [if_neg fun contained => again (List.contains_iff_mem.mp contained),
        ih (List.nodup_cons.mpr ⟨again, distinct⟩)]
      simp

theorem checkSections_eq_ok_iff {seen : List String} {sections : List (String × List String)}
    (distinct : seen.Nodup) : checkSections seen sections = .ok () ↔
      (∀ x ∈ sections, x.2 ≠ []) ∧ ((sections.flatMap (·.2)).reverse ++ seen).Nodup := by
  induction sections generalizing seen with
  | nil => simp [checkSections, distinct]
  | cons first rest ih =>
    obtain ⟨kind, ids⟩ := first
    rw [checkSections]
    by_cases none : ids = []
    · rw [if_pos (List.isEmpty_iff.mpr none)]
      exact iff_of_false nofun fun sound => sound.1 _ List.mem_cons_self none
    · rw [if_neg fun empty => none (List.isEmpty_iff.mp empty)]
      have whole : ((((kind, ids) :: rest).flatMap (·.2)).reverse ++ seen) =
          (rest.flatMap (·.2)).reverse ++ (ids.reverse ++ seen) := by simp
      rw [whole, List.forall_mem_cons]
      cases marked : mark seen ids with
      | ok later =>
        obtain ⟨rfl, nodup⟩ := (mark_eq_ok_iff distinct).mp marked
        rw [ih nodup]
        exact ⟨fun sound => ⟨⟨none, sound.1⟩, sound.2⟩, fun sound => ⟨sound.1.2, sound.2⟩⟩
      | error e =>
        refine iff_of_false nofun fun sound => ?_
        -- what is marked up to here is a part of what would be marked in the end
        have nodup := (List.nodup_append.mp sound.2).2.1
        rw [(mark_eq_ok_iff distinct).mpr ⟨rfl, nodup⟩] at marked
        cases marked

end Templates

structure Settings.Sound (s : Settings) : Prop where
  room : 0 < s.maxJobs
  region : Text.Filled s.workspace.region
  development : Text.Filled s.development
  job : s.templates.job ≠ []
  pipeline : s.templates.pipeline ≠ []
  workflow : s.templates.workflow ≠ []
  outputPort : s.templates.outputPort ≠ []
  once : (s.templates.job ++ s.templates.pipeline ++ s.templates.workflow ++
    s.templates.outputPort).Nodup

theorem Templates.check_eq_ok_iff {t : Templates} : t.check = .ok () ↔
    (t.job ≠ [] ∧ t.pipeline ≠ [] ∧ t.workflow ≠ [] ∧ t.outputPort ≠ []) ∧
      (t.job ++ t.pipeline ++ t.workflow ++ t.outputPort).Nodup := by
  have together : t.sections.flatMap (·.2) = t.job ++ t.pipeline ++ t.workflow ++ t.outputPort := by
    simp [sections]
  unfold check
  rw [checkSections_eq_ok_iff List.nodup_nil, together, List.append_nil, List.nodup_reverse]
  simp [sections]

theorem Settings.check_eq_ok_iff {s : Settings} : s.check = .ok () ↔ s.Sound := by
  unfold check
  by_cases room : s.maxJobs = 0
  · rw [if_pos room]
    exact iff_of_false nofun fun sound => Nat.ne_of_gt sound.room room
  rw [if_neg room]
  cases region : Text.blank s.workspace.region with
  | true =>
    rw [if_pos rfl]
    refine iff_of_false nofun fun sound => ?_
    rw [Text.blank_eq_false_iff.mpr sound.region] at region
    cases region
  | false =>
    cases development : Text.blank s.development with
    | true =>
      refine iff_of_false nofun fun sound => ?_
      rw [Text.blank_eq_false_iff.mpr sound.development] at development
      cases development
    | false =>
      change s.templates.check = .ok () ↔ _
      rw [Templates.check_eq_ok_iff]
      constructor
      · rintro ⟨⟨job, pipeline, workflow, outputPort⟩, once⟩
        exact ⟨Nat.pos_of_ne_zero room, Text.blank_eq_false_iff.mp region,
          Text.blank_eq_false_iff.mp development, job, pipeline, workflow, outputPort, once⟩
      · intro sound
        exact ⟨⟨sound.job, sound.pipeline, sound.workflow, sound.outputPort⟩, sound.once⟩

end Provisioning
