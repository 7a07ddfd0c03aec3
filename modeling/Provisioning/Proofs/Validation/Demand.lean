import Provisioning.Proofs.Validation

/-!
What is demanded of a component beyond the types of its section, each demand with what is said where
it is not met.  A demand is a proposition about the section, and says nothing of how it is checked;
the rules of a class check its demands, one by one and in the order in which they stand here.
-/
namespace Provisioning

namespace Text

def Filled (s : String) : Prop := ∃ c ∈ s.toList, isBlank c = false

theorem blank_eq_false_iff {s : String} : blank s = false ↔ Filled s := by
  simp [blank, Filled]

def EndsIn (ending s : String) : Prop :=
  ∃ front blanks, s = front ++ ending ++ blanks ∧ ∀ c ∈ blanks.toList, isBlank c = true

section Ends

variable {p : Char → Bool} {cs : List Char}

theorem dropEnd_append_of_all {back : List Char} (all : ∀ c ∈ back, p c = true) :
    dropEnd p (cs ++ back) = dropEnd p cs := by
  unfold dropEnd
  rw [List.reverse_append, List.dropWhile_append_of_pos fun c member => all c (List.mem_reverse.mp member)]

theorem dropEnd_append_singleton {c : Char} (stays : p c = false) : dropEnd p (cs ++ [c]) = cs ++ [c] := by
  simp [dropEnd, stays]

theorem exists_dropEnd (p : Char → Bool) (cs : List Char) :
    ∃ back, cs = dropEnd p cs ++ back ∧ ∀ c ∈ back, p c = true := by
  refine ⟨(cs.reverse.takeWhile p).reverse, ?_, fun c member => ?_⟩
  · rw [dropEnd, ← List.reverse_append, List.takeWhile_append_dropWhile, List.reverse_reverse]
  · exact List.all_eq_true.mp List.all_takeWhile c (List.mem_reverse.mp member)

end Ends

theorem endsWith_trimEnd_iff {s ending : String} (front : List Char) (last : Char)
    (written : ending.toList = front ++ [last]) (stays : isBlank last = false) :
    endsWith (trimEnd s) ending = true ↔ EndsIn ending s := by
  have tail : endsWith (trimEnd s) ending = true ↔ ending.toList <:+ dropEnd isBlank s.toList := by
    simp [endsWith, trimEnd]
  rw [tail]
  constructor
  · rintro ⟨start, kept⟩
    obtain ⟨back, whole, blanks⟩ := exists_dropEnd isBlank s.toList
    refine ⟨String.ofList start, String.ofList back, ?_, by simpa using blanks⟩
    rw [← kept] at whole
    exact String.toList_injective (by simpa using whole)
  · rintro ⟨start, blanks, rfl, all⟩
    refine ⟨start.toList, ?_⟩
    rw [String.toList_append, String.toList_append, dropEnd_append_of_all all, written,
      ← List.append_assoc, dropEnd_append_singleton stays]

end Text

structure Demand where
  met : Prop
  told : String

namespace Demand

def filled (field value : String) : Demand := ⟨Text.Filled value, field ++ " must not be empty"⟩

def gitAddress (url : String) : Demand :=
  ⟨Text.EndsIn ".git" url, s!"Repository URL '{url}' must point to a git repository ending in .git"⟩

/-- What is told of demands: each that is not met, and no other, in order. -/
inductive Complaints : List Demand → List Problem → Prop where
  | none : Complaints [] []
  | met {d demands problems} : d.met → Complaints demands problems → Complaints (d :: demands) problems
  | unmet {d demands problems} : ¬ d.met → Complaints demands problems →
      Complaints (d :: demands) (⟨d.told, Option.none⟩ :: problems)

end Demand

open Demand

def JobSpec.demands (s : JobSpec) : List Demand :=
  [filled "workspace" s.workspace, filled "jobName" s.name, gitAddress s.git.url,
    filled "repoPath" s.repoPath, filled "git.gitReference" s.git.reference,
    filled "git.gitPath" s.git.path, filled "cluster.clusterSparkVersion" s.cluster.sparkVersion,
    filled "cluster.nodeTypeId" s.cluster.nodeType] ++
  match s.schedule with
  | some schedule => [filled "scheduling.cronExpression" schedule.cron,
      filled "scheduling.javaTimezoneId" schedule.timezone]
  | none => []

def PipelineSpec.demands (s : PipelineSpec) : List Demand :=
  [filled "workspace" s.workspace, filled "pipelineName" s.name, gitAddress s.git.url,
    filled "repoPath" s.repoPath,
    ⟨∃ edition ∈ ["core", "pro", "advanced"], s.edition.toList.map Char.toLower = edition.toList,
      s!"productEdition '{s.edition}' is not one of core, pro, advanced"⟩,
    ⟨s.notebooks ≠ [] ∨ s.files ≠ [], "A DLT pipeline needs at least one notebook or file library"⟩,
    ⟨s.cluster.minWorkers ≤ s.cluster.maxWorkers,
      s!"cluster.minWorkers ({s.cluster.minWorkers}) must not exceed cluster.maxWorkers ({s.cluster.maxWorkers})"⟩]

def WorkflowSpec.demands (s : WorkflowSpec) : List Demand :=
  [filled "workspace" s.workspace, gitAddress s.git.url, filled "repoPath" s.repoPath,
    match s.name? with
    | some name => filled "workflow.settings.name" name
    | none => ⟨False, "workflow.settings must be an object carrying the workflow name"⟩]

def OutputPortSpec.demands (s : OutputPortSpec) : List Demand :=
  [filled "workspace" s.workspace, filled "catalogName" s.catalog, filled "schemaName" s.schema,
    filled "viewName" s.view, filled "sourceTable.catalogName" s.source.catalog,
    filled "sourceTable.schemaName" s.source.schema, filled "sourceTable.tableName" s.source.table]

def Classified.demands : Classified → List Demand
  | job s => s.demands
  | pipeline s => s.demands
  | workflow s => s.demands
  | outputPort s => s.demands
  | unsupported _ => []

namespace Rule

def Checks (rule : Rule) (d : Demand) : Prop := (rule.holds = true ↔ d.met) ∧ rule.complaint = d.told

inductive CheckAll : List Rule → List Demand → Prop where
  | nil : CheckAll [] []
  | cons {rule d rules demands} : rule.Checks d → CheckAll rules demands →
      CheckAll (rule :: rules) (d :: demands)

theorem CheckAll.append {rules more : List Rule} {demands others : List Demand}
    (first : CheckAll rules demands) (second : CheckAll more others) :
    CheckAll (rules ++ more) (demands ++ others) := by
  induction first with
  | nil => exact second
  | cons checks _ ih => exact .cons checks ih

theorem broken_cons_of_holds {rule : Rule} {rules : List Rule} (holds : rule.holds = true) :
    broken (rule :: rules) = broken rules := by
  simp [broken, holds]

theorem broken_cons_of_fails {rule : Rule} {rules : List Rule} (fails : rule.holds = false) :
    broken (rule :: rules) = ⟨rule.complaint, none⟩ :: broken rules := by
  simp [broken, fails]

theorem complaints_iff {rules : List Rule} {demands : List Demand} (checks : CheckAll rules demands)
    {ps : List Problem} : Complaints demands ps ↔ ps = broken rules := by
  induction checks generalizing ps with
  | nil =>
    constructor
    · rintro ⟨⟩
      rfl
    · rintro rfl
      exact .none
  | @cons rule d rules demands check _ ih =>
    obtain ⟨means, told⟩ := check
    cases holds : rule.holds with
    | true =>
      rw [broken_cons_of_holds holds]
      have met := means.mp holds
      constructor
      · rintro (_ | ⟨_, rest⟩ | ⟨unmet, _⟩)
        · exact ih.mp rest
        · exact absurd met unmet
      · exact fun told => .met met (ih.mpr told)
    | false =>
      rw [broken_cons_of_fails holds, told]
      have unmet : ¬ d.met := fun met => by rw [means.mpr met] at holds; cases holds
      constructor
      · rintro (_ | ⟨met, _⟩ | ⟨_, rest⟩)
        · exact absurd met unmet
        · rw [ih.mp rest]
      · rintro rfl
        exact .unmet unmet (ih.mpr rfl)

theorem filled_checks (field value : String) : (Rule.filled field value).Checks (.filled field value) := by
  refine ⟨?_, rfl⟩
  rw [Demand.filled, ← Text.blank_eq_false_iff]
  simp [Rule.filled]

theorem gitAddress_checks (url : String) : (Rule.gitAddress url).Checks (.gitAddress url) :=
  ⟨Text.endsWith_trimEnd_iff ['.', 'g', 'i'] 't' rfl rfl, rfl⟩

end Rule

open Rule

theorem JobSpec.rules_check (s : JobSpec) : CheckAll s.rules s.demands := by
  have schedule : CheckAll (match s.schedule with | some schedule => schedule.rules | none => [])
      (match s.schedule with
        | some schedule => [.filled "scheduling.cronExpression" schedule.cron,
            .filled "scheduling.javaTimezoneId" schedule.timezone]
        | none => []) := by
    cases s.schedule with
    | none => exact .nil
    | some schedule => exact .cons (filled_checks _ _) (.cons (filled_checks _ _) .nil)
  refine CheckAll.append ?_ schedule
  exact .cons (filled_checks _ _) <| .cons (filled_checks _ _) <| .cons (gitAddress_checks _) <|
    .cons (filled_checks _ _) <| .cons (filled_checks _ _) <| .cons (filled_checks _ _) <|
    .cons (filled_checks _ _) <| .cons (filled_checks _ _) .nil

theorem PipelineSpec.edition_checks (s : PipelineSpec) :
    pipelineEditions.any (Text.sameIgnoringAsciiCase · s.edition) = true ↔
      ∃ edition ∈ ["core", "pro", "advanced"], s.edition.toList.map Char.toLower = edition.toList := by
  simp only [pipelineEditions, List.any_eq_true, Text.sameIgnoringAsciiCase, beq_iff_eq]
  refine exists_congr fun edition => and_congr_right fun member => ?_
  -- the names of the editions are in lower case
  have lower : edition.toList.map Char.toLower = edition.toList := by
    revert edition
    decide
  rw [lower]
  exact eq_comm

theorem PipelineSpec.edition_told (s : PipelineSpec) :
    s!"productEdition '{s.edition}' is not one of {editionNames}" =
      s!"productEdition '{s.edition}' is not one of core, pro, advanced" := by
  have names : "' is not one of " ++ editionNames = "' is not one of core, pro, advanced" := by decide
  simp only [toString, String.append_assoc]
  rw [names]

theorem PipelineSpec.rules_check (s : PipelineSpec) : CheckAll s.rules s.demands := by
  refine .cons (filled_checks _ _) <| .cons (filled_checks _ _) <| .cons (gitAddress_checks _) <|
    .cons (filled_checks _ _) <| .cons ⟨s.edition_checks, s.edition_told⟩ <| .cons ⟨?_, rfl⟩ <|
    .cons ⟨?_, rfl⟩ .nil
  · simp only [Bool.not_eq_true', Bool.and_eq_false_iff, List.isEmpty_eq_false_iff]
  · exact decide_eq_true_iff

theorem WorkflowSpec.rules_check (s : WorkflowSpec) : CheckAll s.rules s.demands := by
  refine .cons (filled_checks _ _) <| .cons (gitAddress_checks _) <| .cons (filled_checks _ _) <|
    .cons ?_ .nil
  unfold nameRule
  cases s.name? with
  | none => exact ⟨⟨Bool.noConfusion, False.elim⟩, rfl⟩
  | some name => exact filled_checks _ _

theorem OutputPortSpec.rules_check (s : OutputPortSpec) : CheckAll s.rules s.demands :=
  .cons (filled_checks _ _) <| .cons (filled_checks _ _) <| .cons (filled_checks _ _) <|
    .cons (filled_checks _ _) <| .cons (filled_checks _ _) <| .cons (filled_checks _ _) <|
    .cons (filled_checks _ _) .nil

theorem Classified.rules_check : (kind : Classified) → CheckAll kind.rules kind.demands
  | job s => s.rules_check
  | pipeline s => s.rules_check
  | workflow s => s.rules_check
  | outputPort s => s.rules_check
  | unsupported _ => .nil

end Provisioning
