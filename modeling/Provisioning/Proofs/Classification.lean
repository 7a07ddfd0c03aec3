import Mathlib.Data.List.Nodup
import Mathlib.Data.List.Pairwise
import Provisioning.Classification
import Provisioning.Proofs.Configuration.Check

/-!
Which class a component has.  Classification tries the lists of template ids one after another, and the
first that holds the id of the component decides.  Where no id is listed twice at most one of them does,
and then neither the order of the lists nor the order within them matters.
-/
namespace Provisioning

inductive ComponentClass where
  | job
  | pipeline
  | workflow
  | outputPort
  deriving DecidableEq, Repr

namespace ComponentClass

def all : List ComponentClass := [job, pipeline, workflow, outputPort]

def kind : ComponentClass → String
  | outputPort => "outputport"
  | _ => "workload"

def ids (t : Templates) : ComponentClass → List String
  | job => t.job
  | pipeline => t.pipeline
  | workflow => t.workflow
  | outputPort => t.outputPort

def title : ComponentClass → String
  | job => "job"
  | pipeline => "DLT pipeline"
  | workflow => "workflow"
  | outputPort => "output port"

def decode (k : ComponentClass) (v : Json) : Except Wire.Fault Classified :=
  match k with
  | job => .job <$> JobSpec.decode v
  | pipeline => .pipeline <$> PipelineSpec.decode v
  | workflow => .workflow <$> WorkflowSpec.decode v
  | outputPort => .outputPort <$> OutputPortSpec.decode v

/-- The component has the kind of the class, and its template is listed for the class. -/
def Lists (k : ComponentClass) (t : Templates) (c : Component) : Prop :=
  c.kind = k.kind ∧ ∃ id ∈ k.ids t, c.templateId = some id

instance (k : ComponentClass) (t : Templates) (c : Component) : Decidable (k.Lists t c) :=
  inferInstanceAs (Decidable (_ ∧ _))

end ComponentClass

open ComponentClass

def Classified.class? : Classified → Option ComponentClass
  | job _ => some .job
  | pipeline _ => some .pipeline
  | workflow _ => some .workflow
  | outputPort _ => some .outputPort
  | unsupported _ => none

namespace Component

def unlisted (c : Component) (what : String) : Classified :=
  match c.templateId with
  | some template => c.unknownTemplate template what
  | none => c.withoutTemplate what

def unhandled (c : Component) : Classified :=
  if c.kind = "workload" then c.unlisted "workload"
  else if c.kind = "outputport" then c.unlisted "output port"
  else .unsupported
    s!"The kind '{c.kind}' of the component '{c.id}' is not supported by this provisioner"

def classifyIn (order : List ComponentClass) (t : Templates) (c : Component) : Except Failure Classified :=
  match order.find? fun k => decide (k.Lists t c) with
  | some k => c.specification k.title k.decode
  | none => .ok c.unhandled

theorem specification_map {α β : Type} (c : Component) (what : String) (d : Wire.Decoder α) (f : α → β) :
    f <$> c.specification what d = c.specification what fun v => f <$> d v := by
  unfold specification
  dsimp only
  cases d c.specific <;> rfl

section Trying

variable {c : Component} {t : Templates}

theorem lists_of_kind {k : ComponentClass} (same : c.kind = k.kind) {id : String}
    (template : c.templateId = some id) : k.Lists t c ↔ (k.ids t).contains id = true := by
  simp [ComponentClass.Lists, template, same]

theorem not_lists_of_kind {k : ComponentClass} (other : c.kind ≠ k.kind) : ¬ k.Lists t c :=
  fun lists => other lists.1

theorem not_lists_of_none (k : ComponentClass) (none : c.templateId = .none) : ¬ k.Lists t c := by
  simp [ComponentClass.Lists, none]

theorem classifyIn_nil : c.classifyIn [] t = .ok c.unhandled := rfl

theorem classifyIn_cons (k : ComponentClass) (order : List ComponentClass) :
    c.classifyIn (k :: order) t =
      if k.Lists t c then c.specification k.title k.decode else c.classifyIn order t := by
  unfold classifyIn
  rw [List.find?_cons]
  by_cases lists : k.Lists t c <;> simp [lists]

theorem classify_eq_classifyIn (c : Component) (t : Templates) : c.classify t = c.classifyIn all t := by
  simp only [all, classifyIn_cons, classifyIn_nil]
  unfold classify unhandled unlisted
  cases template : c.templateId with
  | none =>
    simp only [not_lists_of_none _ template, if_false]
    split
    · rfl
    · split <;> rfl
  | some id =>
    by_cases workload : c.kind = "workload"
    · have job : ComponentClass.job.Lists t c ↔ _ := lists_of_kind workload template
      have pipeline : ComponentClass.pipeline.Lists t c ↔ _ := lists_of_kind workload template
      have workflow : ComponentClass.workflow.Lists t c ↔ _ := lists_of_kind workload template
      have noPort : ¬ ComponentClass.outputPort.Lists t c := not_lists_of_kind (by rw [workload]; decide)
      simp only [if_pos workload, job, pipeline, workflow, if_neg noPort, classifyWorkload,
        specification_map]
      rfl
    · have noJob : ¬ ComponentClass.job.Lists t c := not_lists_of_kind workload
      have noPipeline : ¬ ComponentClass.pipeline.Lists t c := not_lists_of_kind workload
      have noWorkflow : ¬ ComponentClass.workflow.Lists t c := not_lists_of_kind workload
      simp only [if_neg workload, if_neg noJob, if_neg noPipeline, if_neg noWorkflow]
      by_cases port : c.kind = "outputport"
      · have outputPort : ComponentClass.outputPort.Lists t c ↔ _ := lists_of_kind port template
        simp only [if_pos port, outputPort, classifyOutputPort, specification_map]
        rfl
      · have noPort : ¬ ComponentClass.outputPort.Lists t c := not_lists_of_kind port
        simp only [if_neg port, if_neg noPort]

theorem classifyIn_of_lists {k : ComponentClass} (lists : k.Lists t c)
    (only : ∀ l : ComponentClass, l.Lists t c → l = k) {order : List ComponentClass} (among : k ∈ order) :
    c.classifyIn order t = c.specification k.title k.decode := by
  induction order with
  | nil => cases among
  | cons first rest ih =>
    rw [classifyIn_cons]
    by_cases here : first.Lists t c
    · rw [if_pos here, only first here]
    · rw [if_neg here]
      refine ih ((List.mem_cons.mp among).resolve_left ?_)
      rintro rfl
      exact here lists

theorem classifyIn_of_none (none : ∀ k : ComponentClass, ¬ k.Lists t c) (order : List ComponentClass) :
    c.classifyIn order t = .ok c.unhandled := by
  induction order with
  | nil => rfl
  | cons first rest ih => rw [classifyIn_cons, if_neg (none first), ih]

end Trying

theorem specification_eq_ok {α : Type} {c : Component} {what : String} {d : Wire.Decoder α} {a : α} :
    c.specification what d = .ok a ↔ d c.specific = .ok a := by
  unfold specification
  cases d c.specific <;> simp

theorem specification_eq_error {α : Type} {c : Component} {what : String} {d : Wire.Decoder α}
    {f : Failure} : c.specification what d = .error f ↔ ∃ fault, d c.specific = .error fault ∧
      f = .wrap s!"The specific section of component '{c.id}' is not a valid {what} specification"
        (fault.message .json) := by
  unfold specification
  cases d c.specific with
  | ok a => simp
  | error fault => simp [eq_comm]

theorem unhandled_unsupported (c : Component) : ∃ reason, c.unhandled = .unsupported reason := by
  have unlisted : ∀ what, ∃ reason, c.unlisted what = .unsupported reason := by
    intro what
    unfold Component.unlisted
    split <;> exact ⟨_, rfl⟩
  unfold unhandled
  split
  · exact unlisted _
  · split
    · exact unlisted _
    · exact ⟨_, rfl⟩

end Component

namespace ComponentClass

variable {k l : ComponentClass} {t u : Templates} {c : Component}

theorem mem_all (k : ComponentClass) : k ∈ all := by cases k <;> decide

theorem class_of_decode {v : Json} {r : Classified} (decoded : k.decode v = .ok r) :
    r.class? = some k := by
  cases k
  all_goals
    simp only [decode] at decoded
    obtain ⟨spec, rfl⟩ := Classified.of_specification decoded
    rfl

/-- Where no id is listed twice, none is listed for two classes. -/
theorem lists_unique (once : (t.job ++ t.pipeline ++ t.workflow ++ t.outputPort).Nodup)
    (first : k.Lists t c) (second : l.Lists t c) : k = l := by
  obtain ⟨-, id, here, template⟩ := first
  obtain ⟨-, id', there, template'⟩ := second
  rw [template] at template'
  cases template'
  -- two classes with one id between them would have it twice in the list of all ids
  have together : (all.flatMap (ids t)).Nodup := by simpa [all, ids] using once
  have apart := (List.nodup_flatMap.mp together).2
  by_contra other
  have symm : Std.Symm (Function.onFun List.Disjoint (ids t)) :=
    ⟨fun _ _ apart _ here there => apart there here⟩
  exact apart.forall (mem_all k) (mem_all l) other here there

theorem lists_congr (same : (k.ids u).Perm (k.ids t)) : k.Lists u c ↔ k.Lists t c := by
  unfold Lists
  simp only [same.mem_iff]

end ComponentClass

/-- The classification of a component depends on nothing but which list its template is in. -/
structure Component.Unambiguous (c : Component) (t : Templates) : Prop where
  apart : ∀ k l : ComponentClass, k.Lists t c → l.Lists t c → k = l
  decoded : (∀ k : ComponentClass, k.Lists t c → ∃ r, k.decode c.specific = .ok r) →
    ∃ r, c.classify t = .ok r
  classified : ∀ r, c.classify t = .ok r → (∀ k : ComponentClass, r.class? = some k ↔ k.Lists t c) ∧
    ((∃ reason, r = .unsupported reason) ↔ ∀ k : ComponentClass, ¬ k.Lists t c)
  failed : ∀ f, c.classify t = .error f ↔
    ∃ (k : ComponentClass) (fault : Wire.Fault), k.Lists t c ∧ k.decode c.specific = .error fault ∧
      f = .wrap s!"The specific section of component '{c.id}' is not a valid {k.title} specification"
        (fault.message .json)
  /-- The lists may be tried in another order, and the ids within a list may be in another order. -/
  anyOrder : ∀ order (u : Templates), order.Perm ComponentClass.all →
    (∀ k : ComponentClass, (k.ids u).Perm (k.ids t)) → c.classifyIn order u = c.classify t

namespace Component

variable {c : Component} {t : Templates}

theorem unambiguous_of_lists {k : ComponentClass} (lists : k.Lists t c)
    (only : ∀ l : ComponentClass, l.Lists t c → l = k) : c.Unambiguous t := by
  have result : c.classify t = c.specification k.title k.decode := by
    rw [classify_eq_classifyIn]
    exact classifyIn_of_lists lists only k.mem_all
  constructor
  · exact fun l m first second => (only l first).trans (only m second).symm
  · intro decodes
    obtain ⟨r, decoded⟩ := decodes k lists
    exact ⟨r, result.trans (specification_eq_ok.mpr decoded)⟩
  · intro r classified
    rw [result, specification_eq_ok] at classified
    have same := ComponentClass.class_of_decode classified
    refine ⟨fun l => ?_, iff_of_false ?_ fun none => none k lists⟩
    · rw [same, Option.some.injEq]
      exact ⟨fun same => same ▸ lists, fun other => (only l other).symm⟩
    · rintro ⟨reason, rfl⟩
      cases same
  · intro f
    rw [result, specification_eq_error]
    constructor
    · rintro ⟨fault, failed, told⟩
      exact ⟨k, fault, lists, failed, told⟩
    · rintro ⟨l, fault, other, failed, told⟩
      rw [only l other] at failed told
      exact ⟨fault, failed, told⟩
  · intro order u perm same
    rw [result]
    have among : k ∈ order := perm.mem_iff.mpr k.mem_all
    refine classifyIn_of_lists ((ComponentClass.lists_congr (same k)).mpr lists) ?_ among
    exact fun l other => only l ((ComponentClass.lists_congr (same l)).mp other)

theorem unambiguous_of_none (none : ∀ k : ComponentClass, ¬ k.Lists t c) : c.Unambiguous t := by
  have result : c.classify t = .ok c.unhandled := by
    rw [classify_eq_classifyIn]
    exact classifyIn_of_none none _
  obtain ⟨reason, unsupported⟩ := c.unhandled_unsupported
  constructor
  · exact fun k _ lists _ => absurd lists (none k)
  · exact fun _ => ⟨_, result⟩
  · intro r classified
    rw [result, unsupported] at classified
    cases classified
    exact ⟨fun k => iff_of_false nofun (none k), iff_of_true ⟨reason, rfl⟩ none⟩
  · intro f
    rw [result]
    refine iff_of_false nofun ?_
    rintro ⟨k, -, lists, -⟩
    exact none k lists
  · intro order u perm same
    rw [result]
    exact classifyIn_of_none (fun k lists => none k ((ComponentClass.lists_congr (same k)).mp lists)) _

theorem unambiguous_of_once (once : (t.job ++ t.pipeline ++ t.workflow ++ t.outputPort).Nodup)
    (c : Component) : c.Unambiguous t := by
  by_cases listed : ∃ k : ComponentClass, k.Lists t c
  · obtain ⟨k, lists⟩ := listed
    exact unambiguous_of_lists lists fun l other => ComponentClass.lists_unique once other lists
  · exact unambiguous_of_none fun k lists => listed ⟨k, lists⟩

end Component

/-- What settings must be to pass their check, and that they then leave no choice about the class of a
component. -/
theorem Settings.check_iff_sound_and_unambiguous :
    (∀ s : Settings, s.check = .ok () ↔ s.Sound) ∧
    ∀ s : Settings, s.check = .ok () → ∀ c : Component, c.Unambiguous s.templates := by
  refine ⟨fun s => check_eq_ok_iff, fun s passed c => ?_⟩
  exact Component.unambiguous_of_once (check_eq_ok_iff.mp passed).once c

def etlComponent : Component where
  id := "c"
  name := "c"
  description := none
  kind := "workload"
  templateId := some "urn:dmb:utm:databricks-workload-workflow-template:0.0.0"
  infrastructureId := none
  version := none
  specific := WorkflowSpec.toJson ⟨"w", "/r", ⟨"https://g/r.git"⟩, .object [], false⟩

theorem etl_classified_unambiguous : Settings.standard.check = .ok () ∧
    (∃ r, etlComponent.classify Settings.standard.templates = .ok r ∧ r.class? = some .workflow) ∧
    etlComponent.classifyIn [.workflow, .outputPort, .pipeline, .job] Settings.standard.templates =
      etlComponent.classify Settings.standard.templates := by
  have passed : Settings.standard.check = .ok () := by decide
  obtain ⟨apart, decoded, classified, -, anyOrder⟩ :=
    Settings.check_iff_sound_and_unambiguous.2 Settings.standard passed etlComponent
  have lists : ComponentClass.workflow.Lists Settings.standard.templates etlComponent := by decide
  have decodes : ComponentClass.workflow.decode etlComponent.specific =
      .ok (.workflow ⟨"w", "/r", ⟨"https://g/r.git"⟩, .object [], false⟩) := rfl
  obtain ⟨r, result⟩ := decoded fun k other => by
    rw [apart k .workflow other lists]
    exact ⟨_, decodes⟩
  refine ⟨passed, ⟨r, result, ((classified r result).1 .workflow).mpr lists⟩, ?_⟩
  exact anyOrder _ _ (by decide) fun k => List.Perm.refl _

end Provisioning
