import Provisioning.Proofs.Validation.Demand

/-!
All that can become of a request that is checked.  One that is of another kind, holds no descriptor
or points at nothing has one problem; of any other request everything that is wrong is told, in
order, and it is accepted when that is nothing.
-/
namespace Provisioning

open Demand

theorem Failure.ofProblems?_problems (f : Failure) : ofProblems? f.problems = some f := rfl

def Descriptor.PointsAt (d : Descriptor) (c : Component) : Prop :=
  ∃ before after, d.product.components = before ++ c :: after ∧ c.id = d.componentId ∧
    ∀ x ∈ before, x.id ≠ d.componentId

theorem Descriptor.component?_eq_some_iff {d : Descriptor} {c : Component} :
    d.component? = some c ↔ d.PointsAt c := by
  simp only [component?, List.find?_eq_some_iff_append, PointsAt, beq_iff_eq, Bool.not_eq_true',
    beq_eq_false_iff_ne]
  constructor
  · rintro ⟨same, before, after, parts, other⟩
    exact ⟨before, after, parts, same, other⟩
  · rintro ⟨before, after, parts, same, other⟩
    exact ⟨same, before, after, parts, other⟩

theorem Descriptor.component?_eq_none_iff {d : Descriptor} :
    d.component? = none ↔ ∀ c ∈ d.product.components, c.id ≠ d.componentId := by
  simp only [component?, List.find?_eq_none, beq_iff_eq, ne_eq]

namespace Validation

inductive ToldOfReference (field reference : String) : List Problem → Prop where
  | fine {ref} : PrincipalRef.parse reference = .ok ref → ToldOfReference field reference []
  | malformed {e} : PrincipalRef.parse reference = .error e →
      ToldOfReference field reference [⟨s!"Invalid {field}: {e.message}", none⟩]

inductive ToldOfComponent : Except Failure Classified → List Problem → Prop where
  | failed (f) : ToldOfComponent (.error f) f.problems
  | classified {kind ps} : Complaints kind.demands ps → ToldOfComponent (.ok kind) ps

/-- What is told of a component and its data product, in order. -/
inductive Told (p : DataProduct) (c : Except Failure Classified) : List Problem → Prop where
  | inOrder {owner group environment component} :
      ToldOfReference "dataProductOwner" p.owner owner →
      ToldOfReference "devGroup" p.devGroup group →
      Complaints [⟨Text.Filled p.environment, "Data product environment must not be empty"⟩]
        environment →
      ToldOfComponent c component →
      Told p c (owner ++ group ++ environment ++ component)

theorem toldOfReference_iff {field reference : String} {ps : List Problem} :
    ToldOfReference field reference ps ↔ ps = principalProblems field reference := by
  unfold principalProblems
  cases read : PrincipalRef.parse reference with
  | ok ref =>
    constructor
    · rintro (_ | ⟨refused⟩)
      · rfl
      · rw [read] at refused
        cases refused
    · rintro rfl
      exact .fine read
  | error e =>
    constructor
    · rintro (⟨accepted⟩ | ⟨refused⟩)
      · rw [read] at accepted
        cases accepted
      · rw [read] at refused
        cases refused
        rfl
    · rintro rfl
      exact .malformed read

theorem told_of_environment_iff {environment : String} {ps : List Problem} :
    Complaints [⟨Text.Filled environment, "Data product environment must not be empty"⟩] ps ↔
      ps = environmentProblems environment := by
  have text : "Data product environment" ++ " must not be empty" =
      "Data product environment must not be empty" := by decide
  have checks : Rule.CheckAll [Rule.filled "Data product environment" environment]
      [⟨Text.Filled environment, "Data product environment must not be empty"⟩] :=
    .cons ⟨(Rule.filled_checks _ environment).1, text⟩ .nil
  rw [Rule.complaints_iff checks, environmentProblems]
  cases blank : Text.blank environment <;> simp [Rule.broken, Rule.filled, blank]

theorem toldOfComponent_iff {c : Except Failure Classified} {ps : List Problem} :
    ToldOfComponent c ps ↔ ps = classifiedProblems c := by
  cases c with
  | error f =>
    constructor
    · rintro ⟨⟩
      rfl
    · rintro rfl
      exact .failed f
  | ok kind =>
    refine Iff.trans ?_ (Rule.complaints_iff kind.rules_check)
    constructor
    · rintro (_ | ⟨complaints⟩)
      exact complaints
    · exact .classified

theorem told_iff {p : DataProduct} {c : Except Failure Classified} {ps : List Problem} :
    Told p c ps ↔ ps = problems p c := by
  constructor
  · rintro ⟨owner, group, environment, component⟩
    rw [toldOfReference_iff.mp owner, toldOfReference_iff.mp group,
      told_of_environment_iff.mp environment, toldOfComponent_iff.mp component]
    rfl
  · rintro rfl
    exact .inOrder (toldOfReference_iff.mpr rfl) (toldOfReference_iff.mpr rfl)
      (told_of_environment_iff.mpr rfl) (toldOfComponent_iff.mpr rfl)

theorem parts_of_nothing_told {p : DataProduct} {c : Except Failure Classified}
    (nothing : problems p c = []) : ∃ owner devGroup kind, PrincipalRef.parse p.owner = .ok owner ∧
      PrincipalRef.parse p.devGroup = .ok devGroup ∧ c = .ok kind := by
  simp only [problems, List.append_eq_nil_iff] at nothing
  obtain ⟨⟨⟨noOwner, noGroup⟩, -⟩, noComponent⟩ := nothing
  cases c with
  | error f => cases noComponent
  | ok kind =>
    unfold principalProblems at noOwner noGroup
    cases ownerRead : PrincipalRef.parse p.owner with
    | error e => simp [ownerRead] at noOwner
    | ok owner =>
      cases groupRead : PrincipalRef.parse p.devGroup with
      | error e => simp [groupRead] at noGroup
      | ok devGroup => exact ⟨owner, devGroup, kind, rfl, rfl, rfl⟩

variable {p : DataProduct} {c : Component} {removeData : Bool} {t : Templates}

theorem acceptComponent_error_iff {f : Failure} : acceptComponent p c removeData t = .error f ↔
    f.problems = problems p (c.classify t) := by
  unfold acceptComponent
  dsimp only
  constructor
  · intro refused
    split at refused
    · rename_i g collected
      cases refused
      exact Failure.problems_of_ofProblems? collected
    · rename_i collected
      obtain ⟨owner, devGroup, kind, ownerRead, groupRead, classified⟩ :=
        parts_of_nothing_told (Failure.eq_nil_of_ofProblems? collected)
      rw [ownerRead, groupRead, classified] at refused
      cases refused
  · intro told
    rw [← told, Failure.ofProblems?_problems]

theorem acceptComponent_ok_iff {a : Accepted} : acceptComponent p c removeData t = .ok a ↔
    problems p (c.classify t) = [] ∧ PrincipalRef.parse p.owner = .ok a.owner ∧
      PrincipalRef.parse p.devGroup = .ok a.devGroup ∧ c.classify t = .ok a.classified ∧
      a.product = p ∧ a.component = c ∧ a.removeData = removeData := by
  unfold acceptComponent
  dsimp only
  constructor
  · intro accepted
    split at accepted
    · cases accepted
    · rename_i collected
      split at accepted
      · rename_i owner devGroup kind ownerRead groupRead classified
        cases accepted
        exact ⟨Failure.eq_nil_of_ofProblems? collected, ownerRead, groupRead, classified, rfl, rfl, rfl⟩
      · cases accepted
  · rintro ⟨nothing, ownerRead, groupRead, classified, rfl, rfl, rfl⟩
    rw [nothing, ownerRead, groupRead, classified]
    rfl

theorem exists_accepted_iff : (∃ a, acceptComponent p c removeData t = .ok a) ↔
    problems p (c.classify t) = [] := by
  constructor
  · rintro ⟨a, accepted⟩
    exact (acceptComponent_ok_iff.mp accepted).1
  · intro nothing
    obtain ⟨owner, devGroup, kind, ownerRead, groupRead, classified⟩ := parts_of_nothing_told nothing
    exact ⟨⟨p, c, kind, removeData, owner, devGroup⟩,
      acceptComponent_ok_iff.mpr ⟨nothing, ownerRead, groupRead, classified, rfl, rfl, rfl⟩⟩

end Validation

/-! No problem of a request reads like the failure that acceptance keeps in reserve. -/

theorem Text.append_ne_of_opening {s front back : String} (other : ¬ front.toList <+: s.toList) :
    front ++ back ≠ s := by
  rintro rfl
  exact other (by simp)

namespace Validation

def reserved : String := "Data product owner and development group must be valid principal references"

theorem problems_unreadable : unreadable.problems = [⟨reserved, none⟩] := rfl

end Validation

namespace Rule

open Validation (reserved)

def Unreserved (rules : List Rule) : Prop := ∀ rule ∈ rules, rule.complaint ≠ reserved

theorem Unreserved.nil : Unreserved [] := List.forall_mem_nil _

theorem Unreserved.cons {rule : Rule} {rules : List Rule} (here : rule.complaint ≠ reserved)
    (rest : Unreserved rules) : Unreserved (rule :: rules) := List.forall_mem_cons.mpr ⟨here, rest⟩

theorem Unreserved.append {rules more : List Rule} (first : Unreserved rules) (second : Unreserved more) :
    Unreserved (rules ++ more) := List.forall_mem_append.mpr ⟨first, second⟩

theorem Unreserved.filled {field value : String} {rules : List Rule}
    (other : ¬ field.toList <+: reserved.toList) (rest : Unreserved rules) :
    Unreserved (Rule.filled field value :: rules) := .cons (Text.append_ne_of_opening other) rest

theorem Unreserved.repository (git : GitSource) (path : String) : Unreserved (Rule.repository git path) := by
  refine .cons ?_ (.filled (by decide) .nil)
  simp only [gitAddress, toString, String.append_assoc]
  exact Text.append_ne_of_opening (by decide)

end Rule

open Rule

theorem JobSpec.rules_unreserved (s : JobSpec) : Unreserved s.rules := by
  refine .append (.append (.append ?_ (.repository _ _)) ?_) ?_
  · exact .filled (by decide) (.filled (by decide) .nil)
  · exact .filled (by decide) (.filled (by decide) (.filled (by decide) (.filled (by decide) .nil)))
  · cases s.schedule with
    | none => exact .nil
    | some schedule => exact .filled (by decide) (.filled (by decide) .nil)

theorem PipelineSpec.rules_unreserved (s : PipelineSpec) : Unreserved s.rules := by
  have libraries : "A DLT pipeline needs at least one notebook or file library" ≠ Validation.reserved := by
    decide
  refine .append (.append ?_ (.repository _ _)) (.cons ?_ (.cons libraries (.cons ?_ .nil)))
  · exact .filled (by decide) (.filled (by decide) .nil)
  · simp only [toString, String.append_assoc]
    exact Text.append_ne_of_opening (by decide)
  · simp only [toString, String.append_assoc]
    exact Text.append_ne_of_opening (by decide)

theorem WorkflowSpec.rules_unreserved (s : WorkflowSpec) : Unreserved s.rules := by
  refine .append (.append (.filled (by decide) .nil) (.repository _ _)) ?_
  unfold nameRule
  cases s.name? with
  | none => exact .cons (by decide) .nil
  | some name => exact .filled (by decide) .nil

theorem OutputPortSpec.rules_unreserved (s : OutputPortSpec) : Unreserved s.rules :=
  .filled (by decide) <| .filled (by decide) <| .filled (by decide) <| .filled (by decide) <|
    .filled (by decide) <| .filled (by decide) <| .filled (by decide) .nil

theorem Classified.rules_unreserved : (kind : Classified) → Unreserved kind.rules
  | job s => s.rules_unreserved
  | pipeline s => s.rules_unreserved
  | workflow s => s.rules_unreserved
  | outputPort s => s.rules_unreserved
  | unsupported _ => .nil

def Failure.Undecoded (f : Failure) : Prop :=
  ∃ rest cause, f = .ofProblem ⟨"The specific section of component '" ++ rest, cause⟩

theorem Component.undecoded_of_specification {α : Type} {c : Component} {what : String}
    {d : Wire.Decoder α} {kind : α → Classified} {f : Failure}
    (failed : kind <$> c.specification what d = .error f) : f.Undecoded := by
  unfold specification at failed
  cases decoded : d c.specific with
  | ok a => simp [decoded, Functor.map, Except.map] at failed
  | error fault =>
    simp only [decoded, Functor.map, Except.map, Except.error.injEq] at failed
    subst failed
    simp only [Failure.wrap, Problem.withCause, toString, String.append_assoc]
    exact ⟨_, _, rfl⟩

theorem Component.undecoded_of_classify {c : Component} {t : Templates} {f : Failure}
    (failed : c.classify t = .error f) : f.Undecoded := by
  unfold classify classifyWorkload classifyOutputPort at failed
  split at failed
  · split at failed
    · split at failed
      · exact undecoded_of_specification failed
      · split at failed
        · exact undecoded_of_specification failed
        · split at failed
          · exact undecoded_of_specification failed
          · cases failed
    · cases failed
  · split at failed
    · split at failed
      · split at failed
        · exact undecoded_of_specification failed
        · cases failed
      · cases failed
    · cases failed

namespace Validation

theorem reserved_not_told (p : DataProduct) (c : Component) (t : Templates) :
    ⟨reserved, none⟩ ∉ problems p (c.classify t) := by
  have reference : ∀ field reference : String, ⟨reserved, none⟩ ∉ principalProblems field reference := by
    intro field reference
    unfold principalProblems
    cases PrincipalRef.parse reference with
    | ok ref => exact List.not_mem_nil
    | error e =>
      simp only [toString, String.append_assoc, List.mem_singleton, Problem.mk.injEq, and_true]
      exact (Text.append_ne_of_opening (by decide)).symm
  have environment : ⟨reserved, none⟩ ∉ environmentProblems p.environment := by
    unfold environmentProblems
    split
    · decide
    · exact List.not_mem_nil
  have component : ⟨reserved, none⟩ ∉ classifiedProblems (c.classify t) := by
    cases classified : c.classify t with
    | ok kind =>
      simp only [classifiedProblems, Rule.broken, List.mem_map, not_exists, not_and]
      intro rule member same
      exact kind.rules_unreserved rule (List.mem_filter.mp member |>.1) (congrArg Problem.description same)
    | error f =>
      obtain ⟨rest, cause, rfl⟩ := Component.undecoded_of_classify classified
      intro member
      exact Text.append_ne_of_opening (by decide)
        (congrArg Problem.description (List.mem_singleton.mp member)).symm
  simp only [problems, List.mem_append, not_or]
  exact ⟨⟨⟨reference _ _, reference _ _⟩, environment⟩, component⟩

end Validation

open Validation

theorem Descriptor.read_error {source : String} {f : Failure} (unread : read source = .error f) :
    ∃ e, f = .ofProblem (.ofError ("The descriptor is not a valid component descriptor: " ++ e)) := by
  unfold read ofChars at unread
  split at unread
  · rename_i refusal _
    cases unread
    exact ⟨refusal.message, rfl⟩
  · split at unread
    · cases unread
    · rename_i fault _
      cases unread
      exact ⟨fault.message .yaml, rfl⟩

namespace Request

variable (r : Request) (t : Templates)

structure Judged : Prop where
  wrongKind : r.kind ≠ .component → ∃ f p, r.accept t = .error f ∧ f.problems = [p]
  unread : r.kind = .component → ∀ f, Descriptor.read r.descriptor = .error f →
    r.accept t = .error f ∧ ∃ p, f.problems = [p]
  undeclared : r.kind = .component → ∀ d, Descriptor.read r.descriptor = .ok d →
    (∀ c ∈ d.product.components, c.id ≠ d.componentId) →
    ∃ f p, r.accept t = .error f ∧ f.problems = [p]
  /-- There is one list of what is told, and it decides. -/
  told : r.kind = .component → ∀ d c, Descriptor.read r.descriptor = .ok d → d.PointsAt c →
    ∃ ps, (∀ qs, Told d.product (c.classify t) qs ↔ qs = ps) ∧
      (∀ f, r.accept t = .error f ↔ f.problems = ps) ∧
      ((∃ a, r.accept t = .ok a) ↔ ps = []) ∧
      ∀ a, r.accept t = .ok a → a.product = d.product ∧ a.component = c ∧
        c.classify t = .ok a.classified ∧ a.removeData = r.removeData ∧
        PrincipalRef.parse d.product.owner = .ok a.owner ∧
        PrincipalRef.parse d.product.devGroup = .ok a.devGroup
  /-- What is kept in reserve for parts that failed without a problem is never needed. -/
  inReserve : r.accept t ≠ .error unreadable

variable {r t}

theorem accept_of_wrongKind (other : r.kind ≠ .component) : r.accept t = .error (wrongKind r.kind) :=
  if_pos other

theorem accept_of_unread {f : Failure} (kind : r.kind = .component)
    (unread : Descriptor.read r.descriptor = .error f) : r.accept t = .error f := by
  rw [accept, if_neg (not_not_intro kind), unread]

theorem accept_of_undeclared {d : Descriptor} (kind : r.kind = .component)
    (read : Descriptor.read r.descriptor = .ok d) (none : d.component? = none) :
    r.accept t = .error (undeclared d) := by
  simp only [accept, if_neg (not_not_intro kind), read, none]

theorem accept_of_component {d : Descriptor} {c : Component} (kind : r.kind = .component)
    (read : Descriptor.read r.descriptor = .ok d) (found : d.component? = some c) :
    r.accept t = acceptComponent d.product c r.removeData t := by
  simp only [accept, if_neg (not_not_intro kind), read, found]

theorem error_ne_unreadable {f : Failure} (other : f.first.description ≠ reserved) :
    (.error f : Except Failure Accepted) ≠ .error unreadable := by
  intro same
  injection same with same
  exact other (congrArg (fun f : Failure => f.first.description) same)

theorem accept_ne_unreadable : r.accept t ≠ .error unreadable := by
  by_cases kind : r.kind = .component
  · cases read : Descriptor.read r.descriptor with
    | error f =>
      obtain ⟨e, rfl⟩ := Descriptor.read_error read
      rw [accept_of_unread kind read]
      exact error_ne_unreadable (Text.append_ne_of_opening (by decide))
    | ok d =>
      cases found : d.component? with
      | none =>
        rw [accept_of_undeclared kind read found]
        refine error_ne_unreadable ?_
        simp only [undeclared, Failure.single, Failure.ofProblem, toString, String.append_assoc]
        exact Text.append_ne_of_opening (by decide)
      | some c =>
        rw [accept_of_component kind read found]
        intro refused
        have among : ⟨reserved, none⟩ ∈ problems d.product (c.classify t) := by
          rw [← acceptComponent_error_iff.mp refused, problems_unreadable]
          exact List.mem_singleton_self _
        exact reserved_not_told d.product c t among
  · rw [accept_of_wrongKind kind]
    refine error_ne_unreadable ?_
    cases r.kind <;> decide

/-- A request that is of another kind, cannot be read or points at nothing has one problem.  Of any
other everything is told that is wrong with the owner, the developer group, the environment and the
component, in this order, and it is accepted, as what it is, when there is nothing to tell. -/
theorem validate_errors_iff_demands (r : Request) (t : Templates) : r.Judged t where
  wrongKind other := ⟨_, _, accept_of_wrongKind other, rfl⟩
  unread kind f unread := by
    obtain ⟨e, rfl⟩ := Descriptor.read_error unread
    exact ⟨accept_of_unread kind unread, _, rfl⟩
  undeclared kind d read none :=
    ⟨_, _, accept_of_undeclared kind read (Descriptor.component?_eq_none_iff.mpr none), rfl⟩
  told kind d c read found := by
    have accepts : r.accept t = acceptComponent d.product c r.removeData t :=
      accept_of_component kind read (Descriptor.component?_eq_some_iff.mpr found)
    refine ⟨problems d.product (c.classify t), fun qs => told_iff, fun f => ?_, ?_, fun a accepted => ?_⟩
    · rw [accepts, acceptComponent_error_iff]
    · rw [accepts, exists_accepted_iff]
    · rw [accepts] at accepted
      obtain ⟨-, owner, devGroup, classified, product, component, removeData⟩ :=
        acceptComponent_ok_iff.mp accepted
      exact ⟨product, component, classified, removeData, owner, devGroup⟩
  inReserve := accept_ne_unreadable

/-- A pipeline with a name of blanks, an edition that is none, no libraries and bounds the wrong way
round, in a data product with an owner and a developer group that are no references. -/
def faultySource : List Char := List.flatMap String.toList
  ["dataProduct:\n", " id: d\n", " name: n\n", " environment: ' '\n", " dataProductOwner: user:ab\n",
    " devGroup: g\n", " components:\n", " - id: c\n", "   name: c\n", "   kind: workload\n",
    "   useCaseTemplateId: p\n", "   specific:\n", "    workspace: w\n", "    pipelineName: ' '\n",
    "    productEdition: basic\n", "    repoPath: /r\n", "    git:\n",
    "     gitRepoUrl: 'https://g/r.git '\n", "    cluster:\n", "     minWorkers: 2\n",
    "     maxWorkers: 1\n", "     workerType: t\n", "     driverType: t\n",
    "componentIdToProvision: c"]

def faultyComplaints : List String :=
  ["Invalid dataProductOwner: 'user:ab' is not a valid user reference, expected 'user:<name>_<domain>'",
    "Invalid devGroup: 'g' is not a valid principal reference, expected 'user:' or 'group:' prefix",
    "Data product environment must not be empty", "pipelineName must not be empty",
    "productEdition 'basic' is not one of core, pro, advanced",
    "A DLT pipeline needs at least one notebook or file library",
    "cluster.minWorkers (2) must not exceed cluster.maxWorkers (1)"]

theorem faulty_pipeline_errors :
    let r := Request.ofDescriptor (String.ofList faultySource)
    let t : Templates := ⟨[], ["p"], [], []⟩
    ∃ d c ps, Descriptor.read r.descriptor = .ok d ∧ d.PointsAt c ∧
      Told d.product (c.classify t) ps ∧ (∀ f, r.accept t = .error f ↔ f.problems = ps) ∧
      ps.map (·.description) = faultyComplaints := by
  intro r t
  have computed : (Descriptor.ofChars faultySource).toOption.any (fun d => d.component?.any fun c =>
      (problems d.product (c.classify t)).map (·.description) == faultyComplaints) = true := by
    decide +kernel
  cases read : Descriptor.ofChars faultySource with
  | error f =>
    rw [read] at computed
    cases computed
  | ok d =>
    rw [read, Except.toOption, Option.any_some] at computed
    obtain ⟨c, found, texts⟩ := (Option.any_eq_true _ _).mp computed
    have readable : Descriptor.read r.descriptor = .ok d := by
      rw [← read]
      exact congrArg Descriptor.ofChars String.toList_ofList
    have pointed := Descriptor.component?_eq_some_iff.mp found
    obtain ⟨ps, told, refused, -⟩ := (validate_errors_iff_demands r t).told rfl d c readable pointed
    have whole := (told _).mp (told_iff.mpr rfl)
    exact ⟨d, c, ps, readable, pointed, (told ps).mpr rfl, refused, whole ▸ eq_of_beq texts⟩

end Request
end Provisioning
