import Provisioning.Console.Run
import Provisioning.Proofs.Json.Difference

/-!
What comparing two configurations tells.  The entries found in two JSON values are all their differences, and
none is told twice.  Every setting stands in the JSON of the settings at a place of its own, so that settings
without a difference are equal.
-/
namespace Provisioning
open Json

namespace Json

/-- Two of them are equal if there is no difference between what `f` writes of them. -/
def Telling {α : Type} (f : α → Json) : Prop := ∀ a b, (f a).differences (f b) = [] → a = b

theorem telling_of_leaf {α : Type} {f : α → Json} (leaf : ∀ a, (f a).isObject = false)
    (injective : ∀ a b, (f a).same (f b) = true ↔ a = b) : Telling f :=
  fun a b none => (injective a b).mp (same_of_differences_eq_nil (leaf a) none)

theorem telling_text : Telling .text := telling_of_leaf (fun _ => rfl) fun _ _ => same_text_iff

theorem telling_texts : Telling .texts :=
  telling_of_leaf (fun _ => rfl) fun _ _ => sameItems_map_iff fun _ _ => same_text_iff

theorem telling_bool : Telling .bool := telling_of_leaf (fun _ => rfl) fun _ _ => beq_iff_eq

theorem telling_nat : Telling fun n : Nat => .int n :=
  telling_of_leaf (fun _ => rfl) fun _ _ => same_int_iff.trans Int.ofNat_inj

theorem telling_optional_text : Telling (.ofOption .text) := by
  refine telling_of_leaf (fun a => by cases a <;> rfl) fun a b => ?_
  cases a <;> cases b <;> simp [ofOption, same]

end Json

theorem PermissionLevel.telling_toJson : Telling toJson := by
  refine telling_of_leaf (fun _ => rfl) fun a b => same_text_iff.trans ?_
  cases a <;> cases b <;> simp [name]

theorem CatalogPrivilege.same_toJson_iff {a b : CatalogPrivilege} : a.toJson.same b.toJson = true ↔ a = b := by
  refine same_text_iff.trans ?_
  cases a <;> cases b <;> simp [name]

theorem ObjectPermissions.telling_toJson : Telling toJson := by
  rintro ⟨owner, developers⟩ ⟨owner', developers'⟩ none
  have under := differences_object_eq_nil_iff.mp none
  have first : owner = owner' := PermissionLevel.telling_toJson _ _ (under "owner")
  have second : developers = developers' := PermissionLevel.telling_toJson _ _ (under "developers")
  rw [first, second]

theorem OutputPortPermissions.telling_privileges : Telling privileges :=
  telling_of_leaf (fun _ => rfl) fun _ _ => sameItems_map_iff fun _ _ => CatalogPrivilege.same_toJson_iff

theorem OutputPortPermissions.telling_toJson : Telling toJson := by
  rintro ⟨owner, developers, consumers⟩ ⟨owner', developers', consumers'⟩ none
  have under := differences_object_eq_nil_iff.mp none
  have first : owner = owner' := telling_privileges _ _ (under "owner")
  have second : developers = developers' := telling_privileges _ _ (under "developers")
  have third : consumers = consumers' := CatalogPrivilege.same_toJson_iff.mp
    (same_of_differences_eq_nil rfl (under "consumers"))
  rw [first, second, third]

theorem Permissions.telling_toJson : Telling toJson := by
  rintro ⟨job, pipeline, repository, port⟩ ⟨job', pipeline', repository', port'⟩ none
  have under := differences_object_eq_nil_iff.mp none
  have first : job = job' := ObjectPermissions.telling_toJson _ _ (under "job")
  have second : pipeline = pipeline' := ObjectPermissions.telling_toJson _ _ (under "pipeline")
  have third : repository = repository' := ObjectPermissions.telling_toJson _ _ (under "repository")
  have fourth : port = port' := OutputPortPermissions.telling_toJson _ _ (under "output_port")
  rw [first, second, third, fourth]

theorem WorkspaceSettings.telling_toJson : Telling toJson := by
  rintro ⟨managed, region, sku, group, role⟩ ⟨managed', region', sku', group', role'⟩ none
  have under := differences_object_eq_nil_iff.mp none
  have first : managed = managed' := telling_bool _ _ (under "managed")
  have second : region = region' := telling_text _ _ (under "region")
  have third : sku = sku' := telling_text _ _ (under "sku")
  have fourth : group = group' := telling_optional_text _ _ (under "resource_group")
  have fifth : role = role' := telling_text _ _ (under "workspace_role")
  rw [first, second, third, fourth, fifth]

theorem Templates.telling_toJson : Telling toJson := by
  rintro ⟨job, pipeline, workflow, port⟩ ⟨job', pipeline', workflow', port'⟩ none
  have under := differences_object_eq_nil_iff.mp none
  have first : job = job' := telling_texts _ _ (under "job")
  have second : pipeline = pipeline' := telling_texts _ _ (under "pipeline")
  have third : workflow = workflow' := telling_texts _ _ (under "workflow")
  have fourth : port = port' := telling_texts _ _ (under "output_port")
  rw [first, second, third, fourth]

theorem Settings.telling_toJson : Telling toJson := by
  rintro ⟨jobs, development, workspace, provider, permissions, templates⟩
    ⟨jobs', development', workspace', provider', permissions', templates'⟩ none
  have under := differences_object_eq_nil_iff.mp none
  have environments := differences_object_eq_nil_iff.mp (under "environments")
  have git := differences_object_eq_nil_iff.mp (under "git")
  have orchestrator := differences_object_eq_nil_iff.mp (under "orchestrator")
  have first : jobs = jobs' := telling_nat _ _ (orchestrator "max_concurrent_jobs")
  have second : development = development' := telling_text _ _ (environments "development")
  have third : workspace = workspace' := WorkspaceSettings.telling_toJson _ _ (under "workspace")
  have fourth : provider = provider' := telling_text _ _ (git "provider")
  have fifth : permissions = permissions' := Permissions.telling_toJson _ _ (under "permissions")
  have sixth : templates = templates' := Templates.telling_toJson _ _ (under "templates")
  rw [first, second, third, fourth, fifth, sixth]

theorem Settings.differences_eq_nil_iff {b t : Settings} :
    b.toJson.differences t.toJson = [] ↔ b.toJson.same t.toJson = true := by
  constructor
  · intro none
    rw [telling_toJson b t none]
    exact same_refl _
  · exact differences_eq_nil_of_same

/-! What is printed -/

namespace Console

variable {base target : String} {o : Options} {s : Configuration.Surroundings}

theorem describe_ne (d : Difference) : "  " ++ d.describe ≠ "No differences" := by
  intro same
  have first := congrArg (·.toList.head?) same
  simp at first

theorem heading_ne (base target : String) :
    "Comparing configurations: " ++ base ++ " vs " ++ target ≠ "No differences" := by
  intro same
  have first := congrArg (·.toList.head?) same
  simp at first

theorem mem_differenceLines_iff {b t : Settings} :
    "No differences" ∈ differenceLines b t ↔ b.toJson.same t.toJson = true := by
  rw [← Settings.differences_eq_nil_iff, differenceLines]
  cases b.toJson.differences t.toJson with
  | nil => simp
  | cons d ds =>
    simp [describe_ne, (describe_ne d).symm]

/-- That there are no differences is said only where both configurations load. -/
theorem mem_compare_iff : "No differences" ∈ (compare base target o s).output ↔
    ∃ b t, s.load o.directory base = .ok b ∧ s.load o.directory target = .ok t ∧
      b.settings.toJson.same t.settings.toJson = true := by
  have heading := (heading_ne base target).symm
  unfold compare loading Outcome.after
  cases first : s.load o.directory base with
  | error e => simp [heading, Outcome.failure]
  | ok b =>
    cases second : s.load o.directory target with
    | error e => simp [heading, Outcome.failure]
    | ok t => simp [heading, Outcome.success, mem_differenceLines_iff]

end Console

namespace Difference

theorem joinWith_append (between first second : String) (rest : List String) :
    Text.joinWith between ((first ++ between ++ second) :: rest) =
      Text.joinWith between (first :: second :: rest) := by
  cases rest with
  | nil => rfl
  | cons third rest => simp only [Text.joinWith, String.append_assoc]

theorem foldl_pathTo {path : String} (begun : path.isEmpty = false) (keys : List String) :
    keys.foldl pathTo path = Text.joinWith "." (path :: keys) := by
  induction keys generalizing path with
  | nil => rfl
  | cons key rest ih =>
    have longer : (path ++ "." ++ key).isEmpty = false := by
      rw [String.isEmpty_eq_false_iff] at begun ⊢
      simp [begun]
    rw [List.foldl_cons, pathTo, if_neg (by simp [begun]), ih longer, joinWith_append]

/-- Empty keys in front leave the path as empty as it was. -/
theorem path_eq_joinWith (d : Difference) :
    d.path = Text.joinWith "." (d.position.dropWhile (·.isEmpty)) := by
  unfold path
  induction d.position with
  | nil => rfl
  | cons key rest ih =>
    have first : pathTo "" key = key := rfl
    rw [List.foldl_cons, first]
    cases begun : key.isEmpty with
    | true =>
      rw [String.isEmpty_iff.mp begun, ih]
      rfl
    | false => rw [foldl_pathTo begun, List.dropWhile_cons_of_neg (by simp [begun])]

end Difference

/-- Between two values there is no difference just when they are the same without their null members,
provided that the keys of their objects ascend, as they do in all that is read.  There is an entry for each
position that is met and where the sides are parted, exactly one, and no other; the entries stand in the order
of their positions, and change their sides with the two values.  Where readings are parted further down, one entry tells
so at a position above.  The path of an entry is the keys of its position joined by points.  Of two
configurations it is said that there is no difference when both load and are written as the same JSON. -/
theorem mem_differences_iff_parted :
    (∀ l r : Json, l.Ordered → r.Ordered →
      (l.differences r = [] ↔ l.withoutNulls.same r.withoutNulls = true)) ∧
    (∀ (text : String) (v : Json), read text = some v → v.Ordered) ∧
    (∀ l r : Json,
      (∀ d, d ∈ l.differences r ↔ Met l r d.position ∧ d.left = reading d.position l ∧
        d.right = reading d.position r ∧ Parted d.left d.right) ∧
      (∀ p, Met l r p → Parted (reading p l) (reading p r) →
        (l.differences r).filter (·.position == p) = [⟨p, reading p l, reading p r⟩]) ∧
      (∀ p, Parted (reading p l) (reading p r) →
        ∃ d, (l.differences r).filter (·.position.isPrefixOf p) = [d]) ∧
      ((l.differences r).Pairwise fun d e => Before d.position e.position) ∧
      (∀ d ∈ l.differences r, d.path = Text.joinWith "." (d.position.dropWhile (·.isEmpty))) ∧
      r.differences l = (l.differences r).map .swap) ∧
    ∀ (base target : String) (o : Console.Options) (s : Configuration.Surroundings),
      "No differences" ∈ (Console.compare base target o s).output ↔
        ∃ b t, s.load o.directory base = .ok b ∧ s.load o.directory target = .ok t ∧
          b.settings.toJson.same t.settings.toJson = true := by
  refine ⟨fun l r => differences_eq_nil_iff, fun text v => ordered_of_read, fun l r => ?_,
    fun base target o s => Console.mem_compare_iff⟩
  exact ⟨fun d => mem_differences_iff, fun p => filter_position, fun p => filter_above, pairwise_before l r,
    fun d _ => d.path_eq_joinWith, differences_swap l r⟩

/-- A null member on the left, an empty object on the right, and numbers that differ one level down. -/
def numberedLeft : Json := .object [("a", .null), ("b", .object [("c", .int 1)])]

def numberedRight : Json := .object [("b", .object [("c", .int 2)]), ("d", .object [])]

theorem numbered_ordered : numberedLeft.Ordered ∧ numberedRight.Ordered := by
  have number : ∀ n, Ordered (.object [("c", .int n)]) := fun n => ordered_put ordered_object_nil .number
  refine ⟨.object ?_ ?_, .object ?_ ?_⟩
  · exact List.pairwise_pair.mpr (by decide)
  · simpa using ⟨.null, number 1⟩
  · exact List.pairwise_pair.mpr (by decide)
  · simpa using ⟨number 2, ordered_object_nil⟩

theorem numbered_differences :
    numberedLeft.differences numberedRight ≠ [] ∧
    (numberedLeft.differences numberedRight).filter (·.position == ["b", "c"]) =
      [⟨["b", "c"], .int 1, .int 2⟩] ∧
    ∃ d, (numberedLeft.differences numberedRight).filter (·.position.isPrefixOf ["d"]) = [d] := by
  obtain ⟨nil, -, entries, -⟩ := mem_differences_iff_parted
  obtain ⟨-, exact, above, -⟩ := entries numberedLeft numberedRight
  refine ⟨fun none => ?_, ?_, ?_⟩
  · have same := (nil _ _ numbered_ordered.1 numbered_ordered.2).mp none
    cases same
  · exact exact ["b", "c"] ⟨⟨rfl, rfl⟩, ⟨rfl, rfl⟩, trivial⟩ ⟨nofun, rfl⟩
  · exact above ["d"] ⟨nofun, rfl⟩

end Provisioning
