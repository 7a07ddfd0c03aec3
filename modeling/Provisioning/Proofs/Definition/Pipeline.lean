import Mathlib.Data.List.Forall2
import Provisioning.Proofs.Chain.Sending
import Provisioning.Proofs.Json.Same
import Provisioning.Proofs.Validation.Demand

/-!
What a pipeline definition is like when its specification keeps the rules.  The rules compare the edition
without regard to the case of ASCII letters, so whatever passes them is written out as one of the three
names in capitals.  Library paths come to stand below the path of the repository, and how many slashes meet
between the two does not matter.
-/
namespace Provisioning

namespace Text

/-! Capitals -/

theorem forall_ascii {P : Char → Prop} (all : ∀ n : Fin 0x80, P (Char.ofNat n)) {c : Char}
    (ascii : c.toNat < 0x80) : P c := by
  have here := all ⟨c.toNat, ascii⟩
  rwa [Char.ofNat_toNat] at here

theorem upperChar_toLower {c : Char} (ascii : c.toNat < 0x80) : upperChar c.toLower = upperChar c :=
  forall_ascii (P := fun c => upperChar c.toLower = upperChar c) (by decide) ascii

theorem toLower_of_not_ascii {c : Char} (other : ¬ c.toNat < 0x80) : c.toLower = c := by
  unfold Char.toLower
  split
  · rename_i capital
    have low : c.toNat ≤ 'Z'.toNat := UInt32.le_iff_toNat_le.mp capital.2
    exact absurd (Nat.lt_of_le_of_lt low (by decide)) other
  · rfl

theorem ascii_toLower_iff {c : Char} : c.toLower.toNat < 0x80 ↔ c.toNat < 0x80 := by
  constructor
  · intro ascii
    by_contra other
    rw [toLower_of_not_ascii other] at ascii
    exact other ascii
  · exact forall_ascii (P := fun c => c.toLower.toNat < 0x80) (by decide)

/-- Where one of two texts that differ in the case of ASCII letters alone is ASCII, capitals make them the
same. -/
theorem upper_of_sameIgnoringAsciiCase {s t : String} (ascii : ∀ c ∈ t.toList, c.toNat < 0x80)
    (same : s.toList.map Char.toLower = t.toList.map Char.toLower) : upper s = upper t := by
  have lowered : ∀ u : String, (∀ c ∈ u.toList, c.toNat < 0x80) →
      (u.toList.map Char.toLower).flatMap upperChar = u.toList.flatMap upperChar := by
    intro u ascii
    rw [List.flatMap_map]
    exact List.flatMap_congr fun c member => upperChar_toLower (ascii c member)
  have also : ∀ c ∈ s.toList, c.toNat < 0x80 := by
    intro c member
    have lower : c.toLower ∈ t.toList.map Char.toLower := same ▸ List.mem_map_of_mem member
    obtain ⟨d, member, equal⟩ := List.mem_map.mp lower
    exact ascii_toLower_iff.mp (equal ▸ ascii_toLower_iff.mpr (ascii d member))
  rw [upper, upper, ← lowered s also, ← lowered t ascii, same]

end Text

/-! Paths -/

def slashes (n : Nat) : String := String.ofList (List.replicate n '/')

theorem isSlash_of_mem_slashes {n : Nat} {c : Char} (member : c ∈ (slashes n).toList) : isSlash c = true := by
  simp only [slashes, String.toList_ofList, List.mem_replicate] at member
  rw [member.2]
  rfl

theorem exists_slashes {cs : List Char} (all : ∀ c ∈ cs, isSlash c = true) :
    ∃ n, String.ofList cs = slashes n :=
  ⟨cs.length, congrArg String.ofList (List.eq_replicate_of_mem fun c member => beq_iff_eq.mp (all c member))⟩

/-- The whole is the repository without the slashes at its end, one slash, and the path without the slashes
at its beginning. -/
inductive Under : String → String → String → Prop where
  | intro (root rest : String) (behind before : Nat) (ends : root.toList.getLast? ≠ some '/')
      (begins : rest.toList.head? ≠ some '/') :
      Under (root ++ slashes behind) (slashes before ++ rest) (root ++ "/" ++ rest)

theorem pathWithin_slashes (repository path : String) (behind before : Nat) :
    pathWithin (repository ++ slashes behind) (slashes before ++ path) = pathWithin repository path := by
  unfold pathWithin
  rw [String.toList_append, String.toList_append,
    Text.dropEnd_append_of_all fun c => isSlash_of_mem_slashes,
    List.dropWhile_append_of_pos fun c => isSlash_of_mem_slashes]

theorem head?_dropWhile_isSlash (cs : List Char) : (cs.dropWhile isSlash).head? ≠ some '/' := by
  intro slash
  have first := List.head?_dropWhile_not isSlash cs
  rw [slash] at first
  cases first

theorem under_pathWithin (repository path : String) : Under repository path (pathWithin repository path) := by
  obtain ⟨back, root, behindAll⟩ := Text.exists_dropEnd isSlash repository.toList
  obtain ⟨behind, slashesBehind⟩ := exists_slashes behindAll
  obtain ⟨before, slashesBefore⟩ := exists_slashes fun c member =>
    List.all_eq_true.mp (List.all_takeWhile (p := isSlash) (l := path.toList)) c member
  have ends : (Text.dropEnd isSlash repository.toList).getLast? ≠ some '/' := by
    rw [Text.dropEnd, List.getLast?_reverse]
    exact head?_dropWhile_isSlash _
  have whole := Under.intro (String.ofList (Text.dropEnd isSlash repository.toList))
    (String.ofList (path.toList.dropWhile isSlash)) behind before
    (by rwa [String.toList_ofList]) (by rw [String.toList_ofList]; exact head?_dropWhile_isSlash _)
  rw [← slashesBehind, ← slashesBefore, ← String.ofList_append, ← String.ofList_append, ← root,
    List.takeWhile_append_dropWhile, String.ofList_toList, String.ofList_toList] at whole
  have joined : pathWithin repository path = String.ofList (Text.dropEnd isSlash repository.toList) ++ "/" ++
      String.ofList (path.toList.dropWhile isSlash) := String.toList_injective (by simp [pathWithin])
  rw [joined]
  exact whole

def Slashed (path more : String) : Prop := ∃ n, more = slashes n ++ path

/-! Definitions -/

theorem Rule.forall_met {rules : List Rule} {demands : List Demand} (checks : CheckAll rules demands)
    (unbroken : broken rules = []) : ∀ d ∈ demands, d.met := by
  have complaints := (complaints_iff checks).mpr unbroken.symm
  clear checks unbroken
  generalize told : ([] : List Problem) = problems at complaints
  induction complaints with
  | none => exact List.forall_mem_nil _
  | met here _ ih => exact List.forall_mem_cons.mpr ⟨here, ih told⟩
  | unmet => cases told

/-- What a platform can make a pipeline of: an edition that there is, something to run, and bounds with room
between them. -/
structure PipelineDefinition.WellFormed (d : PipelineDefinition) : Prop where
  edition : d.edition ∈ ["CORE", "PRO", "ADVANCED"]
  libraries : d.notebooks ≠ [] ∨ d.files ≠ []
  bounds : ∃ low high : Nat, d.cluster.at? [.member "autoscale", .member "min_workers"] = some (.int low) ∧
    d.cluster.at? [.member "autoscale", .member "max_workers"] = some (.int high) ∧ low ≤ high

namespace PipelineSpec

variable (s : PipelineSpec)

theorem upper_edition (named : ∃ edition ∈ ["core", "pro", "advanced"],
    s.edition.toList.map Char.toLower = edition.toList) :
    s.definition.edition ∈ ["CORE", "PRO", "ADVANCED"] := by
  obtain ⟨edition, known, same⟩ := named
  -- the check of the characters is a Boolean one, or it would go through all characters there are
  have plain : ∀ e ∈ ["core", "pro", "advanced"], (e.toList.all fun c => c.toNat < 0x80) = true ∧
      e.toList = e.toList.map Char.toLower ∧ Text.upper e ∈ ["CORE", "PRO", "ADVANCED"] := by decide
  obtain ⟨all, lower, capitals⟩ := plain edition known
  have ascii : ∀ c ∈ edition.toList, c.toNat < 0x80 := fun c member =>
    decide_eq_true_iff.mp (List.all_eq_true.mp all c member)
  have written : s.definition.edition = Text.upper edition :=
    Text.upper_of_sameIgnoringAsciiCase ascii (same.trans lower)
  exact written ▸ capitals

theorem autoscale_at? :
    s.definition.cluster.at? [.member "autoscale", .member "min_workers"] = some (.int s.cluster.minWorkers) ∧
    s.definition.cluster.at? [.member "autoscale", .member "max_workers"] = some (.int s.cluster.maxWorkers) :=
  ⟨rfl, rfl⟩

theorem wellFormed_definition (unbroken : Rule.broken s.rules = []) : s.definition.WellFormed := by
  have met := Rule.forall_met s.rules_check unbroken
  simp only [demands, List.forall_mem_cons] at met
  obtain ⟨-, -, -, -, edition, libraries, bounds, -⟩ := met
  refine ⟨s.upper_edition edition, ?_, s.cluster.minWorkers, s.cluster.maxWorkers, s.autoscale_at?.1,
    s.autoscale_at?.2, bounds⟩
  exact libraries.imp (fun some => some ∘ List.map_eq_nil_iff.mp) fun some => some ∘ List.map_eq_nil_iff.mp

theorem forall₂_under (paths : List String) :
    List.Forall₂ (Under s.repoPath) paths (paths.map (pathWithin s.repoPath)) :=
  List.forall₂_map_right_iff.mpr (List.forall₂_same.mpr fun path _ => under_pathWithin s.repoPath path)

theorem map_pathWithin_of_slashed (repository : String) (behind : Nat) {paths more : List String}
    (slashed : List.Forall₂ Slashed paths more) :
    more.map (pathWithin (repository ++ slashes behind)) = paths.map (pathWithin repository) := by
  induction slashed with
  | nil => rfl
  | cons here _ ih =>
    obtain ⟨before, rfl⟩ := here
    rw [List.map_cons, List.map_cons, ih, pathWithin_slashes]

theorem definition_of_slashed (behind : Nat) {notebooks files : List String}
    (first : List.Forall₂ Slashed s.notebooks notebooks) (second : List.Forall₂ Slashed s.files files) :
    { s with repoPath := s.repoPath ++ slashes behind, notebooks, files }.definition = s.definition := by
  unfold definition
  rw [map_pathWithin_of_slashed s.repoPath behind first, map_pathWithin_of_slashed s.repoPath behind second]

end PipelineSpec

/-- A pipeline that keeps the rules has a well-formed definition, and whatever the platform answers, the
upsert looks up the name that this definition bears and sends no other.  Every library comes to stand in its
place below the repository, and slashes that are added where the two meet change nothing. -/
theorem definition_wellFormed_of_rules {s : PipelineSpec} (unbroken : Rule.broken s.rules = []) :
    s.definition.WellFormed ∧
    (∀ {σ : Type} (h : Handler remote σ) (settings : Settings) (a : Accepted) (world : σ),
      Putting s.definition.name s.definition ((s.provision settings a).picked Call.pipeline? h world)) ∧
    List.Forall₂ (Under s.repoPath) s.notebooks s.definition.notebooks ∧
    List.Forall₂ (Under s.repoPath) s.files s.definition.files ∧
    ∀ (behind : Nat) (notebooks files : List String), List.Forall₂ Slashed s.notebooks notebooks →
      List.Forall₂ Slashed s.files files →
      { s with repoPath := s.repoPath ++ slashes behind, notebooks, files }.definition = s.definition := by
  refine ⟨s.wellFormed_definition unbroken, ?_, s.forall₂_under _, s.forall₂_under _,
    fun behind notebooks files => s.definition_of_slashed behind⟩
  intro σ h settings a world
  rw [s.provision_eq_install settings a]
  exact s.workload.putting_install Shelf.pipelines_picks h .pipeline s.definition settings a _ _ _ world

/-- A repository at the root of the workspace, one library with a slash before it and one of nothing else. -/
def ingestAtRoot : PipelineSpec where
  workspace := "w"
  name := "ingest"
  edition := "aDvanced"
  continuous := false
  notebooks := ["/a", "//"]
  files := []
  catalog := none
  target := none
  photon := false
  notifications := []
  channel := "current"
  cluster := ⟨1, 1, "n", "n", none, [], []⟩
  repoPath := "//"
  git := ⟨"https://g/r.git "⟩

theorem ingest_definition_wellFormed :
    Rule.broken ingestAtRoot.rules = [] ∧ ingestAtRoot.definition.WellFormed ∧
      ingestAtRoot.definition.edition = "ADVANCED" ∧
      List.Forall₂ (Under "//") ["/a", "//"] ["/a", "/"] ∧
      { ingestAtRoot with repoPath := "//" ++ slashes 3, notebooks := ["/a", "///"] }.definition =
        ingestAtRoot.definition := by
  have unbroken : Rule.broken ingestAtRoot.rules = [] := by decide +kernel
  obtain ⟨wellFormed, -, notebooks, -, slashed⟩ := definition_wellFormed_of_rules unbroken
  exact ⟨unbroken, wellFormed, by decide +kernel, notebooks,
    slashed 3 _ _ (.cons ⟨0, rfl⟩ (.cons ⟨1, rfl⟩ .nil)) .nil⟩

end Provisioning
