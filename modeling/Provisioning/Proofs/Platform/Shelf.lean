import Provisioning.Proofs.Platform.History
import Provisioning.Upsert

/-!
Jobs, pipelines and views are kept alike, each kind on a shelf of its own in every workspace.  From
the laws of a shelf follows what putting an object there by name does: afterwards one entry carries
the name, under the id that is told, and putting the same object there again changes nothing.
-/
namespace Provisioning

structure Shelf (δ α : Type) where
  embedding : String → Embedding (objects δ) remote
  key : ObjectCall δ → String
  answer : String → (c : ObjectCall δ) → Platform → Except Failure c.Answer × Platform
  entries : WorkspaceData → Keyed α
  place : Keyed α → WorkspaceData → WorkspaceData
  called : String → String × α → Bool
  reference : String × α → ResourceRef
  nameOf : δ → String
  definition : α → δ
  redefine : δ → α → α
  write : Effect
  remove : Effect
  same_effect : ∀ w c, ((embedding w).question c).effect = c.effect write remove
  same_key : ∀ w c, ((embedding w).question c).key = key c
  same_answer : ∀ w c p, ((Platform.answer ((embedding w).question c) p).1.map ((embedding w).answer c),
    (Platform.answer ((embedding w).question c) p).2) = answer w c p
  ascending : ∀ d, d.Ordered → (entries d).Ascending
  entries_extends : ∀ d e, d.Extends e → entries e = entries d
  entries_place : ∀ m d, entries (place m d) = m
  place_entries : ∀ d, place (entries d) d = d
  reference_id : ∀ e, (reference e).id = e.1
  definition_redefine : ∀ d a, definition (redefine d a) = d
  redefine_definition : ∀ a, redefine (definition a) a = a
  called_redefine : ∀ id a d, called (nameOf d) (id, a) = true →
    ∀ name, called name (id, redefine d a) = (nameOf d == name)
  lists : ∀ w name p, answer w (.listByName name) p =
    (.ok (((entries (p.data w)).filter (called name)).map reference), p)
  creates : ∀ w d p, (∃ f, answer w (.create d) p = (.error f, p)) ∨
    ∃ (id : String) (a : α) (q : Platform), q.data = p.data ∧ definition a = d ∧
      (∀ name, called name (id, a) = (nameOf d == name)) ∧
      answer w (.create d) p = (.ok (reference (id, a)),
        q.modifyData w fun data => place (Keyed.insert id a (entries data)) data)
  updates : ∀ w id d p a, (entries (p.data w)).find? id = some a → answer w (.update id d) p =
    (.ok (reference (id, redefine d a)),
      p.modifyData w fun data => place (Keyed.insert id (redefine d a) (entries data)) data)

namespace Shelf

def jobs : Shelf JobDefinition StoredJob where
  embedding w := ⟨fun q => .inside w (.jobs q), fun _ a => a⟩
  key := ObjectCall.key "job" JobDefinition.name
  answer := Platform.answerJobs
  entries := WorkspaceData.jobs
  place m d := { d with jobs := m }
  called name e := e.2.definition.name == name
  reference := Platform.jobReference
  nameOf := JobDefinition.name
  definition := StoredJob.definition
  redefine d a := { a with definition := d }
  write := .writeJob
  remove := .removeJob
  same_effect _ _ := rfl
  same_key _ _ := rfl
  same_answer _ _ _ := Prod.ext (congrFun Except.map_id _) rfl
  ascending _ ordered := ordered.jobs
  entries_extends _ _ grows := grows.jobs
  entries_place _ _ := rfl
  place_entries _ := rfl
  reference_id _ := rfl
  definition_redefine _ _ := rfl
  redefine_definition _ := rfl
  called_redefine _ _ _ _ _ := rfl
  lists _ _ _ := rfl
  creates _ d p := .inr ⟨p.nextId, p.newJob d, p.spendId, rfl, rfl, fun _ => rfl, rfl⟩
  updates w id d p a found := by
    simp only [Platform.answerJobs, found]
    rfl

def pipelines : Shelf PipelineDefinition PipelineDefinition where
  embedding w := ⟨fun q => .inside w (.pipelines q), fun _ a => a⟩
  key := ObjectCall.key "pipeline" PipelineDefinition.name
  answer := Platform.answerPipelines
  entries := WorkspaceData.pipelines
  place m d := { d with pipelines := m }
  called name e := e.2.name == name
  reference := Platform.pipelineReference
  nameOf := PipelineDefinition.name
  definition := id
  redefine d _ := d
  write := .writePipeline
  remove := .removePipeline
  same_effect _ _ := rfl
  same_key _ _ := rfl
  same_answer _ _ _ := Prod.ext (congrFun Except.map_id _) rfl
  ascending _ ordered := ordered.pipelines
  entries_extends _ _ grows := grows.pipelines
  entries_place _ _ := rfl
  place_entries _ := rfl
  reference_id _ := rfl
  definition_redefine _ _ := rfl
  redefine_definition _ := rfl
  called_redefine _ _ _ _ _ := rfl
  lists _ _ _ := rfl
  creates _ d p := .inr ⟨p.nextId, d, p.spendId, rfl, rfl, fun _ => rfl, rfl⟩
  updates w id d p a found := by
    simp only [Platform.answerPipelines, found]
    rfl

def views : Shelf ViewDefinition ViewDefinition where
  embedding w := ⟨fun q => .inside w (.views q), fun _ a => a⟩
  key := ObjectCall.key "view" ViewDefinition.fullName
  answer := Platform.answerViews
  entries := WorkspaceData.views
  place m d := { d with views := m }
  called name e := e.1 == name
  reference e := ⟨e.1, e.1⟩
  nameOf := ViewDefinition.fullName
  definition := id
  redefine d _ := d
  write := .writeView
  remove := .removeView
  same_effect _ _ := rfl
  same_key _ _ := rfl
  same_answer _ _ _ := Prod.ext (congrFun Except.map_id _) rfl
  ascending _ ordered := ordered.views
  entries_extends _ _ grows := grows.views
  entries_place _ _ := rfl
  place_entries _ := rfl
  reference_id _ := rfl
  definition_redefine _ _ := rfl
  redefine_definition _ := rfl
  called_redefine id _ d same name := by rw [eq_of_beq same]
  lists _ _ _ := rfl
  creates w d p := by
    simp only [Platform.answerViews]
    cases (p.data w).tables.contains d.sourceTable with
    | false => exact .inl ⟨_, rfl⟩
    | true => exact .inr ⟨d.fullName, d, p, rfl, rfl, fun _ => rfl, rfl⟩
  updates _ _ _ _ _ _ := rfl

variable {δ α β : Type} (shelf : Shelf δ α) (w : String)

def handler : Handler (objects δ) Platform := fun c p =>
  let key := shelf.key c
  let p := p.record key
  if p.rejects key then (.refused (Platform.rejection key), p)
  else (.ofExcept (shelf.answer w c p).1, (shelf.answer w c p).2)

theorem handler_rejected {c : ObjectCall δ} {p : Platform} (rejected : p.rejects (shelf.key c) = true) :
    shelf.handler w c p = (.refused (Platform.rejection (shelf.key c)), p.record (shelf.key c)) :=
  if_pos rejected

theorem handler_accepted {c : ObjectCall δ} {p : Platform} (accepted : p.rejects (shelf.key c) = false) :
    shelf.handler w c p = (.ofExcept (shelf.answer w c (p.record (shelf.key c))).1,
      (shelf.answer w c (p.record (shelf.key c))).2) :=
  if_neg (ne_true_of_eq_false accepted)

/-- The platform, asked through the embedding, answers as its shelf does. -/
theorem handler_through : Handler.through (shelf.embedding w) Platform.handler = shelf.handler w := by
  funext c p
  unfold Handler.through
  cases decision : p.rejects (shelf.key c) with
  | true =>
    have rejected : p.rejects ((shelf.embedding w).question c).key = true := by
      rw [shelf.same_key, decision]
    rw [Platform.handler_rejected rejected, shelf.handler_rejected w decision, shelf.same_key]
    rfl
  | false =>
    have accepted : p.rejects ((shelf.embedding w).question c).key = false := by
      rw [shelf.same_key, decision]
    rw [Platform.handler_accepted accepted, shelf.handler_accepted w decision, shelf.same_key,
      ← shelf.same_answer]
    cases (Platform.answer ((shelf.embedding w).question c) (p.record (shelf.key c))).1 <;> rfl

theorem run_through (program : Program (objects δ) β) (p : Platform) :
    (program.through (shelf.embedding w)).run Platform.handler p = program.run (shelf.handler w) p := by
  rw [Program.run_through, shelf.handler_through w]

/-! Putting an object on a shelf -/

/-- The plan tells how many entries carry the name, and which one if it is one. -/
def Fits (name : String) (m : Keyed α) : UpsertPlan → Prop
  | .create => m.filter (shelf.called name) = []
  | .update existing => ∃ e, m.filter (shelf.called name) = [e] ∧ existing = shelf.reference e

theorem fits_of_extends {name : String} {d e : WorkspaceData} {plan : UpsertPlan} (grows : d.Extends e)
    (fits : shelf.Fits name (shelf.entries d) plan) : shelf.Fits name (shelf.entries e) plan := by
  rw [shelf.entries_extends d e grows]
  exact fits

theorem fits_of_planFor {s : Scope} {name : String} {m : Keyed α} {plan : UpsertPlan}
    (planned : s.planFor name ((m.filter (shelf.called name)).map shelf.reference) = .ok plan) :
    shelf.Fits name m plan := by
  generalize found : m.filter (shelf.called name) = entries at planned
  cases entries with
  | nil =>
    cases planned
    exact found
  | cons e rest =>
    cases rest with
    | nil =>
      cases planned
      exact ⟨e, found, rfl⟩
    | cons _ _ => cases planned

theorem run_plan (s : Scope) (name : String) (p : Platform) :
    ∃ q, p.Extends q ∧ ((∃ f, (s.plan name).run (shelf.handler w) p = (.refused f, q)) ∨
      ∃ plan, (s.plan name).run (shelf.handler w) p = (.answered plan, q) ∧
        shelf.Fits name (shelf.entries (p.data w)) plan) := by
  refine ⟨_, Platform.extends_record (shelf.key (.listByName name)) p, ?_⟩
  unfold Scope.plan Objects.listByName
  rw [Program.run_bind, Program.run_request]
  cases decision : p.rejects (shelf.key (.listByName name)) with
  | true =>
    rw [shelf.handler_rejected w decision]
    exact .inl ⟨_, rfl⟩
  | false =>
    rw [shelf.handler_accepted w decision, shelf.lists]
    cases planned : s.planFor name
        (((shelf.entries (p.data w)).filter (shelf.called name)).map shelf.reference) with
    | error f => exact .inl ⟨f, by simp [Program.resume, Reply.ofExcept, planned]⟩
    | ok plan =>
      exact .inr ⟨plan, by simp [Program.resume, Reply.ofExcept, planned],
        shelf.fits_of_planFor planned⟩

structure Wrote (d : δ) (p q : Platform) (id : String) (a : α) : Prop where
  data : q.data = (p.modifyData w fun data =>
    shelf.place (Keyed.insert id a (shelf.entries data)) data).data
  definition : shelf.definition a = d
  called : ∀ name, shelf.called name (id, a) = (shelf.nameOf d == name)
  only : ∀ e ∈ shelf.entries (p.data w), shelf.called (shelf.nameOf d) e = true → e.1 = id

theorem run_apply {p : Platform} (ordered : p.Ordered) {d : δ} {plan : UpsertPlan}
    (fits : shelf.Fits (shelf.nameOf d) (shelf.entries (p.data w)) plan) :
    (∃ f q, (Scope.apply d plan).run (shelf.handler w) p = (.refused f, q) ∧ p.Extends q) ∨
      ∃ outcome q a, (Scope.apply d plan).run (shelf.handler w) p = (.answered outcome, q) ∧
        shelf.Wrote w d p q outcome.reference.id a := by
  cases plan with
  | create =>
    unfold Scope.apply Objects.create
    rw [Program.run_bind, Program.run_request]
    cases decision : p.rejects (shelf.key (.create d)) with
    | true =>
      rw [shelf.handler_rejected w decision]
      exact .inl ⟨_, _, rfl, Platform.extends_record _ p⟩
    | false =>
      rw [shelf.handler_accepted w decision]
      rcases shelf.creates w d (p.record (shelf.key (.create d))) with
        ⟨f, refused⟩ | ⟨id, a, q, unchanged, defined, called, answered⟩
      · rw [refused]
        exact .inl ⟨_, _, rfl, Platform.extends_record _ p⟩
      · rw [answered]
        refine .inr ⟨_, _, a, rfl, ?_, defined, ?_, ?_⟩
        · rw [Platform.data_modifyData_congr (p := p) unchanged, shelf.reference_id]
        · rw [shelf.reference_id]
          exact called
        · intro e member carries
          exact absurd carries (List.filter_eq_nil_iff.mp fits e member)
  | update existing =>
    obtain ⟨e, alone, rfl⟩ := fits
    obtain ⟨id, old⟩ := e
    have among : (id, old) ∈ (shelf.entries (p.data w)).filter (shelf.called (shelf.nameOf d)) :=
      alone ▸ List.mem_singleton_self _
    obtain ⟨there, carries⟩ := List.mem_filter.mp among
    have found := Keyed.find?_of_mem (shelf.ascending _ (ordered w)) there
    unfold Scope.apply Objects.update
    rw [Program.run_bind, Program.run_request, shelf.reference_id]
    cases decision : p.rejects (shelf.key (.update id d)) with
    | true =>
      rw [shelf.handler_rejected w decision]
      exact .inl ⟨_, _, rfl, Platform.extends_record _ p⟩
    | false =>
      rw [shelf.handler_accepted w decision, shelf.updates w id d (p.record _) old found]
      refine .inr ⟨_, _, shelf.redefine d old, rfl, ?_, shelf.definition_redefine d old, ?_, ?_⟩
      · rw [shelf.reference_id]
        exact Platform.data_modifyData_congr (p := p) rfl w _
      · rw [shelf.reference_id]
        exact shelf.called_redefine id old d carries
      · intro e member same
        have only := List.mem_filter.mpr ⟨member, same⟩
        rw [alone, List.mem_singleton] at only
        rw [only, shelf.reference_id]

def Alone (d : δ) (id : String) (p : Platform) : Prop :=
  ∃ a, shelf.definition a = d ∧
    (shelf.entries (p.data w)).filter (shelf.called (shelf.nameOf d)) = [(id, a)]

theorem alone_congr {d : δ} {id : String} {p q : Platform} (alone : shelf.Alone w d id p)
    (same : shelf.entries (q.data w) = shelf.entries (p.data w)) : shelf.Alone w d id q := by
  unfold Alone
  rw [same]
  exact alone

theorem alone_of_wrote {d : δ} {p q : Platform} (ordered : p.Ordered) {id : String} {a : α}
    (wrote : shelf.Wrote w d p q id a) : shelf.Alone w d id q := by
  refine ⟨a, wrote.definition, ?_⟩
  rw [wrote.data, Platform.data_modifyData_same, shelf.entries_place]
  refine Keyed.filter_insert (shelf.ascending _ (ordered w)) wrote.only ?_
  rw [wrote.called]
  exact BEq.rfl

/-- Putting an object somewhere is refused with everything as it was, or the object is written. -/
theorem run_upsert (s : Scope) {d : δ} {p : Platform} (ordered : p.Ordered) :
    (∃ f q, ((s.upsert (shelf.nameOf d) d).through (shelf.embedding w)).run Platform.handler p =
      (.refused f, q) ∧ p.Extends q) ∨
    ∃ outcome r q a, ((s.upsert (shelf.nameOf d) d).through (shelf.embedding w)).run Platform.handler p =
      (.answered outcome, q) ∧ p.Extends r ∧ shelf.Wrote w d r q outcome.reference.id a := by
  rw [shelf.run_through, Scope.upsert]
  obtain ⟨r, grows, ⟨f, refused⟩ | ⟨plan, planned, fits⟩⟩ := shelf.run_plan w s (shelf.nameOf d) p
  · rw [Program.run_bind, refused]
    exact .inl ⟨f, r, rfl, grows⟩
  · rw [Program.run_bind_of_answered planned]
    rcases shelf.run_apply w (Platform.ordered_of_extends ordered grows)
        (shelf.fits_of_extends (grows.data w) fits) with
      ⟨f, q, refused, growsOn⟩ | ⟨outcome, q, a, applied, wrote⟩
    · exact .inl ⟨f, q, refused, grows.trans growsOn⟩
    · exact .inr ⟨outcome, r, q, a, applied, grows, wrote⟩

theorem answered_upsert {s : Scope} {d : δ} {p q : Platform} (ordered : p.Ordered)
    {outcome : UpsertOutcome}
    (answered : ((s.upsert (shelf.nameOf d) d).through (shelf.embedding w)).run Platform.handler p =
      (.answered outcome, q)) : shelf.Alone w d outcome.reference.id q := by
  rcases shelf.run_upsert w s (d := d) ordered with
    ⟨f, _, refused, -⟩ | ⟨_, r, _, a, written, grows, wrote⟩
  · rw [answered] at refused
    cases refused
  · rw [answered] at written
    cases written
    exact shelf.alone_of_wrote w (Platform.ordered_of_extends ordered grows) wrote

theorem plan_of_alone {p : Platform} (calm : p.failures = []) (s : Scope) {name : String}
    {e : String × α} (only : (shelf.entries (p.data w)).filter (shelf.called name) = [e]) :
    (s.plan name).run (shelf.handler w) p =
      (.answered (.update (shelf.reference e)), p.record (shelf.key (.listByName name))) := by
  unfold Scope.plan Objects.listByName
  rw [Program.run_bind, Program.run_request,
    shelf.handler_accepted w (Platform.rejects_nothing calm _), shelf.lists]
  simp only [Platform.data_record, only]
  rfl

theorem update_of_same {p : Platform} (ordered : p.Ordered) (calm : p.failures = []) {id : String}
    {a : α} (found : (shelf.entries (p.data w)).find? id = some a) :
    ∃ q, (Objects.update id (shelf.definition a)).run (shelf.handler w) p =
      (.answered (shelf.reference (id, a)), q) ∧ p.Extends q := by
  have answer := shelf.updates w id (shelf.definition a)
    (p.record (shelf.key (.update id (shelf.definition a)))) a found
  rw [shelf.redefine_definition] at answer
  unfold Objects.update
  rw [Program.run_request, shelf.handler_accepted w (Platform.rejects_nothing calm _), answer]
  refine ⟨_, rfl, (Platform.extends_record _ p).trans (Platform.extends_modifyData ?_)⟩
  simp only [Platform.data_record]
  rw [Keyed.insert_of_find? (shelf.ascending _ (ordered w)) found, shelf.place_entries]
  exact WorkspaceData.extends_refl _

/-- Where an object stands alone under its name, putting it there again only makes calls. -/
theorem upsert_again {p : Platform} (ordered : p.Ordered) (calm : p.failures = []) (s : Scope)
    {d : δ} {id : String} (alone : shelf.Alone w d id p) :
    ∃ outcome q, ((s.upsert (shelf.nameOf d) d).through (shelf.embedding w)).run Platform.handler p =
      (.answered outcome, q) ∧ outcome.reference.id = id ∧ p.Extends q := by
  obtain ⟨a, rfl, only⟩ := alone
  have among : (id, a) ∈ (shelf.entries (p.data w)).filter
      (shelf.called (shelf.nameOf (shelf.definition a))) := only ▸ List.mem_singleton_self _
  have found := Keyed.find?_of_mem (shelf.ascending _ (ordered w)) (List.mem_filter.mp among).1
  have planned := shelf.plan_of_alone w calm s only
  have noted := Platform.extends_record
    (shelf.key (.listByName (shelf.nameOf (shelf.definition a)))) p
  obtain ⟨q, updated, grows⟩ := shelf.update_of_same w (Platform.ordered_of_extends ordered noted)
    (noted.failures.trans calm) found
  refine ⟨⟨shelf.reference (id, a), .updated⟩, q, ?_, shelf.reference_id _, noted.trans grows⟩
  rw [shelf.run_through, Scope.upsert, Program.run_bind_of_answered planned]
  simp only [Scope.apply, shelf.reference_id]
  rw [Program.run_bind_of_answered updated]
  rfl

end Shelf
end Provisioning
