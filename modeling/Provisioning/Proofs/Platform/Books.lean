import Provisioning.Proofs.Platform.Issue
import Provisioning.Proofs.Platform.Shelf

/-!
The platform as a keyed store.  Jobs and pipelines are read as they were written: an id leads to the definition
that was written under it last, unless the object was deleted since, and a name leads to the ids of the objects
that bear it.
-/
namespace Provisioning

open Platform

variable {δ α : Type}

structure Shelf.Shown (shelf : Shelf δ α) (nook : String → Nook) (live : String → δ → Live) : Prop where
  shows : ∀ (d : WorkspaceData) id,
    d.live? (nook id) = ((shelf.entries d).find? id).map fun a => live id (shelf.definition a)
  gets : ∀ w id p, ∃ fields : α → Json.Members, shelf.answer w (.get id) p =
    (.ok (((shelf.entries (p.data w)).find? id).map fun a =>
      ⟨⟨id, shelf.nameOf (shelf.definition a)⟩, shelf.definition a, fields a⟩), p)
  refers : ∀ e, shelf.reference e = ⟨e.1, shelf.nameOf (shelf.definition e.2)⟩
  calls : ∀ name e, shelf.called name e = (shelf.nameOf (shelf.definition e.2) == name)
  differ : ∀ id d e, live id d = live id e → d = e

namespace Shelf

theorem jobs_shown : Shelf.jobs.Shown .job .job where
  shows _ _ := rfl
  gets _ _ _ := ⟨StoredJob.serverFields, rfl⟩
  refers _ := rfl
  calls _ _ := rfl
  differ _ _ _ same := by cases same; rfl

/-- What is asked about jobs through the embedding is asked of the platform itself. -/
theorem jobs_through (w : String) (c : ObjectCall JobDefinition) (p : Platform) :
    (Handler.through (Shelf.jobs.embedding w) Platform.handler c p).1 =
      (Platform.handler (.inside w (.jobs c)) p).1 := by
  change (Platform.handler (.inside w (.jobs c)) p).1.map id = _
  cases (Platform.handler (.inside w (.jobs c)) p).1 <;> rfl

theorem pipelines_shown : Shelf.pipelines.Shown .pipeline .pipeline where
  shows _ _ := rfl
  gets _ _ _ := ⟨fun _ => [], rfl⟩
  refers _ := rfl
  calls _ _ := rfl
  differ _ _ _ same := by cases same; rfl

end Shelf

/-- Reading a collection of a workspace after a history, with any call that is not rejected: an id leads to
what was left under it last, and a name to just the ids under which objects of this name were left last, each
id once. -/
structure Platform.Books (shelf : Shelf δ α) (nook : String → Nook) (live : String → δ → Live)
    (acts : List Act) (w : String) : Prop where
  get : ∀ id, (ofActs acts).rejects (shelf.key (.get id)) = false →
    ∃ found : Option (RemoteResource δ),
      (Handler.through (shelf.embedding w) handler (.get id) (ofActs acts)).1 = .answered found ∧
      found.map (fun r => live id r.definition) = Deed.last? (.inside w (nook id)) (deeds acts) ∧
      ∀ r ∈ found, r.reference = ⟨id, shelf.nameOf r.definition⟩
  list : ∀ name, (ofActs acts).rejects (shelf.key (.listByName name)) = false →
    ∃ refs : List ResourceRef,
      (Handler.through (shelf.embedding w) handler (.listByName name) (ofActs acts)).1 = .answered refs ∧
      (refs.map (·.id)).Nodup ∧
      ∀ r, r ∈ refs ↔ r.name = name ∧ ∃ d, shelf.nameOf d = name ∧
        Deed.last? (.inside w (nook r.id)) (deeds acts) = some (live r.id d)

namespace Platform

theorem ordered_ofActs (acts : List Act) : (ofActs acts).Ordered :=
  invariant_ofActs acts (ordered_of_reachable (.empty : Reachable {})) ordered_plant ordered_handler

section Shown

variable {shelf : Shelf δ α} {nook : String → Nook} {live : String → δ → Live}
  (shown : shelf.Shown nook live) (acts : List Act) (w : String)

include shown

theorem last?_of_shown (id : String) : Deed.last? (.inside w (nook id)) (deeds acts) =
    ((shelf.entries ((ofActs acts).data w)).find? id).map fun a => live id (shelf.definition a) := by
  rw [← live?_ofActs, live?, shown.shows]

theorem mem_listed_iff (name : String) (r : ResourceRef) :
    r ∈ ((shelf.entries ((ofActs acts).data w)).filter (shelf.called name)).map shelf.reference ↔
      r.name = name ∧ ∃ d, shelf.nameOf d = name ∧
        Deed.last? (.inside w (nook r.id)) (deeds acts) = some (live r.id d) := by
  have ascending := shelf.ascending _ (ordered_ofActs acts w)
  constructor
  · intro member
    obtain ⟨e, among, rfl⟩ := List.mem_map.mp member
    obtain ⟨there, carries⟩ := List.mem_filter.mp among
    rw [shown.calls, beq_iff_eq] at carries
    rw [shown.refers, last?_of_shown shown, Keyed.find?_of_mem ascending there]
    exact ⟨carries, shelf.definition e.2, carries, rfl⟩
  · rintro ⟨called, d, named, last⟩
    rw [last?_of_shown shown] at last
    obtain ⟨a, found, same⟩ := Option.map_eq_some_iff.mp last
    have definition := shown.differ _ _ _ same
    refine List.mem_map.mpr ⟨(r.id, a), List.mem_filter.mpr ⟨Keyed.mem_of_find? found, ?_⟩, ?_⟩
    · rw [shown.calls, definition, named]
      exact BEq.rfl
    · rw [shown.refers, definition, named, ← called]

theorem books_of_shown : Books shelf nook live acts w where
  get id accepted := by
    obtain ⟨fields, gets⟩ := shown.gets w id ((ofActs acts).record (shelf.key (.get id)))
    rw [shelf.handler_through w, shelf.handler_accepted w accepted, gets]
    refine ⟨_, rfl, ?_, ?_⟩
    · rw [last?_of_shown shown, Option.map_map]
      rfl
    · intro r member
      obtain ⟨a, -, rfl⟩ := Option.map_eq_some_iff.mp member
      rfl
  list name accepted := by
    rw [shelf.handler_through w, shelf.handler_accepted w accepted, shelf.lists]
    refine ⟨_, rfl, ?_, mem_listed_iff shown acts w name⟩
    have ascending := shelf.ascending _ (ordered_ofActs acts w)
    rw [List.map_map]
    refine List.pairwise_map.mpr ((ascending.filter _).imp fun {e x} before => ?_)
    rw [Function.comp, Function.comp, shelf.reference_id, shelf.reference_id]
    exact ne_of_lt before

end Shown

end Platform

/-- After any history of seeds and calls, refused ones among them: all that lives bears a number of its own that
the counter has passed; the ids that were given out are these numbers, each once; an act that gives out an id
gives it to something new and puts it in the place of nothing; jobs and pipelines are read as they were written
last; and a call that is refused changes the log alone. -/
theorem ofActs_issued_and_books (acts : List Act) :
    (ofActs acts).Issued ∧
    given acts = (List.range (ofActs acts).lastId).map (fun n => toString (n + 1)) ∧ (given acts).Nodup ∧
    (∀ (a : Act) (id : String), id ∈ a.given (ofActs acts) → id ∉ given acts ∧
      (∀ x l, (ofActs acts).live? x = some l → l.id ≠ id) ∧
      (∃ x l, (a.after (ofActs acts)).live? x = some l ∧ l.id = id) ∧
      ∀ x l, (ofActs acts).live? x = some l →
        (a.after (ofActs acts)).live? x = some l ∨ a.Replaces x) ∧
    (∀ w, Books Shelf.jobs .job .job acts w ∧ Books Shelf.pipelines .pipeline .pipeline acts w) ∧
    ∀ (c : Call) (f : Failure), (handler c (ofActs acts)).1 = .refused f →
      (handler c (ofActs acts)).2 = (ofActs acts).record c.key :=
  ⟨issued_ofActs acts, given_ofActs acts, nodup_given acts, fun _ _ => new_of_given acts,
    fun w => ⟨books_of_shown Shelf.jobs_shown acts w, books_of_shown Shelf.pipelines_shown acts w⟩,
    fun _ _ => handler_of_refused⟩

def plainJob (name : String) : JobDefinition := ⟨name, .object []⟩

/-- A job is deleted, and another one created of the same name. -/
def replacedJob : List Act :=
  [.seeded (.workspace "w" .succeeded), .seeded (.job "w" (plainJob "nightly")),
    .called (.inside "w" (.jobs (.delete "2"))), .called (.inside "w" (.jobs (.create (plainJob "nightly")))),
    .seeded (.failure "job.update:3")]

/-- The id of the deleted job leads nowhere, the next id was not given out before, and a call about the new job
that is refused is logged and no more. -/
theorem replaced_job_id_ne :
    (∃ found, (handler (.inside "w" (.jobs (.get "2"))) (ofActs replacedJob)).1 = .answered found ∧
      found.isSome = false) ∧
    "4" ∉ given replacedJob ∧
    (handler (.inside "w" (.jobs (.update "3" (plainJob "weekly")))) (ofActs replacedJob)).2 =
      (ofActs replacedJob).record "job.update:3" := by
  obtain ⟨-, -, -, new, books, refused⟩ := ofActs_issued_and_books replacedJob
  refine ⟨?_, ?_, ?_⟩
  · obtain ⟨found, answered, last, -⟩ := (books "w").1.get "2" (by decide +kernel)
    have gone : Deed.last? (.inside "w" (.job "2")) (deeds replacedJob) = none := rfl
    have nothing : found = none := Option.map_eq_none_iff.mp (last.trans gone)
    refine ⟨found, ?_, ?_⟩
    · rw [← Shelf.jobs_through, answered]
    · rw [nothing]
      rfl
  · exact (new (.called (.inside "w" (.jobs (.create (plainJob "weekly"))))) "4" (by decide +kernel)).1
  · exact refused _ _ rfl

end Provisioning
