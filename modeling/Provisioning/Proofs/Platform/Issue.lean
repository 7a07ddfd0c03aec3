import Provisioning.Proofs.Platform.Deeds
import Provisioning.Proofs.Platform.Numbers

/-!
Giving out ids.  One counter serves workspaces, jobs, pipelines and repositories.  An act gives out the id
that comes next, for something new, or it gives out none, and what it leaves somewhere then bears the id of
what lived there before.  So the ids of all that lives are different numbers that the counter has passed, and
a history gives out the numbers in their order, each once.
-/
namespace Provisioning

/-! Ids in answers -/

def ObjectCall.given {δ : Type} : (c : ObjectCall δ) → Reply c.Answer → List String
  | .create _, .answered r => [r.id]
  | _, _ => []

def RepositoryCall.given : (c : RepositoryCall) → Reply c.Answer → List String
  | .create _ _ _, .answered (.created r) => [r.id]
  | _, _ => []

def InnerCall.given : (c : InnerCall) → Reply c.Answer → List String
  | .jobs c, reply => c.given reply
  | .pipelines c, reply => c.given reply
  | .repositories c, reply => c.given reply
  | _, _ => []

def Call.given : (c : Call) → Reply c.Answer → Platform → List String
  | .createIfAbsent name _ _, .answered w, p => if (p.workspaces name).isSome then [] else [w.id]
  | .inside _ c, reply, _ => c.given reply
  | _, _, _ => []

def Seed.given : Seed → Platform → List String
  | workspace name state, p => [(p.seedWorkspace name state).1.id]
  | job w d, p => [(p.seedJob w d).1]
  | pipeline w d, p => [(p.seedPipeline w d).1]
  | _, _ => []

namespace Act

def given : Act → Platform → List String
  | seeded x, p => x.given p
  | called c, p => c.given (Platform.handler c p).1 p

/-- A workspace that is seeded takes the place of one of its name. -/
def Replaces (a : Act) (x : Place) : Prop :=
  ∃ name state, a = seeded (.workspace name state) ∧ x = .workspace name

end Act

/-! What becomes of the counter -/

/-- From `p` to `q`, by a deed and with ids given out: something new lives under the next id, or no id is given
out and whatever is left at a place bears the id that was there. -/
inductive Fate (p q : Platform) (replaces : Place → Prop) : Option (Deed Place) → List String → Prop where
  | fresh {x : Place} {l : Live} : l.id = p.nextId → q.lastId = p.lastId + 1 →
      (p.live? x = none ∨ replaces x) → Fate p q replaces (some (x, some l)) [p.nextId]
  | known {deed : Option (Deed Place)} : q.lastId = p.lastId →
      (∀ x l, deed = some (x, some l) → ∃ old, p.live? x = some old ∧ old.id = l.id) →
      Fate p q replaces deed []

namespace Platform

variable {p q : Platform}

theorem fate_still {replaces : Place → Prop} (count : q.lastId = p.lastId) : Fate p q replaces none [] :=
  .known count nofun

theorem fate_gone {replaces : Place → Prop} {x : Place} (count : q.lastId = p.lastId) :
    Fate p q replaces (some (x, none)) [] :=
  .known count nofun

theorem find?_nextId {α : Type} {m : Keyed α} (numbered : m.Numbered p.lastId) : m.find? p.nextId = none := by
  cases found : m.find? p.nextId with
  | none => rfl
  | some a => exact absurd rfl (Keyed.fresh_of_numbered numbered (Keyed.mem_of_find? found))

theorem live?_nextId (numbered : p.Numbered) (w : String) :
    p.live? (.inside w (.job p.nextId)) = none ∧ p.live? (.inside w (.pipeline p.nextId)) = none ∧
      p.live? (.inside w (.repository p.nextId)) = none := by
  have there := numbered w
  simp [live?, WorkspaceData.live?, find?_nextId there.jobs, find?_nextId there.pipelines,
    find?_nextId there.repositories]

theorem given_refused (c : Call) (f : Failure) (p : Platform) : c.given (.refused f) p = [] := by
  cases c with
  | inside w c => cases c <;> first | rfl | (rename_i c; cases c <;> rfl)
  | _ => rfl

theorem given_record (c : Call) (reply : Reply c.Answer) (p : Platform) (key : String) :
    c.given reply (p.record key) = c.given reply p := by
  cases c <;> cases reply <;> rfl

theorem fate_of_record {replaces : Place → Prop} {deed : Option (Deed Place)} {ids : List String} {key : String}
    (fate : Fate (p.record key) q replaces deed ids) : Fate p q replaces deed ids := by
  cases fate with
  | fresh id count free => exact .fresh id count (live?_record p key ▸ free)
  | known count same => exact .known count (live?_record p key ▸ same)

section Answers

variable (numbered : p.Numbered) (w : String) {replaces : Place → Prop}

include numbered

theorem fate_answerJobs (c : ObjectCall JobDefinition) : Fate p (answerJobs w c p).2 replaces
    ((c.deed? .job .job (.ofExcept (answerJobs w c p).1)).map (.inside w))
    (c.given (.ofExcept (answerJobs w c p).1)) := by
  cases c with
  | listByName _ | get _ => exact fate_still rfl
  | delete _ => exact fate_gone rfl
  | create d => exact .fresh rfl rfl (.inl (live?_nextId numbered w).1)
  | update id d =>
    simp only [answerJobs]
    cases found : (p.data w).jobs.find? id with
    | none => exact fate_still rfl
    | some job =>
      refine .known rfl ?_
      rintro x l ⟨⟩
      exact ⟨.job id job.definition, by simp [live?, WorkspaceData.live?, found], rfl⟩

theorem fate_answerPipelines (c : ObjectCall PipelineDefinition) : Fate p (answerPipelines w c p).2 replaces
    ((c.deed? .pipeline .pipeline (.ofExcept (answerPipelines w c p).1)).map (.inside w))
    (c.given (.ofExcept (answerPipelines w c p).1)) := by
  cases c with
  | listByName _ | get _ => exact fate_still rfl
  | delete _ => exact fate_gone rfl
  | create d => exact .fresh rfl rfl (.inl (live?_nextId numbered w).2.1)
  | update id d =>
    simp only [answerPipelines]
    cases found : (p.data w).pipelines.find? id with
    | none => exact fate_still rfl
    | some old =>
      refine .known rfl ?_
      rintro x l ⟨⟩
      exact ⟨.pipeline id old, by simp [live?, WorkspaceData.live?, found], rfl⟩

theorem fate_answerRepositories (c : RepositoryCall) : Fate p (answerRepositories w c p).2 replaces
    ((c.deed? (.ofExcept (answerRepositories w c p).1)).map (.inside w))
    (c.given (.ofExcept (answerRepositories w c p).1)) := by
  cases c with
  | listByPath _ => exact fate_still rfl
  | delete _ => exact fate_gone rfl
  | create url path provider =>
    simp only [answerRepositories]
    split
    · exact fate_still rfl
    · exact .fresh rfl rfl (.inl (live?_nextId numbered w).2.2)

theorem fate_answer (c : Call) : Fate p (answer c p).2 replaces (c.deed? (.ofExcept (answer c p).1))
    (c.given (.ofExcept (answer c p).1) p) := by
  cases c with
  | createIfAbsent name region params =>
    simp only [answer]
    cases found : p.workspaces name with
    | none =>
      simp only [Call.given, Reply.ofExcept, found]
      exact .fresh rfl rfl (.inl (by simp [live?, found]))
    | some info =>
      simp only [Call.given, Reply.ofExcept, found]
      refine .known rfl ?_
      rintro x l ⟨⟩
      exact ⟨.workspace info, by simp [live?, found], rfl⟩
  | findWorkspace _ | openSession _ => exact fate_still rfl
  | assignRole scope principal role =>
    simp only [answer]
    split <;> exact fate_still rfl
  | inside w c =>
    cases c with
    | jobs c => exact fate_answerJobs numbered w c
    | pipelines c => exact fate_answerPipelines numbered w c
    | repositories c => exact fate_answerRepositories numbered w c
    | views c =>
      cases c with
      | create d =>
        simp only [answer, answerInner, answerViews]
        split <;> exact fate_still rfl
      | _ => exact fate_still rfl
    | catalog c =>
      cases c with
      | ensureSchema catalog schema =>
        simp only [answer, answerInner, answerCatalog]
        split <;> exact fate_still rfl
      | _ => exact fate_still rfl
    | identity c => cases c <;> exact fate_still rfl

theorem fate_handler (c : Call) :
    Fate p (handler c p).2 replaces (c.deed? (handler c p).1) (c.given (handler c p).1 p) := by
  cases decision : p.rejects c.key with
  | true =>
    rw [handler_rejected decision, deed?_refused, given_refused]
    exact fate_still rfl
  | false =>
    rw [handler_accepted decision, ← given_record c _ p c.key]
    have there : (p.record c.key).Numbered := numbered
    exact fate_of_record (fate_answer there c)

theorem fate_plant (x : Seed) : Fate p (x.plant p) (Act.seeded x).Replaces (x.deed? p) (x.given p) := by
  cases x with
  | workspace name state => exact .fresh rfl rfl (.inr ⟨name, state, rfl, rfl⟩)
  | workspaceState name state =>
    simp only [Seed.plant, setWorkspaceState, Seed.deed?, Seed.given]
    cases found : p.workspaces name with
    | none => exact fate_still rfl
    | some info =>
      refine .known rfl ?_
      rintro x l ⟨⟩
      exact ⟨.workspace info, by simp [live?, found], rfl⟩
  | job w d => exact .fresh rfl rfl (.inl (live?_nextId numbered w).1)
  | pipeline w d => exact .fresh rfl rfl (.inl (live?_nextId numbered w).2.1)
  | _ => exact fate_still rfl

theorem fate_act (a : Act) : Fate p (a.after p) a.Replaces (a.deed? p) (a.given p) := by
  cases a with
  | seeded x => exact fate_plant numbered x
  | called c => exact fate_handler numbered c

end Answers

/-! What lives -/

/-- All that lives bears a number that the counter has passed, each its own. -/
structure Issued (p : Platform) : Prop where
  passed : ∀ x l, p.live? x = some l → ∃ n, 1 ≤ n ∧ n ≤ p.lastId ∧ l.id = toString n
  apart : ∀ x y l m, p.live? x = some l → p.live? y = some m → l.id = m.id → x = y

theorem Issued.id_ne_nextId (issued : p.Issued) {x : Place} {l : Live} (there : p.live? x = some l) :
    l.id ≠ p.nextId := by
  intro same
  obtain ⟨n, -, low, written⟩ := issued.passed x l there
  have equal : n = p.lastId + 1 := Nat.repr_inj.mp (written.symm.trans same)
  omega

theorem issued_of_persist (issued : p.Issued) (count : q.lastId = p.lastId)
    (persist : ∀ x l, q.live? x = some l → ∃ old, p.live? x = some old ∧ old.id = l.id) : q.Issued := by
  constructor
  · intro x l there
    obtain ⟨old, before, same⟩ := persist x l there
    rw [count, ← same]
    exact issued.passed x old before
  · intro x y l m first second equal
    obtain ⟨old, before, same⟩ := persist x l first
    obtain ⟨other, also, alike⟩ := persist y m second
    exact issued.apart x y old other before also ((same.trans equal).trans alike.symm)

theorem issued_of_fresh (issued : p.Issued) {x : Place} {l : Live} (id : l.id = p.nextId)
    (count : q.lastId = p.lastId + 1) (moved : q.live? = Function.update p.live? x (some l)) : q.Issued := by
  have cases_of : ∀ y m, q.live? y = some m → (y = x ∧ m = l) ∨ p.live? y = some m := by
    intro y m there
    rw [moved] at there
    by_cases here : y = x
    · rw [here, Function.update_self] at there
      exact .inl ⟨here, (Option.some.inj there).symm⟩
    · rw [Function.update_of_ne here] at there
      exact .inr there
  constructor
  · intro y m there
    rcases cases_of y m there with ⟨rfl, rfl⟩ | before
    · exact ⟨p.lastId + 1, by omega, by omega, id⟩
    · obtain ⟨n, positive, low, written⟩ := issued.passed y m before
      exact ⟨n, positive, by omega, written⟩
  · intro y z m k first second equal
    rcases cases_of y m first with ⟨rfl, rfl⟩ | before
    · rcases cases_of z k second with ⟨rfl, rfl⟩ | also
      · rfl
      · exact absurd (equal.symm.trans id) (issued.id_ne_nextId also)
    · rcases cases_of z k second with ⟨rfl, rfl⟩ | also
      · exact absurd (equal.trans id) (issued.id_ne_nextId before)
      · exact issued.apart y z m k before also equal

theorem issued_of_fate (issued : p.Issued) {replaces : Place → Prop} {deed : Option (Deed Place)}
    {ids : List String} (fate : Fate p q replaces deed ids) (moved : q.live? = redone p.live? deed) :
    q.Issued := by
  cases fate with
  | fresh id count _ => exact issued_of_fresh issued id count moved
  | known count same =>
    refine issued_of_persist issued count fun x l there => ?_
    rw [moved] at there
    cases deed with
    | none => exact ⟨l, there, rfl⟩
    | some d =>
      obtain ⟨y, left⟩ := d
      by_cases here : x = y
      · subst here
        rw [redone, Function.update_self] at there
        exact same x l (by rw [there])
      · rw [redone, Function.update_of_ne here] at there
        exact ⟨l, there, rfl⟩

/-! Histories -/

def given (acts : List Act) : List String := Act.told Act.given {} acts

variable (acts : List Act)

theorem numbered_ofActs : (ofActs acts).Numbered :=
  invariant_ofActs acts (numbered_of_reachable (.empty : Reachable {})) numbered_plant numbered_handler

theorem issued_empty : Issued {} := by
  have nothing : ∀ x, live? {} x = none := by
    rintro (name | ⟨w, nook⟩)
    · rfl
    · cases nook <;> rfl
  have empty : ∀ x l, live? {} x ≠ some l := by simp [nothing]
  exact ⟨fun x l there => absurd there (empty x l), fun x y l m there => absurd there (empty x l)⟩

theorem issued_ofActs : (ofActs acts).Issued := by
  induction acts using List.reverseRecOn with
  | nil => exact issued_empty
  | append_singleton acts a ih =>
    rw [ofActs_append]
    exact issued_of_fate ih (fate_act (numbered_ofActs acts) a) (Act.live?_after a _)

/-- What a history has given out is the numbers up to the counter, in their order. -/
theorem given_ofActs : given acts = (List.range (ofActs acts).lastId).map fun n => toString (n + 1) := by
  induction acts using List.reverseRecOn with
  | nil => rfl
  | append_singleton acts a ih =>
    rw [given, told_append, ofActs_append]
    have fate := fate_act (numbered_ofActs acts) a
    generalize a.deed? (ofActs acts) = deed at fate
    generalize a.given (ofActs acts) = ids at fate ⊢
    cases fate with
    | fresh id count _ =>
      rw [count, List.range_succ, List.map_append, ← ih]
      rfl
    | known count _ =>
      rw [count, ← ih, List.append_nil]
      rfl

theorem nodup_given : (given acts).Nodup := by
  rw [given_ofActs]
  refine List.nodup_range.map fun m n same => ?_
  have equal : m + 1 = n + 1 := Nat.repr_inj.mp same
  omega

/-- An id that an act gives out was not given out before and nothing bore it.  Something bears it afterwards,
and all that lived before still lives, a workspace aside whose name is seeded again. -/
theorem new_of_given {a : Act} {id : String} (member : id ∈ a.given (ofActs acts)) :
    id ∉ given acts ∧ (∀ x l, (ofActs acts).live? x = some l → l.id ≠ id) ∧
      (∃ x l, (a.after (ofActs acts)).live? x = some l ∧ l.id = id) ∧
      ∀ x l, (ofActs acts).live? x = some l →
        (a.after (ofActs acts)).live? x = some l ∨ a.Replaces x := by
  have fate := fate_act (numbered_ofActs acts) a
  have moved := Act.live?_after a (ofActs acts)
  generalize a.deed? (ofActs acts) = deed at fate moved
  generalize a.given (ofActs acts) = ids at fate member
  cases fate with
  | known => cases member
  | @fresh x l own count free =>
    obtain rfl := List.mem_singleton.mp member
    refine ⟨?_, fun y m there => (issued_ofActs acts).id_ne_nextId there, ?_, fun y m there => ?_⟩
    · rw [given_ofActs]
      intro again
      obtain ⟨n, low, same⟩ := List.mem_map.mp again
      have equal : n + 1 = (ofActs acts).lastId + 1 := Nat.repr_inj.mp same
      have below := List.mem_range.mp low
      omega
    · exact ⟨x, l, by rw [moved, redone, Function.update_self], own⟩
    · rw [moved, redone]
      by_cases here : y = x
      · subst here
        rcases free with none | replaced
        · rw [none] at there
          cases there
        · exact .inr replaced
      · rw [Function.update_of_ne here]
        exact .inl there

/-! Refusals -/

theorem answerInner_of_error {w : String} {c : InnerCall} {f : Failure}
    (error : (answerInner w c p).1 = .error f) : (answerInner w c p).2 = p := by
  cases c with
  | jobs c =>
    cases c with
    | update id d =>
      simp only [answerInner, answerJobs] at error ⊢
      cases found : (p.data w).jobs.find? id with
      | none => rfl
      | some job => simp [found] at error
    | _ => cases error
  | pipelines c =>
    cases c with
    | update id d =>
      simp only [answerInner, answerPipelines] at error ⊢
      cases found : (p.data w).pipelines.find? id with
      | none => rfl
      | some old => simp [found] at error
    | _ => cases error
  | views c =>
    cases c with
    | create d =>
      simp only [answerInner, answerViews] at error ⊢
      split
      · rename_i there
        rw [if_pos there] at error
        cases error
      · rfl
    | _ => cases error
  | catalog c =>
    cases c with
    | ensureSchema catalog schema =>
      simp only [answerInner, answerCatalog] at error ⊢
      split
      · rename_i there
        rw [if_pos there] at error
        cases error
      · rfl
    | _ => cases error
  | repositories c =>
    cases c with
    | create url path provider =>
      simp only [answerInner, answerRepositories] at error ⊢
      split
      · rfl
      · rename_i free
        rw [if_neg free] at error
        cases error
    | _ => cases error
  | identity c => cases c <;> cases error

theorem answer_of_error {c : Call} {f : Failure} (error : (answer c p).1 = .error f) : (answer c p).2 = p := by
  cases c with
  | createIfAbsent name region params =>
    simp only [answer] at error ⊢
    cases found : p.workspaces name with
    | none => simp [found] at error
    | some info => rfl
  | findWorkspace _ | openSession _ => cases error
  | assignRole scope principal role =>
    simp only [answer] at error ⊢
    split
    · rename_i known
      rw [if_pos known] at error
      cases error
    · rfl
  | inside w c => exact answerInner_of_error error

/-- A call that is refused is logged and changes nothing else. -/
theorem handler_of_refused {c : Call} {f : Failure} (refused : (handler c p).1 = .refused f) :
    (handler c p).2 = p.record c.key := by
  cases decision : p.rejects c.key with
  | true => rw [handler_rejected decision]
  | false =>
    rw [handler_accepted decision] at refused ⊢
    cases answered : (answer c (p.record c.key)).1 with
    | ok a =>
      rw [answered] at refused
      cases refused
    | error g => exact answer_of_error answered

end Platform
end Provisioning
