import Mathlib.Data.List.Nodup
import Mathlib.Data.List.Perm.Basic
import Provisioning.Proofs.Platform.History
import Provisioning.Proofs.Record.JobStore

/-!
A ledger of an engine at work: what it was asked to do and under which tokens, and what has happened
to the world, operations worked off among it.  At every moment the tokens handed out are those worked
off and those still out; behind each of the former stands the final record that its reply makes,
behind each of the latter a running one.  The world is what the start has become by the runs of the
operations worked off, one after another, and by what changed it from outside.
-/
namespace Provisioning

variable {σ : Type}

inductive Event (σ : Type) where
  | submit (r : Request) (d : Direction)
  | submitReadBack (r : ReadBackRequest)
  | updateAccess (r : AccessRequest)
  | poll (t : JobToken)
  | runNext
  | pass (now : Timestamp)
  | change (f : σ → σ)

structure Issue where
  token : JobToken
  operation : Operation
  time : Timestamp

structure Execution where
  token : JobToken
  operation : Operation
  reply : Reply Completion
  time : Timestamp

inductive WorldChange (σ : Type) where
  | run (x : Execution)
  | outside (f : σ → σ)

def WorldChange.execution? : WorldChange σ → Option Execution
  | .run x => some x
  | .outside _ => none

def WorldChange.outside? : WorldChange σ → Option (σ → σ)
  | .run _ => none
  | .outside f => some f

def Event.outside? : Event σ → Option (σ → σ)
  | .change f => some f
  | _ => none

def Operation.task? (token : JobToken) : Operation → Option Task
  | .work w => some ⟨token, w⟩
  | .access _ => none

def Issue.task? (i : Issue) : Option Task := i.operation.task? i.token

def Execution.task? (x : Execution) : Option Task := x.operation.task? x.token

namespace Engine

variable (e : Engine σ)

def step : Event σ → EngineState σ → EngineState σ
  | .submit r d, s => (e.submit r d s).2
  | .submitReadBack r, s => (e.submitReadBack r s).2
  | .updateAccess r, s => (e.updateAccess r s).2
  | .poll _, s => s
  | .runNext, s => e.runNext s
  | .pass now, s => { s with now }
  | .change f, s => { s with world := f s.world }

def after (events : List (Event σ)) (s : EngineState σ) : EngineState σ :=
  events.foldl (fun s event => e.step event s) s

/-- What is asked of the engine by an event, under the token that it gives back. -/
def issues : Event σ → EngineState σ → List Issue
  | .submit r d, s => [⟨(e.submit r d s).1, .work (.request r d), s.now⟩]
  | .submitReadBack r, s => [⟨(e.submitReadBack r s).1, .work (.readBack r), s.now⟩]
  | .updateAccess r, s => [⟨(e.updateAccess r s).1.token, .access r, s.now⟩]
  | _, _ => []

def perform (token : JobToken) (o : Operation) (s : EngineState σ) : Execution :=
  ⟨token, o, ((o.program e.settings).run e.handler s.world).1, s.now⟩

def executions : Event σ → EngineState σ → List Execution
  | .updateAccess r, s => [e.perform (e.tokenOf s.issued) (.access r) s]
  | .runNext, s =>
    match s.queue with
    | [] => []
    | t :: _ => [e.perform t.token (.work t.work) s]
  | _, _ => []

def changes : Event σ → EngineState σ → List (WorldChange σ)
  | .change f, _ => [.outside f]
  | event, s => (e.executions event s).map .run

theorem executions_eq_changes (event : Event σ) (s : EngineState σ) :
    (e.changes event s).filterMap (·.execution?) = e.executions event s := by
  have mapped : ∀ xs : List Execution,
      (xs.map (WorldChange.run (σ := σ))).filterMap (·.execution?) = xs := by
    intro xs
    rw [List.filterMap_map]
    exact List.filterMap_some
  cases event with
  | change f => rfl
  | _ => exact mapped _

theorem outside_changes (event : Event σ) (s : EngineState σ) :
    (e.changes event s).filterMap (·.outside?) = [event].filterMap (·.outside?) := by
  have mapped : ∀ xs : List Execution,
      (xs.map (WorldChange.run (σ := σ))).filterMap (·.outside?) = [] := by
    intro xs
    rw [List.filterMap_map]
    exact List.filterMap_eq_nil_iff.mpr fun _ _ => rfl
  cases event with
  | change f => rfl
  | _ => exact mapped _

end Engine

/-- One world becomes another by these changes in turn.  An operation worked off leaves behind what its
run makes of the world that it meets, and its reply is the reply of that run. -/
inductive WorldTrace (e : Engine σ) : σ → List (WorldChange σ) → σ → Prop where
  | nil (w : σ) : WorldTrace e w [] w
  | run {w v u : σ} {x : Execution} {rest : List (WorldChange σ)}
      (ran : (x.operation.program e.settings).run e.handler w = (x.reply, v))
      (later : WorldTrace e v rest u) : WorldTrace e w (.run x :: rest) u
  | outside {w u : σ} (f : σ → σ) {rest : List (WorldChange σ)}
      (later : WorldTrace e (f w) rest u) : WorldTrace e w (.outside f :: rest) u

theorem WorldTrace.append {e : Engine σ} {w v u : σ} {before after : List (WorldChange σ)}
    (first : WorldTrace e w before v) (second : WorldTrace e v after u) :
    WorldTrace e w (before ++ after) u := by
  induction first with
  | nil w => exact second
  | run ran _ ih => exact .run ran (ih second)
  | outside f _ ih => exact .outside f (ih second)

theorem Engine.worldTrace_step (e : Engine σ) (event : Event σ) (s : EngineState σ) :
    WorldTrace e s.world (e.changes event s) (e.step event s).world := by
  cases event with
  | submit | submitReadBack | poll | pass => exact .nil _
  | updateAccess r => exact .run rfl (.nil _)
  | runNext =>
    simp only [changes, executions, step, runNext]
    cases s.queue with
    | nil => exact .nil _
    | cons t rest => exact .run rfl (.nil _)
  | change f => exact .outside f (.nil _)

structure Ledger (σ : Type) where
  state : EngineState σ
  issued : List Issue := []
  changes : List (WorldChange σ) := []

def Ledger.executed (l : Ledger σ) : List Execution := l.changes.filterMap (·.execution?)

namespace Engine

variable (e : Engine σ)

def enter (l : Ledger σ) (event : Event σ) : Ledger σ where
  state := e.step event l.state
  issued := l.issued ++ e.issues event l.state
  changes := l.changes ++ e.changes event l.state

/-- The ledger of an engine that starts with nothing to do. -/
def ledger (world : σ) (now : Timestamp) (events : List (Event σ)) : Ledger σ :=
  events.foldl e.enter { state := { world, now } }

theorem state_foldl_enter (events : List (Event σ)) (l : Ledger σ) :
    (events.foldl e.enter l).state = e.after events l.state := by
  induction events generalizing l with
  | nil => rfl
  | cons event rest ih => exact ih (e.enter l event)

theorem executed_enter (l : Ledger σ) (event : Event σ) :
    (e.enter l event).executed = l.executed ++ e.executions event l.state := by
  simp only [enter, Ledger.executed, List.filterMap_append, executions_eq_changes]

theorem outside_foldl_enter (events : List (Event σ)) (l : Ledger σ) :
    (events.foldl e.enter l).changes.filterMap (·.outside?) =
      l.changes.filterMap (·.outside?) ++ events.filterMap (·.outside?) := by
  induction events generalizing l with
  | nil => exact (List.append_nil _).symm
  | cons event rest ih =>
    rw [List.foldl_cons, ih, enter, List.filterMap_append, outside_changes, List.append_assoc,
      ← List.filterMap_append, List.singleton_append]

theorem worldTrace_foldl_enter {world : σ} (events : List (Event σ)) {l : Ledger σ}
    (trace : WorldTrace e world l.changes l.state.world) :
    WorldTrace e world (events.foldl e.enter l).changes (events.foldl e.enter l).state.world := by
  induction events generalizing l with
  | nil => exact trace
  | cons event rest ih => exact ih (trace.append (e.worldTrace_step event l.state))

/-- The record that a change of access gives back bears the token handed out for it. -/
theorem token_updateAccess (r : AccessRequest) (s : EngineState σ) :
    (e.updateAccess r s).1.token = e.tokenOf s.issued :=
  JobStore.token_get _ _ _

end Engine

/-- The tokens handed out are those of `executed` and of `out`, in the order of submission as far as
work is concerned, and the store has the record of each. -/
structure Balanced (e : Engine σ) (store : JobStore) (count : Nat) (issued : List Issue)
    (executed : List Execution) (out : List Issue) : Prop where
  tokens : issued.map (·.token) = (List.range count).map e.tokenOf
  shared : (executed.map (·.token) ++ out.map (·.token)).Perm (issued.map (·.token))
  order : issued.filterMap (·.task?) = executed.filterMap (·.task?) ++ out.filterMap (·.task?)
  among : ∀ i ∈ out, i ∈ issued
  running : ∀ i ∈ out, store.find? i.token = some (.running i.token i.time)
  finished : ∀ x ∈ executed, ∃ i ∈ issued, i.token = x.token ∧ i.operation = x.operation ∧
    store.find? x.token = some ((JobRecord.running i.token i.time).finish x.time x.reply)
  performed : ∀ x ∈ executed, ∃ world,
    x.reply = ((x.operation.program e.settings).run e.handler world).1
  recorded : ∀ t r, store.find? t = some r → t ∈ issued.map (·.token)

namespace Balanced

variable {e : Engine σ} {store : JobStore} {count : Nat} {issued : List Issue}
  {executed : List Execution} {out : List Issue}

theorem empty (e : Engine σ) : Balanced e {} 0 [] [] [] where
  tokens := rfl
  shared := List.Perm.refl _
  order := rfl
  among := fun _ member => nomatch member
  running := fun _ member => nomatch member
  finished := fun _ member => nomatch member
  performed := fun _ member => nomatch member
  recorded := fun _ _ found => nomatch found

theorem nodup (distinct : Function.Injective e.tokenOf) (b : Balanced e store count issued executed out) :
    (issued.map (·.token)).Nodup := by
  rw [b.tokens]
  exact List.nodup_range.map distinct

theorem fresh (distinct : Function.Injective e.tokenOf) (b : Balanced e store count issued executed out) :
    e.tokenOf count ∉ issued.map (·.token) := by
  rw [b.tokens]
  intro member
  obtain ⟨n, small, same⟩ := List.mem_map.mp member
  have bound := List.mem_range.mp small
  have equal := distinct same
  omega

theorem register (distinct : Function.Injective e.tokenOf)
    (b : Balanced e store count issued executed out) (o : Operation) (now : Timestamp) :
    Balanced e (store.put (.running (e.tokenOf count) now)).2 (count + 1)
      (issued ++ [⟨e.tokenOf count, o, now⟩]) executed (out ++ [⟨e.tokenOf count, o, now⟩]) := by
  have isFresh := b.fresh distinct
  have unknown : store.find? (e.tokenOf count) = none := by
    cases found : store.find? (e.tokenOf count) with
    | none => rfl
    | some r => exact absurd (b.recorded _ r found) isFresh
  have kept : ∀ t, t ∈ issued.map (·.token) →
      (store.put (.running (e.tokenOf count) now)).2.find? t = store.find? t := by
    intro t member
    apply JobStore.find?_put_other
    intro same
    change t = e.tokenOf count at same
    exact isFresh (same ▸ member)
  have written : (store.put (.running (e.tokenOf count) now)).2.find? (e.tokenOf count) =
      some (.running (e.tokenOf count) now) := by
    rw [JobStore.find?_put]
    simp [JobRecord.running, JobStore.isOpen, unknown]
  constructor
  · rw [List.map_append, b.tokens, List.range_succ, List.map_append]
    rfl
  · rw [List.map_append, List.map_append, ← List.append_assoc]
    exact b.shared.append_right _
  · rw [List.filterMap_append, List.filterMap_append, b.order, List.append_assoc]
  · intro i member
    rcases List.mem_append.mp member with old | new
    · exact List.mem_append_left _ (b.among i old)
    · exact List.mem_append_right _ new
  · intro i member
    rcases List.mem_append.mp member with old | new
    · rw [kept _ (List.mem_map_of_mem (b.among i old))]
      exact b.running i old
    · cases List.mem_singleton.mp new
      exact written
  · intro x member
    obtain ⟨i, known, token, operation, found⟩ := b.finished x member
    refine ⟨i, List.mem_append_left _ known, token, operation, ?_⟩
    rw [kept _ (token ▸ List.mem_map_of_mem known)]
    exact found
  · exact b.performed
  · intro t r found
    rw [List.map_append, List.mem_append]
    by_cases new : t = e.tokenOf count
    · exact .inr (List.mem_singleton.mpr new)
    · rw [JobStore.find?_put_other new] at found
      exact .inl (b.recorded t r found)

theorem complete (distinct : Function.Injective e.tokenOf) (before : List Issue) {after : List Issue}
    {i : Issue}
    (b : Balanced e store count issued executed (before ++ i :: after))
    (turn : before = [] ∨ i.task? = none) (now : Timestamp) (world : σ) :
    let reply := ((i.operation.program e.settings).run e.handler world).1
    Balanced e (store.put ((store.get i.token now).finish now reply)).2 count issued
      (executed ++ [⟨i.token, i.operation, reply, now⟩]) (before ++ after) := by
  intro reply
  have isOut : i ∈ before ++ i :: after := List.mem_append_right _ List.mem_cons_self
  have moved : (executed.map (·.token) ++ (before ++ i :: after).map (·.token)).Perm
      (i.token :: (executed.map (·.token) ++ (before ++ after).map (·.token))) := by
    simp only [List.map_append, List.map_cons, ← List.append_assoc]
    exact List.perm_middle
  have alone : i.token ∉ executed.map (·.token) ++ (before ++ after).map (·.token) := by
    have apart := b.shared.nodup_iff.mpr (b.nodup distinct)
    exact (List.nodup_cons.mp (moved.nodup_iff.mp apart)).1
  have found := b.running i isOut
  rw [JobStore.get_of_find? found]
  generalize final : (JobRecord.running i.token i.time).finish now reply = r
  have token : r.token = i.token := by
    rw [← final, JobRecord.token_finish]
    rfl
  have kept : ∀ t, t ≠ i.token → (store.put r).2.find? t = store.find? t := by
    intro t other
    exact JobStore.find?_put_other (token ▸ other)
  have written : (store.put r).2.find? i.token = some r := by
    rw [JobStore.find?_put]
    simp [token, JobStore.isOpen, found, JobRecord.running, JobStatus.isTerminal]
  constructor
  · exact b.tokens
  · refine List.Perm.trans ?_ b.shared
    refine List.Perm.trans ?_ moved.symm
    rw [List.map_append, List.append_assoc]
    exact List.perm_middle
  · have same : Execution.task? ⟨i.token, i.operation, reply, now⟩ = i.task? := rfl
    rw [b.order]
    simp only [List.filterMap_append, List.filterMap_cons, List.filterMap_nil, same]
    rcases turn with first | access
    · subst first
      cases i.task? <;> simp
    · simp [access]
  · intro j member
    apply b.among
    rcases List.mem_append.mp member with early | late
    · exact List.mem_append_left _ early
    · exact List.mem_append_right _ (List.mem_cons_of_mem _ late)
  · intro j member
    have stillOut : j ∈ before ++ i :: after := by
      rcases List.mem_append.mp member with early | late
      · exact List.mem_append_left _ early
      · exact List.mem_append_right _ (List.mem_cons_of_mem _ late)
    rw [kept]
    · exact b.running j stillOut
    · intro same
      exact alone (List.mem_append_right _ (same ▸ List.mem_map_of_mem member))
  · intro x member
    rcases List.mem_append.mp member with old | new
    · obtain ⟨j, known, sameToken, operation, stored⟩ := b.finished x old
      refine ⟨j, known, sameToken, operation, ?_⟩
      rw [kept]
      · exact stored
      · intro same
        exact alone (List.mem_append_left _ (same ▸ List.mem_map_of_mem old))
    · cases List.mem_singleton.mp new
      exact ⟨i, b.among i isOut, rfl, rfl, final ▸ written⟩
  · intro x member
    rcases List.mem_append.mp member with old | new
    · exact b.performed x old
    · cases List.mem_singleton.mp new
      exact ⟨world, rfl⟩
  · intro t s stored
    by_cases same : t = i.token
    · exact same ▸ List.mem_map_of_mem (b.among i isOut)
    · rw [kept t same] at stored
      exact b.recorded t s stored

theorem apart (distinct : Function.Injective e.tokenOf) (b : Balanced e store count issued executed out)
    {x : Execution} (done : x ∈ executed) {i : Issue} (waits : i ∈ out) : x.token ≠ i.token := by
  have once := b.shared.nodup_iff.mpr (b.nodup distinct)
  exact (List.nodup_append.mp once).2.2 _ (List.mem_map_of_mem done) _ (List.mem_map_of_mem waits)

/-- An operation that was asked for has been worked off, or it is still out. -/
theorem standing (distinct : Function.Injective e.tokenOf) (b : Balanced e store count issued executed out)
    {i : Issue} (member : i ∈ issued) : i ∈ out ∨ ∃ x ∈ executed, x.token = i.token ∧
      x.operation = i.operation ∧
      store.find? i.token = some ((JobRecord.running i.token i.time).finish x.time x.reply) := by
  have only : ∀ j ∈ issued, j.token = i.token → j = i := fun j known same =>
    List.inj_on_of_nodup_map (b.nodup distinct) known member same
  have among := b.shared.mem_iff.mpr (List.mem_map_of_mem member)
  rcases List.mem_append.mp among with worked | waits
  · obtain ⟨x, done, same⟩ := List.mem_map.mp worked
    obtain ⟨j, known, token, operation, found⟩ := b.finished x done
    have equal := only j known (token.trans same)
    subst equal
    exact .inr ⟨x, done, same, operation.symm, same ▸ found⟩
  · obtain ⟨j, isOut, same⟩ := List.mem_map.mp waits
    exact .inl (only j (b.among j isOut) same ▸ isOut)

end Balanced

/-- A balanced ledger in which what is still out is what waits in the queue. -/
def Ledger.Kept (e : Engine σ) (l : Ledger σ) : Prop :=
  ∃ out, Balanced e l.state.store l.state.issued l.issued l.executed out ∧
    l.state.queue = out.filterMap (·.task?) ∧ ∀ i ∈ out, i.task? ≠ none

namespace Ledger

variable {e : Engine σ} {l : Ledger σ}

theorem token_tasks {out : List Issue} (works : ∀ i ∈ out, i.task? ≠ none) :
    (out.filterMap (·.task?)).map (·.token) = out.map (·.token) := by
  induction out with
  | nil => rfl
  | cons i rest ih =>
    have later := ih fun j member => works j (List.mem_cons_of_mem _ member)
    obtain ⟨token, operation, time⟩ := i
    cases operation with
    | work w => exact congrArg (token :: ·) later
    | access r => exact absurd rfl (works _ List.mem_cons_self)

theorem kept_submitWork (distinct : Function.Injective e.tokenOf) (kept : l.Kept e) (w : Work) :
    Kept e { state := (e.submitWork w l.state).2
             issued := l.issued ++ [⟨(e.submitWork w l.state).1, .work w, l.state.now⟩]
             changes := l.changes } := by
  obtain ⟨out, balanced, queue, works⟩ := kept
  refine ⟨_, balanced.register distinct (.work w) l.state.now, ?_, ?_⟩
  · rw [List.filterMap_append, ← queue]
    rfl
  · intro i member
    rcases List.mem_append.mp member with old | new
    · exact works i old
    · cases List.mem_singleton.mp new
      exact Option.some_ne_none _

theorem kept_updateAccess (distinct : Function.Injective e.tokenOf) (kept : l.Kept e) (r : AccessRequest) :
    (e.enter l (.updateAccess r)).Kept e := by
  obtain ⟨out, balanced, queue, works⟩ := kept
  have registered := balanced.register distinct (.access r) l.state.now
  have done := registered.complete distinct out (.inr rfl) l.state.now l.state.world
  rw [List.append_nil] at done
  refine ⟨out, ?_, queue, works⟩
  rw [e.executed_enter]
  simp only [Engine.enter, Engine.issues, e.token_updateAccess]
  exact done

theorem kept_runNext (distinct : Function.Injective e.tokenOf) (kept : l.Kept e) :
    (e.enter l .runNext).Kept e := by
  obtain ⟨out, balanced, queue, works⟩ := kept
  have executed := e.executed_enter l .runNext
  cases out with
  | nil =>
    have idle : l.state.queue = [] := queue
    refine ⟨[], ?_, ?_, works⟩
    · rw [executed]
      simpa [Engine.enter, Engine.step, Engine.runNext, Engine.issues, Engine.executions, idle]
        using balanced
    · simp [Engine.enter, Engine.step, Engine.runNext, idle]
  | cons i rest =>
    obtain ⟨token, operation, time⟩ := i
    cases operation with
    | access r => exact absurd rfl (works _ List.mem_cons_self)
    | work w =>
      have next : l.state.queue = ⟨token, w⟩ :: rest.filterMap (·.task?) := queue
      have done := Balanced.complete distinct [] balanced (.inl rfl) l.state.now l.state.world
      have stepped : e.step .runNext l.state = e.complete token (w.program e.settings)
          { l.state with queue := rest.filterMap (·.task?) } := by
        simp only [Engine.step, Engine.runNext, next]
      have worked : e.executions .runNext l.state = [e.perform token (.work w) l.state] := by
        simp only [Engine.executions, next]
      refine ⟨rest, ?_, ?_, fun i member => works i (List.mem_cons_of_mem _ member)⟩
      · rw [executed, worked]
        simp only [Engine.enter, stepped, Engine.issues, List.append_nil]
        exact done
      · simp only [Engine.enter, stepped, Engine.complete]

theorem kept_enter (distinct : Function.Injective e.tokenOf) (kept : l.Kept e) (event : Event σ) :
    (e.enter l event).Kept e := by
  cases event with
  | submit r d =>
    have submitted := kept_submitWork distinct kept (.request r d)
    simpa [Engine.enter, Engine.step, Engine.submit, Engine.issues, Engine.changes, Engine.executions]
      using submitted
  | submitReadBack r =>
    have submitted := kept_submitWork distinct kept (.readBack r)
    simpa [Engine.enter, Engine.step, Engine.submitReadBack, Engine.issues, Engine.changes,
      Engine.executions] using submitted
  | updateAccess r => exact kept_updateAccess distinct kept r
  | runNext => exact kept_runNext distinct kept
  | poll | pass | change =>
    obtain ⟨out, balanced, queue, works⟩ := kept
    refine ⟨out, ?_, queue, works⟩
    rw [e.executed_enter]
    simpa [Engine.enter, Engine.step, Engine.issues, Engine.executions] using balanced

theorem kept_foldl_enter (distinct : Function.Injective e.tokenOf) (events : List (Event σ))
    (kept : l.Kept e) : (events.foldl e.enter l).Kept e := by
  induction events generalizing l with
  | nil => exact kept
  | cons event rest ih => exact ih (kept_enter distinct kept event)

theorem kept_ledger (distinct : Function.Injective e.tokenOf) (world : σ) (now : Timestamp)
    (events : List (Event σ)) : (e.ledger world now events).Kept e := by
  have start : Kept e { state := { world, now } } :=
    ⟨[], .empty e, rfl, fun _ member => nomatch member⟩
  exact kept_foldl_enter distinct events start

end Ledger
end Provisioning
