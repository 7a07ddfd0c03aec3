import Provisioning.Proofs.Chain.Completions
import Provisioning.Proofs.Chain.Names
import Provisioning.Proofs.Engine.Ledger

/-!
The life of a job.  From the moment its token is handed out there is a record behind it; the record is
running as long as the job waits, the job is worked off once, in its turn, and what came of it is then
recorded for good.
-/
namespace Provisioning

open Platform

variable {σ : Type}

def JobRecord.Tells (r : JobRecord) : Reply Completion → Prop
  | .answered c => r.status = .completed ∧ r.message = c.message ∧ r.info = c.info ∧ r.updates = c.updates
  | .refused f => r.status = .failed ∧ r.message = f.render ∧ r.info = none ∧ r.updates = none
  | .aborted m => r.status = .failed ∧ r.message = "Provisioning aborted by an internal error: " ++ m ∧
      r.info = none ∧ r.updates = none

theorem JobRecord.tells_finish (token : JobToken) (submitted now : Timestamp) (reply : Reply Completion) :
    ((JobRecord.running token submitted).finish now reply).Tells reply := by
  rcases reply with c | f | m
  · rw [finish_answered]
    exact ⟨rfl, rfl, rfl, Option.or_none⟩
  · exact ⟨rfl, rfl, rfl, rfl⟩
  · exact ⟨rfl, rfl, rfl, rfl⟩

theorem JobRecord.Tells.answered {r : JobRecord} {reply : Reply Completion} (tells : r.Tells reply)
    (completed : r.status = .completed) : ∃ c, reply = .answered c ∧ r.info = c.info := by
  rcases reply with c | f | m
  · exact ⟨c, rfl, tells.2.2.1⟩
  · exact nomatch completed.symm.trans tells.1
  · exact nomatch completed.symm.trans tells.1

theorem JobRecord.Tells.failed {r : JobRecord} {reply : Reply Completion} (tells : r.Tells reply)
    (silent : ∀ c, reply ≠ .answered c) : r.status = .failed := by
  rcases reply with c | f | m
  · exact absurd rfl (silent c)
  · exact tells.1
  · exact tells.1

theorem JobRecord.Tells.terminal {r : JobRecord} {reply : Reply Completion} (tells : r.Tells reply) :
    r.status.isTerminal = true := by
  rcases reply with c | f | m <;> rw [tells.1] <;> rfl

structure JobRecord.Agrees (r x : JobRecord) : Prop where
  status : r.status = x.status
  message : r.message = x.message
  info : r.info = x.info
  updates : r.updates = x.updates

theorem JobRecord.agrees_of_tells {r x : JobRecord} {reply : Reply Completion} (first : r.Tells reply)
    (second : x.Tells reply) : r.Agrees x := by
  rcases reply with c | f | m
  all_goals
    obtain ⟨status, message, info, updates⟩ := first
    obtain ⟨status', message', info', updates'⟩ := second
    exact ⟨status.trans status'.symm, message.trans message'.symm, info.trans info'.symm,
      updates.trans updates'.symm⟩

structure Lifecycle (e : Engine σ) (l : Ledger σ) : Prop where
  distinct : (l.issued.map (·.token)).Nodup
  known : ∀ i ∈ l.issued, l.state.store.find? i.token = some (e.status i.token l.state)
  running : ∀ i ∈ l.issued, (e.status i.token l.state).status = .running ↔
    ∃ t ∈ l.state.queue, t.token = i.token
  /-- Each operation is worked off once, or its turn is still to come. -/
  once : (l.executed.map (·.token) ++ l.state.queue.map (·.token)).Perm (l.issued.map (·.token))
  order : l.issued.filterMap (·.task?) = l.executed.filterMap (·.task?) ++ l.state.queue
  asked : ∀ x ∈ l.executed, ∃ i ∈ l.issued, i.token = x.token ∧ i.operation = x.operation
  told : ∀ x ∈ l.executed, (e.status x.token l.state).Tells x.reply
  final : ∀ x ∈ l.executed, ∀ later, e.status x.token (e.after later l.state) = e.status x.token l.state
  info : ∀ i ∈ l.issued, (e.status i.token l.state).info.isSome = true →
    (e.status i.token l.state).status = .completed ∧ ∃ r, i.operation = .work (.request r .provision)
  updates : ∀ i ∈ l.issued, (e.status i.token l.state).updates.isSome = true →
    (e.status i.token l.state).status = .completed ∧ ∃ r, i.operation = .work (.readBack r)

namespace Engine

variable (e : Engine σ)

theorem status_of_find? {s : EngineState σ} {t : JobToken} {r : JobRecord}
    (found : s.store.find? t = some r) : e.status t s = r := JobStore.get_of_find? found s.now

theorem find?_step_of_terminal {s : EngineState σ} {t : JobToken} {r : JobRecord}
    (found : s.store.find? t = some r) (terminal : r.status.isTerminal = true) (event : Event σ) :
    (e.step event s).store.find? t = some r := by
  cases event with
  | submit _ _ | submitReadBack _ => exact JobStore.find?_put_of_terminal found terminal _
  | updateAccess _ =>
    exact JobStore.find?_put_of_terminal (JobStore.find?_put_of_terminal found terminal _) terminal _
  | runNext =>
    simp only [step, runNext]
    cases s.queue with
    | nil => exact found
    | cons task rest => exact JobStore.find?_put_of_terminal found terminal _
  | poll | pass | change => exact found

theorem find?_after_of_terminal {s : EngineState σ} {t : JobToken} {r : JobRecord}
    (found : s.store.find? t = some r) (terminal : r.status.isTerminal = true) (events : List (Event σ)) :
    (e.after events s).store.find? t = some r := by
  unfold after
  induction events generalizing s with
  | nil => exact found
  | cons event rest ih => exact ih (e.find?_step_of_terminal found terminal event)

/-- Doing all that waits is doing the next task as often as there are tasks. -/
theorem drain_eq_after (s : EngineState σ) :
    e.drain s = e.after (List.replicate s.queue.length .runNext) s := by
  unfold drain after
  generalize s.queue = waiting
  induction waiting generalizing s with
  | nil => rfl
  | cons t rest ih => exact ih (e.runNext s)

theorem queue_drain (s : EngineState σ) : (e.drain s).queue = [] := by
  unfold drain
  generalize count : s.queue = waiting
  induction waiting generalizing s with
  | nil => exact count
  | cons t rest ih =>
    apply ih
    simp only [runNext, count, complete]

/-- Only a completion brings info and updates, and only those of its operation. -/
theorem completed_of_some (distinct : Function.Injective e.tokenOf) {s : EngineState σ}
    {issued out : List Issue} {executed : List Execution}
    (balanced : Balanced e s.store s.issued issued executed out) {i : Issue}
    (member : i ∈ issued)
    (has : (e.status i.token s).info.isSome = true ∨ (e.status i.token s).updates.isSome = true) :
    (e.status i.token s).status = .completed ∧ ∃ c : Completion, c.Fits i.operation ∧
      (e.status i.token s).info = c.info ∧ (e.status i.token s).updates = c.updates := by
  rcases balanced.standing distinct member with isOut | ⟨x, done, -, operation, found⟩
  · rw [e.status_of_find? (balanced.running i isOut)] at has
    rcases has with has | has <;> cases has
  · rw [e.status_of_find? found] at has ⊢
    obtain ⟨world, performed⟩ := balanced.performed x done
    have tells := JobRecord.tells_finish i.token i.time x.time x.reply
    generalize (JobRecord.running i.token i.time).finish x.time x.reply = r at has tells ⊢
    generalize x.reply = reply at performed tells
    rw [operation] at performed
    rcases reply with c | f | m
    · have fits := Program.yields_run (i.operation.yields_program e.settings)
        (Prod.ext performed.symm rfl)
      exact ⟨tells.1, c, fits, tells.2.2.1, tells.2.2.2⟩
    · rw [tells.2.2.1, tells.2.2.2] at has
      simp at has
    · rw [tells.2.2.1, tells.2.2.2] at has
      simp at has

theorem lifecycle_of_kept (distinct : Function.Injective e.tokenOf) {l : Ledger σ} (kept : l.Kept e) :
    Lifecycle e l := by
  obtain ⟨out, balanced, queue, works⟩ := kept
  have waiting : l.state.queue.map (·.token) = out.map (·.token) := by
    rw [queue]
    exact Ledger.token_tasks works
  have finished : ∀ x ∈ l.executed, ∃ submitted, l.state.store.find? x.token =
      some ((JobRecord.running x.token submitted).finish x.time x.reply) := by
    intro x member
    obtain ⟨i, -, token, -, found⟩ := balanced.finished x member
    exact ⟨i.time, token ▸ found⟩
  constructor
  · exact balanced.nodup distinct
  · intro i member
    rcases balanced.standing distinct member with isOut | ⟨x, -, -, -, found⟩
    · have found := balanced.running i isOut
      rw [e.status_of_find? found, found]
    · rw [e.status_of_find? found, found]
  · intro i member
    rcases balanced.standing distinct member with isOut | ⟨x, done, sameToken, -, found⟩
    · have present : i.token ∈ l.state.queue.map (·.token) := waiting ▸ List.mem_map_of_mem isOut
      rw [e.status_of_find? (balanced.running i isOut)]
      exact ⟨fun _ => List.mem_map.mp present, fun _ => rfl⟩
    · rw [e.status_of_find? found]
      constructor
      · intro stillRunning
        have terminal := JobRecord.terminal_finish (.running i.token i.time) x.time x.reply
        rw [stillRunning] at terminal
        cases terminal
      · rintro ⟨t, waits, same⟩
        have present : t.token ∈ out.map (·.token) := waiting ▸ List.mem_map_of_mem waits
        obtain ⟨j, isOut, token⟩ := List.mem_map.mp present
        exact absurd (sameToken.trans (token.trans same).symm) (balanced.apart distinct done isOut)
  · rw [waiting]
    exact balanced.shared
  · rw [queue]
    exact balanced.order
  · intro x member
    obtain ⟨i, known, token, operation, -⟩ := balanced.finished x member
    exact ⟨i, known, token, operation⟩
  · intro x member
    obtain ⟨submitted, found⟩ := finished x member
    rw [e.status_of_find? found]
    exact JobRecord.tells_finish _ _ _ _
  · intro x member later
    obtain ⟨submitted, found⟩ := finished x member
    have still := e.find?_after_of_terminal found (JobRecord.terminal_finish _ _ _) later
    rw [e.status_of_find? found, e.status_of_find? still]
  · intro i member has
    obtain ⟨completed, c, fits, info, -⟩ := e.completed_of_some distinct balanced member (.inl has)
    rw [info] at has
    exact ⟨completed, fits.info has⟩
  · intro i member has
    obtain ⟨completed, c, fits, -, updates⟩ := e.completed_of_some distinct balanced member (.inr has)
    rw [updates] at has
    exact ⟨completed, fits.updates has⟩

/-- Whatever happens, in whatever order and for as long as it may, provided that no token is handed out
twice: every job is worked off once and in its turn, its record tells how that went, and the world is
what the runs of the jobs worked off have made of it, with the changes from outside. -/
theorem lifecycle_ledger (distinct : Function.Injective e.tokenOf) (world : σ) (now : Timestamp)
    (events : List (Event σ)) :
    let l := e.ledger world now events
    l.state = e.after events { world, now } ∧ Lifecycle e l ∧
      WorldTrace e world l.changes l.state.world ∧
      l.changes.filterMap (·.outside?) = events.filterMap (·.outside?) := by
  intro l
  have kept : l.Kept e := Ledger.kept_ledger distinct world now events
  have trace : WorldTrace e world l.changes l.state.world := e.worldTrace_foldl_enter events (.nil world)
  exact ⟨e.state_foldl_enter events _, e.lifecycle_of_kept distinct kept, trace,
    e.outside_foldl_enter events _⟩

/-- An engine for the nightly job, whose tokens grow longer and longer. -/
def nightlyEngine : Engine Platform where
  settings := nightlySettings
  tokenOf n := ⟨String.ofList (List.replicate n '|')⟩
  handler := Platform.handler

theorem nightlyEngine_distinct : Function.Injective nightlyEngine.tokenOf := by
  intro n m same
  have lengths := congrArg (fun t : JobToken => t.text.toList.length) same
  simpa [nightlyEngine] using lengths

/-- This is asked for and polled, access is changed before its turn comes, and then it is worked off. -/
def nightlyEvents (r : Request) : List (Event Platform) :=
  [.submit r .provision, .poll (nightlyEngine.tokenOf 0), .updateAccess ⟨[], ""⟩,
    .submitReadBack ⟨"j", "e", "w", "nightly"⟩, .runNext, .pass ⟨60, 0⟩]

theorem nightlyEvents_complete {r : Request} (accepted : r.accept nightlySettings.templates =
    Request.acceptSource nightlySource false nightlySettings.templates) :
    let s := nightlyEngine.after (nightlyEvents r) { world := nightlyPlatform, now := .epoch }
    (nightlyEngine.status (nightlyEngine.tokenOf 0) s).status = .completed ∧
      (s.world.data "w").jobs.keys = ["3"] := by
  have settings : nightlyEngine.settings = nightlySettings := rfl
  simp only [nightlyEvents, after, List.foldl_cons, List.foldl_nil, step, submit, submitReadBack,
    submitWork, register, updateAccess, runNext, complete, List.nil_append, List.cons_append,
    Work.program, Request.execute, settings, accepted]
  decide +kernel

def nightlyLedger : Ledger Platform :=
  nightlyEngine.ledger nightlyPlatform .epoch (nightlyEvents nightlyRequest)

theorem nightlyLedger_lifecycle :
    Function.Injective nightlyEngine.tokenOf ∧ Lifecycle nightlyEngine nightlyLedger ∧
    WorldTrace nightlyEngine nightlyPlatform nightlyLedger.changes nightlyLedger.state.world ∧
    nightlyLedger.executed.map (·.token) = [nightlyEngine.tokenOf 1, nightlyEngine.tokenOf 0] ∧
    nightlyLedger.issued.map (·.token) = (List.range 3).map nightlyEngine.tokenOf ∧
    (nightlyEngine.status (nightlyEngine.tokenOf 0) nightlyLedger.state).status = .completed ∧
    (nightlyLedger.state.world.data "w").jobs.keys = ["3"] := by
  obtain ⟨state, lives, trace, -⟩ :=
    nightlyEngine.lifecycle_ledger nightlyEngine_distinct nightlyPlatform .epoch
      (nightlyEvents nightlyRequest)
  have provisioned := nightlyEvents_complete (Request.accept_ofList nightlySource false _)
  rw [← nightlyRequest, ← state] at provisioned
  rw [nightlyLedger]
  exact ⟨nightlyEngine_distinct, lives, trace, by decide +kernel, by decide +kernel, provisioned⟩

end Engine
end Provisioning
