import Mathlib.Data.Finset.Card
import Provisioning.Proofs.Record.JobStore

/-!
What becomes of the store when any number of writers and readers use it, in any order.  Of the
records that are offered for a token the first that has come to its end decides, and as long as
there is none the last one does; every reader sees what has been decided so far.
-/
namespace Provisioning

inductive JobRecord.Transition where
  | complete (message : String) (info : Option JobInfo) (now : Timestamp)
  | fail (message : String) (now : Timestamp)
  | withUpdates (updates : Json)

def JobRecord.Transition.apply (r : JobRecord) : Transition → JobRecord
  | complete message info now => r.complete message info now
  | fail message now => r.fail message now
  | withUpdates updates => r.withUpdates updates

theorem JobRecord.Transition.token_apply (r : JobRecord) (x : Transition) :
    (x.apply r).token = r.token := by
  cases x <;> rfl

namespace JobStore

/-- What a record to be written is made from: one of the writer's own, the one that is read under a
token at that moment, or the one of a token that nobody was given. -/
inductive Origin where
  | fresh (r : JobRecord)
  | stored (t : JobToken) (now : Timestamp)
  | notFound (t : JobToken) (now : Timestamp)

def Origin.token : Origin → JobToken
  | fresh r => r.token
  | stored t _ | notFound t _ => t

def Origin.record (s : JobStore) : Origin → JobRecord
  | fresh r => r
  | stored t now => s.get t now
  | notFound t now => .notFound t now

structure Draft where
  origin : Origin
  transitions : List JobRecord.Transition

def Draft.record (s : JobStore) (d : Draft) : JobRecord :=
  d.transitions.foldl JobRecord.Transition.apply (d.origin.record s)

inductive Access where
  | put (d : Draft)
  | get (t : JobToken) (now : Timestamp)

def Access.written? : Access → Option JobToken
  | put d => some d.origin.token
  | get _ _ => none

def access (s : JobStore) : Access → JobStore
  | .put d => (s.put (d.record s)).2
  | .get _ _ => s

def after (s : JobStore) (accesses : List Access) : JobStore := accesses.foldl access s

/-- The records that are offered to the store along the way, whether or not it takes them. -/
def offered (s : JobStore) : List Access → List JobRecord
  | [] => []
  | .put d :: rest => d.record s :: (s.access (.put d)).offered rest
  | .get _ _ :: rest => s.offered rest

/-- Of the records offered for one token the first that has come to its end, otherwise the last. -/
def decisive (rs : List JobRecord) : Option JobRecord :=
  (rs.find? (·.status.isTerminal)).or rs.getLast?

/-- How a store answers that `past` has led to. -/
structure Absorbs (past : List Access) (s : JobStore) : Prop where
  holds : ∀ t, s.find? t = decisive (({} : JobStore).offered past |>.filter (·.token = t))
  refused : ∀ r, (s.put r).1 = false ↔
    ∃ old, s.find? r.token = some old ∧ old.status.isTerminal = true
  untouched : ∀ r, (s.put r).1 = false → (s.put r).2 = s
  written : ∀ r, (s.put r).1 = true → ∀ now, (s.put r).2.get r.token now = r
  final : ∀ t old, s.find? t = some old → old.status.isTerminal = true →
    ∀ later now, (s.after later).get t now = old
  apart : ∀ t later, (∀ x ∈ later, x.written? ≠ some t) → ∀ now, (s.after later).get t now = s.get t now
  reads : ∀ t now, s.access (.get t now) = s
  size : s.size = (past.filterMap Access.written?).toFinset.card
  grows : ∀ later, s.size ≤ (s.after later).size

section

variable (s : JobStore)

theorem Draft.token_record (d : Draft) : (d.record s).token = d.origin.token := by
  have kept : ∀ (xs : List JobRecord.Transition) (r : JobRecord),
      (xs.foldl JobRecord.Transition.apply r).token = r.token := by
    intro xs
    induction xs with
    | nil => exact fun _ => rfl
    | cons x xs ih => exact fun r => (ih _).trans (x.token_apply r)
  refine (kept d.transitions _).trans ?_
  cases d.origin with
  | fresh r => rfl
  | stored t now => exact s.token_get t now
  | notFound t now => rfl

theorem isOpen_eq_false_iff (t : JobToken) :
    s.isOpen t = false ↔ ∃ old, s.find? t = some old ∧ old.status.isTerminal = true := by
  unfold isOpen
  cases s.find? t <;> simp

theorem put_fst (r : JobRecord) : (s.put r).1 = s.isOpen r.token := by
  unfold put
  cases s.isOpen r.token <;> rfl

theorem put_of_closed {r : JobRecord} (closed : s.isOpen r.token = false) : (s.put r).2 = s := by
  rw [put, closed]
  rfl

theorem find?_access (x : Access) {t : JobToken} (other : x.written? ≠ some t) :
    (s.access x).find? t = s.find? t := by
  cases x with
  | get => rfl
  | put d =>
    refine find?_put_other fun same => other ?_
    rw [Access.written?, same, d.token_record s]

theorem find?_access_of_terminal {t : JobToken} {old : JobRecord} (found : s.find? t = some old)
    (terminal : old.status.isTerminal = true) (x : Access) : (s.access x).find? t = some old := by
  cases x with
  | get => exact found
  | put d => exact find?_put_of_terminal found terminal _

variable {s}

theorem find?_after_of_terminal {t : JobToken} {old : JobRecord} (found : s.find? t = some old)
    (terminal : old.status.isTerminal = true) (later : List Access) :
    (s.after later).find? t = some old := by
  induction later generalizing s with
  | nil => exact found
  | cons x rest ih => exact ih (s.find?_access_of_terminal found terminal x)

theorem find?_after_of_apart {t : JobToken} {later : List Access}
    (apart : ∀ x ∈ later, x.written? ≠ some t) : (s.after later).find? t = s.find? t := by
  induction later generalizing s with
  | nil => rfl
  | cons x rest ih =>
    exact (ih fun y member => apart y (.tail x member)).trans (s.find?_access x (apart x (.head rest)))

end

section Decisive

variable {rs : List JobRecord}

theorem decisive_of_find? {r : JobRecord} (found : rs.find? (·.status.isTerminal) = some r) :
    decisive rs = some r := by
  rw [decisive, found, Option.some_or]

theorem decisive_of_none (none : rs.find? (·.status.isTerminal) = none) :
    decisive rs = rs.getLast? := by
  rw [decisive, none, Option.none_or]

theorem decisive_append_of_closed {old : JobRecord} (decided : decisive rs = some old)
    (terminal : old.status.isTerminal = true) (r : JobRecord) : decisive (rs ++ [r]) = some old := by
  cases first : rs.find? (·.status.isTerminal) with
  | some x =>
    have still : (rs ++ [r]).find? (·.status.isTerminal) = some x := by
      rw [List.find?_append, first, Option.some_or]
    rw [decisive_of_find? still, ← decided, decisive_of_find? first]
  | none =>
    rw [decisive_of_none first] at decided
    exact absurd terminal (List.find?_eq_none.mp first old (List.mem_of_getLast? decided))

theorem decisive_append_of_open
    (undecided : ∀ old, decisive rs = some old → old.status.isTerminal = false) (r : JobRecord) :
    decisive (rs ++ [r]) = some r := by
  cases first : rs.find? (·.status.isTerminal) with
  | some x =>
    have terminal : x.status.isTerminal = true := by simpa using List.find?_some first
    exact absurd terminal (by simp [undecided x (decisive_of_find? first)])
  | none =>
    rw [decisive, List.find?_append, first, Option.none_or, List.getLast?_concat]
    cases terminal : r.status.isTerminal <;> simp [terminal]

end Decisive

section Replay

variable {s : JobStore} {past : List JobRecord}

/-- The store holds under each token what decides among the records offered so far. -/
def Replays (s : JobStore) (past : List JobRecord) : Prop :=
  ∀ t, s.find? t = decisive (past.filter (·.token = t))

theorem replays_put (replays : s.Replays past) (r : JobRecord) :
    (s.put r).2.Replays (past ++ [r]) := by
  intro t
  rw [List.filter_append]
  by_cases same : t = r.token
  · subst same
    have one : [r].filter (·.token = r.token) = [r] := by simp
    rw [one, find?_put]
    -- an open token takes the record that is offered, a closed one keeps what has decided
    cases writable : s.isOpen r.token with
    | true =>
      have undecided : ∀ old, decisive (past.filter (·.token = r.token)) = some old →
          old.status.isTerminal = false := by
        intro old decided
        simpa [isOpen, replays r.token, decided] using writable
      rw [decisive_append_of_open undecided, if_pos ⟨rfl, rfl⟩]
    | false =>
      obtain ⟨old, found, terminal⟩ := (s.isOpen_eq_false_iff r.token).mp writable
      rw [decisive_append_of_closed (replays r.token ▸ found) terminal, found]
      simp
  · have none : [r].filter (·.token = t) = [] := by simp [Ne.symm same]
    rw [none, List.append_nil, find?_put_other same]
    exact replays t

theorem replays_after (replays : s.Replays past) (accesses : List Access) :
    (s.after accesses).Replays (past ++ s.offered accesses) := by
  induction accesses generalizing s past with
  | nil => simpa [after, offered] using replays
  | cons x rest ih =>
    cases x with
    | get t now => exact ih replays
    | put d =>
      have next := ih (replays_put replays (d.record s))
      rwa [List.append_assoc] at next

end Replay

section Size

def tokens (s : JobStore) : List JobToken := s.records.map (·.token)

variable {s : JobStore}

theorem mem_tokens_of_closed {t : JobToken} (closed : s.isOpen t = false) : t ∈ s.tokens := by
  obtain ⟨old, found, -⟩ := (s.isOpen_eq_false_iff t).mp closed
  exact List.mem_map.mpr ⟨old, List.mem_of_find?_eq_some found, s.token_of_find? found⟩

theorem tokens_put_of_open {r : JobRecord} (writable : s.isOpen r.token = true) :
    (s.put r).2.tokens = r.token :: s.tokens.filter (· ≠ r.token) := by
  rw [put, if_pos writable, tokens, List.map_cons, tokens, List.filter_map]
  rfl

theorem nodup_tokens_put (nodup : s.tokens.Nodup) (r : JobRecord) : (s.put r).2.tokens.Nodup := by
  cases writable : s.isOpen r.token with
  | false => rwa [s.put_of_closed writable]
  | true =>
    rw [tokens_put_of_open writable]
    exact List.nodup_cons.mpr ⟨by simp, nodup.filter _⟩

theorem toFinset_tokens_put (r : JobRecord) :
    (s.put r).2.tokens.toFinset = insert r.token s.tokens.toFinset := by
  cases writable : s.isOpen r.token with
  | false =>
    have member := List.mem_toFinset.mpr (mem_tokens_of_closed writable)
    rw [s.put_of_closed writable, Finset.insert_eq_of_mem member]
  | true =>
    rw [tokens_put_of_open writable]
    ext t
    by_cases same : t = r.token <;> simp [same]

theorem nodup_tokens_after (nodup : s.tokens.Nodup) (accesses : List Access) :
    (s.after accesses).tokens.Nodup := by
  induction accesses generalizing s with
  | nil => exact nodup
  | cons x rest ih =>
    cases x with
    | get => exact ih nodup
    | put d => exact ih (nodup_tokens_put nodup _)

theorem toFinset_tokens_after (accesses : List Access) : (s.after accesses).tokens.toFinset =
    s.tokens.toFinset ∪ (accesses.filterMap Access.written?).toFinset := by
  induction accesses generalizing s with
  | nil => simp [after]
  | cons x rest ih =>
    refine ih.trans ?_
    cases x with
    | get => rfl
    | put d => simp [access, toFinset_tokens_put, Draft.token_record, Access.written?]

theorem nodup_tokens (past : List Access) : (({} : JobStore).after past).tokens.Nodup := by
  have empty : ({} : JobStore).tokens.Nodup := List.nodup_nil
  exact nodup_tokens_after empty past

theorem size_eq_card (nodup : s.tokens.Nodup) : s.size = s.tokens.toFinset.card := by
  rw [List.toFinset_card_of_nodup nodup, tokens, List.length_map, size]

theorem size_le_after (nodup : s.tokens.Nodup) (later : List Access) :
    s.size ≤ (s.after later).size := by
  rw [size_eq_card nodup, size_eq_card (nodup_tokens_after nodup later), toFinset_tokens_after]
  exact Finset.card_le_card Finset.subset_union_left

end Size

/-- In whatever order any writers and readers come, whatever they write and whatever they make it
from: a record that has come to its end is all that is ever read under its token again. -/
theorem absorbs_after (past : List Access) : Absorbs past (({} : JobStore).after past) where
  holds := by
    have empty : ({} : JobStore).Replays [] := fun _ => rfl
    exact replays_after empty past
  refused r := by rw [put_fst, isOpen_eq_false_iff]
  untouched r closed := put_of_closed _ (put_fst _ r ▸ closed)
  written r done now := by
    refine get_of_find? ?_ now
    rw [find?_put, if_pos ⟨rfl, put_fst _ r ▸ done⟩]
  final _ _ found terminal later now := get_of_find? (find?_after_of_terminal found terminal later) now
  apart _ _ apart now := by rw [get, get, find?_after_of_apart apart]
  reads _ _ := rfl
  size := by
    rw [size_eq_card (nodup_tokens past), toFinset_tokens_after]
    simp [tokens]
  grows := size_le_after (nodup_tokens past)

/-- A job that has failed stays failed, though its own record is brought to a good end and written. -/
example (now : Timestamp) : (({} : JobStore).after [.put ⟨.fresh (.running ⟨"t"⟩ now), []⟩,
    .put ⟨.stored ⟨"t"⟩ now, [.fail "boom" now]⟩,
    .put ⟨.stored ⟨"t"⟩ now, [.complete "late" none now]⟩]).records =
      [(JobRecord.running ⟨"t"⟩ now).fail "boom" now] := rfl

end JobStore
end Provisioning
