import Provisioning.Proofs.Failure
import Provisioning.Proofs.Platform.Series
import Provisioning.Proofs.Platform.Shelf

/-!
Removal of all objects of a name.  Every one of them is tried in order; those whose deletion is not
rejected are gone afterwards, each of the others is a problem, and nothing else has changed.
-/
namespace Provisioning

open Program Platform

variable {I : Interface} {δ α β : Type}

theorem Keyed.contains_of_mem {m : Keyed α} {e : String × α} (member : e ∈ m) :
    m.contains e.1 = true := by
  unfold contains find?
  induction m with
  | nil => cases member
  | cons first rest ih =>
    obtain ⟨k, a⟩ := first
    rw [List.lookup_cons]
    cases same : e.1 == k with
    | true => rfl
    | false =>
      rcases List.mem_cons.mp member with rfl | later
      · simp at same
      · exact ih later

theorem Keyed.contains_filter {m : Keyed α} {key : String} (keep : String → Bool)
    (kept : keep key = true) : contains key (m.filter fun e => keep e.1) = m.contains key := by
  unfold contains
  rw [find?_filter_of_kept keep kept]

/-- Taking away by id what satisfies `P` and is not stuck takes away nothing else. -/
theorem Keyed.filter_gone {m : Keyed α} (ascending : m.Ascending) {P stuck : String × α → Bool}
    {ident : String × α → String} (own : ∀ e ∈ m.filter P, ident e = e.1) :
    (m.filter fun e => !(m.filter P).any fun x => ident x == e.1 && !stuck x) =
      m.filter fun e => !P e || stuck e := by
  refine List.filter_congr fun e member => ?_
  have gone : ((m.filter P).any fun x => ident x == e.1 && !stuck x) = (P e && !stuck e) := by
    rw [Bool.eq_iff_iff, List.any_eq_true]
    constructor
    · rintro ⟨x, found, goes⟩
      obtain ⟨there, satisfies⟩ := List.mem_filter.mp found
      obtain ⟨named, free⟩ := Bool.and_eq_true_iff.mp goes
      have sameKey : x.1 = e.1 := (own x found).symm.trans (eq_of_beq named)
      have first := find?_of_mem ascending there
      rw [sameKey, find?_of_mem ascending member] at first
      have same : x = e := Prod.ext sameKey (Option.some.inj first).symm
      rw [← same]
      exact Bool.and_eq_true_iff.mpr ⟨satisfies, free⟩
    · intro goes
      obtain ⟨satisfies, free⟩ := Bool.and_eq_true_iff.mp goes
      have found := List.mem_filter.mpr ⟨member, satisfies⟩
      exact ⟨e, found, by simp [own e found, free]⟩
  rw [gone, Bool.not_and, Bool.not_not]

namespace WorkspaceData

/-- `clear gone` takes away what is there under the ids that are gone and leaves what is there under
others. -/
structure Clears (there : WorkspaceData → String → Bool)
    (clear : (String → Bool) → WorkspaceData → WorkspaceData) : Prop where
  nothing : ∀ d, clear (fun _ => false) d = d
  again : ∀ first second d, clear second (clear first d) = clear (fun id => first id || second id) d
  stays : ∀ gone d id, gone id = false → there d id = true → there (clear gone d) id = true

def clearJobs (gone : String → Bool) (d : WorkspaceData) : WorkspaceData :=
  { d with jobs := d.jobs.filter fun e => !gone e.1 }

def clearPipelines (gone : String → Bool) (d : WorkspaceData) : WorkspaceData :=
  { d with pipelines := d.pipelines.filter fun e => !gone e.1 }

def clearViews (gone : String → Bool) (d : WorkspaceData) : WorkspaceData :=
  { d with
    views := d.views.filter fun e => !gone e.1
    grants := fun view => if gone view then [] else d.grants view }

def clearRepositories (gone : String → Bool) (d : WorkspaceData) : WorkspaceData :=
  { d with repositories := d.repositories.filter fun e => !gone e.1 }

theorem clears_repositories : Clears (fun d id => d.repositories.contains id) clearRepositories where
  nothing d := by simp [clearRepositories]
  again first second d := by simp [clearRepositories, List.filter_filter, Bool.and_comm]
  stays gone d id kept there := by
    have still : d.repositories.contains id = true := there
    rw [← still]
    exact Keyed.contains_filter (fun key => !gone key) (by simp [kept])

end WorkspaceData

open WorkspaceData

theorem Platform.foldl_clear {there : WorkspaceData → String → Bool}
    {clear : (String → Bool) → WorkspaceData → WorkspaceData} (clears : Clears there clear)
    (ident : β → String) (stuck : β → Bool) (bs : List β) (d : WorkspaceData) :
    bs.foldl (fun d b => if stuck b then d else clear (· == ident b) d) d =
      clear (fun id => bs.any fun b => ident b == id && !stuck b) d := by
  induction bs generalizing d with
  | nil => exact (clears.nothing d).symm
  | cons b rest ih =>
    rw [List.foldl_cons, ih]
    cases decision : stuck b with
    | true => simp [decision]
    | false =>
      have flipped : ∀ id, (ident b == id) = (id == ident b) := fun id => Bool.beq_comm
      simp [decision, clears.again, flipped]

/-- Deletions that are tried one after another, of things that are there, each under an id of its
own. -/
theorem Platform.run_clearing {h : Handler I Platform} {part : β → Program I (Except Failure Deletion)}
    {w : String} {there : WorkspaceData → String → Bool}
    {clear : (String → Bool) → WorkspaceData → WorkspaceData} (clears : Clears there clear)
    {ident key : β → String} {problem : β → Problem}
    (single : ∀ b q, (part b).run h q = if q.rejects (key b) then
        (.answered (.error (.ofProblem (problem b))), q.logged [key b])
      else (.answered (.ok (deletionOf (there (q.data w) (ident b)))),
        (q.logged [key b]).modifyData w (clear (· == ident b))))
    {p : Platform} (bs : List β) (distinct : (bs.map ident).Nodup)
    (present : ∀ b ∈ bs, there (p.data w) (ident b) = true) :
    (each part bs).run h p =
      (.answered (bs.map (tried (fun b => p.rejects (key b)) problem fun _ => .deleted)),
        (p.logged (bs.map key)).modifyData w
          (clear fun id => bs.any fun b => ident b == id && !p.rejects (key b))) := by
  let change : β → WorkspaceData → WorkspaceData := fun b d =>
    if p.rejects (key b) then d else clear (· == ident b) d
  let standing : List β → Platform → Prop := fun rest q => q.failures = p.failures ∧
    (rest.map ident).Nodup ∧ ∀ b ∈ rest, there (q.data w) (ident b) = true
  have part : ∀ b rest q, standing (b :: rest) q →
      (part b).run h q = (.answered (tried (fun b => p.rejects (key b)) problem (fun _ => .deleted) b),
        (q.logged [key b]).modifyData w (change b)) ∧
      standing rest ((q.logged [key b]).modifyData w (change b)) := by
    intro b rest q ⟨sameFailures, distinct, present⟩
    have sameRejects : q.rejects (key b) = p.rejects (key b) := by simp [rejects, sameFailures]
    obtain ⟨apart, distinct⟩ := List.nodup_cons.mp distinct
    constructor
    · rw [single, sameRejects]
      cases decision : p.rejects (key b) with
      | true =>
        have unchanged : change b = fun d => d := by
          funext d
          exact if_pos decision
        rw [unchanged, modifyData_id, tried_of_wrong problem _ decision, if_pos rfl]
      | false =>
        have cleared : change b = clear (· == ident b) := by
          funext d
          exact if_neg (ne_true_of_eq_false decision)
        rw [cleared, present b List.mem_cons_self, tried_of_right problem _ decision,
          if_neg Bool.false_ne_true]
        rfl
    · refine ⟨sameFailures, distinct, fun x member => ?_⟩
      have before := present x (List.mem_cons_of_mem _ member)
      have other : (ident x == ident b) = false := by
        rw [beq_eq_false_iff_ne]
        intro same
        exact apart (same ▸ List.mem_map_of_mem member)
      rw [data_modifyData_same]
      simp only [change, data_logged]
      split
      · exact before
      · exact clears.stays _ _ _ other before
  have whole := run_series part bs ⟨rfl, distinct, present⟩
  have keys : bs.flatMap (fun b => [key b]) = bs.map key := List.flatMap_pure_eq_map key bs
  rw [whole, keys]
  exact congrArg (fun f => (_, (p.logged (bs.map key)).modifyData w f))
    (funext (foldl_clear clears ident (fun b => p.rejects (key b)) bs))

/-! Objects on a shelf -/

structure Shelf.Clears (shelf : Shelf δ α) (clear : (String → Bool) → WorkspaceData → WorkspaceData) :
    Prop where
  deletes : ∀ w id p, shelf.answer w (.delete id) p =
    (.ok (deletionOf ((shelf.entries (p.data w)).contains id)), p.modifyData w (clear (· == id)))
  entries : ∀ gone d, shelf.entries (clear gone d) = (shelf.entries d).filter fun e => !gone e.1
  nothing : ∀ d, clear (fun _ => false) d = d
  again : ∀ first second d, clear second (clear first d) = clear (fun id => first id || second id) d

namespace Shelf

theorem clears_jobs : Shelf.jobs.Clears clearJobs where
  deletes _ _ _ := rfl
  entries _ _ := rfl
  nothing d := by simp [clearJobs]
  again first second d := by simp [clearJobs, List.filter_filter, Bool.and_comm]

theorem clears_pipelines : Shelf.pipelines.Clears clearPipelines where
  deletes _ _ _ := rfl
  entries _ _ := rfl
  nothing d := by simp [clearPipelines]
  again first second d := by simp [clearPipelines, List.filter_filter, Bool.and_comm]

theorem clears_views : Shelf.views.Clears clearViews where
  deletes w id p := by
    have same : clearViews (· == id) = fun d =>
        { d with views := Keyed.erase id d.views, grants := updated d.grants id [] } := by
      funext d
      simp only [clearViews, beq_iff_eq]
      rfl
    rw [same]
    rfl
  entries _ _ := rfl
  nothing d := by simp [clearViews]
  again first second d := by
    have grants : (fun view => if second view then [] else if first view then [] else d.grants view) =
        fun view => if first view || second view then [] else d.grants view := by
      funext view
      cases first view <;> cases second view <;> rfl
    simp only [clearViews, List.filter_filter, Bool.not_or]
    rw [grants]
    simp only [Bool.and_comm]

variable (shelf : Shelf δ α) {clear : (String → Bool) → WorkspaceData → WorkspaceData}

theorem clears_of_clears (clears : shelf.Clears clear) :
    WorkspaceData.Clears (fun d id => (shelf.entries d).contains id) clear where
  nothing := clears.nothing
  again := clears.again
  stays gone d id kept there := by
    have still : (shelf.entries d).contains id = true := there
    rw [← still, clears.entries]
    exact Keyed.contains_filter (fun key => !gone key) (by simp [kept])

def deletion (e : String × α) : String := shelf.key (.delete e.1)

def stuck (s : Scope) (e : String × α) : Problem :=
  (rejection (shelf.deletion e)).first.inContext (s.deletionContext (shelf.reference e))

theorem run_removeOne (clears : shelf.Clears clear) (w : String) (s : Scope) (e : String × α)
    (p : Platform) : (s.removeOne (shelf.reference e) : Program (objects δ) _).run (shelf.handler w) p =
      if p.rejects (shelf.deletion e) then
        (.answered (.error (.ofProblem (shelf.stuck s e))), p.logged [shelf.deletion e])
      else (.answered (.ok (deletionOf ((shelf.entries (p.data w)).contains e.1))),
        (p.logged [shelf.deletion e]).modifyData w (clear (· == e.1))) := by
  unfold Scope.removeOne Objects.delete
  rw [run_bind_pure, run_attempt, run_request, shelf.reference_id]
  cases decision : p.rejects (shelf.deletion e) with
  | true =>
    rw [shelf.handler_rejected w decision]
    rfl
  | false =>
    rw [shelf.handler_accepted w decision, clears.deletes]
    rfl

def named (name : String) (d : WorkspaceData) : Keyed α := (shelf.entries d).filter (shelf.called name)

theorem run_removeAll (clears : shelf.Clears clear) (w : String) (s : Scope) (name : String)
    {p : Platform} (ordered : p.Ordered) :
    let found := shelf.named name (p.data w)
    (s.removeAll name : Program (objects δ) Nat).run (shelf.handler w) p =
      if p.rejects (shelf.key (.listByName name)) then
        (.refused (rejection (shelf.key (.listByName name))), p.logged [shelf.key (.listByName name)])
      else
        (match Failure.ofProblems?
            ((found.filter fun e => p.rejects (shelf.deletion e)).map (shelf.stuck s)) with
          | some f => .refused f
          | none => .answered found.length,
        (p.logged (shelf.key (.listByName name) :: found.map shelf.deletion)).modifyData w
          (clear fun id => found.any fun e => e.1 == id && !p.rejects (shelf.deletion e))) := by
  intro found
  unfold Scope.removeAll Objects.listByName
  rw [run_bind, run_request]
  cases decision : p.rejects (shelf.key (.listByName name)) with
  | true =>
    rw [shelf.handler_rejected w decision]
    rfl
  | false =>
    rw [shelf.handler_accepted w decision, shelf.lists]
    have distinct : (found.map Prod.fst).Nodup := by
      have ascending : found.Pairwise (·.1 < ·.1) :=
        List.Pairwise.filter _ (shelf.ascending _ (ordered w))
      exact List.pairwise_map.mpr (ascending.imp fun before => ne_of_lt before)
    have present : ∀ e ∈ found,
        (shelf.entries ((p.record (shelf.key (.listByName name))).data w)).contains e.1 = true :=
      fun e member => Keyed.contains_of_mem (List.mem_filter.mp member).1
    have attempts := run_clearing (shelf.clears_of_clears clears)
      (fun e q => shelf.run_removeOne clears w s e q) found distinct present
    simp only [Reply.ofExcept, resume]
    change ((each s.removeOne (found.map shelf.reference) >>= _).run _ _) = _
    rw [each_map, run_bind_of_answered attempts, accumulate_tried]
    simp only [record_eq_logged, rejects_logged, logged_logged, Bool.false_eq_true, if_false]
    cases Failure.ofProblems? ((found.filter fun e => p.rejects (shelf.deletion e)).map (shelf.stuck s)) with
    | some f => rfl
    | none =>
      have count : (found.map fun _ => Deletion.deleted).count .deleted = found.length := by
        simp [List.map_const']
      simp only [ofExcept_ok_bind, run_pure, count]
      rfl

/-! Shelves from which an object goes alone -/

def lose (name : String) (stuck : String × α → Bool) (d : WorkspaceData) : WorkspaceData :=
  shelf.place ((shelf.entries d).filter fun e => !shelf.called name e || stuck e) d

/-- The platform after every object of a name has been tried: those that could be deleted are gone. -/
def afterRemoval (name w : String) (p : Platform) : Platform :=
  (p.logged (shelf.key (.listByName name) :: (shelf.named name (p.data w)).map shelf.deletion)).modifyData
    w (shelf.lose name fun e => p.rejects (shelf.deletion e))

structure ClearsAlone (clear : (String → Bool) → WorkspaceData → WorkspaceData) : Prop
    extends shelf.Clears clear where
  alone : ∀ gone d, clear gone d = shelf.place ((shelf.entries d).filter fun e => !gone e.1) d

theorem jobs_clear_alone : Shelf.jobs.ClearsAlone clearJobs := { clears_jobs with alone := fun _ _ => rfl }

theorem pipelines_clear_alone : Shelf.pipelines.ClearsAlone clearPipelines :=
  { clears_pipelines with alone := fun _ _ => rfl }

theorem run_removeAll_alone (clears : shelf.ClearsAlone clear) (w : String) (s : Scope) (name : String)
    {p : Platform} (ordered : p.Ordered) :
    (s.removeAll name : Program (objects δ) Nat).run (shelf.handler w) p =
      if p.rejects (shelf.key (.listByName name)) then
        (.refused (rejection (shelf.key (.listByName name))), p.logged [shelf.key (.listByName name)])
      else
        (match Failure.ofProblems? (((shelf.named name (p.data w)).filter
            fun e => p.rejects (shelf.deletion e)).map (shelf.stuck s)) with
          | some f => .refused f
          | none => .answered (shelf.named name (p.data w)).length,
        shelf.afterRemoval name w p) := by
  have lost : clear (fun id => (shelf.named name (p.data w)).any fun e =>
      e.1 == id && !p.rejects (shelf.deletion e)) (p.data w) =
      shelf.lose name (fun e => p.rejects (shelf.deletion e)) (p.data w) := by
    rw [clears.alone]
    exact congrArg (shelf.place · (p.data w))
      (Keyed.filter_gone (shelf.ascending _ (ordered w)) fun _ _ => rfl)
  rw [shelf.run_removeAll clears.toClears w s name ordered, modifyData_congr (p.logged _) w lost]
  rfl

end Shelf
end Provisioning
