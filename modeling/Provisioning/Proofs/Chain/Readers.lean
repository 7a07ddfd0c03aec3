import Provisioning.Proofs.Chain.Readiness
import Provisioning.Proofs.Chain.Replacement
import Provisioning.Proofs.Failure

/-!
What setting the readers of a view comes to, whatever is rejected on the way.  The grants are read
before anything is changed; then every reader is tried in the order of the request, and after that
every grant of the privilege to someone who is not to keep it.  Each of them that goes wrong is one
problem and changes nothing.
-/
namespace Provisioning

open Program Platform

/-! Grants on one view -/

theorem mem_foldl_addOnce {α β : Type} [DecidableEq α] {f : β → α} {bs : List β} {as : List α} {a : α} :
    a ∈ bs.foldl (fun as b => addOnce (f b) as) as ↔ a ∈ as ∨ ∃ b ∈ bs, f b = a := by
  induction bs generalizing as with
  | nil => simp
  | cons b rest ih =>
    rw [List.foldl_cons, ih, mem_addOnce]
    constructor
    · rintro ((old | rfl) | ⟨c, member, same⟩)
      · exact .inl old
      · exact .inr ⟨b, List.mem_cons_self, rfl⟩
      · exact .inr ⟨c, List.mem_cons_of_mem _ member, same⟩
    · rintro (old | ⟨c, member, same⟩)
      · exact .inl (.inl old)
      · rcases List.mem_cons.mp member with rfl | later
        · exact .inl (.inr same.symm)
        · exact .inr ⟨c, later, same⟩

theorem filter_foldl_addOnce {α β : Type} [DecidableEq α] {f : β → α} {P : α → Bool} {bs : List β}
    (none : ∀ b ∈ bs, P (f b) = false) (as : List α) :
    (bs.foldl (fun as b => addOnce (f b) as) as).filter P = as.filter P := by
  induction bs generalizing as with
  | nil => rfl
  | cons b rest ih =>
    have dropped := none b List.mem_cons_self
    rw [List.foldl_cons, ih fun c member => none c (List.mem_cons_of_mem _ member)]
    unfold addOnce
    split
    · rfl
    · simp [dropped]

namespace WorkspaceData

def regrant (view : String) (f : List Grant → List Grant) (d : WorkspaceData) : WorkspaceData :=
  { d with grants := updated d.grants view (f (d.grants view)) }

theorem regrant_regrant (view : String) (f g : List Grant → List Grant) (d : WorkspaceData) :
    (d.regrant view f).regrant view g = d.regrant view fun gs => g (f gs) := by
  unfold regrant
  simp only [updated_same, updated_updated]

theorem foldl_regrant {β : Type} (view : String) (f : β → List Grant → List Grant) (bs : List β)
    (d : WorkspaceData) : bs.foldl (fun d b => d.regrant view (f b)) d =
      d.regrant view fun gs => bs.foldl (fun gs b => f b gs) gs := by
  induction bs generalizing d with
  | nil =>
    unfold regrant
    simp only [List.foldl_nil, updated_self]
  | cons b rest ih =>
    rw [List.foldl_cons, ih, regrant_regrant]
    rfl

end WorkspaceData

open WorkspaceData

/-! One reader -/

namespace PrincipalRef

def resolution (r : PrincipalRef) : String := IdentityCall.key (.resolve r)

def granting (r : PrincipalRef) : String := "catalog.grant:" ++ r.externalId

end PrincipalRef

def Session.obstacle (s : Session) (p : Platform) (r : PrincipalRef) : Option Problem :=
  if p.rejects r.resolution then some (rejection r.resolution).first
  else if !p.knows r then some (s.unknownPrincipal r).first
  else if p.rejects r.granting then some (rejection r.granting).first
  else none

def Platform.servingCalls (p : Platform) (r : PrincipalRef) : List String :=
  if p.rejects r.resolution || !p.knows r then [r.resolution] else [r.resolution, r.granting]

structure Platform.Serves (p : Platform) (r : PrincipalRef) : Prop where
  known : p.knows r = true
  resolved : p.rejects r.resolution = false
  granted : p.rejects r.granting = false

theorem Platform.serves_logged {p : Platform} {keys : List String} {r : PrincipalRef} :
    (p.logged keys).Serves r ↔ p.Serves r := by
  constructor
  · intro serves
    exact ⟨serves.known, serves.resolved, serves.granted⟩
  · intro serves
    exact ⟨serves.known, serves.resolved, serves.granted⟩

theorem Session.obstacle_eq_none_iff (s : Session) (p : Platform) (r : PrincipalRef) :
    s.obstacle p r = none ↔ p.Serves r := by
  unfold obstacle
  constructor
  · intro free
    split at free
    · cases free
    · rename_i resolved
      split at free
      · cases free
      · rename_i known
        split at free
        · cases free
        · rename_i granted
          exact ⟨by simpa using known, eq_false_of_ne_true resolved, eq_false_of_ne_true granted⟩
  · rintro ⟨known, resolved, granted⟩
    simp [known, resolved, granted]

theorem Session.run_resolve (s : Session) (r : PrincipalRef) (p : Platform) :
    (s.resolve r).run handler p =
      (if p.rejects r.resolution then .refused (rejection r.resolution)
      else if p.knows r then .answered (directoryEntry r)
      else .refused (s.unknownPrincipal r), p.logged [r.resolution]) := by
  have asking : handler (.inside s.workspace.name (.identity (.resolve r))) p =
      (if p.rejects r.resolution then .refused (rejection r.resolution)
      else .answered (if p.knows r then some (directoryEntry r) else none), p.logged [r.resolution]) :=
    handler_of_reading rfl
  unfold resolve identity ask
  rw [run_bind, run_request, asking]
  by_cases resolved : p.rejects r.resolution = true
  · rw [if_pos resolved, if_pos resolved]
    rfl
  · rw [if_neg resolved, if_neg resolved]
    cases p.knows r <;> rfl

section Granting

variable (s : Session) (view : String) {r : PrincipalRef} (privilege : CatalogPrivilege) {p : Platform}

theorem Session.refused_grant (rejected : p.rejects r.granting = true) :
    (s.catalog (.grant view (directoryEntry r) privilege)).run handler p =
      (.refused (rejection r.granting), p.logged [r.granting]) := by
  unfold Session.catalog ask
  rw [run_request, handler_eq]
  exact if_pos rejected

theorem Session.answered_grant_of_accepted (accepted : ¬p.rejects r.granting = true) :
    (s.catalog (.grant view (directoryEntry r) privilege)).run handler p =
      (.answered (), (p.logged [r.granting]).modifyData s.workspace.name
        (regrant view (addOnce ⟨r.externalId, privilege⟩))) := by
  unfold Session.catalog ask
  rw [run_request, handler_eq]
  exact if_neg accepted

end Granting

namespace OutputPortSpec

def servedGrants (privilege : CatalogPrivilege) (free : Bool) (r : PrincipalRef) (gs : List Grant) :
    List Grant :=
  if free then addOnce ⟨r.externalId, privilege⟩ gs else gs

theorem run_serve (spec : OutputPortSpec) (s : Session) (privilege : CatalogPrivilege)
    (r : PrincipalRef) (p : Platform) :
    (spec.serve s privilege r).run handler p =
      (match s.obstacle p r with
        | some problem => .refused (.ofProblem problem)
        | none => .answered r.externalId,
      (p.logged (p.servingCalls r)).modifyData s.workspace.name
        (regrant spec.viewName (servedGrants privilege (s.obstacle p r).isNone r))) := by
  have untouched : ∀ keys, (p.logged keys).modifyData s.workspace.name
      (regrant spec.viewName (servedGrants privilege false r)) = p.logged keys := by
    intro keys
    have same : regrant spec.viewName (servedGrants privilege false r) = fun d => d := by
      funext d
      exact (congrArg (fun grants => { d with grants }) (updated_self _ _))
    rw [same, modifyData_id]
  unfold serve Session.obstacle servingCalls
  rw [run_bind, s.run_resolve]
  by_cases resolved : p.rejects r.resolution = true
  · simp only [resolved, if_true, resume, Bool.true_or, Option.isNone_some, untouched]
    rfl
  · by_cases known : p.knows r = true
    · by_cases granted : p.rejects r.granting = true
      · have refused := s.refused_grant spec.viewName privilege (p := p.logged [r.resolution]) granted
        simp only [resolved, known, granted, if_true, if_false, Bool.not_true, Bool.false_eq_true, resume,
          Bool.or_self, Option.isNone_some, untouched]
        rw [run_bind, refused, logged_logged]
        rfl
      · have answered := s.answered_grant_of_accepted spec.viewName privilege
          (p := p.logged [r.resolution]) granted
        simp only [resolved, known, granted, if_true, if_false, Bool.not_true, Bool.false_eq_true, resume,
          Bool.or_self, Option.isNone_none]
        rw [run_bind_of_answered answered, logged_logged]
        rfl
    · simp [resolved, known, resume, untouched, Session.unknownPrincipal, Failure.single, Failure.ofProblem]

theorem run_tryServe (spec : OutputPortSpec) (s : Session) (privilege : CatalogPrivilege)
    (r : PrincipalRef) (p : Platform) :
    (spec.tryServe s privilege r).run handler p =
      (.answered (r.externalId, match s.obstacle p r with
        | some problem => .error (.ofProblem problem)
        | none => .ok ()),
      (p.logged (p.servingCalls r)).modifyData s.workspace.name
        (regrant spec.viewName (servedGrants privilege (s.obstacle p r).isNone r))) := by
  unfold tryServe
  rw [run_bind, run_attempt, run_serve]
  cases s.obstacle p r <;> rfl

/-! All readers, and everyone else -/

def service (s : Session) (p : Platform) (r : PrincipalRef) : Except Failure Unit :=
  match s.obstacle p r with
  | some problem => .error (.ofProblem problem)
  | none => .ok ()

theorem told_services (s : Session) (p : Platform) (rs : List PrincipalRef) :
    (rs.map (service s p)).flatMap Failure.told = rs.filterMap (s.obstacle p) := by
  induction rs with
  | nil => rfl
  | cons r rest ih =>
    rw [List.map_cons, List.flatMap_cons, ih, List.filterMap_cons]
    unfold service
    cases s.obstacle p r <;> rfl

def granted (s : Session) (p : Platform) (privilege : CatalogPrivilege) (rs : List PrincipalRef)
    (gs : List Grant) : List Grant :=
  (rs.filter fun r => (s.obstacle p r).isNone).foldl
    (fun gs r => addOnce ⟨r.externalId, privilege⟩ gs) gs

theorem run_services (spec : OutputPortSpec) (s : Session) (privilege : CatalogPrivilege)
    (rs : List PrincipalRef) (p : Platform) :
    (each (spec.tryServe s privilege) rs).run handler p =
      (.answered (rs.map fun r => (r.externalId, service s p r)),
        (p.logged (rs.flatMap p.servingCalls)).modifyData s.workspace.name
          (regrant spec.viewName (granted s p privilege rs))) := by
  let standing : List PrincipalRef → Platform → Prop := fun _ q =>
    q.failures = p.failures ∧ q.users = p.users ∧ q.groups = p.groups
  have part : ∀ r rest q, standing (r :: rest) q →
      (spec.tryServe s privilege r).run handler q = (.answered (r.externalId, service s p r),
        (q.logged (p.servingCalls r)).modifyData s.workspace.name
          (regrant spec.viewName (servedGrants privilege (s.obstacle p r).isNone r))) ∧
      standing rest ((q.logged (p.servingCalls r)).modifyData s.workspace.name
        (regrant spec.viewName (servedGrants privilege (s.obstacle p r).isNone r))) := by
    intro r rest q still
    -- serving changes neither what is rejected nor who is known, so `p` decides for every reader
    obtain ⟨sameFailures, sameUsers, sameGroups⟩ := still
    have sameRejects : ∀ key, q.rejects key = p.rejects key := fun key => by
      simp [rejects, sameFailures]
    have sameKnows : q.knows r = p.knows r := by rw [knows_congr sameUsers sameGroups]
    have sameObstacle : s.obstacle q r = s.obstacle p r := by
      unfold Session.obstacle
      simp only [sameRejects, sameKnows]
    have sameCalls : q.servingCalls r = p.servingCalls r := by
      unfold servingCalls
      simp only [sameRejects, sameKnows]
    refine ⟨?_, sameFailures, sameUsers, sameGroups⟩
    rw [run_tryServe, sameObstacle, sameCalls]
    rfl
  have folded : ∀ gs, rs.foldl (fun gs r => servedGrants privilege (s.obstacle p r).isNone r gs) gs =
      granted s p privilege rs gs := fun gs => (List.foldl_filter).symm
  rw [run_series part rs ⟨rfl, rfl, rfl⟩]
  simp only [foldl_regrant, folded]

end OutputPortSpec

def Grant.revocation (g : Grant) : String := "catalog.revoke:" ++ g.principal

namespace OutputPortSpec

def stuckGrant (spec : OutputPortSpec) (g : Grant) : Problem :=
  (rejection g.revocation).first.inContext (spec.revocationContext g)

theorem run_tryRevoke (spec : OutputPortSpec) (s : Session) (g : Grant) (p : Platform) :
    (spec.tryRevoke s g).run handler p =
      (.answered (tried (fun g => p.rejects g.revocation) spec.stuckGrant (fun _ => ()) g),
        (p.logged [g.revocation]).modifyData s.workspace.name (regrant spec.viewName fun gs =>
          if p.rejects g.revocation then gs else gs.filter (· != g))) := by
  let stuck : Grant → Bool := fun g => p.rejects g.revocation
  unfold tryRevoke
  rw [run_bind_pure, run_attempt]
  by_cases rejected : p.rejects g.revocation = true
  · have unchanged : regrant spec.viewName (fun gs => if p.rejects g.revocation then gs
        else gs.filter (· != g)) = fun d => d := by
      funext d
      simp only [regrant, rejected, if_true, updated_self]
    have refused : (s.catalog (.revoke spec.viewName g.principal g.privilege)).run handler p =
        (.refused (rejection g.revocation), p.logged [g.revocation]) := by
      unfold Session.catalog Session.ask
      rw [run_request, handler_eq]
      exact if_pos rejected
    have wrong : tried stuck spec.stuckGrant (fun _ => ()) g = _ := tried_of_wrong _ _ rejected
    rw [unchanged, modifyData_id, refused, wrong]
    rfl
  · have taken : regrant spec.viewName (fun gs => if p.rejects g.revocation then gs
        else gs.filter (· != g)) = regrant spec.viewName fun gs => gs.filter (· != g) := by
      funext d
      rw [eq_false_of_ne_true rejected]
      rfl
    have answered : (s.catalog (.revoke spec.viewName g.principal g.privilege)).run handler p =
        (.answered (), (p.logged [g.revocation]).modifyData s.workspace.name
          (regrant spec.viewName fun gs => gs.filter (· != g))) := by
      unfold Session.catalog Session.ask
      rw [run_request, handler_eq]
      exact if_neg rejected
    have right : tried stuck spec.stuckGrant (fun _ => ()) g = .ok () :=
      tried_of_right _ _ (eq_false_of_ne_true rejected)
    rw [taken, answered, right]
    rfl

/-- The grants of a view when these have been tried to be taken back. -/
def revoked (p : Platform) (gs : List Grant) (current : List Grant) : List Grant :=
  current.filter fun g => !(gs.contains g && !p.rejects g.revocation)

theorem foldl_revoked (p : Platform) (gs current : List Grant) :
    gs.foldl (fun current g => if p.rejects g.revocation then current else current.filter (· != g))
      current = revoked p gs current := by
  induction gs generalizing current with
  | nil => simp [revoked]
  | cons g rest ih =>
    rw [List.foldl_cons, ih]
    unfold revoked
    by_cases stuck : p.rejects g.revocation = true
    · rw [if_pos stuck]
      refine List.filter_congr fun x _ => ?_
      by_cases same : x = g
      · simp [same, stuck]
      · simp [same]
    · rw [if_neg stuck, List.filter_filter]
      refine List.filter_congr fun x _ => ?_
      by_cases same : x = g
      · simp [same, stuck]
      · simp [same]

theorem run_revocations (spec : OutputPortSpec) (s : Session) (gs : List Grant) (p : Platform) :
    (each (spec.tryRevoke s) gs).run handler p =
      (.answered (gs.map (tried (fun g => p.rejects g.revocation) spec.stuckGrant fun _ => ())),
        (p.logged (gs.map Grant.revocation)).modifyData s.workspace.name
          (regrant spec.viewName (revoked p gs))) := by
  let change : Grant → WorkspaceData → WorkspaceData := fun g => regrant spec.viewName fun gs =>
    if p.rejects g.revocation then gs else gs.filter (· != g)
  let standing : List Grant → Platform → Prop := fun _ q => q.failures = p.failures
  have part : ∀ g rest q, standing (g :: rest) q →
      (spec.tryRevoke s g).run handler q =
        (.answered (tried (fun g => p.rejects g.revocation) spec.stuckGrant (fun _ => ()) g),
          (q.logged [g.revocation]).modifyData s.workspace.name (change g)) ∧
      standing rest ((q.logged [g.revocation]).modifyData s.workspace.name (change g)) := by
    intro g rest q sameFailures
    have sameRejects : ∀ key, q.rejects key = p.rejects key := fun key => by
      simp only [rejects, show q.failures = p.failures from sameFailures]
    constructor
    · rw [run_tryRevoke]
      simp only [sameRejects, change]
    · exact sameFailures
  have keys : gs.flatMap (fun g => [g.revocation]) = gs.map Grant.revocation :=
    List.flatMap_pure_eq_map _ gs
  rw [run_series part gs rfl, keys]
  simp only [change, foldl_regrant, foldl_revoked]

/-! The whole -/

def keepers (a : Accepted) (refs : List String) : List String :=
  a.owner.externalId :: a.devGroup.externalId :: (readersOf refs).map (·.externalId)

def malformedProblems (refs : List String) : List Problem :=
  refs.filterMap fun written =>
    match PrincipalRef.parse written with
    | .ok _ => none
    | .error e => some ⟨s!"Invalid principal reference: {e.message}", none⟩

theorem told_malformed (refs : List String) :
    ((malformed refs).map (Except.error : Failure → Except Failure Unit)).flatMap Failure.told =
      malformedProblems refs := by
  induction refs with
  | nil => rfl
  | cons written rest ih =>
    unfold malformed malformedProblems at ih ⊢
    rw [List.filterMap_cons, List.filterMap_cons]
    unfold parseReader
    cases PrincipalRef.parse written with
    | ok r => exact ih
    | error e => exact congrArg (_ :: ·) ih

def excess (spec : OutputPortSpec) (privilege : CatalogPrivilege) (a : Accepted) (refs : List String)
    (p : Platform) : List Grant :=
  surplus privilege (keepers a refs) ((p.data spec.workspace).grants spec.viewName)

def troubles (spec : OutputPortSpec) (privilege : CatalogPrivilege) (a : Accepted) (refs : List String)
    (v : WorkspaceInfo) (p : Platform) : List Problem :=
  malformedProblems refs ++ (readersOf refs).filterMap ((Session.mk v).obstacle p) ++
    ((spec.excess privilege a refs p).filter fun g => p.rejects g.revocation).map spec.stuckGrant

/-- The readers have been set, as far as nothing was in the way. -/
structure Resets (spec : OutputPortSpec) (privilege : CatalogPrivilege) (a : Accepted)
    (refs : List String) (v : WorkspaceInfo) (p : Platform) (outcome : Reply Completion × Platform) :
    Prop where
  holders : ∀ name, ⟨name, privilege⟩ ∈ (outcome.2.data spec.workspace).grants spec.viewName ↔
    (⟨name, privilege⟩ ∈ (p.data spec.workspace).grants spec.viewName ∧
      (name ∈ keepers a refs ∨ p.rejects (Grant.revocation ⟨name, privilege⟩) = true)) ∨
    ∃ r ∈ readersOf refs, p.Serves r ∧ r.externalId = name
  others : ((outcome.2.data spec.workspace).grants spec.viewName).filter (·.privilege != privilege) =
    ((p.data spec.workspace).grants spec.viewName).filter (·.privilege != privilege)
  rest : ∃ keys gs, outcome.2 =
    (p.logged keys).modifyData spec.workspace (regrant spec.viewName fun _ => gs)
  completed : spec.troubles privilege a refs v p = [] → outcome.1 = .answered
    (spec.readersSet privilege (readersOf refs).length (spec.excess privilege a refs p).length)
  failed : spec.troubles privilege a refs v p ≠ [] →
    ∃ f, outcome.1 = .refused f ∧ f.problems = spec.troubles privilege a refs v p

def finalGrants (spec : OutputPortSpec) (privilege : CatalogPrivilege) (a : Accepted)
    (refs : List String) (v : WorkspaceInfo) (p : Platform) : List Grant :=
  revoked p (spec.excess privilege a refs p) (granted ⟨v⟩ p privilege (readersOf refs)
    ((p.data spec.workspace).grants spec.viewName))

section Final

variable {spec : OutputPortSpec} {privilege : CatalogPrivilege} {a : Accepted} {refs : List String}
  {v : WorkspaceInfo} {p : Platform}

theorem mem_excess {g : Grant} : g ∈ spec.excess privilege a refs p ↔
    g ∈ (p.data spec.workspace).grants spec.viewName ∧ g.privilege = privilege ∧
      g.principal ∉ keepers a refs := by
  simp [excess, surplus]

theorem mem_granted {rs : List PrincipalRef} {gs : List Grant} {name : String} :
    ⟨name, privilege⟩ ∈ granted ⟨v⟩ p privilege rs gs ↔
      ⟨name, privilege⟩ ∈ gs ∨ ∃ r ∈ rs, p.Serves r ∧ r.externalId = name := by
  unfold granted
  rw [mem_foldl_addOnce]
  constructor
  · rintro (old | ⟨r, member, same⟩)
    · exact .inl old
    · obtain ⟨among, free⟩ := List.mem_filter.mp member
      have serves := ((Session.mk v).obstacle_eq_none_iff p r).mp (Option.isNone_iff_eq_none.mp free)
      exact .inr ⟨r, among, serves, (Grant.mk.inj same).1⟩
  · rintro (old | ⟨r, among, serves, rfl⟩)
    · exact .inl old
    · have free := ((Session.mk v).obstacle_eq_none_iff p r).mpr serves
      exact .inr ⟨r, List.mem_filter.mpr ⟨among, Option.isNone_iff_eq_none.mpr free⟩, rfl⟩

theorem mem_finalGrants {name : String} : ⟨name, privilege⟩ ∈ spec.finalGrants privilege a refs v p ↔
    (⟨name, privilege⟩ ∈ (p.data spec.workspace).grants spec.viewName ∧
      (name ∈ keepers a refs ∨ p.rejects (Grant.revocation ⟨name, privilege⟩) = true)) ∨
    ∃ r ∈ readersOf refs, p.Serves r ∧ r.externalId = name := by
  unfold finalGrants revoked
  rw [List.mem_filter, mem_granted]
  simp only [Bool.not_eq_true', Bool.and_eq_false_iff, List.contains_eq_mem, decide_eq_false_iff_not,
    Bool.not_eq_false', mem_excess]
  constructor
  · rintro ⟨old | served, spared⟩
    · by_cases keeps : name ∈ keepers a refs
      · exact .inl ⟨old, .inl keeps⟩
      · rcases spared with spared | stuck
        · exact absurd ⟨old, trivial, keeps⟩ spared
        · exact .inl ⟨old, .inr stuck⟩
    · exact .inr served
  · rintro (⟨old, keeps | stuck⟩ | ⟨r, among, serves, rfl⟩)
    · exact ⟨.inl old, .inl fun taken => taken.2.2 keeps⟩
    · exact ⟨.inl old, .inr stuck⟩
    · have keeps : r.externalId ∈ keepers a refs :=
        List.mem_cons_of_mem _ (List.mem_cons_of_mem _ (List.mem_map_of_mem among))
      exact ⟨.inr ⟨r, among, serves, rfl⟩, .inl fun taken => taken.2.2 keeps⟩

/-- What is granted and taken back is of the one privilege. -/
theorem filter_finalGrants :
    (spec.finalGrants privilege a refs v p).filter (·.privilege != privilege) =
      ((p.data spec.workspace).grants spec.viewName).filter (·.privilege != privilege) := by
  have other : ∀ g : Grant, (g.privilege != privilege && !((spec.excess privilege a refs p).contains g &&
      !p.rejects g.revocation)) = (g.privilege != privilege) := by
    intro g
    by_cases same : g.privilege = privilege
    · simp [same]
    · have kept : (spec.excess privilege a refs p).contains g = false := by
        simp only [List.contains_eq_mem, decide_eq_false_iff_not, mem_excess]
        exact fun taken => same taken.2.1
      rw [kept]
      simp
  unfold finalGrants revoked granted
  rw [List.filter_filter]
  simp only [other]
  exact filter_foldl_addOnce (fun r _ => by simp) _

def takeBack (spec : OutputPortSpec) (privilege : CatalogPrivilege) (readers : Nat) (session : Session)
    (gs : List Grant) (results : List (Except Failure Unit)) : Remote Completion := do
  let revocations ← Program.each (spec.tryRevoke session) gs
  let _ ← Program.ofExcept (accumulate (results ++ revocations))
  pure (spec.readersSet privilege readers (revocations.countP (·.isOk)))

theorem run_takeBack (readers : Nat) (session : Session) (gs : List Grant)
    (results : List (Except Failure Unit)) (p : Platform) :
    (spec.takeBack privilege readers session gs results).run handler p =
      (match Failure.ofProblems? (results.flatMap Failure.told ++
          (gs.filter fun g => p.rejects g.revocation).map spec.stuckGrant) with
        | some f => .refused f
        | none => .answered (spec.readersSet privilege readers gs.length),
      (p.logged (gs.map Grant.revocation)).modifyData session.workspace.name
        (regrant spec.viewName (revoked p gs))) := by
  unfold takeBack
  rw [run_bind_of_answered (run_revocations spec session gs p), run_accumulate, List.flatMap_append,
    told_tried, countP_tried]
  cases collected : Failure.ofProblems? (results.flatMap Failure.told ++
      (gs.filter fun g => p.rejects g.revocation).map spec.stuckGrant) with
  | some f => rfl
  | none =>
    have none := (List.append_eq_nil_iff.mp (Failure.eq_nil_of_ofProblems? collected)).2
    have free := List.filter_eq_nil_iff.mp (List.map_eq_nil_iff.mp none)
    have all : gs.countP (fun g => !p.rejects g.revocation) = gs.length :=
      List.countP_eq_length.mpr fun g member => by simpa using free g member
    rw [all]

def resetReaders (spec : OutputPortSpec) (privilege : CatalogPrivilege) (a : Accepted)
    (refs : List String) (session : Session) : Remote Completion := do
  let current ← session.catalog (.listGrants spec.viewName)
  let services ← Program.each (spec.tryServe session privilege) (readersOf refs)
  let kept := a.owner.externalId :: a.devGroup.externalId :: services.map (·.1)
  spec.takeBack privilege (readersOf refs).length session (surplus privilege kept current)
    ((malformed refs).map Except.error ++ services.map (·.2))

theorem setReaders_eq_whenThere (s : Settings) : spec.setReaders s a refs =
    whenThere spec.workspace (Program.fail (noWorkspace spec.workspace)) fun _ =>
      spec.resetReaders s.permissions.outputPort.consumers a refs := by
  rw [← existing_eq_whenThere]
  rfl

theorem run_listGrants (session : Session) (view : String) (p : Platform) :
    (session.catalog (.listGrants view)).run handler p =
      (if p.rejects (CatalogCall.key (.listGrants view)) then
        .refused (rejection (CatalogCall.key (.listGrants view)))
      else .answered ((p.data session.workspace.name).grants view),
      p.logged [CatalogCall.key (.listGrants view)]) := by
  unfold Session.catalog Session.ask
  rw [run_request]
  exact handler_of_reading rfl

theorem run_resetReaders (own : v.name = spec.workspace)
    (listed : p.rejects (CatalogCall.key (.listGrants spec.viewName)) = false) :
    ∃ keys, (spec.resetReaders privilege a refs ⟨v⟩).run handler p =
      (match Failure.ofProblems? (spec.troubles privilege a refs v p) with
        | some f => .refused f
        | none => .answered (spec.readersSet privilege (readersOf refs).length
            (spec.excess privilege a refs p).length),
      (p.logged keys).modifyData spec.workspace
        (regrant spec.viewName fun _ => spec.finalGrants privilege a refs v p)) := by
  let listing := CatalogCall.key (.listGrants spec.viewName)
  let readers := readersOf refs
  let gs := spec.excess privilege a refs p
  have read := run_listGrants ⟨v⟩ spec.viewName p
  rw [if_neg (ne_true_of_eq_false listed), own] at read
  have served : (each (spec.tryServe ⟨v⟩ privilege) readers).run handler (p.logged [listing]) =
      (.answered (readers.map fun r => (r.externalId, service ⟨v⟩ p r)),
        (p.logged (listing :: readers.flatMap p.servingCalls)).modifyData v.name
          (regrant spec.viewName (granted ⟨v⟩ p privilege readers))) := by
    have run := run_services spec ⟨v⟩ privilege readers (p.logged [listing])
    rw [logged_logged] at run
    exact run
  have kept : a.owner.externalId :: a.devGroup.externalId ::
      (readers.map fun r => (r.externalId, service ⟨v⟩ p r)).map Prod.fst = keepers a refs := by
    simp [keepers, readers]
  have told : ((malformed refs).map (Except.error : Failure → Except Failure Unit) ++
      (readers.map fun r => (r.externalId, service ⟨v⟩ p r)).map Prod.snd).flatMap Failure.told =
      malformedProblems refs ++ readers.filterMap ((Session.mk v).obstacle p) := by
    rw [List.flatMap_append, told_malformed, List.map_map, ← told_services]
    rfl
  have after : ((p.logged (listing :: readers.flatMap p.servingCalls ++ gs.map Grant.revocation)).modifyData
      v.name (regrant spec.viewName (granted ⟨v⟩ p privilege readers))).modifyData v.name
        (regrant spec.viewName (revoked p gs)) =
      (p.logged (listing :: readers.flatMap p.servingCalls ++ gs.map Grant.revocation)).modifyData
        spec.workspace (regrant spec.viewName fun _ => spec.finalGrants privilege a refs v p) := by
    rw [modifyData_modifyData, own]
    refine modifyData_congr _ _ ?_
    rw [regrant_regrant]
    rfl
  unfold resetReaders
  rw [run_bind_of_answered read, run_bind_of_answered served]
  dsimp only
  rw [kept, run_takeBack, told, logged_modifyData, logged_logged]
  exact ⟨_, Prod.ext rfl after⟩

/-- Everything that the setting of readers can come to. -/
inductive ReadersSet (spec : OutputPortSpec) (privilege : CatalogPrivilege) (a : Accepted)
    (refs : List String) (p : Platform) : Reply Completion × Platform → Prop where
  | lacking (lacks : p.Lacks spec.workspace) : ReadersSet spec privilege a refs p
      (.refused (noWorkspace spec.workspace), p.logged [Call.key (.findWorkspace spec.workspace)])
  | barred {keys : List String} {f : Failure} (bars : p.Bars spec.workspace keys f) :
      ReadersSet spec privilege a refs p (.refused f, p.logged keys)
  | unlisted {v : WorkspaceInfo} (admits : p.Admits spec.workspace v)
      (rejected : p.rejects (CatalogCall.key (.listGrants spec.viewName)) = true) :
      ReadersSet spec privilege a refs p
        (.refused (rejection (CatalogCall.key (.listGrants spec.viewName))),
          p.logged (entrance spec.workspace ++ [CatalogCall.key (.listGrants spec.viewName)]))
  | tried {v : WorkspaceInfo} {outcome : Reply Completion × Platform}
      (admits : p.Admits spec.workspace v)
      (listed : p.rejects (CatalogCall.key (.listGrants spec.viewName)) = false)
      (resets : spec.Resets privilege a refs v p outcome) : ReadersSet spec privilege a refs p outcome

theorem resets_of_listed (own : v.name = spec.workspace)
    (listed : p.rejects (CatalogCall.key (.listGrants spec.viewName)) = false) :
    spec.Resets privilege a refs v p ((spec.resetReaders privilege a refs ⟨v⟩).run handler p) := by
  obtain ⟨keys, run⟩ := @run_resetReaders spec privilege a refs v p own listed
  have grants : (((spec.resetReaders privilege a refs ⟨v⟩).run handler p).2.data spec.workspace).grants
      spec.viewName = spec.finalGrants privilege a refs v p := by
    rw [run, data_modifyData_same]
    exact updated_same _ _ _
  constructor
  · rw [grants]
    exact fun name => mem_finalGrants
  · rw [grants]
    exact filter_finalGrants
  · exact ⟨keys, _, congrArg Prod.snd run⟩
  · intro none
    rw [run, none]
    rfl
  · intro some
    rw [run]
    cases collected : Failure.ofProblems? (spec.troubles privilege a refs v p) with
    | some f => exact ⟨f, rfl, Failure.problems_of_ofProblems? collected⟩
    | none => exact absurd (Failure.eq_nil_of_ofProblems? collected) some

theorem Resets.of_logged {keys : List String} {outcome : Reply Completion × Platform}
    (resets : spec.Resets privilege a refs v (p.logged keys) outcome) :
    spec.Resets privilege a refs v p outcome where
  holders name := by
    have holders := resets.holders name
    simp only [serves_logged] at holders
    exact holders
  others := resets.others
  rest := by
    obtain ⟨later, gs, same⟩ := resets.rest
    rw [logged_logged] at same
    exact ⟨_, gs, same⟩
  completed := resets.completed
  failed := resets.failed

theorem run_setReaders (named : p.Named) (s : Settings) :
    spec.ReadersSet s.permissions.outputPort.consumers a refs p
      ((spec.setReaders s a refs).run handler p) := by
  rw [setReaders_eq_whenThere]
  rcases run_whenThere named spec.workspace (Program.fail (noWorkspace spec.workspace)) fun _ =>
      spec.resetReaders s.permissions.outputPort.consumers a refs with
    ⟨lacks, run⟩ | ⟨keys, f, bars, run⟩ | ⟨v, admits, own, run⟩
  · rw [run]
    exact .lacking lacks
  · rw [run]
    exact .barred bars
  · rw [run]
    by_cases listed : p.rejects (CatalogCall.key (.listGrants spec.viewName)) = true
    · unfold resetReaders
      rw [run_bind, run_listGrants, if_pos (show (p.logged _).rejects _ = true from listed), logged_logged]
      exact .unlisted admits listed
    · have accepted := eq_false_of_ne_true listed
      exact .tried admits accepted (resets_of_listed (p := p.logged _) own accepted).of_logged

end Final

end OutputPortSpec

theorem AccessRequest.execute_of_accept {r : AccessRequest} {s : Settings} {a : Accepted}
    {spec : OutputPortSpec} (accepted : (Request.ofDescriptor r.descriptor).accept s.templates = .ok a)
    (port : a.classified = .outputPort spec) : r.execute s = spec.setReaders s a r.refs := by
  unfold AccessRequest.execute Accepted.setReaders
  rw [accepted, ofExcept_ok_bind, port]

/-- A request that is not about an output port fails at once. -/
theorem AccessRequest.fails_or_accepts (r : AccessRequest) (s : Settings) :
    (∃ f, r.execute s = Program.fail f) ∨ ∃ a spec,
      (Request.ofDescriptor r.descriptor).accept s.templates = .ok a ∧ a.classified = .outputPort spec := by
  unfold AccessRequest.execute Accepted.setReaders
  cases accepted : (Request.ofDescriptor r.descriptor).accept s.templates with
  | error f => exact .inl ⟨f, rfl⟩
  | ok a =>
    rw [ofExcept_ok_bind]
    cases port : a.classified with
    | outputPort spec => exact .inr ⟨a, spec, rfl, port⟩
    | _ => exact .inl ⟨_, rfl⟩

theorem AccessRequest.run_setReaders {r : AccessRequest} {s : Settings} {a : Accepted}
    (accepted : (Request.ofDescriptor r.descriptor).accept s.templates = .ok a) {spec : OutputPortSpec}
    (port : a.classified = .outputPort spec) {p : Platform} (named : p.Named) :
    spec.ReadersSet s.permissions.outputPort.consumers a r.refs p ((r.execute s).run handler p) := by
  rw [r.execute_of_accept accepted port]
  exact OutputPortSpec.run_setReaders named s

end Provisioning
