import Provisioning.Platform.Answer
import Provisioning.Proofs.Program.Straight

/-!
Calls that only add to what the platform notes.  Reading calls and calls about roles, sessions and
permissions leave everything else as it is; of the call log, the roles and the permissions they
keep what was there and may put something behind it.
-/
namespace Provisioning

theorem updated_self {β : Type} (f : String → β) (a : String) : updated f a (f a) = f := by
  funext x
  unfold updated
  split
  · rename_i same
    rw [same]
  · rfl

theorem updated_updated {β : Type} (f : String → β) (a : String) (b c : β) :
    updated (updated f a b) a c = updated f a c := by
  funext x
  by_cases same : x = a <;> simp [updated, same]

theorem updated_comm {β : Type} (f : String → β) {a b : String} (apart : a ≠ b) (x y : β) :
    updated (updated f a x) b y = updated (updated f b y) a x := by
  funext z
  unfold updated
  by_cases first : z = a
  · simp [first, apart]
  · simp [first]

section AddOnce

variable {α : Type} [DecidableEq α] {a b : α} {as : List α}

theorem addOnce_of_mem (member : a ∈ as) : addOnce a as = as := if_pos member

theorem mem_addOnce : a ∈ addOnce b as ↔ a ∈ as ∨ a = b := by
  unfold addOnce
  split
  · rename_i member
    constructor
    · exact .inl
    · rintro (old | rfl)
      · exact old
      · exact member
  · simp

end AddOnce

structure WorkspaceData.Extends (d e : WorkspaceData) : Prop where
  jobs : e.jobs = d.jobs
  pipelines : e.pipelines = d.pipelines
  views : e.views = d.views
  catalogs : e.catalogs = d.catalogs
  schemas : e.schemas = d.schemas
  tables : e.tables = d.tables
  grants : e.grants = d.grants
  repositories : e.repositories = d.repositories
  permissions : d.permissions <+: e.permissions

namespace WorkspaceData

theorem extends_refl (d : WorkspaceData) : d.Extends d :=
  ⟨rfl, rfl, rfl, rfl, rfl, rfl, rfl, rfl, List.prefix_refl _⟩

theorem Extends.trans {d e f : WorkspaceData} (first : d.Extends e) (second : e.Extends f) :
    d.Extends f where
  jobs := second.jobs.trans first.jobs
  pipelines := second.pipelines.trans first.pipelines
  views := second.views.trans first.views
  catalogs := second.catalogs.trans first.catalogs
  schemas := second.schemas.trans first.schemas
  tables := second.tables.trans first.tables
  grants := second.grants.trans first.grants
  repositories := second.repositories.trans first.repositories
  permissions := first.permissions.trans second.permissions

end WorkspaceData

def Reply.ofExcept : Except Failure α → Reply α
  | .ok a => .answered a
  | .error f => .refused f

namespace Platform

/-- The same platform, but for calls, roles and permissions that may have been added. -/
structure Extends (p q : Platform) : Prop where
  workspaces : q.workspaces = p.workspaces
  data : ∀ w, (p.data w).Extends (q.data w)
  users : q.users = p.users
  groups : q.groups = p.groups
  roles : p.roles <+: q.roles
  newWorkspaceState : q.newWorkspaceState = p.newWorkspaceState
  calls : p.calls <+: q.calls
  failures : q.failures = p.failures
  lastId : q.lastId = p.lastId
  clock : q.clock = p.clock

theorem extends_refl (p : Platform) : p.Extends p :=
  ⟨rfl, fun w => (p.data w).extends_refl, rfl, rfl, List.prefix_refl _, rfl, List.prefix_refl _,
    rfl, rfl, rfl⟩

theorem Extends.trans {p q r : Platform} (first : p.Extends q) (second : q.Extends r) :
    p.Extends r where
  workspaces := second.workspaces.trans first.workspaces
  data := fun w => (first.data w).trans (second.data w)
  users := second.users.trans first.users
  groups := second.groups.trans first.groups
  roles := first.roles.trans second.roles
  newWorkspaceState := second.newWorkspaceState.trans first.newWorkspaceState
  calls := first.calls.trans second.calls
  failures := second.failures.trans first.failures
  lastId := second.lastId.trans first.lastId
  clock := second.clock.trans first.clock

theorem extends_record (key : String) (p : Platform) : p.Extends (p.record key) :=
  { p.extends_refl with calls := List.prefix_append _ _ }

@[simp] theorem data_record (key : String) (p : Platform) : (p.record key).data = p.data := rfl

@[simp] theorem workspaces_record (key : String) (p : Platform) :
    (p.record key).workspaces = p.workspaces := rfl

@[simp] theorem failures_record (key : String) (p : Platform) :
    (p.record key).failures = p.failures := rfl

@[simp] theorem data_modifyData_same (p : Platform) (w : String) (f : WorkspaceData → WorkspaceData) :
    (p.modifyData w f).data w = f (p.data w) := updated_same _ _ _

theorem data_modifyData_other (p : Platform) {w x : String} (f : WorkspaceData → WorkspaceData)
    (other : x ≠ w) : (p.modifyData w f).data x = p.data x := updated_other _ _ other

theorem data_modifyData_congr {p q : Platform} (same : q.data = p.data) (w : String)
    (f : WorkspaceData → WorkspaceData) : (q.modifyData w f).data = (p.modifyData w f).data := by
  simp only [modifyData, setData, same]

theorem extends_modifyData {p : Platform} {w : String} {f : WorkspaceData → WorkspaceData}
    (change : (p.data w).Extends (f (p.data w))) : p.Extends (p.modifyData w f) where
  workspaces := rfl
  data := fun x => by
    by_cases same : x = w
    · subst same
      rw [data_modifyData_same]
      exact change
    · rw [data_modifyData_other p f same]
      exact (p.data x).extends_refl
  users := rfl
  groups := rfl
  roles := List.prefix_refl _
  newWorkspaceState := rfl
  calls := List.prefix_refl _
  failures := rfl
  lastId := rfl
  clock := rfl

/-- What stands between the data of every workspace and itself, and between that of one before and after. -/
theorem forall_data_of_updated {P : WorkspaceData → WorkspaceData → Prop} (refl : ∀ d, P d d)
    {p q : Platform} {w : String} {d : WorkspaceData} (put : q.data = updated p.data w d)
    (change : P (p.data w) d) (x : String) : P (p.data x) (q.data x) := by
  rw [put]
  by_cases same : x = w
  · subst same
    rw [updated_same]
    exact change
  · rw [updated_other _ _ same]
    exact refl _

theorem forall_data_modifyData {P : WorkspaceData → WorkspaceData → Prop} (refl : ∀ d, P d d)
    (p : Platform) (w : String) {f : WorkspaceData → WorkspaceData}
    (change : P (p.data w) (f (p.data w))) (x : String) :
    P (p.data x) ((p.modifyData w f).data x) := forall_data_of_updated refl rfl change x

theorem rejects_nothing {p : Platform} (calm : p.failures = []) (key : String) :
    p.rejects key = false := by
  simp [rejects, calm]

theorem handler_rejected {c : Call} {p : Platform} (rejected : p.rejects c.key = true) :
    handler c p = (.refused (rejection c.key), p.record c.key) := by
  have still : (p.record c.key).rejects c.key = true := rejected
  simp only [handler, respond, still, if_true]

theorem handler_accepted {c : Call} {p : Platform} (accepted : p.rejects c.key = false) :
    handler c p =
      (.ofExcept (answer c (p.record c.key)).1, (answer c (p.record c.key)).2) := by
  have still : (p.record c.key).rejects c.key = false := accepted
  simp only [handler, respond, still]
  rcases answer c (p.record c.key) with ⟨_ | _, q⟩ <;> rfl

theorem handler_snd (c : Call) (p : Platform) :
    (handler c p).2 = p.record c.key ∨ (handler c p).2 = (answer c (p.record c.key)).2 := by
  cases decision : p.rejects c.key with
  | true => exact .inl (by rw [handler_rejected decision])
  | false => exact .inr (by rw [handler_accepted decision])

end Platform

/-- What a call may change beside the call log, the roles and the permissions. -/
inductive Effect where
  | nothing
  | makeWorkspace
  | writeJob
  | removeJob
  | writePipeline
  | removePipeline
  | writeView
  | removeView
  | makeCatalog
  | grant
  | revoke
  | makeRepository
  | removeRepository
  deriving DecidableEq, Repr

def ObjectCall.effect (write remove : Effect) : ObjectCall δ → Effect
  | listByName _ | get _ => .nothing
  | create _ | update _ _ => write
  | delete _ => remove

def ObjectCall.Within (write remove : Effect) (effects : List Effect) (c : ObjectCall δ) : Prop :=
  c.effect write remove ∈ effects

def InnerCall.effect : InnerCall → Effect
  | jobs c => c.effect .writeJob .removeJob
  | pipelines c => c.effect .writePipeline .removePipeline
  | views c => c.effect .writeView .removeView
  | catalog (.ensureCatalog _) | catalog (.ensureSchema _ _) => .makeCatalog
  | catalog (.tableExists _) | catalog (.listGrants _) => .nothing
  | catalog (.grant _ _ _) => .grant
  | catalog (.revoke _ _ _) => .revoke
  | repositories (.create _ _ _) => .makeRepository
  | repositories (.listByPath _) => .nothing
  | repositories (.delete _) => .removeRepository
  | identity _ => .nothing

def Call.effect : Call → Effect
  | createIfAbsent _ _ _ => .makeWorkspace
  | findWorkspace _ | assignRole _ _ _ | openSession _ => .nothing
  | inside _ c => c.effect

def Call.Within (effects : List Effect) (c : Call) : Prop := c.effect ∈ effects

theorem Call.within_mono {es fs : List Effect} (wider : es ⊆ fs) (c : Call) (within : c.Within es) :
    c.Within fs := wider within

namespace Platform

theorem extends_answerInner {w : String} {c : InnerCall} (quiet : c.effect = .nothing)
    (p : Platform) : p.Extends (answerInner w c p).2 := by
  cases c with
  | jobs c => cases c <;> first | exact p.extends_refl | cases quiet
  | pipelines c => cases c <;> first | exact p.extends_refl | cases quiet
  | views c => cases c <;> first | exact p.extends_refl | cases quiet
  | catalog c => cases c <;> first | exact p.extends_refl | cases quiet
  | repositories c => cases c <;> first | exact p.extends_refl | cases quiet
  | identity c =>
    cases c with
    | resolve principal => exact p.extends_refl
    | assignPermission object principal level =>
      simp only [answerInner, answerIdentity]
      refine extends_modifyData ?_
      exact { WorkspaceData.extends_refl _ with permissions := List.prefix_append _ _ }

theorem extends_answer {c : Call} (quiet : c.effect = .nothing) (p : Platform) :
    p.Extends (answer c p).2 := by
  cases c with
  | createIfAbsent name region params => cases quiet
  | findWorkspace name => exact p.extends_refl
  | openSession workspace => exact p.extends_refl
  | inside w c => exact extends_answerInner quiet p
  | assignRole scope principal role =>
    rw [answer]
    split
    · exact { p.extends_refl with roles := List.prefix_append _ _ }
    · exact p.extends_refl

theorem extends_handler {c : Call} (quiet : c.Within [.nothing]) (p : Platform) :
    p.Extends (handler c p).2 := by
  rcases handler_snd c p with noted | answered
  · rw [noted]
    exact extends_record _ p
  · rw [answered]
    exact (extends_record _ p).trans (extends_answer (List.mem_singleton.mp quiet) _)

/-- A program that only asks calls without effect only adds to what is noted. -/
theorem extends_run {α : Type} {program : Remote α} (quiet : program.Asks (Call.Within [.nothing]))
    (p : Platform) : p.Extends (program.run handler p).2 :=
  Program.keeps_of_asks extends_refl (fun _ _ _ => Extends.trans) (fun _ => extends_handler) quiet p

theorem extends_of_run {α : Type} {program : Remote α} {p q : Platform} {reply : Reply α}
    (quiet : program.Asks (Call.Within [.nothing])) (run : program.run handler p = (reply, q)) :
    p.Extends q := by
  have grows := extends_run quiet p
  rw [run] at grows
  exact grows

/-- What only notes more at its end has left the rest as the part before that did. -/
theorem extends_bind {α β : Type} (program : Remote α) {f : α → Remote β}
    (quiet : ∀ a, (f a).Asks (Call.Within [.nothing])) (p : Platform) :
    (program.run handler p).2.Extends ((program >>= f).run handler p).2 := by
  rcases Program.stops_or_goes_on handler program f p with stopped | ⟨a, q, answered, goesOn⟩
  · rw [stopped]
    exact extends_refl _
  · rw [goesOn, answered]
    exact extends_run (quiet a) q

end Platform
end Provisioning
