import Provisioning.Chain.Readiness
import Provisioning.Proofs.Platform.Labels
import Provisioning.Proofs.Platform.Series

/-!
The way into a workspace that must be there.  It is looked for, its state is checked and a session is
opened; where one of these fails, that is all that is told, and nothing but the call log is changed.
-/
namespace Provisioning

open Platform Program

theorem requireReady_eq_ok {w : WorkspaceInfo} :
    requireReady w = .ok () ↔ w.state.isSucceeded = true := by
  unfold requireReady
  cases w.state.isSucceeded <;> simp

namespace Platform

def entrance (name : String) : List String :=
  [Call.key (.findWorkspace name), Call.key (.openSession name)]

structure Finds (p : Platform) (name : String) (w : WorkspaceInfo) : Prop where
  accepted : p.rejects (Call.key (.findWorkspace name)) = false
  there : p.workspaces name = some w
  ready : w.state.isSucceeded = true

structure Admits (p : Platform) (name : String) (w : WorkspaceInfo) : Prop extends p.Finds name w where
  opened : p.rejects (Call.key (.openSession name)) = false

structure Lacks (p : Platform) (name : String) : Prop where
  accepted : p.rejects (Call.key (.findWorkspace name)) = false
  missing : p.workspaces name = none

/-- Why there is no way into a workspace, with the calls that tell it. -/
inductive Bars (p : Platform) (name : String) : List String → Failure → Prop where
  | lookup (rejected : p.rejects (Call.key (.findWorkspace name)) = true) :
      Bars p name [Call.key (.findWorkspace name)] (rejection (Call.key (.findWorkspace name)))
  | state (w : WorkspaceInfo) (accepted : p.rejects (Call.key (.findWorkspace name)) = false)
      (there : p.workspaces name = some w) (unready : w.state.isSucceeded = false) :
      Bars p name [Call.key (.findWorkspace name)] (notReady w)
  | session (w : WorkspaceInfo) (found : p.Finds name w)
      (rejected : p.rejects (Call.key (.openSession name)) = true) :
      Bars p name (entrance name) (rejection (Call.key (.openSession name)))

variable {p : Platform} {name : String}

theorem run_findWorkspace (p : Platform) (name : String) :
    (Remote.findWorkspace name).run handler p =
      (if p.rejects (Call.key (.findWorkspace name)) then
        .refused (rejection (Call.key (.findWorkspace name)))
      else .answered (p.workspaces name), p.logged [Call.key (.findWorkspace name)]) := by
  rw [Remote.findWorkspace, run_request]
  exact handler_of_reading rfl

theorem run_start (p : Platform) (w : WorkspaceInfo) :
    (Session.start w).run handler p =
      (if p.rejects (Call.key (.openSession w.name)) then
        .refused (rejection (Call.key (.openSession w.name)))
      else .answered ⟨w⟩, p.logged [Call.key (.openSession w.name)]) := by
  have opening : handler (.openSession w.name) p = _ := handler_of_reading rfl
  unfold Session.start
  rw [run_bind, run_request, opening]
  split <;> rfl

theorem run_workspaceIfAny (p : Platform) (name : String) :
    (p.Lacks name ∧ (workspaceIfAny name).run handler p =
      (.answered none, p.logged [Call.key (.findWorkspace name)])) ∨
    (∃ w, p.Finds name w ∧ (workspaceIfAny name).run handler p =
      (.answered (some w), p.logged [Call.key (.findWorkspace name)])) ∨
    ∃ f, p.Bars name [Call.key (.findWorkspace name)] f ∧ (workspaceIfAny name).run handler p =
      (.refused f, p.logged [Call.key (.findWorkspace name)]) := by
  unfold workspaceIfAny
  rw [run_bind, run_findWorkspace]
  cases decision : p.rejects (Call.key (.findWorkspace name)) with
  | true => exact .inr (.inr ⟨_, .lookup decision, rfl⟩)
  | false =>
    cases there : p.workspaces name with
    | none => exact .inl ⟨⟨decision, there⟩, rfl⟩
    | some w =>
      simp only [Bool.false_eq_true, if_false, resume, requireReady]
      cases ready : w.state.isSucceeded with
      | true => exact .inr (.inl ⟨w, ⟨decision, there, ready⟩, rfl⟩)
      | false => exact .inr (.inr ⟨_, .state w decision there ready, rfl⟩)

theorem run_start_of_finds {β : Type} (named : p.Named) {w : WorkspaceInfo} (found : p.Finds name w)
    (inside : Session → Remote β) :
    (∃ f, p.Bars name (entrance name) f ∧ (Session.start w >>= inside).run handler
        (p.logged [Call.key (.findWorkspace name)]) = (.refused f, p.logged (entrance name))) ∨
      p.Admits name w ∧ (Session.start w >>= inside).run handler
        (p.logged [Call.key (.findWorkspace name)]) =
          (inside ⟨w⟩).run handler (p.logged (entrance name)) := by
  have own : w.name = name := named name w found.there
  rw [run_bind, run_start, own, logged_logged, rejects_logged]
  cases decision : p.rejects (Call.key (.openSession name)) with
  | true => exact .inl ⟨_, .session w found decision, rfl⟩
  | false => exact .inr ⟨{ found with opened := decision }, rfl⟩

def whenThere {β : Type} (name : String) (missing : Remote β) (inside : WorkspaceInfo → Session → Remote β) :
    Remote β :=
  workspaceIfAny name >>= fun
    | none => missing
    | some w => Session.start w >>= inside w

theorem run_whenThere {β : Type} (named : p.Named) (name : String) (missing : Remote β)
    (inside : WorkspaceInfo → Session → Remote β) :
    (p.Lacks name ∧ (whenThere name missing inside).run handler p =
      missing.run handler (p.logged [Call.key (.findWorkspace name)])) ∨
    (∃ keys f, p.Bars name keys f ∧
      (whenThere name missing inside).run handler p = (.refused f, p.logged keys)) ∨
    ∃ w, p.Admits name w ∧ w.name = name ∧ (whenThere name missing inside).run handler p =
      (inside w ⟨w⟩).run handler (p.logged (entrance name)) := by
  unfold whenThere
  rw [run_bind]
  rcases run_workspaceIfAny p name with ⟨lacks, run⟩ | ⟨w, found, run⟩ | ⟨f, barred, run⟩
  · rw [run]
    exact .inl ⟨lacks, rfl⟩
  · rw [run]
    rcases run_start_of_finds named found (inside w) with ⟨f, barred, run⟩ | ⟨admitted, run⟩
    · exact .inr (.inl ⟨_, f, barred, run⟩)
    · exact .inr (.inr ⟨w, admitted, named name w found.there, run⟩)
  · rw [run]
    exact .inr (.inl ⟨_, f, barred, rfl⟩)

/-- A workspace that must be there is entered like one that need not be. -/
theorem existing_eq_whenThere {β : Type} (name : String) (inside : WorkspaceInfo → Session → Remote β) :
    (existingWorkspace name >>= fun w => Session.start w >>= inside w) =
      whenThere name (Program.fail (noWorkspace name)) inside := by
  unfold existingWorkspace whenThere workspaceIfAny
  rw [bind_assoc, bind_assoc]
  congr 1
  funext found
  cases found with
  | none => rfl
  | some w =>
    simp only [requireReady]
    cases w.state.isSucceeded <;> rfl

end Platform
end Provisioning
