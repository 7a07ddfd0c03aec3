import Provisioning.Platform.Answer

/-!
Platforms that misbehave: one that breaks off when a certain workspace is asked for, one that cannot
find the repositories it has, and one whose jobs have vanished between listing and reading.
-/
namespace Provisioning.Platform

structure Disturbance where
  abortOn : List String := []
  hideRepositories : Bool := false
  hideJobs : Bool := false
  deriving DecidableEq, Repr

def Disturbance.distort (d : Disturbance) (c : Call) (a : c.Answer) : c.Answer :=
  match c, a with
  | .inside _ (.repositories (.listByPath _)), a => if d.hideRepositories then [] else a
  | .inside _ (.jobs (.get _)), a => if d.hideJobs then none else a
  | .inside _ (.jobs (.delete _)), a => if d.hideJobs then .notFound else a
  | _, a => a

def lookedUp? : Call → Option String
  | .createIfAbsent name _ _ => some name
  | .findWorkspace name => some name
  | _ => none

def Disturbance.aborts (d : Disturbance) (c : Call) : Option String :=
  match lookedUp? c with
  | some name =>
    if d.abortOn.contains name then some s!"gateway exploded on '{name}'" else none
  | none => none

def disturbed (d : Disturbance) : Handler remote Platform := fun c p =>
  match d.aborts c with
  | some message => (.aborted message, p)
  | none =>
    match handler c p with
    | (.answered a, p) => (.answered (d.distort c a), p)
    | other => other

end Provisioning.Platform
