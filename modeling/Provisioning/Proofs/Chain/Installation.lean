import Provisioning.Proofs.Chain.Places
import Provisioning.Proofs.Chain.Readers
import Provisioning.Proofs.Chain.Reconciliation
import Provisioning.Proofs.Platform.Numbers

/-!
What stands when a workload has been provisioned.  Jobs, pipelines and workflows are set up by the
same steps, and differ in how their main object is written.  Each step leaves something on the
platform under the ids that the steps before it have told, and none of the later steps touches it.
-/
namespace Provisioning

open Platform Program

variable {δ α : Type} {p q : Platform} {s : Settings} {a : Accepted} {c : Completion}

/-- What provisioning a workload is to put in place: one object of this name and definition, with levels
on it, and a link to it. -/
structure Installation (δ α : Type) where
  work : Workload
  shelf : Shelf δ α
  name : String
  definition : δ
  object : String → SecuredObject
  levels : ObjectPermissions
  linkKey : String
  linkLabel : String
  linkPath : String

namespace Installation

variable (x : Installation δ α)

def links (v : WorkspaceInfo) (id : String) : JobInfo :=
  [(x.linkKey, .ofLink x.linkLabel x.name ("https://" ++ v.host ++ x.linkPath ++ id)),
   ("workspaceURL", .ofLink "Workspace URL" ("https://" ++ v.host) ("https://" ++ v.host))]

end Installation

namespace Session

variable {session : Session} {object : SecuredObject}

end Session

def Installation.put (x : Installation δ α) (kind : ResourceKind) (g : Ground) : Remote UpsertOutcome :=
  ((g.session.scope kind).upsert (x.shelf.nameOf x.definition) x.definition).through
    (x.shelf.embedding g.session.workspace.name)

structure Installation.Tells (x : Installation δ α) (v : WorkspaceInfo) (id : String) (c : Completion) :
    Prop where
  resource : c.resourceId = some id
  links : ∃ info, c.info = some info ∧ info.filter (·.2.kind == .link) = x.links v id

end Provisioning
