import Provisioning.Record.JobRecord

/-!
The records behind all tokens.  A record that has come to its end stays as it is: writing over it is
refused.  A token without a record reads as a failed job of its own.
-/
namespace Provisioning

structure JobStore where
  records : List JobRecord := []
  deriving Repr

namespace JobStore

def find? (s : JobStore) (t : JobToken) : Option JobRecord := s.records.find? (·.token = t)

def isOpen (s : JobStore) (t : JobToken) : Bool :=
  match s.find? t with
  | some r => !r.status.isTerminal
  | none => true

/-- Write a record, unless that of its token has come to its end; says whether it was written. -/
def put (s : JobStore) (r : JobRecord) : Bool × JobStore :=
  if s.isOpen r.token then (true, ⟨r :: s.records.filter (·.token ≠ r.token)⟩) else (false, s)

def get (s : JobStore) (t : JobToken) (now : Timestamp) : JobRecord :=
  (s.find? t).getD (.notFound t now)

def size (s : JobStore) : Nat := s.records.length

def isEmpty (s : JobStore) : Bool := s.records.isEmpty

end JobStore
end Provisioning
