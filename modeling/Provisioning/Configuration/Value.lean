import Provisioning.Text.Case
import Provisioning.Decimal.Extended
import Provisioning.Wire.Fault

/-!
Values that configuration sources give, each with the place that it comes from, and how one is put
into another.  Tables are joined member by member; anything else takes the place of what was there.
Keys do not depend on case.
-/
namespace Provisioning.Configuration

inductive Scalar where
  | empty
  | bool (b : Bool)
  | int (n : Int)
  | float (x : Decimal.Extended)
  | text (s : String)
  deriving DecidableEq, Repr

def Scalar.found : Scalar → Wire.Found
  | .empty => .unit
  | .bool b => .bool b
  | .int n => .int n
  | .float (.finite x) => .float x
  | .float x => .unbounded x.text
  | .text s => .text s

inductive Value where
  | scalar (s : Scalar) (origin : Option String)
  | list (items : List Value) (origin : Option String)
  | table (members : List (String × Value)) (origin : Option String)
  deriving Repr, Inhabited

namespace Value

def found : Value → Wire.Found
  | .scalar s _ => s.found
  | .list _ _ => .sequence
  | .table _ _ => .map

def empty : Value := .scalar .empty none

def noMembers : Value := .table [] none

def origin : Value → Option String
  | .scalar _ o | .list _ o | .table _ o => o

/-- Change the members of a table; whatever else stands there becomes a table first. -/
def onMembers (f : Keyed Value → Keyed Value) : Value → Value
  | .table ms o => .table (f ms) o
  | _ => .table (f []) none

/-- The place that an index means in a list of `length` items; a negative one counts from the end. -/
def position (length : Nat) (i : Int) : Nat :=
  if 0 ≤ i then i.toNat else length - i.natAbs

/-- Change one item of a list, which grows as needed; whatever else stands there becomes a list
first. -/
def onItem (i : Int) (f : Value → Value) : Value → Value
  | .list vs o => .list (change vs) o
  | _ => .list (change []) none
where
  change (vs : List Value) : List Value :=
    let n := position vs.length i
    let vs := vs ++ List.replicate (n + 1 - vs.length) empty
    vs.modify n f

mutual
def put (key : String) : Value → Value → Value
  | .table incoming _, target =>
    target.onMembers fun ms => ms.insert key (putAll incoming ((ms.find? key).getD noMembers))
  | .scalar s o, target => target.onMembers (Keyed.insert key (.scalar s o))
  | .list vs o, target => target.onMembers (Keyed.insert key (.list vs o))

def putAll : List (String × Value) → Value → Value
  | [], target => target
  | (key, v) :: rest, target => putAll rest (put (Text.lower key) v target)
end

end Value
end Provisioning.Configuration
