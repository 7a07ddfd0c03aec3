import Provisioning.Decimal.Shortest
import Provisioning.Keyed

/-!
JSON values.  An integer that fits 64 bits, with or without sign, stays an integer; any other
number is a finite binary fraction, and the two kinds are never the same value.  The members
of an object stand in ascending order of their keys, each key once; `ofMembers` builds such a
list and `put` keeps it.
-/
namespace Provisioning

inductive Number where
  | int (n : Int)
  | float (x : Decimal.Double)
  deriving DecidableEq, Repr

inductive Json where
  | null
  | bool (b : Bool)
  | number (n : Number)
  | text (s : String)
  | list (items : List Json)
  | object (members : List (String × Json))
  deriving Repr, Inhabited

def Number.isWord (n : Int) : Bool := -0x8000000000000000 ≤ n && n < UInt64.size

def Number.same : Number → Number → Bool
  | .int a, .int b => a == b
  | .float a, .float b => a.same b
  | _, _ => false

namespace Json

abbrev Members := Keyed Json

/-- Give `key` the value `v`, in its place in the order. -/
def put (key : String) (v : Json) (ms : Members) : Members := Keyed.insert key v ms

/-- The object with these members; of two with one key the later counts. -/
def ofMembers (ms : Members) : Json :=
  .object (ms.foldl (fun acc m => put m.1 m.2 acc) [])

def int (n : Int) : Json := .number (.int n)

def texts (ss : List String) : Json := .list (ss.map .text)

def ofOption (f : α → Json) : Option α → Json
  | none => .null
  | some a => f a

def member? (key : String) : Json → Option Json
  | .object ms => ms.lookup key
  | _ => none

def asText? : Json → Option String
  | .text s => some s
  | _ => none

def asList? : Json → Option (List Json)
  | .list items => some items
  | _ => none

def isObject : Json → Bool
  | .object _ => true
  | _ => false

mutual
/-- Equal as values: numbers compare as numbers of their kind, all else by its parts. -/
def same : Json → Json → Bool
  | .null, .null => true
  | .bool a, .bool b => a == b
  | .number a, .number b => a.same b
  | .text a, .text b => a == b
  | .list a, .list b => sameItems a b
  | .object a, .object b => sameMembers a b
  | _, _ => false

def sameItems : List Json → List Json → Bool
  | [], [] => true
  | a :: as, b :: bs => same a b && sameItems as bs
  | _, _ => false

def sameMembers : List (String × Json) → List (String × Json) → Bool
  | [], [] => true
  | (k, a) :: as, (l, b) :: bs => k == l && same a b && sameMembers as bs
  | _, _ => false
end

end Json
end Provisioning
