import Provisioning.Wire.Fault

/-!
Decoding JSON values into typed ones.  A record is read from an object by field name or from
a list by position.  In an object the members are met in ascending order of their names, so of
several faulty fields the one with the least name is reported; a missing field is reported only
when no present one is faulty, the first missing one in declared order.  Unknown members are
passed over.
-/
namespace Provisioning.Wire

abbrev Decoder (α : Type) := Json → Except Fault α

def foundIn : Json → Found
  | .null => .unit
  | .bool b => .bool b
  | .number (.int n) => .int n
  | .number (.float x) => .float x
  | .text s => .text s
  | .list _ => .sequence
  | .object _ => .map

def unexpected (v : Json) (expected : String) : Except Fault α :=
  .error (.wrongType (foundIn v) expected)

def text : Decoder String
  | .text s => .ok s
  | v => unexpected v "a string"

def bool : Decoder Bool
  | .bool b => .ok b
  | v => unexpected v "a boolean"

def any : Decoder Json := .ok

/-- A natural number below `bound`; `name` says which kind of number that is. -/
def word (name : String) (bound : Nat) : Decoder Nat
  | .number (.int n) =>
    if 0 ≤ n && n < bound then .ok n.toNat else .error (.wrongValue (.int n) name)
  | v => unexpected v name

def word32 : Decoder Nat := word "u32" UInt32.size

def wordSize : Decoder Nat := word "usize" UInt64.size

def double : Decoder Decimal.Double
  | .number (.float x) => .ok x
  | .number (.int n) =>
    match Decimal.Double.ofInt? n with
    | some x => .ok x
    | none => unexpected (.number (.int n)) "f64"
  | v => unexpected v "f64"

def optional (d : Decoder α) : Decoder (Option α)
  | .null => .ok none
  | v => some <$> d v

def items (d : Decoder α) : List Json → Except Fault (List α)
  | [] => .ok []
  | v :: rest => do
    let a ← d v
    let as ← items d rest
    .ok (a :: as)

def listOf (d : Decoder α) : Decoder (List α)
  | .list vs => items d vs
  | v => unexpected v "a sequence"

def entries (d : Decoder α) : List (String × Json) → Except Fault (List (String × α))
  | [] => .ok []
  | (k, v) :: rest => do
    let a ← d v
    let as ← entries d rest
    .ok ((k, a) :: as)

def mapOf (d : Decoder α) : Decoder (List (String × α))
  | .object ms => entries d ms
  | v => unexpected v "a map"

def oneOf (choices : List (String × α)) : Decoder α
  | .text s => choose s
  | .object [(s, v)] => do
    let a ← choose s
    match v with
    | .null => .ok a
    | v => unexpected v "unit"
  | .object _ => .error (.wrongValue .map "map with a single key")
  | v => unexpected v "string or map"
where
  choose (s : String) : Except Fault α :=
    match choices.lookup s with
    | some a => .ok a
    | none => .error (.unknownVariant s (choices.map (·.1)))

inductive Complaint where
  | faulty (field : String) (fault : Fault)
  | missing (field : String)

/-- Of two complaints, the first given being about the field declared first, the one reported. -/
def Complaint.first : Complaint → Complaint → Complaint
  | .faulty a f, .faulty b g => if b < a then .faulty b g else .faulty a f
  | .faulty a f, .missing _ => .faulty a f
  | .missing _, .faulty b g => .faulty b g
  | .missing a, .missing _ => .missing a

def Complaint.fault : Complaint → Fault
  | .faulty _ f => f
  | .missing a => .missingField a

inductive ListComplaint where
  | faulty (fault : Fault)
  | endsAt (position : Nat)

structure Fields (α : Type) where
  count : Nat
  byName : (String → Option Json) → Except Complaint α
  byPosition : Nat → List Json → Except ListComplaint (α × List Json)

namespace Fields

def given (a : α) : Fields α := ⟨0, fun _ => .ok a, fun _ vs => .ok (a, vs)⟩

def seq (f : Fields (α → β)) (x : Unit → Fields α) : Fields β where
  count := f.count + (x ()).count
  byName look :=
    match f.byName look, (x ()).byName look with
    | .ok g, .ok a => .ok (g a)
    | .error c, .ok _ => .error c
    | .ok _, .error c => .error c
    | .error c, .error d => .error (c.first d)
  byPosition i vs :=
    match f.byPosition i vs with
    | .error c => .error c
    | .ok (g, vs) =>
      match (x ()).byPosition (i + f.count) vs with
      | .error c => .error c
      | .ok (a, vs) => .ok (g a, vs)

instance : Applicative Fields where
  pure := given
  seq := seq

/-- A field whose value is `inObject` when an object lacks it and `inList` when a list does. -/
def field (name : String) (d : Decoder α) (inObject inList : Option α) : Fields α where
  count := 1
  byName look :=
    match look name with
    | some v =>
      match d v with
      | .ok a => .ok a
      | .error f => .error (.faulty name f)
    | none =>
      match inObject with
      | some a => .ok a
      | none => .error (.missing name)
  byPosition i vs :=
    match vs with
    | v :: rest =>
      match d v with
      | .ok a => .ok (a, rest)
      | .error f => .error (.faulty f)
    | [] =>
      match inList with
      | some a => .ok (a, [])
      | none => .error (.endsAt i)

def required (name : String) (d : Decoder α) : Fields α := field name d none none

/-- A field that may be missing or null; in a list its place must be filled. -/
def nullable (name : String) (d : Decoder α) : Fields (Option α) :=
  field name (optional d) (some none) none

def defaulted (name : String) (d : Decoder α) (a : α) : Fields α := field name d (some a) (some a)

def maybe (name : String) (d : Decoder α) : Fields (Option α) := defaulted name (optional d) none

end Fields

def elements (n : Nat) : String := if n = 1 then "1 element" else s!"{n} elements"

def record (name : String) (fields : Fields α) : Decoder α
  | .object ms =>
    match fields.byName (fun key => ms.lookup key) with
    | .ok a => .ok a
    | .error c => .error c.fault
  | .list vs =>
    match fields.byPosition 0 vs with
    | .ok (a, []) => .ok a
    | .ok (_, _ :: _) => .error (.wrongLength vs.length "fewer elements in array")
    | .error (.faulty f) => .error f
    | .error (.endsAt i) => .error (.wrongLength i s!"struct {name} with {elements fields.count}")
  | v => unexpected v s!"struct {name}"

end Provisioning.Wire
