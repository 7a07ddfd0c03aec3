import Provisioning.Configuration.Value
import Provisioning.Wire.Decode

/-!
Reading a configuration value as a JSON value of a given shape.  Scalars are converted from one
kind to another where that makes sense, a record is read from a table or, by position, from a list,
and names of choices do not depend on case.  A value that cannot be converted is told with its key
and its origin.
-/
namespace Provisioning.Configuration

inductive Shape where
  | word
  | truth
  | text
  | optionalText
  | choice (kind : String) (names : List String)
  | listOf (item : Shape)
  | record (name : String) (fields : List (String × Bool × Shape))

inductive Refusal where
  | mismatch (found : Wire.Found) (expected : String) (path : Option String) (origin : Option String)
  | fault (f : Wire.Fault)
  | unknownChoice (kind name : String)
  | noChoice (kind : String)
  deriving DecidableEq, Repr

namespace Refusal

def whence : Option String → String
  | none => ""
  | some origin => " in " ++ origin

def message : Refusal → String
  | mismatch found expected path origin =>
    (Wire.Fault.wrongType found expected).message .converted ++
    (match path with | none => "" | some p => " for key " ++ Wire.ticked p) ++ whence origin
  | fault f => f.message .yaml
  | unknownChoice kind name => s!"enum {kind} does not have variant constructor {name}"
  | noChoice kind =>
    s!"value of enum {kind} should be represented by either string or table with exactly one key"

def inMember (key : String) : Refusal → Refusal
  | mismatch found expected path origin =>
    mismatch found expected (some (match path with
      | none => key
      | some p => if p.startsWith "[" then key ++ p else key ++ "." ++ p)) origin
  | r => r

def inItem (i : Nat) : Refusal → Refusal
  | mismatch found expected path origin =>
    let item := s!"[{i}]"
    mismatch found expected (some (item ++ path.getD "")) origin
  | r => r

end Refusal

namespace Value

def mismatch (v : Value) (expected : String) : Except Refusal α :=
  .error (.mismatch v.found expected none v.origin)

def wrongKind (v : Value) (expected : String) : Except Refusal α :=
  .error (.fault (.wrongType v.found expected))

def truth? (s : String) : Option Bool :=
  if ["true", "on", "yes"].contains s then some true
  else if ["false", "off", "no"].contains s then some false
  else none

def word? (s : String) : Option Nat :=
  (match s.toList with
    | '+' :: rest => Decimal.natural? rest
    | cs => Decimal.natural? cs).bind fun n => if n < UInt64.size then some n else none

def toWord (v : Value) : Except Refusal Nat :=
  match v with
  | .scalar (.int n) _ => if 0 ≤ n then .ok n.toNat else v.mismatch "an unsigned 64 bit or less integer"
  | .scalar (.bool b) _ => .ok (if b then 1 else 0)
  | .scalar (.float x) _ => .ok x.toWord
  | .scalar (.text s) _ =>
    match truth? (Text.lower s), word? s with
    | some b, _ => .ok (if b then 1 else 0)
    | none, some n => .ok n
    | none, none => v.mismatch "an integer"
  | v => v.mismatch "an integer"

def toTruth (v : Value) : Except Refusal Bool :=
  match v with
  | .scalar (.bool b) _ => .ok b
  | .scalar (.int n) _ => .ok (n != 0)
  | .scalar (.float x) _ => .ok !x.isZero
  | .scalar (.text s) o =>
    let s := Text.lower s
    if s = "1" then .ok true
    else if s = "0" then .ok false
    else match truth? s with
      | some b => .ok b
      | none => mismatch (.scalar (.text s) o) "a boolean"
  | v => v.mismatch "a boolean"

def toText (v : Value) : Except Refusal String :=
  match v with
  | .scalar (.text s) _ => .ok s
  | .scalar (.bool b) _ => .ok (toString b)
  | .scalar (.int n) _ => .ok (toString n)
  | .scalar (.float x) _ => .ok x.text
  | v => v.mismatch "a string"

def isEmpty : Value → Bool
  | .scalar .empty _ => true
  | _ => false

/-- The one of several names that a text or the only key of a table stands for. -/
def toChoice (kind : String) (names : List String) : Value → Except Refusal String
  | .scalar (.text s) _ | .table [(s, _)] _ =>
    match names.find? fun name => Text.lower name = Text.lower s with
    | some name => .ok name
    | none => .error (.unknownChoice kind s)
  | _ => .error (.noChoice kind)

end Value

namespace Shape

def eachItem (f : Value → Except Refusal Json) : Nat → List Value → Except Refusal (List Json)
  | _, [] => .ok []
  | i, v :: vs => do
    let a ← (f v).mapError (Refusal.inItem i)
    let as ← eachItem f (i + 1) vs
    .ok (a :: as)

abbrev Field := String × Bool × Shape

def eachMember (f : Shape → Value → Except Refusal Json) (fields : List Field) :
    List (String × Value) → Except Refusal Json.Members
  | [] => .ok []
  | (key, v) :: rest =>
    match fields.lookup key with
    | none => eachMember f fields rest
    | some (_, shape) => do
      let a ← (f shape v).mapError (Refusal.inMember key)
      let as ← eachMember f fields rest
      .ok ((key, a) :: as)

/-- Fields by position; those that the list does not reach must not be required. -/
def eachPosition (f : Shape → Value → Except Refusal Json) (whole : String) :
    Nat → List Field → List Value → Except Refusal Json.Members
  | _, [], _ => .ok []
  | i, (key, _, shape) :: fields, v :: vs => do
    let a ← (f shape v).mapError (Refusal.inItem i)
    let as ← eachPosition f whole (i + 1) fields vs
    .ok ((key, a) :: as)
  | i, (_, required, _) :: fields, [] =>
    if required then .error (.fault (.wrongLength i whole))
    else eachPosition f whole (i + 1) fields []

def missing? (fields : List Field) (present : Json.Members) : Option String :=
  (fields.find? fun x => x.2.1 && (present.lookup x.1).isNone).map (·.1)

def depth : Nat := 8

def readTo : (levels : Nat) → Shape → Value → Except Refusal Json
  | levels, shape, v =>
    match shape, levels with
    | .word, _ => (fun n : Nat => Json.int n) <$> v.toWord
    | .truth, _ => .bool <$> v.toTruth
    | .text, _ => .text <$> v.toText
    | .optionalText, _ => if v.isEmpty then .ok .null else .text <$> v.toText
    | .choice kind names, _ => .text <$> v.toChoice kind names
    | .listOf item, levels + 1 =>
      match v with
      | .list vs _ => .list <$> eachItem (readTo levels item) 0 vs
      | v => v.wrongKind "a sequence"
    | .record name fields, levels + 1 =>
      match v with
      | .table ms _ => do
        let present ← eachMember (readTo levels) fields ms
        match missing? fields present with
        | some key => .error (.fault (.missingField key))
        | none => .ok (Json.ofMembers present)
      | .list vs _ =>
        Json.ofMembers <$>
          eachPosition (readTo levels) s!"struct {name} with {Wire.elements fields.length}" 0 fields vs
      | v => v.wrongKind s!"struct {name}"
    | _, 0 => .ok .null

def read (shape : Shape) (v : Value) : Except Refusal Json := readTo depth shape v

end Shape
end Provisioning.Configuration
