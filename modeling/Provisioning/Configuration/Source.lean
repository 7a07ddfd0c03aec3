import Provisioning.Configuration.KeyPath
import Provisioning.Yaml.Tree

/-!
Where configuration comes from: YAML files and environment variables, each giving one layer.
-/
namespace Provisioning.Configuration

inductive Unreadable where
  | obstacle (o : Yaml.Obstacle)
  | severalDocuments (n : Nat)
  | noNumber (text : String)
  | noTable (found : Wire.Found) (file : String)
  deriving DecidableEq, Repr

def Unreadable.message : Unreadable → String
  | obstacle o => o.message
  | severalDocuments n => s!"Got {n} YAML documents, expected 1"
  | noNumber text => s!"Parsing {text} as floating point number failed"
  | noTable found file => (Wire.Fault.wrongType found "a map").message .converted ++ " in " ++ file

namespace Value

def ofScalar (origin : String) : Yaml.Scalar → Except Unreadable Value
  | .null => .ok (.scalar .empty origin)
  | .bool b => .ok (.scalar (.bool b) origin)
  | .int n => .ok (.scalar (.int n) origin)
  | .text s => .ok (.scalar (.text s) origin)
  | .real text =>
    match Decimal.Extended.parse? text.toList with
    | some x => .ok (.scalar (.float x) origin)
    | none => .error (.noNumber text)

def keyName? : Yaml.Scalar → Option String
  | .text s => some s
  | .int n => some (toString n)
  | _ => none

mutual
def ofTree (origin : String) : Yaml.Tree → Except Unreadable Value
  | .scalar s => ofScalar origin s
  | .list ts => do
    let vs ← ofTrees origin ts
    .ok (.list vs origin)
  | .table ms => do
    let ms ← ofMembers origin [] ms
    .ok (.table ms origin)

def ofTrees (origin : String) : List Yaml.Tree → Except Unreadable (List Value)
  | [] => .ok []
  | t :: ts => do
    let v ← ofTree origin t
    let vs ← ofTrees origin ts
    .ok (v :: vs)

def ofMembers (origin : String) (sofar : Keyed Value) :
    List (Yaml.Scalar × Yaml.Tree) → Except Unreadable (Keyed Value)
  | [] => .ok sofar
  | (key, t) :: rest => do
    let v ← ofTree origin t
    match keyName? key with
    | some name => ofMembers origin (sofar.insert name v) rest
    | none => ofMembers origin sofar rest
end

end Value

namespace Layer

/-- The layer of a file: its only document must be a table, and no document gives nothing. -/
def ofFile (file text : String) : Except Unreadable Layer := do
  match Yaml.Tree.readAll text with
  | .error o => .error (.obstacle o)
  | .ok [] => .ok []
  | .ok [t] =>
    match ← Value.ofTree file t with
    | .table ms _ => .ok ms
    | v => .error (.noTable v.found file)
  | .ok ts => .error (.severalDocuments ts.length)

def environment : String := "the environment"

/-- What the value of a variable stands for: a truth value, a number or else a text. -/
def ofVariableValue (s : String) : Scalar :=
  let lowered := Text.lower s
  if lowered = "true" then .bool true
  else if lowered = "false" then .bool false
  else match (Decimal.integer? s.toList).bind Yaml.Scalar.word?, Decimal.Extended.parse? s.toList with
    | some n, _ => .int n
    | none, some x => .float x
    | none, none => .text s

def pointed : List Char → List Char
  | '_' :: '_' :: rest => '.' :: pointed rest
  | c :: rest => c :: pointed rest
  | [] => []

def variableStart : String := "provisioner__"

def ofVariables (bindings : List (String × String)) : Layer :=
  bindings.filterMap fun (name, s) =>
    (Text.after? variableStart (Text.lower name)).map fun key =>
      (String.ofList (pointed key.toList), .scalar (ofVariableValue s) (some environment))

end Layer
end Provisioning.Configuration
