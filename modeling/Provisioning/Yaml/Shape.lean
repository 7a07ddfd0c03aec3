import Provisioning.Wire.Decode
import Provisioning.Yaml.Node
import Provisioning.Yaml.Plain

/-!
Reading a document into a JSON value of a given shape.  A text takes any scalar as it is written,
a record takes its fields in the order in which the document has them, and a free place takes
anything.  What is refused is told with the path to it and its place in the text.
-/
namespace Provisioning.Yaml

inductive Shape where
  | text
  | optionalText
  | free
  | listOf (item : Shape)
  | record (name : String) (fields : List (String × Bool × Shape))

abbrev Path := Option String

namespace Path

def field (p : Path) (key : String) : Path :=
  match p with
  | none => some key
  | some p => some (p ++ "." ++ key)

def item (p : Path) (i : Nat) : Path := some (p.getD "." ++ s!"[{i}]")

def unnamed (p : Path) : Path := p.field "?"

end Path

inductive Refusal where
  | fault (f : Wire.Fault) (place : Option (Path × Mark))
  | stopped (s : Stop)
  | tooDeep (mark : Mark)
  | tooManyAliases
  | endOfText
  | severalDocuments

def phraseAt (m : Mark) : String := if m.isNamed then " at " ++ m.phrase else ""

def Refusal.message : Refusal → String
  | fault f none => f.message .yaml
  | fault f (some (path, mark)) =>
    (match path with | none => "" | some p => p ++ ": ") ++ f.message .yaml ++ phraseAt mark
  | stopped (.troubled t) => t.describe
  | stopped (.unknownAnchor mark) => "unknown anchor" ++ phraseAt mark
  | tooDeep mark => "recursion limit exceeded" ++ phraseAt mark
  | tooManyAliases => "repetition limit exceeded"
  | endOfText => "EOF while parsing a value"
  | severalDocuments => "deserializing from YAML containing more than one document is not supported"

/-- Reading counts the aliases that it follows. -/
abbrev Visit := StateT Nat (Except Refusal)

namespace Visit

def refuse (f : Wire.Fault) : Visit α := throw (.fault f none)

def placed (path : Path) (mark : Mark) (v : Visit α) : Visit α := fun n =>
  match v n with
  | .error (.fault f none) => .error (.fault f (some (path, mark)))
  | r => r

end Visit

open Visit

namespace Document

def stopped (d : Document) : Visit α :=
  match d.stop with
  | some s => throw (.stopped s)
  | none => throw .endOfText

/-- The node that an alias stands for; a hundred aliases for every event is the limit. -/
def follow (d : Document) : Node → Visit Node
  | .reference number => do
    let n ← get
    if n + 1 > d.size * 100 then throw .tooManyAliases
    set (n + 1)
    match d.anchored.lookup number with
    | some node => pure node
    | none => d.stopped
  | node => pure node

def wrongType (node : Node) (expected : String) : Visit α :=
  match node with
  | .scalar _ tag text style =>
    match Meaning.ofScalar tag text style with
    | .ok m => refuse (.wrongType m.found expected)
    | .error f => refuse f
  | .sequence .. => refuse (.wrongType .sequence expected)
  | .mapping .. => refuse (.wrongType .map expected)
  | .reference _ | .nothing _ => throw .endOfText

def markOf : Node → Mark
  | .scalar m .. | .sequence m .. | .mapping m .. | .nothing m => m
  | .reference _ => Mark.start

def text (d : Document) (expected : String) (path : Path) (node : Node) : Visit String := do
  let node ← d.follow node
  placed path (markOf node) <|
    match node with
    | .scalar _ _ s _ => pure s
    | node => wrongType node expected

def pathOf (path : Path) : Node → Path
  | .scalar _ _ key _ => path.field key
  | _ => path.unnamed

/-- Whether a node stands for the empty value, as far as an optional text goes. -/
def isAbsent : Node → Except Wire.Fault Bool
  | .scalar _ tag s style =>
    if style != .plain then .ok false
    else match tag with
      | some tag =>
        if tag = nullTag then
          if isNull s then .ok true else .error (.wrongValue (.text s) "null")
        else .ok false
      | none => .ok (s.isEmpty || isNull s)
  | .nothing _ => .ok true
  | _ => .ok false

def optionalText (d : Document) (path : Path) (node : Node) : Visit Json := do
  let node ← d.follow node
  match isAbsent node with
  | .ok true => pure .null
  | .ok false => Json.text <$> d.text "a string" path node
  | .error f => refuse f

def isEmptyPlace : Node → Bool
  | .scalar _ _ s style => s.isEmpty && style == .plain
  | .nothing _ => true
  | _ => false

def eachItem (d : Document) (f : Nat → Node → Visit Json) (closed : Bool) :
    Nat → List Node → Visit (List Json)
  | _, [] => if closed then pure [] else d.stopped
  | i, n :: ns => do
    let v ← f i n
    let vs ← eachItem d f closed (i + 1) ns
    pure (v :: vs)

def eachMember (d : Document) (f : Path → Node → Visit Json) (path : Path) (closed : Bool) :
    (expected : String) → List Node → Visit Json.Members
  | _, [] => if closed then pure [] else d.stopped
  | expected, [k] => do
    let _ ← d.text expected path k
    d.stopped
  | expected, k :: v :: rest => do
    let key ← d.text expected path k
    let value ← f (pathOf path k) v
    let more ← eachMember d f path closed "a string" rest
    pure ((key, value) :: more)

def hasOwnTag : Option String → Bool
  | some tag => tag.startsWith "!"
  | none => false

def free (d : Document) : (depth : Nat) → Path → Node → Visit Json
  | depth, path, node => do
    let node ← d.follow node
    let refuseTag : Visit Json := refuse (.wrongType .tagged "any valid JSON value")
    placed path (markOf node) <|
      match node, depth with
      | .scalar _ tag s style, _ =>
        if hasOwnTag tag then refuseTag
        else match (Meaning.ofScalar tag s style).bind Meaning.toJson with
          | .ok v => pure v
          | .error f => refuse f
      | .sequence mark tag items closed, depth =>
        if hasOwnTag tag then refuseTag
        else match depth with
          | 0 => throw (.tooDeep mark)
          | depth + 1 => Json.list <$> d.eachItem (fun i n => free d depth (path.item i) n) closed 0 items
      | .mapping mark tag parts closed, depth =>
        if hasOwnTag tag then refuseTag
        else match depth with
          | 0 => throw (.tooDeep mark)
          | depth + 1 =>
            Json.ofMembers <$> d.eachMember (fun p n => free d depth p n) path closed "a string key" parts
      | .nothing _, _ => pure .null
      | .reference _, _ => throw .endOfText

def ignore (d : Document) (node : Node) : Visit Unit :=
  if node.isComplete then pure () else d.stopped

def eachField (d : Document) (fields : List (String × Bool × Shape))
    (f : Shape → Path → Node → Visit Json) (path : Path) (closed : Bool) :
    (seen : Json.Members) → List Node → Visit Json.Members
  | seen, [] => if closed then pure seen else d.stopped
  | seen, k :: rest => do
    let key ← d.text "field identifier" path k
    match fields.lookup key with
    | none =>
      match rest with
      | [] => d.stopped
      | v :: rest => do
        d.ignore v
        eachField d fields f path closed seen rest
    | some (_, shape) =>
      if (seen.lookup key).isSome then refuse (.duplicateField key)
      else match rest with
        | [] => d.stopped
        | v :: rest => do
          let value ← f shape (pathOf path k) v
          eachField d fields f path closed ((key, value) :: seen) rest

def missing? (fields : List (String × Bool × Shape)) (seen : Json.Members) : Option String :=
  (fields.find? fun x => x.2.1 && (seen.lookup x.1).isNone).map (·.1)

def record (fields : List (String × Bool × Shape)) (seen : Json.Members) : Visit Json :=
  match missing? fields seen with
  | some name => refuse (.missingField name)
  | none => pure (Json.ofMembers seen)

def visit (d : Document) : (depth : Nat) → Shape → Path → Node → Visit Json
  | depth, shape, path, node =>
    match shape with
    | .text => Json.text <$> d.text "a string" path node
    | .optionalText => d.optionalText path node
    | .free => d.free depth path node
    | .listOf item => do
      let node ← d.follow node
      placed path (markOf node) <|
        match node, depth with
        | .sequence mark _ _ _, 0 => throw (.tooDeep mark)
        | .sequence _ _ items closed, depth + 1 =>
          Json.list <$> d.eachItem (fun i n => visit d depth item (path.item i) n) closed 0 items
        | node, _ => if isEmptyPlace node then pure (.list []) else wrongType node "a sequence"
    | .record name fields => do
      let node ← d.follow node
      placed path (markOf node) <|
        match node, depth with
        | .mapping mark _ _ _, 0 => throw (.tooDeep mark)
        | .mapping _ _ parts closed, depth + 1 => do
          let seen ← d.eachField fields (fun s p n => visit d depth s p n) path closed [] parts
          record fields seen
        | node, _ => if isEmptyPlace node then record fields [] else wrongType node s!"struct {name}"

def levels : Nat := 128

end Document

def Shape.read (shape : Shape) (source : List Char) : Except Refusal Json := do
  let d := Document.read source
  let v ← match d.root with
    | some root => Prod.fst <$> (d.visit Document.levels shape none root).run 0
    | none => Prod.fst <$> (d.stopped : Visit Json).run 0
  match d.stop with
  | some s => .error (.stopped s)
  | none => if d.more then .error .severalDocuments else .ok v

end Provisioning.Yaml
