import Provisioning.Decimal.Extended
import Provisioning.Yaml.Event
import Provisioning.Yaml.Plain

/-!
The documents of a text as trees, by a strict reading.  A node with an anchor is kept when it is
complete, and an alias stands for it from then on.  Keys that occur twice in a mapping are refused
once the form of the whole text is known to be right.
-/
namespace Provisioning.Yaml

/-- A scalar by the core rules: a fraction keeps its text. -/
inductive Scalar where
  | null
  | bool (b : Bool)
  | int (n : Int)
  | real (text : String)
  | text (s : String)
  deriving DecidableEq, Repr

namespace Scalar

def word? (n : Int) : Option Int :=
  if -0x8000000000000000 ≤ n && n < 0x8000000000000000 then some n else none

def signedIn? (base : Nat) (cs : List Char) : Option Int :=
  let (negative, ds) := Decimal.splitSign cs
  ((naturalIn? base ds).map fun n => if negative then -(n : Int) else n).bind word?

/-- An integer marked by its base, or by a plus sign before all others. -/
def marked? : List Char → Option Int
  | '0' :: 'x' :: rest => signedIn? 16 rest
  | '0' :: 'o' :: rest => signedIn? 8 rest
  | '+' :: rest => (Decimal.integer? rest).bind word?
  | _ => none

def integer? (s : String) : Option Int :=
  (marked? s.toList).orElse fun _ => (Decimal.integer? s.toList).bind word?

def isReal (s : String) : Bool :=
  (unbounded? s).isSome || (s.toList.any Char.isDigit && (Decimal.Extended.parse? s.toList).isSome)

def isNull (s : String) : Bool := ["~", "null"].contains s

def ofPlain (s : String) : Scalar :=
  if isNull s then .null
  else match truth? s, integer? s with
    | some b, _ => .bool b
    | none, some n => .int n
    | none, none => if isReal s then .real s else .text s

/-- A scalar of the kind that its tag names; the empty value when the text spells none. -/
def ofTag (tag s : String) : Scalar :=
  if tag = boolTag then if s = "true" then .bool true else if s = "false" then .bool false else .null
  else if tag = intTag then (((Decimal.integer? s.toList).bind word?).map .int).getD .null
  else if tag = floatTag then if isReal s then .real s else .null
  else if tag = nullTag then .null
  else .text s

/-- The meaning of a scalar.  A node that is not written at all is the empty value; one that has
only an anchor is an empty text. -/
def ofEvent (p : Properties) (s : String) : Style → Scalar
  | .plain =>
    if s.isEmpty && p.anchor.isNone && p.tag.isNone then .null
    else (p.tag.map (ofTag · s)).getD (ofPlain s)
  | _ => .text s

def inspect : Scalar → String
  | .null => "Null"
  | .bool b => s!"Boolean({b})"
  | .int n => s!"Integer({n})"
  | .real s => "Real(" ++ Text.quoted s ++ ")"
  | .text s => "String(" ++ Text.quoted s ++ ")"

end Scalar

inductive Tree where
  | scalar (s : Scalar)
  | list (items : List Tree)
  | table (members : List (Scalar × Tree))
  deriving Repr, Inhabited

inductive Obstacle where
  | troubled (t : Trouble)
  | unknownAnchor (place : Mark)
  | repeatedKey (key : Scalar) (place : Mark)
  deriving DecidableEq, Repr

def Obstacle.message : Obstacle → String
  | troubled t => t.brief
  | unknownAnchor place => "while parsing node, found unknown anchor" ++ place.briefPhrase
  | repeatedKey key place => key.inspect ++ ": duplicated key in mapping" ++ place.briefPhrase

namespace Tree

/-- What a collection holds so far, last first; a mapping may have a key without its value. -/
inductive Contents where
  | list (items : List Tree)
  | table (members : List (Scalar × Tree)) (key : Option Tree)

def Contents.tree : Contents → Tree
  | .list items => .list items.reverse
  | .table members _ => .table members.reverse

structure Frame where
  anchor : Option Nat
  contents : Contents

structure Growth where
  frames : List Frame := []
  numbers : List (String × Nat) := []
  anchored : List (Nat × Tree) := []
  anchors : Nat := 0
  root : Option Tree := none
  documents : List Tree := []
  repeated : Option (Scalar × Mark) := none

namespace Growth

def null : Tree := .scalar .null

/-- Give the node that begins here the next number, if it has an anchor. -/
def declare (anchor : Option String) (g : Growth) : Option Nat × Growth :=
  match anchor with
  | none => (none, g)
  | some name =>
    (some g.anchors, { g with numbers := (name, g.anchors) :: g.numbers, anchors := g.anchors + 1 })

def place (t : Tree) (mark : Mark) (g : Growth) : Growth :=
  match g.frames with
  | [] => { g with root := some t }
  | ⟨anchor, .list items⟩ :: rest => { g with frames := ⟨anchor, .list (t :: items)⟩ :: rest }
  | ⟨anchor, .table members none⟩ :: rest =>
    { g with frames := ⟨anchor, .table members (some t)⟩ :: rest }
  | ⟨anchor, .table members (some (.scalar key))⟩ :: rest =>
    let repeated := if members.any (·.1 = key) then some (key, mark) else none
    { g with
      frames := ⟨anchor, .table ((key, t) :: members) none⟩ :: rest
      repeated := g.repeated.orElse fun _ => repeated }
  | ⟨anchor, .table members (some _)⟩ :: rest =>
    { g with frames := ⟨anchor, .table members none⟩ :: rest }

def finish (anchor : Option Nat) (t : Tree) (mark : Mark) (g : Growth) : Growth :=
  match anchor with
  | none => g.place t mark
  | some n => ({ g with anchored := (n, t) :: g.anchored }).place t mark

def openFrame (anchor : Option String) (contents : Contents) (g : Growth) : Growth :=
  let (n, g) := g.declare anchor
  { g with frames := ⟨n, contents⟩ :: g.frames }

def close (mark : Mark) (g : Growth) : Growth :=
  match g.frames with
  | [] => g
  | f :: rest => ({ g with frames := rest }).finish f.anchor f.contents.tree mark

def step (g : Growth) (e : Event) : Except Obstacle Growth :=
  match e.kind with
  | .streamStart | .streamEnd => .ok g
  | .documentStart => .ok { g with numbers := [] }
  | .documentEnd => .ok { g with root := none, documents := g.root.getD null :: g.documents }
  | .reference name =>
    match g.numbers.lookup name with
    | none => .error (.unknownAnchor e.mark)
    | some n => .ok (g.place ((g.anchored.lookup n).getD null) e.mark)
  | .scalar p s style =>
    let (n, g) := g.declare p.anchor
    .ok (g.finish n (.scalar (Scalar.ofEvent p s style)) e.mark)
  | .sequenceStart p => .ok (g.openFrame p.anchor (.list []))
  | .mappingStart p => .ok (g.openFrame p.anchor (.table [] none))
  | .sequenceEnd | .mappingEnd => .ok (g.close e.mark)

def run : Growth → List Event → Except Obstacle Growth
  | g, [] => .ok g
  | g, e :: rest =>
    match g.step e with
    | .ok g => run g rest
    | .error o => .error o

end Growth

def readAll (text : String) : Except Obstacle (List Tree) := do
  let (es, trouble) := events true text.toList
  let g ← Growth.run {} es
  match trouble, g.repeated with
  | some t, _ => .error (.troubled t)
  | none, some (key, mark) => .error (.repeatedKey key mark)
  | none, none => .ok g.documents.reverse

end Tree
end Provisioning.Yaml
