import Provisioning.Yaml.Event

/-!
The first document of a text as a tree.  Where the text ends in trouble the tree ends too: its
last collections are then not closed.  An alias is a leaf that names an anchor by its number.
-/
namespace Provisioning.Yaml

inductive Node where
  | scalar (mark : Mark) (tag : Option String) (text : String) (style : Style)
  | sequence (mark : Mark) (tag : Option String) (items : List Node) (closed : Bool)
  | mapping (mark : Mark) (tag : Option String) (parts : List Node) (closed : Bool)
  | reference (anchor : Nat)
  | nothing (mark : Mark)
  deriving Repr

inductive Stop where
  | troubled (t : Trouble)
  | unknownAnchor (mark : Mark)
  deriving DecidableEq, Repr

structure Document where
  root : Option Node
  anchored : List (Nat × Node)
  stop : Option Stop
  size : Nat
  more : Bool
  deriving Repr

/-- Events of one document with anchors numbered; an alias carries its number. -/
structure Links where
  /-- Events with the numbers of aliases, last first. -/
  linked : List (Event × Nat) := []
  numbers : List (String × Nat) := []
  /-- Places among the events by number, the latest first. -/
  places : List (Nat × Nat) := []
  stop : Option Stop := none

def EventKind.anchor? : EventKind → Option String
  | .scalar p _ _ => p.anchor
  | .sequenceStart p => p.anchor
  | .mappingStart p => p.anchor
  | _ => none

def Links.declare (l : Links) (name : String) : Links :=
  let number := l.numbers.length
  { l with
    numbers := (name, number) :: l.numbers.filter (·.1 != name)
    places := (number, l.linked.length) :: l.places }

def Links.add (l : Links) (e : Event) : Links :=
  let known := match e.kind.anchor? with
    | some name => l.declare name
    | none => l
  { known with linked := (e, 0) :: l.linked }

/-- Link the events up to the end of their document, and say what is left. -/
def Links.ofEvents : Links → List Event → Links × List Event
  | l, [] => (l, [])
  | l, e :: rest =>
    match e.kind with
    | .streamStart | .documentStart => ofEvents l rest
    | .documentEnd => (l, rest)
    | .streamEnd => (l, [])
    | .reference name =>
      match l.numbers.lookup name with
      | some number => ofEvents { l with linked := (e, number) :: l.linked } rest
      | none => ({ l with stop := some (.unknownAnchor e.mark) }, rest)
    | _ => ofEvents (l.add e) rest

mutual
def nodeOf : Nat → List (Event × Nat) → Option (Node × List (Event × Nat))
  | 0, _ => none
  | _, [] => none
  | fuel + 1, (e, number) :: rest =>
    match e.kind with
    | .reference _ => some (.reference number, rest)
    | .scalar p text style => some (.scalar e.mark p.tag text style, rest)
    | .sequenceStart p =>
      let (items, closed, rest) := nodesOf fuel rest
      some (.sequence e.mark p.tag items closed, rest)
    | .mappingStart p =>
      let (parts, closed, rest) := nodesOf fuel rest
      some (.mapping e.mark p.tag parts closed, rest)
    | _ => none

/-- The nodes up to the end of their collection, and whether it is there. -/
def nodesOf : Nat → List (Event × Nat) → List Node × Bool × List (Event × Nat)
  | 0, es => ([], false, es)
  | _, [] => ([], false, [])
  | fuel + 1, e :: rest =>
    match e.1.kind with
    | .sequenceEnd | .mappingEnd => ([], true, rest)
    | _ =>
      match nodeOf fuel (e :: rest) with
      | none => ([], false, [])
      | some (n, rest) =>
        let (ns, closed, rest) := nodesOf fuel rest
        (n :: ns, closed, rest)
end

def nodeFrom (es : List (Event × Nat)) : Option Node := (nodeOf (2 * es.length + 2) es).map (·.1)

/-- Whether anything but the end of the stream is among the events, or trouble behind them. -/
def anyMore (rest : List Event) (trouble : Option Trouble) : Bool :=
  match rest with
  | [] => trouble.isSome
  | e :: _ => e.kind != .streamEnd

def Document.read (text : List Char) : Document :=
  let (es, trouble) := events false text
  let (links, rest) := Links.ofEvents {} es
  let linked := links.linked.reverse
  let stop := match links.stop with
    | some s => some s
    | none =>
      if es.any (fun e => e.kind = .documentEnd || e.kind = .streamEnd) then none
      else trouble.map .troubled
  let root := match linked, es.getLast? with
    | [], some e => if e.kind = .streamEnd then some (.nothing e.mark) else none
    | linked, _ => nodeFrom linked
  { root
    anchored := links.places.filterMap fun (number, place) =>
      (nodeFrom (linked.drop place)).map (number, ·)
    stop
    size := if linked.isEmpty then 1 else linked.length
    more := links.stop.isNone && anyMore rest trouble }

def Node.isComplete : Node → Bool
  | .sequence _ _ items closed => closed && allComplete items
  | .mapping _ _ parts closed => closed && allComplete parts
  | _ => true
where
  allComplete : List Node → Bool
    | [] => true
    | n :: ns => n.isComplete && allComplete ns

end Provisioning.Yaml
