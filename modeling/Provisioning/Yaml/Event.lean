import Provisioning.Yaml.Tokens

/-!
Events: what a text says once its marks are understood, one event for a scalar, an alias and the
begin and end of a collection, a document and the stream.  What is still expected stands on a
stack, so that all events before a trouble are known.
-/
namespace Provisioning.Yaml

structure Properties where
  anchor : Option String := none
  tag : Option String := none
  deriving DecidableEq, Repr

inductive EventKind where
  | streamStart
  | streamEnd
  | documentStart
  | documentEnd
  | reference (name : String)
  | scalar (properties : Properties) (text : String) (style : Style)
  | sequenceStart (properties : Properties)
  | sequenceEnd
  | mappingStart (properties : Properties)
  | mappingEnd
  deriving DecidableEq, Repr

structure Event where
  kind : EventKind
  mark : Mark
  deriving DecidableEq, Repr

/-- What comes next; the marks tell where the open collection begins. -/
inductive Expected where
  | stream
  | firstDocument
  | document
  | content
  | documentEnd
  | node
  | blockEntry (start : Mark)
  /-- An entry of a sequence that is not indented against its key. -/
  | levelEntry
  | blockKey (start : Mark)
  | blockValue (start : Mark)
  | flowEntry (start : Mark) (first : Bool)
  | pairKey
  | pairValue
  | pairEnd
  | flowKey (start : Mark) (first : Bool)
  | flowValue (start : Mark)
  | flowNoValue (start : Mark)
  deriving DecidableEq, Repr

structure Reading where
  tokens : List Token
  trouble : Option Trouble
  strict : Bool := false
  expected : List Expected := [.stream]
  handles : List (String × String) := []

inductive Halt where
  | finished
  | troubled (t : Trouble)

abbrev Step := Except Halt (Event × Reading)

namespace Reading

def peek (r : Reading) : Except Halt Token :=
  match r.tokens with
  | t :: _ => .ok t
  | [] => .error (match r.trouble with | some t => .troubled t | none => .finished)

def skip (r : Reading) : Reading := { r with tokens := r.tokens.tail }

def answer (kind : EventKind) (mark : Mark) (expected : List Expected) (r : Reading) : Step :=
  .ok (⟨kind, mark⟩, { r with expected })

def empty (mark : Mark) (properties : Properties) (expected : List Expected) (r : Reading) : Step :=
  r.answer (.scalar properties "" .plain) mark expected

def wrong (t : Token) (cause : Cause) (inside : Option (Construct × Mark)) : Except Halt α :=
  .error (.troubled ⟨cause, t.start, inside, 0⟩)

def defaultHandles : List (String × String) := [("!", "!"), ("!!", "tag:yaml.org,2002:")]

def directives : Nat → (seenVersion : Bool) → Reading → Except Halt Reading
  | 0, _, r => .ok r
  | fuel + 1, seenVersion, r => do
    let t ← r.peek
    match t.kind with
    | .version major minor =>
      if seenVersion then wrong t .repeatedVersion none
      else if !r.strict && (major != 1 || !(minor = 1 || minor = 2)) then wrong t .wrongVersion none
      else directives fuel true r.skip
    | .tagHandle handle start =>
      if (r.handles.lookup handle).isSome then wrong t .repeatedTag none
      else directives fuel seenVersion { r.skip with handles := r.handles ++ [(handle, start)] }
    | _ => .ok { r with handles := r.handles ++ defaultHandles }

/-- An anchor and a tag, in either order, each at most once. -/
def properties (r : Reading) : Except Halt (Option String × Option (Token × String × String) × Reading) := do
  let t ← r.peek
  match t.kind with
  | .anchor name =>
    let r := r.skip
    let u ← r.peek
    match u.kind with
    | .tag handle text => .ok (some name, some (u, handle, text), r.skip)
    | _ => .ok (some name, none, r)
  | .tag handle text =>
    let r := r.skip
    let u ← r.peek
    match u.kind with
    | .anchor name => .ok (some name, some (t, handle, text), r.skip)
    | _ => .ok (none, some (t, handle, text), r)
  | _ => .ok (none, none, r)

def resolveTag (r : Reading) (start : Mark) :
    Option (Token × String × String) → Except Halt (Option String)
  | none => .ok none
  | some (t, handle, text) =>
    if handle.isEmpty then .ok (some text)
    else match r.handles.lookup handle with
      | some front => .ok (some (front ++ text))
      | none => wrong t .undefinedHandle (some (.node, start))

/-- A node; `block` tells whether blocks may begin here, `level` whether a sequence may that is not
indented. -/
def node (block level : Bool) (next : List Expected) (r : Reading) : Step := do
  let t ← r.peek
  match t.kind with
  | .reference name => r.skip.answer (.reference name) t.start next
  | _ =>
    let start := t.start
    let (anchor, tag, r) ← r.properties
    let tag ← r.resolveTag start tag
    let properties : Properties := ⟨anchor, tag⟩
    let t ← r.peek
    match t.kind with
    | .dash =>
      if level then r.answer (.sequenceStart properties) start (.levelEntry :: next)
      else other start properties t r
    | .scalar text style =>
      let tag := if tag = some "!" then none else tag
      r.skip.answer (.scalar ⟨anchor, tag⟩ text style) start next
    | .openBracket => r.skip.answer (.sequenceStart properties) start (.flowEntry t.start true :: next)
    | .openBrace => r.skip.answer (.mappingStart properties) start (.flowKey t.start true :: next)
    | .blockSequence =>
      if block then r.skip.answer (.sequenceStart properties) start (.blockEntry t.start :: next)
      else other start properties t r
    | .blockMapping =>
      if block then r.skip.answer (.mappingStart properties) start (.blockKey t.start :: next)
      else other start properties t r
    | _ => other start properties t r
where
  other (start : Mark) (properties : Properties) (t : Token) (r : Reading) : Step :=
    if properties.anchor.isSome || properties.tag.isSome then r.empty start properties next
    else wrong t .noContent (some (if block then .blockNode else .flowNode, start))

/-- A node, or an empty one at `mark` when one of the tokens in `enders` comes instead. -/
def nodeUnless (enders : List TokenKind) (mark : Option Mark) (block level : Bool)
    (next : List Expected) (r : Reading) : Step := do
  let t ← r.peek
  if enders.contains t.kind then r.empty (mark.getD t.start) {} next
  else r.node block level next

def close (kind : EventKind) (t : Token) (next : List Expected) (r : Reading) : Step :=
  r.skip.answer kind t.start next

def skipEnds : Nat → Reading → Reading
  | 0, r => r
  | fuel + 1, r =>
    match r.tokens with
    | t :: _ => if t.kind = .documentEnd then skipEnds fuel r.skip else r
    | [] => r

def explicitDocument (r : Reading) : Step := do
  let t ← r.peek
  if t.kind = .streamEnd then r.skip.answer .streamEnd t.start []
  else
    let r ← directives r.tokens.length false { r with handles := [] }
    let u ← r.peek
    if u.kind = .documentStart then r.skip.answer .documentStart t.start [.content, .documentEnd]
    else wrong u .noDocumentStart none

def isDirective : TokenKind → Bool
  | .version _ _ | .tagHandle _ _ => true
  | _ => false

def beginsDocument : TokenKind → Bool
  | .version _ _ | .tagHandle _ _ | .documentStart | .streamEnd => true
  | _ => false

def step (r : Reading) : Step := do
  match r.expected with
  | [] => .error .finished
  | now :: next =>
    let t ← r.peek
    match now with
    | .stream => r.skip.answer .streamStart t.start [.firstDocument]
    | .firstDocument =>
      let r := if r.strict then skipEnds r.tokens.length r else r
      let t ← r.peek
      if beginsDocument t.kind then r.explicitDocument
      else
        ({ r with handles := defaultHandles } : Reading).answer .documentStart t.start
          [.node, .documentEnd]
    | .document => (skipEnds r.tokens.length r).explicitDocument
    | .content =>
      if beginsDocument t.kind || t.kind = .documentEnd then r.empty t.start {} next
      else r.node true false next
    | .documentEnd =>
      if t.kind = .documentEnd then
        r.skip.answer .documentEnd t.start [if r.strict then .firstDocument else .document]
      else if r.strict && isDirective t.kind then wrong t .unendedDocument none
      else r.answer .documentEnd t.start [.document]
    | .node => r.node true false next
    | .blockEntry start =>
      match t.kind with
      | .dash => r.skip.nodeUnless [.dash, .blockEnd] (some t.stop) true false r.expected
      | .blockEnd => r.close .sequenceEnd t next
      | _ => wrong t .noDash (some (.blockCollection, start))
    | .levelEntry =>
      match t.kind with
      | .dash => r.skip.nodeUnless [.dash, .key, .value, .blockEnd] (some t.stop) true false r.expected
      | _ => r.answer .sequenceEnd t.start next
    | .blockKey start =>
      match t.kind with
      | .key =>
        r.skip.nodeUnless [.key, .value, .blockEnd] (some t.stop) true true (.blockValue start :: next)
      | .blockEnd => r.close .mappingEnd t next
      | _ => wrong t .noKey (some (.blockMapping, start))
    | .blockValue start =>
      match t.kind with
      | .value =>
        r.skip.nodeUnless [.key, .value, .blockEnd] (some t.stop) true true (.blockKey start :: next)
      | _ => r.empty t.start {} (.blockKey start :: next)
    | .flowEntry start first =>
      if t.kind = .closeBracket then r.close .sequenceEnd t next
      else if !first && t.kind != .comma then wrong t .noCommaOrBracket (some (.flowSequence, start))
      else
        let r := if first then r else r.skip
        let t ← r.peek
        match t.kind with
        | .key => r.skip.answer (.mappingStart {}) t.start (.pairKey :: .flowEntry start false :: next)
        | .closeBracket => r.close .sequenceEnd t next
        | _ => r.node false false (.flowEntry start false :: next)
    | .pairKey =>
      match t.kind with
      | .value | .comma | .closeBracket => r.skip.empty t.stop {} (.pairValue :: next)
      | _ => r.node false false (.pairValue :: next)
    | .pairValue =>
      match t.kind with
      | .value => r.skip.nodeUnless [.comma, .closeBracket] none false false (.pairEnd :: next)
      | _ => r.empty t.start {} (.pairEnd :: next)
    | .pairEnd => r.answer .mappingEnd t.start next
    | .flowKey start first =>
      if t.kind = .closeBrace then r.close .mappingEnd t next
      else if !first && t.kind != .comma then wrong t .noCommaOrBrace (some (.flowMapping, start))
      else
        let r := if first then r else r.skip
        let t ← r.peek
        match t.kind with
        | .key =>
          r.skip.nodeUnless [.value, .comma, .closeBrace] none false false (.flowValue start :: next)
        | .closeBrace => r.close .mappingEnd t next
        | _ => r.node false false (.flowNoValue start :: next)
    | .flowNoValue start => r.empty t.start {} (.flowKey start false :: next)
    | .flowValue start =>
      match t.kind with
      | .value =>
        r.skip.nodeUnless [.comma, .closeBrace] none false false (.flowKey start false :: next)
      | _ => r.empty t.start {} (.flowKey start false :: next)

def run : Nat → List Event → Reading → List Event × Option Trouble
  | 0, acc, _ => (acc.reverse, none)
  | fuel + 1, acc, r =>
    match r.step with
    | .ok (e, r) => run fuel (e :: acc) r
    | .error .finished => (acc.reverse, none)
    | .error (.troubled t) => (acc.reverse, some t)

end Reading

/-- The events of a text, or those before the first trouble. -/
def events (strict : Bool) (text : List Char) : List Event × Option Trouble :=
  let (ts, trouble) := tokens strict text
  Reading.run (4 * ts.length + 8) [] { tokens := ts, trouble, strict }

end Provisioning.Yaml
