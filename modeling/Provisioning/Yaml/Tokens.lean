import Provisioning.Yaml.Scalar

/-!
The tokens of a text.  Indentation opens and closes blocks, and a scalar, an alias or a bracket may
turn out to be a key only when a colon follows it: until then its place is kept, one for every level
of brackets, and tokens from that place on are held back.  A strict reading looks closer at
indentation and at what follows a quoted scalar, and is more generous with tabs, with long keys
between brackets and with the characters of a text.
-/
namespace Provisioning.Yaml

structure KeyPlace where
  required : Bool
  number : Nat
  mark : Mark
  deriving Repr

structure Lexer where
  cursor : Cursor
  strict : Bool := false
  /-- Column of the innermost block, -1 outside of all. -/
  indent : Int := -1
  outer : List Int := []
  deeper : Bool := false
  /-- Where a colon makes a key of what is in quotes or brackets before it. -/
  adjacent : Option Nat := none
  keyAllowed : Bool := true
  key : Option KeyPlace := none
  outerKeys : List (Option KeyPlace) := []
  held : List Token := []
  released : Nat := 0
  ended : Bool := false
  deriving Repr

namespace Lexer

def inFlow (l : Lexer) : Bool := !l.outerKeys.isEmpty

def column (l : Lexer) : Int := l.cursor.mark.column

def least (l : Lexer) : Int := if l.deeper then l.indent + 1 else l.indent

def emit (t : Token) (l : Lexer) : Lexer := { l with held := l.held ++ [t] }

def emitHere (kind : TokenKind) (l : Lexer) : Lexer :=
  l.emit ⟨kind, l.cursor.mark, l.cursor.mark⟩

def emitNext (kind : TokenKind) (n : Nat) (l : Lexer) : Lexer :=
  let after := Cursor.skipN n l.cursor
  { l.emit ⟨kind, l.cursor.mark, after.mark⟩ with cursor := after }

def insertAt (number : Nat) (t : Token) (l : Lexer) : Lexer :=
  let i := number - l.released
  { l with held := l.held.take i ++ t :: l.held.drop i }

def missedKey (cause : Cause) (l : Lexer) (k : KeyPlace) : Except Trouble α :=
  spoilt l.cursor cause .simpleKey k.mark

/-- A key ends on its line and within 1024 characters; between brackets strict readings wait. -/
def isStale (l : Lexer) (k : KeyPlace) : Bool :=
  !(l.strict && l.inFlow) &&
  (k.mark.line < l.cursor.mark.line || k.mark.index + 1024 < l.cursor.mark.index)

def fresh (l : Lexer) : Option KeyPlace → Except Trouble (Option KeyPlace)
  | none => .ok none
  | some k => if l.isStale k then (if k.required then l.missedKey .noColon k else .ok none) else .ok (some k)

def dropStale (l : Lexer) : Except Trouble Lexer := do
  let outer ← l.outerKeys.reverse.mapM l.fresh
  let key ← l.fresh l.key
  .ok { l with key, outerKeys := outer.reverse }

def dropKey (l : Lexer) : Except Trouble Lexer :=
  match l.key with
  | some k => if k.required then l.missedKey .closedKey k else .ok { l with key := none }
  | none => .ok l

def openKey (l : Lexer) : Except Trouble Lexer := do
  if l.keyAllowed then
    let l ← l.dropKey
    let place : KeyPlace :=
      ⟨!l.inFlow && !l.deeper && l.indent = l.column, l.released + l.held.length, l.cursor.mark⟩
    .ok { l with key := some place }
  else .ok l

def closeBlocks (column : Int) (l : Lexer) : Lexer :=
  if l.inFlow then l
  else close (l.outer.length + 1) { l with deeper := l.deeper && l.indent < column }
where
  close : Nat → Lexer → Lexer
    | 0, l => l
    | fuel + 1, l =>
      if column < l.indent then
        close fuel { l.emitHere .blockEnd with indent := l.outer.headD (-1), outer := l.outer.tail }
      else l

/-- Open a block at this column unless one is open there; `number` tells which token it begins
before, when not with the next one. -/
def openBlock (kind : TokenKind) (mark : Mark) (number : Option Nat) (l : Lexer) : Lexer :=
  if !l.inFlow && l.indent < mark.column then
    let l := { l with outer := l.indent :: l.outer, indent := mark.column, deeper := false }
    match number with
    | some n => l.insertAt n ⟨kind, mark, mark⟩
    | none => l.emit ⟨kind, mark, mark⟩
  else l

/-- Whether a line of a block that begins at `c` is indented with tabs, with `after` being the first
thing on it. -/
def indentedWithTabs (c after : Cursor) (l : Lexer) : Bool :=
  let blanks := c.skipWhile (· = ' ')
  l.strict && 0 ≤ l.indent && c.mark.column = 0 && blanks.ch = '\t' && blanks.mark.column < l.least &&
  !(isBreakOrEnd after.ch || after.ch = '#')

def skipToToken : Nat → Lexer → Except Trouble Lexer
  | 0, l => .ok l
  | fuel + 1, l =>
    let c := l.cursor
    let c := if c.mark.index = 0 && c.ch.toNat = 0xFEFF then c.skip else c
    let after := c.skipWhile fun x =>
      x = ' ' || (x = '\t' && (l.strict || l.inFlow || !l.keyAllowed))
    if l.indentedWithTabs c after then .error ⟨.tabInBlock, after.mark, none, 0⟩
    else
      let c := after.skipComment
      if isBreak c.ch then
        skipToToken fuel { l with cursor := c.skipLine, keyAllowed := l.keyAllowed || !l.inFlow }
      else .ok { l with cursor := c }

/-- Whether a plain scalar may begin here; strict readings have tried all else before. -/
def startsPlain (l : Lexer) : Bool :=
  let c := l.cursor
  if l.strict then !"%@`".toList.contains c.ch
  else !(isApart c.ch || "-?:,[]\x7b\x7d#&*!|>'\"%@`".toList.contains c.ch) ||
  (c.ch = '-' && !isGap (c.peek 1)) ||
  (!l.inFlow && (c.ch = '?' || c.ch = ':') && !isApart (c.peek 1))

def take (r : Except Trouble (Token × Cursor)) (l : Lexer) : Except Trouble Lexer := do
  let (t, c) ← r
  .ok { l.emit t with cursor := c }

def awaitsColon (l : Lexer) : Bool :=
  (l.key :: l.outerKeys).any fun k => match k with
    | some k => k.required
    | none => false

def streamEnd (l : Lexer) : Except Trouble Lexer := do
  let m := l.cursor.mark
  let m := if m.column = 0 then m else ⟨m.index, m.line + 1, 0⟩
  if l.strict && l.awaitsColon then throw ⟨.closedKey, m, none, 0⟩
  let l ← (closeBlocks (-1) { l with cursor := ⟨[], m⟩ }).dropKey
  .ok { l.emitHere .streamEnd with keyAllowed := false, ended := true }

def atTop (l : Lexer) : Except Trouble Lexer := do
  let l ← (closeBlocks (-1) l).dropKey
  .ok { l with keyAllowed := false }

/-- What comes stands further in than the innermost block, for strict readings. -/
def indentDeeper (l : Lexer) : Lexer :=
  { l with deeper := l.deeper || (l.strict && !l.inFlow && 0 ≤ l.indent) }

/-- The end of an end of a document: nothing else may stand on its line. -/
def documentEnd (l : Lexer) : Except Trouble Lexer :=
  let l := emitNext .documentEnd 3 l
  let c := (l.cursor.skipWhile isGap).skipComment
  if l.strict && !isBreakOrEnd c.ch then .error ⟨.afterDocument, c.mark, none, 0⟩
  else .ok l

def separated (l : Lexer) : Except Trouble Lexer :=
  if l.strict && l.cursor.ch = '#' then .error ⟨.unseparatedComment, l.cursor.mark, none, 0⟩
  else .ok l

def openFlow (kind : TokenKind) (l : Lexer) : Except Trouble Lexer := do
  let l ← l.openKey
  let l := l.indentDeeper
  separated { l.emitNext kind 1 with
    key := none
    outerKeys := l.key :: l.outerKeys
    keyAllowed := true }

def closeFlow (kind : TokenKind) (l : Lexer) : Except Trouble Lexer := do
  let l ← l.dropKey
  let l := match l.outerKeys with
    | k :: ks => { l with key := k, outerKeys := ks }
    | [] => l
  let l ← (emitNext kind 1 l).separated
  .ok { l with keyAllowed := false, adjacent := some (l.cursor.skipWhile isGap).mark.index }

def comma (l : Lexer) : Except Trouble Lexer := do
  let l ← l.dropKey
  separated { l.emitNext .comma 1 with keyAllowed := true }

def notAllowed (cause : Cause) (l : Lexer) : Except Trouble Lexer :=
  .error ⟨cause, l.cursor.mark, none, 0⟩

def tabBeforeDash (l : Lexer) : Bool :=
  let (blanks, c) := l.cursor.takeWhile isGap
  l.strict && blanks.contains '\t' && c.ch = '-' && isApart (c.peek 1)

def dash (l : Lexer) : Except Trouble Lexer := do
  if l.strict && l.inFlow then l.notAllowed .dashInFlow
  else if !l.inFlow && !l.keyAllowed then l.notAllowed .entryNotAllowed
  else
    let l ← (l.openBlock .blockSequence l.cursor.mark none).dropKey
    let l := emitNext .dash 1 l
    if l.tabBeforeDash then throw ⟨.tabAfterDash, (l.cursor.skipWhile isGap).mark, none, 0⟩
    let next := (l.cursor.skipWhile isGap).skipComment.ch
    let l := if isBreak next || isFlowMark next then l.indentDeeper else l
    .ok { l with keyAllowed := true }

/-- The place after blanks, comments and line breaks, no tab among them. -/
def beyondSpace : Nat → Cursor → Cursor
  | 0, c => c
  | fuel + 1, c =>
    let after := (c.skipWhile (· = ' ')).skipComment
    if isBreak after.ch then beyondSpace fuel after.skipLine else after

/-- The mark of a key must be set apart from the key, and not by tabs, for strict readings. -/
def afterKeyMark (l : Lexer) : Except Trouble Lexer :=
  let c := beyondSpace (l.cursor.rest.length + 1) l.cursor
  if !l.strict then .ok l
  else if l.cursor.ch != ' ' && !isBreak l.cursor.ch then
    .error ⟨.noSpaceAfterKey, c.mark, none, 0⟩
  else if c.ch = '\t' then .error ⟨.tabAfterKey, c.mark, none, 0⟩
  else .ok { l with cursor := c }

def explicitKey (l : Lexer) : Except Trouble Lexer := do
  if !l.inFlow && !l.keyAllowed then l.notAllowed .keyNotAllowed
  else
    let l ← (l.openBlock .blockMapping l.cursor.mark none).dropKey
    afterKeyMark { l.emitNext .key 1 with keyAllowed := !l.inFlow }

def tabsAfterColon (l : Lexer) : Bool :=
  let (tabs, c) := l.cursor.skip.takeWhile isGap
  l.strict && tabs.head? = some '\t' && !tabs.contains ' ' && isNameChar c.ch

def colon (l : Lexer) : Except Trouble Lexer :=
  if l.tabsAfterColon then .error ⟨.tabAfterColon, (l.cursor.skip.skipWhile isGap).mark, none, 0⟩
  else match l.key with
  | some k =>
    let l := (l.insertAt k.number ⟨.key, k.mark, k.mark⟩).openBlock .blockMapping k.mark (some k.number)
    .ok { l.indentDeeper.emitNext .value 1 with key := none, keyAllowed := false }
  | none =>
    if !l.inFlow && !l.keyAllowed then l.notAllowed .valueNotAllowed
    else
      let l := l.openBlock .blockMapping l.cursor.mark none
      .ok { l.indentDeeper.emitNext .value 1 with keyAllowed := !l.inFlow }

/-- An anchor, an alias, a tag or a scalar of one line: a key may begin with it. -/
def named (r : Except Trouble (Token × Cursor)) (l : Lexer) : Except Trouble Lexer := do
  let l ← l.openKey
  ({ l with keyAllowed := false }).take r

def mayFollowQuoted (start : Mark) (c : Cursor) (l : Lexer) : Bool :=
  isBreakOrEnd c.ch || c.ch = '#' || (l.inFlow && ",]\x7d".toList.contains c.ch) ||
  (c.ch = ':' && (l.inFlow || start.line = c.mark.line))

def quoted (single : Bool) (l : Lexer) : Except Trouble Lexer := do
  let start := l.cursor.mark
  let least := if l.strict then l.least else -1
  let l ← l.named (QuotedScalar.read single least l.cursor)
  let l ← l.separated
  let c := l.cursor.skipWhile isGap
  if !l.strict then .ok l
  else if !l.mayFollowQuoted start c then .error ⟨.afterQuote, c.mark, none, 0⟩
  else
    let l ← skipToToken (l.cursor.rest.length + 1) l
    .ok { l with adjacent := some l.cursor.mark.index }

def blockScalar (literal : Bool) (l : Lexer) : Except Trouble Lexer := do
  let l ← l.dropKey
  ({ l with keyAllowed := true }).take (BlockScalar.read l.strict literal l.indent l.cursor)

def plain (l : Lexer) : Except Trouble Lexer := do
  let l ← l.openKey
  let l := { l with deeper := false }
  if l.strict && l.inFlow && l.column ≤ l.indent then throw ⟨.shallowPlain, l.cursor.mark, none, 0⟩
  let ((t, broken), c) ← PlainScalar.read l.strict l.inFlow l.indent l.cursor
  .ok { l.emit t with cursor := c, keyAllowed := broken }

def startsKey (l : Lexer) : Bool :=
  l.cursor.ch = '?' && ((!l.strict && l.inFlow) || isApart (l.cursor.peek 1))

def startsValue (l : Lexer) : Bool :=
  let c := l.cursor
  c.ch = ':' && (isApart (c.peek 1) ||
    (l.inFlow && (!l.strict || isFlowMark (c.peek 1) || l.adjacent = some c.mark.index)))

def advance (l : Lexer) : Except Trouble Lexer := do
  let l ← skipToToken (l.cursor.rest.length + 1) l
  let l ← l.dropStale
  let l := l.closeBlocks l.column
  let c := l.cursor
  if isEnd c.ch then l.streamEnd
  else if c.mark.column = 0 && c.ch = '%' then l.atTop >>= take (Directive.read l.strict c)
  else if c.atDocumentMark '-' then (emitNext .documentStart 3) <$> l.atTop
  else if c.atDocumentMark '.' then l.atTop >>= documentEnd
  else if l.strict && l.column < l.least then l.notAllowed .shallow
  else if c.ch = '[' then l.openFlow .openBracket
  else if c.ch = '\x7b' then l.openFlow .openBrace
  else if c.ch = ']' then l.closeFlow .closeBracket
  else if c.ch = '\x7d' then l.closeFlow .closeBrace
  else if c.ch = ',' then l.comma
  else if c.ch = '-' && isApart (c.peek 1) then l.dash
  else if l.startsKey then l.explicitKey
  else if l.startsValue then l.colon
  else if c.ch = '*' then l.named (readAnchor l.strict .reference .reference c)
  else if c.ch = '&' then l.named (readAnchor l.strict .anchor .anchor c)
  else if c.ch = '!' then l.named (readTag l.inFlow c)
  else if c.ch = '|' && !l.inFlow then l.blockScalar true
  else if c.ch = '>' && !l.inFlow then l.blockScalar false
  else if c.ch = '\'' then l.quoted true
  else if c.ch = '"' then l.quoted false
  else if l.startsPlain then l.plain
  else spoilt c (.cannotStart c.ch) .nextToken c.mark

/-- Whether the first held token may still get a key mark put before it. -/
def undecided (l : Lexer) : Bool :=
  (l.key :: l.outerKeys).any fun k => match k with
    | some k => k.number == l.released
    | none => false

/-- All tokens that can be told, and what ends them early. -/
def run : Nat → List Token → Lexer → List Token × Option Trouble
  | 0, acc, _ => (acc.reverse, none)
  | fuel + 1, acc, l =>
    match l.held with
    | [] =>
      if l.ended then (acc.reverse, none)
      else match l.advance with
        | .ok l => run fuel acc l
        | .error t => (acc.reverse, some t)
    | t :: rest =>
      match l.dropStale with
      | .error t => (acc.reverse, some t)
      | .ok l =>
        if l.undecided then
          match l.advance with
          | .ok l => run fuel acc l
          | .error t => (acc.reverse, some t)
        else run fuel (t :: acc) { l with held := rest, released := l.released + 1 }

end Lexer

/-- The offset in the encoded text of the first character that no text may hold. -/
def firstForbidden (offset : Nat) : List Char → Option Nat
  | [] => none
  | c :: rest => if isAllowed c then firstForbidden (offset + c.utf8Size) rest else some offset

/-- The tokens of a text between its start and its end, or up to the first trouble. -/
def tokens (strict : Bool) (cs : List Char) : List Token × Option Trouble :=
  match if strict then none else firstForbidden 0 cs with
  | some offset => ([], some ⟨.controlCharacter, Mark.start, none, offset⟩)
  | none =>
    let l : Lexer := { cursor := ⟨cs, Mark.start⟩, strict }
    Lexer.run (8 * (cs.length + 8)) [] (l.emitHere .streamStart)

end Provisioning.Yaml
