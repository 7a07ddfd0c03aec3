import Provisioning.Yaml.Name

/-!
Scalars as tokens: literal and folded blocks, quoted texts and plain words.  A single line break
inside a folded or flowing scalar stands for a blank, and of several the first one is dropped.
-/
namespace Provisioning.Yaml

structure Breaks where
  first : List Char := []
  more : List Char := []

def Breaks.folded (b : Breaks) : List Char :=
  if b.first = ['\n'] then (if b.more.isEmpty then [' '] else b.more) else b.first ++ b.more

namespace BlockScalar

inductive Chomping where
  | strip
  | clip
  | keep
  deriving DecidableEq

def chomping? (c : Char) : Option Chomping :=
  if c = '+' then some .keep else if c = '-' then some .strip else none

def indentation (start : Mark) (c : Cursor) : Except Trouble (Option Nat × Cursor) :=
  if c.ch = '0' then spoilt c .zeroIndent .blockScalar start
  else if c.ch.isDigit then .ok (some (c.ch.toNat - 48), c.skip)
  else .ok (none, c)

def header (start : Mark) (c : Cursor) : Except Trouble ((Chomping × Option Nat) × Cursor) := do
  match chomping? c.ch with
  | some m =>
    let (n, c) ← indentation start c.skip
    .ok ((m, n), c)
  | none =>
    let (n, c) ← indentation start c
    match n, chomping? c.ch with
    | some n, some m => .ok ((m, some n), c.skip)
    | n, _ => .ok ((.clip, n), c)

/-- What leading blanks and empty lines give: the breaks, the widest indentation, the place after
the last break, and the place where they end. -/
structure Gap where
  breaks : List Char
  widest : Nat
  stop : Mark
  after : Cursor

/-- Pass over empty lines and, up to column `indent` if there is one, over indentation; for strict
readings a tab is no more than the end of it. -/
def gap (strict : Bool) (start : Mark) (indent : Option Nat) : Nat → Gap → Except Trouble Gap
  | 0, g => .ok g
  | fuel + 1, g =>
    let within (column : Nat) : Bool := match indent with
      | none => true
      | some n => column < n
    let blanks := (g.after.rest.takeWhile (· = ' ')).length
    let room := match indent with
      | none => blanks
      | some n => min blanks (n - g.after.mark.column)
    let c := Cursor.skipN room g.after
    let widest := max g.widest c.mark.column
    if !strict && within c.mark.column && c.ch = '\t' then spoilt c .tabInIndent .blockScalar start
    else if isBreak c.ch then
      gap strict start indent fuel ⟨g.breaks ++ c.breakText, widest, c.skipLine.mark, c.skipLine⟩
    else .ok { g with widest, after := c }

def gapFrom (strict : Bool) (start : Mark) (indent : Option Nat) (c : Cursor) : Except Trouble Gap :=
  gap strict start indent (c.rest.length + 1) ⟨[], 0, c.mark, c⟩

/-- The lines of the block, all at one column; `acc` holds the pieces read so far, last first. -/
def lines (strict literal : Bool) (start : Mark) (indent : Nat) :
    Nat → (acc : List (List Char)) → (first : List Char) → (wasBlank : Bool) → Gap →
      Except Trouble (List (List Char) × List Char × Gap)
  | 0, acc, first, _, g => .ok (acc, first, g)
  | fuel + 1, acc, first, wasBlank, g =>
    let c := g.after
    if c.mark.column = indent && !isEnd c.ch && !(indent = 0 && c.atDocumentMark '.') then
      let blankNow := isGap c.ch
      let between :=
        if !literal && first = ['\n'] && !wasBlank && !blankNow then
          (if g.breaks.isEmpty then [' '] else []) ++ g.breaks
        else first ++ g.breaks
      let (text, c) := c.takeWhile (fun x => !isBreakOrEnd x)
      match gapFrom strict start (some indent) c.skipLine with
      | .error t => .error t
      | .ok next => lines strict literal start indent fuel (text :: between :: acc) c.breakText blankNow next
    else .ok (acc, first, g)

/-- What a strict reading finds wrong with the first line: a tab for indentation, or content that
stands further out than an empty line before it. -/
def misplaced? (start : Mark) (base : Int) (indent : Nat) (first : Cursor) (g : Gap) :
    Option Trouble :=
  let column := g.after.mark.column
  if first.ch = '\t' then some ⟨.tabInIndent, first.mark, some (.blockScalar, start), 0⟩
  else if !isEnd g.after.ch && base < column && column < indent then
    some ⟨.shallowBlock, g.after.mark, none, 0⟩
  else none

/-- The line breaks at the end: `first` after the last line, and those of empty lines after it. -/
def Chomping.tail (first more : List Char) : Chomping → List Char
  | strip => []
  | clip => first
  | keep => first ++ more

/-- The break after a last line that the end of the text ends, for strict readings.  A block without
any line counts as one when its header has a line to itself and no empty line is kept. -/
def Chomping.breakAtEnd (hasLines headerEnded : Bool) (more : List Char) (m : Chomping) : List Char :=
  if hasLines || (headerEnded && (m = clip || more.isEmpty)) then ['\n'] else []

/-- A block scalar; `base` is the indentation around it, -1 at the top.  For a strict reading the
end of the text ends a line as well, and at the top a block need not be indented. -/
def read (strict literal : Bool) (base : Int) (c : Cursor) : Except Trouble (Token × Cursor) := do
  let start := c.mark
  let ((chomping, increment), c) ← header start c.skip
  if strict && c.ch = '#' then throw ⟨.unseparatedComment, c.mark, none, 0⟩
  let c := (c.skipWhile isGap).skipComment
  if !isBreakOrEnd c.ch then spoilt c .noCommentOrBreak .blockScalar start
  else
    let fixed := increment.map fun n => (if 0 ≤ base then base.toNat + n else n)
    let g ← gapFrom strict start fixed c.skipLine
    let least := if strict then (base + 1).toNat else max (base + 1).toNat 1
    let indent := fixed.getD (max g.widest least)
    match if strict then misplaced? start base indent c.skipLine g else none with
    | some t => .error t
    | none =>
      let (acc, first, g) ← lines strict literal start indent (c.rest.length + 1) [] [] false g
      let first := if strict && isEnd g.after.ch && first.isEmpty then
          chomping.breakAtEnd (!acc.isEmpty) (isBreak c.ch) g.breaks
        else first
      let text := String.ofList (acc.reverse.flatten ++ chomping.tail first g.breaks)
      .ok (⟨.scalar text (if literal then .literal else .folded), start, g.stop⟩, g.after)

end BlockScalar

structure Spread where
  blanks : List Char := []
  breaks : Breaks := {}
  broken : Bool := false

def Spread.isEmpty (s : Spread) : Bool := !s.broken && s.blanks.isEmpty

def Spread.text (s : Spread) : List Char := if s.broken then s.breaks.folded else s.blanks

def Spread.lineBreak (s : Spread) (c : Cursor) : Spread :=
  if s.broken then { s with breaks := ⟨s.breaks.first, s.breaks.more ++ c.breakText⟩ }
  else ⟨[], ⟨c.breakText, []⟩, true⟩

namespace QuotedScalar

def simpleEscapes : List (Char × Nat) :=
  [('0', 0), ('a', 7), ('b', 8), ('t', 9), ('\t', 9), ('n', 10), ('v', 11), ('f', 12), ('r', 13),
   ('e', 27), (' ', 32), ('"', 34), ('/', 47), ('\\', 92), ('N', 0x85), ('_', 0xA0),
   ('L', 0x2028), ('P', 0x2029)]

def numericEscapes : List (Char × Nat) := [('x', 2), ('u', 4), ('U', 8)]

def escape (start : Mark) (c : Cursor) : Except Trouble (Char × Cursor) :=
  match simpleEscapes.lookup (c.peek 1) with
  | some n => .ok (Char.ofNat n, Cursor.skipN 2 c)
  | none =>
    match numericEscapes.lookup (c.peek 1) with
    | none => spoilt c .unknownEscape .quotedEscape start
    | some width =>
      let c := Cursor.skipN 2 c
      let digits := c.rest.take width
      if digits.length < width || !digits.all isHex then spoilt c .noHexNumber .quotedEscape start
      else
        let n := hexNat digits
        if n > 0x10FFFF || (0xD800 ≤ n && n ≤ 0xDFFF) then
          spoilt c .wrongCodePoint .quotedEscape start
        else .ok (Char.ofNat n, Cursor.skipN width c)

/-- The rest of a quoted scalar, none of it left of column `least`; `acc` holds the characters
read so far, last first, and `spread` the blanks and breaks since then. -/
def body (single : Bool) (least : Int) (start : Mark) :
    Nat → List Char → Spread → Cursor → Except Trouble (List Char × Cursor)
  | 0, acc, _, c => .ok (acc.reverse, c)
  | fuel + 1, acc, spread, c =>
    let quote := if single then '\'' else '"'
    if spread.broken && c.ch = '\t' && c.mark.column < least then
      .error ⟨.tabInQuoted, c.mark, none, 0⟩
    else if isGap c.ch then
      let spread := if spread.broken then spread else { spread with blanks := spread.blanks ++ [c.ch] }
      body single least start fuel acc spread c.skip
    else if isBreak c.ch then body single least start fuel acc (spread.lineBreak c) c.skipLine
    else
      let acc := spread.text.reverse ++ acc
      if c.atDocumentMark '-' || c.atDocumentMark '.' then
        spoilt c .documentMarkInside .quotedScalar start
      else if isEnd c.ch then spoilt c .endOfStream .quotedScalar start
      else if c.mark.column < least then spoilt c .shallowQuoted .quotedScalar start
      else if c.ch = quote then
        if single && c.peek 1 = quote then
          body single least start fuel (quote :: acc) {} (Cursor.skipN 2 c)
        else .ok (acc.reverse, c.skip)
      else if !single && c.ch = '\\' then
        if isBreak (c.peek 1) then
          body single least start fuel acc { broken := true } c.skip.skipLine
        else
          match escape start c with
          | .ok (x, c) => body single least start fuel (x :: acc) {} c
          | .error t => .error t
      else body single least start fuel (c.ch :: acc) {} c.skip

def read (single : Bool) (least : Int) (c : Cursor) : Except Trouble (Token × Cursor) := do
  let (text, after) ← body single least c.mark (c.rest.length + 1) [] {} c.skip
  .ok (⟨.scalar (String.ofList text) (if single then .singleQuoted else .doubleQuoted),
    c.mark, after.mark⟩, after)

end QuotedScalar

namespace PlainScalar

/-- A plain scalar that has been read so far: the text, last character first, the place after it,
the blanks since then and where they lead. -/
structure Progress where
  text : List Char
  stop : Mark
  spread : Spread
  after : Cursor

def endsAt (inFlow : Bool) (c : Cursor) : Bool :=
  isEnd c.ch || (inFlow && isFlowMark c.ch) ||
  (c.ch = ':' && (isApart (c.peek 1) || (inFlow && isFlowMark (c.peek 1))))

def body (strict inFlow : Bool) (column : Int) (start : Mark) : Nat → Progress → Except Trouble Progress
  | 0, p => .ok p
  | fuel + 1, p =>
    let c := p.after
    if isGap c.ch then
      if p.spread.broken && c.mark.column < column && c.ch = '\t' then
        spoilt c .tabBelowIndent .plainScalar start
      else
        let spread := if p.spread.broken then p.spread
          else { p.spread with blanks := p.spread.blanks ++ [c.ch] }
        body strict inFlow column start fuel { p with spread, after := c.skip }
    else if isBreak c.ch then
      body strict inFlow column start fuel { p with spread := p.spread.lineBreak c, after := c.skipLine }
    else if p.spread.broken && !inFlow && c.mark.column < column then .ok p
    else if c.atDocumentMark '-' || c.atDocumentMark '.' then .ok p
    else if c.ch = '#' && !p.spread.isEmpty then .ok p
    else if !strict && inFlow && c.ch = ':' && (c.peek 1 = '?' || isFlowMark (c.peek 1)) then
      spoilt c .colonInFlow .plainScalar start
    else if strict && inFlow && c.ch = '-' && isFlowMark (c.peek 1) &&
        (p.text.isEmpty || !p.spread.isEmpty) then
      .error ⟨.dashBeforeMark, c.mark, none, 0⟩
    else if endsAt inFlow c then .ok p
    else
      body strict inFlow column start fuel
        ⟨c.ch :: (p.spread.text.reverse ++ p.text), c.skip.mark, {}, c.skip⟩

/-- A plain scalar, and whether the blanks after it hold a line break. -/
def read (strict inFlow : Bool) (base : Int) (c : Cursor) :
    Except Trouble ((Token × Bool) × Cursor) := do
  let p ← body strict inFlow (base + 1) c.mark (c.rest.length + 1) ⟨[], c.mark, {}, c⟩
  .ok ((⟨.scalar (String.ofList p.text.reverse) .plain, c.mark, p.stop⟩, p.spread.broken), p.after)

end PlainScalar
end Provisioning.Yaml
