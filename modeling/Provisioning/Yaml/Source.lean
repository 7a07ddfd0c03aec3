/-!
A place in a YAML text and the characters from there on.  Lines and columns count from zero, in
characters.  Past the end stands the character NUL, which no text holds.
-/
namespace Provisioning.Yaml

structure Mark where
  index : Nat
  line : Nat
  column : Nat
  deriving DecidableEq, Repr, Inhabited

def Mark.start : Mark := ⟨0, 0, 0⟩

def isBreak (c : Char) : Bool :=
  c = '\n' || c = '\r' || c.toNat = 0x85 || c.toNat = 0x2028 || c.toNat = 0x2029

def isEnd (c : Char) : Bool := c.toNat = 0

def isGap (c : Char) : Bool := c = ' ' || c = '\t'

def isBreakOrEnd (c : Char) : Bool := isBreak c || isEnd c

def isApart (c : Char) : Bool := isGap c || isBreakOrEnd c

def isNameChar (c : Char) : Bool := c.isAlphanum || c = '_' || c = '-'

def isHex (c : Char) : Bool := c.isDigit || ('a' ≤ c && c ≤ 'f') || ('A' ≤ c && c ≤ 'F')

def hexDigit (c : Char) : Nat :=
  if c.isDigit then c.toNat - 48 else if 'a' ≤ c then c.toNat - 87 else c.toNat - 55

def hexNat (cs : List Char) : Nat := cs.foldl (fun n c => 16 * n + hexDigit c) 0

def isAllowed (c : Char) : Bool :=
  c = '\t' || c = '\n' || c = '\r' || (0x20 ≤ c.toNat && c.toNat ≤ 0x7E) || c.toNat = 0x85 ||
  (0xA0 ≤ c.toNat && c.toNat ≤ 0xFFFD) || 0x10000 ≤ c.toNat

structure Cursor where
  rest : List Char
  mark : Mark
  deriving Repr, Inhabited

namespace Cursor

def peek (c : Cursor) (n : Nat) : Char := c.rest.getD n (Char.ofNat 0)

def ch (c : Cursor) : Char := c.peek 0

def skip (c : Cursor) : Cursor :=
  ⟨c.rest.tail, ⟨c.mark.index + 1, c.mark.line, c.mark.column + 1⟩⟩

def skipN : Nat → Cursor → Cursor
  | 0, c => c
  | n + 1, c => skipN n c.skip

/-- Pass over one line break, a carriage return with a line feed counting as one. -/
def skipLine (c : Cursor) : Cursor :=
  if c.ch = '\r' && c.peek 1 = '\n' then ⟨c.rest.drop 2, ⟨c.mark.index + 2, c.mark.line + 1, 0⟩⟩
  else if isBreak c.ch then ⟨c.rest.drop 1, ⟨c.mark.index + 1, c.mark.line + 1, 0⟩⟩
  else c

/-- What a line break at this place stands for in a scalar: mostly a line feed. -/
def breakText (c : Cursor) : List Char :=
  if c.ch.toNat = 0x2028 || c.ch.toNat = 0x2029 then [c.ch]
  else if isBreak c.ch then ['\n'] else []

/-- Pass over the longest run of characters of a line that satisfy `p`, and return it. -/
def takeWhile (p : Char → Bool) (c : Cursor) : List Char × Cursor :=
  let run := c.rest.takeWhile p
  (run, ⟨c.rest.drop run.length, ⟨c.mark.index + run.length, c.mark.line, c.mark.column + run.length⟩⟩)

def skipWhile (p : Char → Bool) (c : Cursor) : Cursor := (c.takeWhile p).2

def skipComment (c : Cursor) : Cursor :=
  if c.ch = '#' then c.skipWhile (fun x => !isBreakOrEnd x) else c

/-- Three characters `x` at the start of a line with something apart after them. -/
def atDocumentMark (c : Cursor) (x : Char) : Bool :=
  c.mark.column = 0 && c.ch = x && c.peek 1 = x && c.peek 2 = x && isApart (c.peek 3)

end Cursor
end Provisioning.Yaml
