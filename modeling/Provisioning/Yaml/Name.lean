import Provisioning.Text.Blank
import Provisioning.Yaml.Token

/-!
Tokens made of names: directives, anchors, aliases and tags.  Each reader starts on the mark
that opens its token and gives back the token with the place after it.
-/
namespace Provisioning.Yaml

/-- Something is wrong at this place, inside a construct that begins at `start`. -/
def spoilt (c : Cursor) (cause : Cause) (what : Construct) (start : Mark) : Except Trouble α :=
  .error ⟨cause, c.mark, some (what, start), 0⟩

namespace Directive

def versionNumber (start : Mark) (c : Cursor) : Except Trouble (Nat × Cursor) :=
  let (digits, after) := c.takeWhile Char.isDigit
  if digits.length > 9 then spoilt (Cursor.skipN 9 c) .longVersion .versionDirective start
  else if digits.isEmpty then spoilt c .noVersionNumber .versionDirective start
  else .ok (digits.foldl (fun n d => 10 * n + (d.toNat - 48)) 0, after)

def version (start : Mark) (c : Cursor) : Except Trouble (TokenKind × Cursor) := do
  let (major, c) ← versionNumber start (c.skipWhile isGap)
  if c.ch = '.' then
    let (minor, c) ← versionNumber start c.skip
    .ok (.version major minor, c)
  else spoilt c .noVersionPoint .versionDirective start

end Directive

/-- A tag handle: an exclamation mark, a name, and another mark unless it is a tag's own start. -/
def tagHandle (declared : Bool) (start : Mark) (c : Cursor) : Except Trouble (String × Cursor) :=
  if c.ch != '!' then
    spoilt c .noTagMark (if declared then .tagDirectiveMark else .tag) start
  else
    let (name, c) := c.skip.takeWhile isNameChar
    if c.ch = '!' then .ok (String.ofList ('!' :: name ++ ['!']), c.skip)
    else if declared && !name.isEmpty then spoilt c .noTagMark .tagDirectiveHandle start
    else .ok (String.ofList ('!' :: name), c)

/-- How many octets the first one announces; none if it cannot be the first. -/
def octetCount (first : Nat) : Nat :=
  if first < 0x80 then 1 else if 0xC0 ≤ first && first < 0xE0 then 2
  else if 0xE0 ≤ first && first < 0xF0 then 3 else if 0xF0 ≤ first && first < 0xF8 then 4 else 0

/-- Read `n` further escaped octets of the character whose leading bits are `acc`. -/
def moreOctets (what : Construct) (start : Mark) : Nat → Nat → Cursor → Except Trouble (Char × Cursor)
  | 0, acc, c => .ok (Char.ofNat acc, c)
  | n + 1, acc, c =>
    if c.ch = '%' && isHex (c.peek 1) && isHex (c.peek 2) then
      let octet := hexNat [c.peek 1, c.peek 2]
      if octet / 0x40 = 2 then moreOctets what start n (acc * 0x40 + octet % 0x40) (Cursor.skipN 3 c)
      else spoilt c .wrongTrailingOctet what start
    else spoilt c .noUriOctet what start

def escapedChar (what : Construct) (start : Mark) (c : Cursor) : Except Trouble (Char × Cursor) :=
  if c.ch = '%' && isHex (c.peek 1) && isHex (c.peek 2) then
    let octet := hexNat [c.peek 1, c.peek 2]
    match octetCount octet with
    | 0 => spoilt c .wrongLeadingOctet what start
    | 1 => .ok (Char.ofNat octet, Cursor.skipN 3 c)
    | n + 1 => moreOctets what start n (octet % Nat.pow 2 (6 - n)) (Cursor.skipN 3 c)
  else spoilt c .noUriOctet what start

/-- The characters of a tag; in a verbatim one commas and brackets as well. -/
def isTagChar (verbatim : Bool) (c : Char) : Bool :=
  isNameChar c || ";/?:@&=+$.%!~*'()".toList.contains c || (verbatim && ",[]".toList.contains c)

def tagChars (verbatim : Bool) (what : Construct) (start : Mark) :
    Nat → List Char → Cursor → Except Trouble (List Char × Cursor)
  | 0, acc, c => .ok (acc.reverse, c)
  | fuel + 1, acc, c =>
    if isTagChar verbatim c.ch then
      if c.ch = '%' then
        match escapedChar what start c with
        | .ok (x, c) => tagChars verbatim what start fuel (x :: acc) c
        | .error t => .error t
      else tagChars verbatim what start fuel (c.ch :: acc) c.skip
    else .ok (acc.reverse, c)

/-- A tag's text after `head`, which was read as a handle and counts as part of it. -/
def tagText (verbatim : Bool) (what : Construct) (start : Mark) (head : List Char) (c : Cursor) :
    Except Trouble (String × Cursor) := do
  let (chars, after) ← tagChars verbatim what start c.rest.length [] c
  if head.isEmpty && chars.isEmpty then spoilt c .noTagUri what start
  else .ok (String.ofList (head.tail ++ chars), after)

namespace Directive

def tag (start : Mark) (c : Cursor) : Except Trouble (TokenKind × Cursor) := do
  let (handle, c) ← tagHandle true start (c.skipWhile isGap)
  if !isGap c.ch then spoilt c .noSpace .tagDirective start
  else
    let (text, c) ← tagText true .tagDirectivePrefix start [] (c.skipWhile isGap)
    if isApart c.ch then .ok (.tagHandle handle text, c)
    else spoilt c .noSpaceOrBreak .tagDirective start

/-- What a directive says; strict readings pass over those that are not known. -/
def content (strict : Bool) (start : Mark) (name : List Char) (c : Cursor) :
    Except Trouble (TokenKind × Cursor) :=
  if name.isEmpty then spoilt c .noDirectiveName .directive start
  else if !isApart c.ch then spoilt c .directiveNameBroken .directive start
  else if name = ['Y', 'A', 'M', 'L'] then version start c
  else if name = ['T', 'A', 'G'] then tag start c
  else if strict then .ok (.tagHandle "" "", c.skipWhile (fun x => !isBreakOrEnd x))
  else spoilt c .unknownDirective .directive start

def read (strict : Bool) (c : Cursor) : Except Trouble (Token × Cursor) := do
  let (name, after) := c.skip.takeWhile isNameChar
  let (kind, stop) ← content strict c.mark name after
  let rest := (stop.skipWhile isGap).skipComment
  if isBreakOrEnd rest.ch then .ok (⟨kind, c.mark, stop.mark⟩, rest.skipLine)
  else spoilt rest .noCommentOrBreak .directive c.mark

end Directive

def isFlowMark (c : Char) : Bool := ",[]\x7b\x7d".toList.contains c

/-- Letters of the names of anchors, which may be all that is no gap and no mark. -/
def isAnchorChar (strict : Bool) (c : Char) : Bool :=
  if strict then !(isApart c || isFlowMark c) else isNameChar c

/-- A name after an ampersand or an asterisk, with something after it that ends it. -/
def readAnchor (strict : Bool) (what : Construct) (kind : String → TokenKind) (c : Cursor) :
    Except Trouble (Token × Cursor) :=
  let (name, after) := c.skip.takeWhile (isAnchorChar strict)
  if !name.isEmpty && (strict || isApart after.ch || "?:,]\x7d%@`".toList.contains after.ch) then
    .ok (⟨kind (String.ofList name), c.mark, after.mark⟩, after)
  else spoilt after .noNameChar what c.mark

/-- Handle and text of a tag: verbatim, with a declared handle, or with the plain mark. -/
def tagParts (start : Mark) (c : Cursor) : Except Trouble ((String × String) × Cursor) :=
  if c.peek 1 = '<' then do
    let (text, c) ← tagText true .tagSuffix start [] (Cursor.skipN 2 c)
    if c.ch = '>' then .ok (("", text), c.skip) else spoilt c .noTagEnd .tag start
  else do
    let (handle, c) ← tagHandle false start c
    if handle.length > 1 && Text.endsWith handle "!" then
      let (text, c) ← tagText false .tagSuffix start [] c
      .ok ((handle, text), c)
    else
      let (text, c) ← tagText false .tagSuffix start handle.toList c
      .ok (if text.isEmpty then ("", "!") else ("!", text), c)

def readTag (inFlow : Bool) (c : Cursor) : Except Trouble (Token × Cursor) := do
  let ((handle, text), after) ← tagParts c.mark c
  if isApart after.ch || (inFlow && after.ch = ',') then
    .ok (⟨.tag handle text, c.mark, after.mark⟩, after)
  else spoilt after .noSpaceOrBreak .tag c.mark

end Provisioning.Yaml
