import Provisioning.Yaml.Source

/-!
What can be wrong with the form of a YAML text.  A trouble has a cause, the place where it was
noticed and the place where the construct that it spoils begins.  It can be told in two ways: at
length, with the cause first and the construct after it, and briefly, with the construct first and
one place only.
-/
namespace Provisioning.Yaml

inductive Construct where
  | simpleKey
  | nextToken
  | directive
  | versionDirective
  | tagDirective
  | tagDirectiveHandle
  | tagDirectiveMark
  | tagDirectivePrefix
  | anchor
  | reference
  | tag
  | tagSuffix
  | blockScalar
  | quotedScalar
  | quotedEscape
  | plainScalar
  | node
  | blockNode
  | flowNode
  | blockCollection
  | blockMapping
  | flowSequence
  | flowMapping
  deriving DecidableEq, Repr

def Construct.phrase : Construct → String
  | simpleKey => "while scanning a simple key"
  | nextToken => "while scanning for the next token"
  | directive => "while scanning a directive"
  | versionDirective => "while scanning a %YAML directive"
  | tagDirective => "while scanning a %TAG directive"
  | tagDirectiveHandle => "while parsing a tag directive"
  | tagDirectiveMark => "while scanning a tag directive"
  | tagDirectivePrefix => "while parsing a %TAG directive"
  | anchor => "while scanning an anchor"
  | reference => "while scanning an alias"
  | tag => "while scanning a tag"
  | tagSuffix => "while parsing a tag"
  | blockScalar => "while scanning a block scalar"
  | quotedScalar => "while scanning a quoted scalar"
  | quotedEscape => "while parsing a quoted scalar"
  | plainScalar => "while scanning a plain scalar"
  | node => "while parsing a node"
  | blockNode => "while parsing a block node"
  | flowNode => "while parsing a flow node"
  | blockCollection => "while parsing a block collection"
  | blockMapping => "while parsing a block mapping"
  | flowSequence => "while parsing a flow sequence"
  | flowMapping => "while parsing a flow mapping"

inductive Cause where
  | noColon
  /-- A key that must be one is closed before its colon. -/
  | closedKey
  | entryNotAllowed
  | keyNotAllowed
  | valueNotAllowed
  | cannotStart (c : Char)
  | noDirectiveName
  | directiveNameBroken
  | unknownDirective
  | noCommentOrBreak
  | noVersionPoint
  | longVersion
  | noVersionNumber
  | noSpace
  | noSpaceOrBreak
  | noNameChar
  | noTagMark
  | noTagEnd
  | noTagUri
  | noUriOctet
  | wrongLeadingOctet
  | wrongTrailingOctet
  | zeroIndent
  | tabInIndent
  | tabBelowIndent
  | documentMarkInside
  | endOfStream
  | unknownEscape
  | noHexNumber
  | wrongCodePoint
  | colonInFlow
  | noDocumentStart
  | repeatedVersion
  | repeatedTag
  | wrongVersion
  | undefinedHandle
  | noContent
  | noDash
  | noKey
  | noCommaOrBracket
  | noCommaOrBrace
  | controlCharacter
  | tabInBlock
  | shallow
  | shallowPlain
  | shallowQuoted
  | afterQuote
  | unseparatedComment
  | dashInFlow
  | dashBeforeMark
  | tabAfterDash
  | tabAfterColon
  | tabAfterKey
  | noSpaceAfterKey
  | tabInQuoted
  | shallowBlock
  | afterDocument
  | unendedDocument
  deriving DecidableEq, Repr

def Cause.phrase : Cause → String
  | noColon | closedKey => "could not find expected ':'"
  | entryNotAllowed => "block sequence entries are not allowed in this context"
  | keyNotAllowed => "mapping keys are not allowed in this context"
  | valueNotAllowed => "mapping values are not allowed in this context"
  | cannotStart _ => "found character that cannot start any token"
  | noDirectiveName => "could not find expected directive name"
  | directiveNameBroken => "found unexpected non-alphabetical character"
  | unknownDirective => "found unknown directive name"
  | noCommentOrBreak => "did not find expected comment or line break"
  | noVersionPoint => "did not find expected digit or '.' character"
  | longVersion => "found extremely long version number"
  | noVersionNumber => "did not find expected version number"
  | noSpace => "did not find expected whitespace"
  | noSpaceOrBreak => "did not find expected whitespace or line break"
  | noNameChar => "did not find expected alphabetic or numeric character"
  | noTagMark => "did not find expected '!'"
  | noTagEnd => "did not find the expected '>'"
  | noTagUri => "did not find expected tag URI"
  | noUriOctet => "did not find URI escaped octet"
  | wrongLeadingOctet => "found an incorrect leading UTF-8 octet"
  | wrongTrailingOctet => "found an incorrect trailing UTF-8 octet"
  | zeroIndent => "found an indentation indicator equal to 0"
  | tabInIndent => "found a tab character where an indentation space is expected"
  | tabBelowIndent => "found a tab character that violates indentation"
  | documentMarkInside => "found unexpected document indicator"
  | endOfStream => "found unexpected end of stream"
  | unknownEscape => "found unknown escape character"
  | noHexNumber => "did not find expected hexdecimal number"
  | wrongCodePoint => "found invalid Unicode character escape code"
  | colonInFlow => "found unexpected ':'"
  | noDocumentStart => "did not find expected <document start>"
  | repeatedVersion => "found duplicate %YAML directive"
  | repeatedTag => "found duplicate %TAG directive"
  | wrongVersion => "found incompatible YAML document"
  | undefinedHandle => "found undefined tag handle"
  | noContent => "did not find expected node content"
  | noDash => "did not find expected '-' indicator"
  | noKey => "did not find expected key"
  | noCommaOrBracket => "did not find expected ',' or ']'"
  | noCommaOrBrace => "did not find expected ',' or '\x7d'"
  | controlCharacter => "control characters are not allowed"
  | tabInBlock => "tabs disallowed within this context (block indentation)"
  | shallow => "invalid indentation"
  | shallowPlain => "invalid indentation in flow construct"
  | shallowQuoted => "invalid indentation in quoted scalar"
  | afterQuote => "invalid trailing content after double-quoted scalar"
  | unseparatedComment => "comments must be separated from other tokens by whitespace"
  | dashInFlow => "\"-\" is only valid inside a block"
  | dashBeforeMark => "plain scalar cannot start with '-' followed by ,[]\x7b\x7d"
  | tabAfterDash => "'-' must be followed by a valid YAML whitespace"
  | tabAfterColon => "':' must be followed by a valid YAML whitespace"
  | tabAfterKey => "tabs disallowed in this context"
  | noSpaceAfterKey => "expected whitespace"
  | tabInQuoted => "tab cannot be used as indentation"
  | shallowBlock => "wrongly indented line in block scalar"
  | afterDocument => "invalid content after document end marker"
  | unendedDocument => "missing explicit document end marker before directive"

structure Trouble where
  cause : Cause
  place : Mark
  inside : Option (Construct × Mark) := none
  /-- Position in the encoded text, for characters that no text may hold. -/
  offset : Nat := 0
  deriving DecidableEq, Repr

def Mark.isNamed (m : Mark) : Bool := m.line != 0 || m.column != 0

def Mark.phrase (m : Mark) : String := s!"line {m.line + 1} column {m.column + 1}"

def Trouble.describe (t : Trouble) : String :=
  t.cause.phrase ++
  (if t.place.isNamed then " at " ++ t.place.phrase
    else if t.offset != 0 then s!" at position {t.offset}" else "") ++
  (match t.inside with
    | none => ""
    | some (what, place) =>
      ", " ++ what.phrase ++
      (if place.isNamed && (place.line != t.place.line || place.column != t.place.column) then
        " at " ++ place.phrase else ""))

def Cause.wholePhrase? : Cause → Option String
  | noColon => some "simple key expect ':'"
  | closedKey => some "simple key expected"
  | cannotStart c => some ("unexpected character: `" ++ String.singleton c ++ "'")
  | tabInIndent => some "a block scalar content cannot start with a tab"
  | tabBelowIndent => some "while scanning a plain scalar, found a tab"
  | noHexNumber => some "while parsing a quoted scalar, did not find expected hexadecimal number"
  | noCommaOrBracket => some "while parsing a flow sequence, expected ',' or ']'"
  | repeatedVersion => some "duplicate version directive"
  | repeatedTag =>
    some "the TAG directive must only be given at most once per handle in the same document"
  | undefinedHandle => some "the handle wasn't declared"
  | afterQuote => some afterQuote.phrase
  | shallowQuoted => some shallowQuoted.phrase
  | _ => none

def Construct.briefPhrase : Construct → String
  | versionDirective => "while scanning a YAML directive"
  | tagDirective => "while scanning TAG"
  | anchor | reference => "while scanning an anchor or alias"
  | blockNode | flowNode => node.phrase
  | c => c.phrase

def Construct.toldAtStart : Construct → Bool
  | simpleKey | nextToken | node | blockNode | flowNode | blockCollection | blockMapping
  | flowSequence | flowMapping => false
  | _ => true

def Mark.briefPhrase (m : Mark) : String :=
  s!" at byte {m.index} line {m.line + 1} column {m.column + 1}"

def Trouble.brief (t : Trouble) : String :=
  (match t.cause.wholePhrase?, t.inside with
    | some phrase, _ => phrase
    | none, some (what, _) => what.briefPhrase ++ ", " ++ t.cause.phrase
    | none, none => t.cause.phrase) ++
  (match t.inside with
    | some (what, start) => if what.toldAtStart then start.briefPhrase else t.place.briefPhrase
    | none => t.place.briefPhrase)

end Provisioning.Yaml
