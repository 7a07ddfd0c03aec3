import Provisioning.Json.Text
import Provisioning.Yaml.Plain

/-!
JSON values as YAML in block style.  A text is written plain where it cannot be taken for anything
else, as a literal block where it has lines, and in single or double quotes otherwise.
-/
namespace Provisioning.Yaml

def isPrintable (c : Char) : Bool :=
  c = '\n' || (0x20 ≤ c.toNat && c.toNat ≤ 0x7E) || (0xA0 ≤ c.toNat && c.toNat ≤ 0xD7FF) ||
  (0xE000 ≤ c.toNat && c.toNat ≤ 0xFFFD && c.toNat != 0xFEFF) || 0x10000 ≤ c.toNat

def isLeadingMark (c : Char) : Bool := "#,[]\x7b\x7d&*!|>'\"%@`".toList.contains c

/-- Whether a mark stands in a text that would end a plain scalar or make it something else.
`previous` is the character before, none at the start. -/
def hasMark (previous : Option Char) : List Char → Bool
  | [] => false
  | c :: rest =>
    let apart := match rest with
      | [] => true
      | next :: _ => isApart next
    let here := match previous with
      | none => isLeadingMark c || ((c = '?' || c = ':' || c = '-') && apart)
      | some p => (c = ':' && apart) || (c = '#' && isApart p)
    here || hasMark (some c) rest

def blankAtBreak (before after : Char → Bool) : List Char → Bool
  | c :: d :: rest => (before c && after d) || blankAtBreak before after (d :: rest)
  | _ => false

structure Allowance where
  plain : Bool
  single : Bool
  literal : Bool

def Allowance.of (cs : List Char) : Allowance :=
  let special := cs.any fun c => c != '\t' && !isPrintable c
  let isBlank (c : Char) : Bool := c = ' '
  let breakThenBlank := blankAtBreak isBreak isBlank cs
  let blankThenBreak := blankAtBreak isBlank isBreak cs
  let edge (c : Option Char) : Bool := (c.map fun c => isBlank c || isBreak c).getD false
  let marked := hasMark none cs || ['-', '-', '-'].isPrefixOf cs || ['.', '.', '.'].isPrefixOf cs
  let single := !breakThenBlank && !blankThenBreak && !special && !cs.contains '\t'
  { plain := single && !cs.any isBreak && !marked && !edge cs.head? && !edge cs.getLast?
    single
    literal := !blankThenBreak && !special && cs.getLast? != some ' ' }

def oldTruths : List String :=
  ["y", "Y", "yes", "Yes", "YES", "n", "N", "no", "No", "NO", "on", "On", "ON", "off", "Off", "OFF"]

/-- Whether a plain text would be read as something else, or might be by an older reader. -/
def isAmbiguous (s : String) : Bool :=
  oldTruths.contains s || isZeroPadded s.toList ||
  (match Meaning.ofPlain s with
    | .text _ => false
    | _ => true)

def singleQuoted (cs : List Char) : String :=
  String.ofList ('\'' :: cs.flatMap (fun c => if c = '\'' then ['\'', '\''] else [c]) ++ ['\''])

def escapeNames : List (Nat × Char) :=
  [(0, '0'), (7, 'a'), (8, 'b'), (9, 't'), (10, 'n'), (11, 'v'), (12, 'f'), (13, 'r'), (0x1B, 'e'),
   (0x22, '"'), (0x5C, '\\'), (0x85, 'N'), (0xA0, '_'), (0x2028, 'L'), (0x2029, 'P')]

def hexDigits (width n : Nat) : List Char :=
  let ds := (Nat.toDigits 16 n).map Char.toUpper
  List.replicate (width - ds.length) '0' ++ ds

def escaped (c : Char) : List Char :=
  if isPrintable c && !isBreak c && c != '"' && c != '\\' then [c]
  else match escapeNames.lookup c.toNat with
    | some name => ['\\', name]
    | none =>
      if c.toNat ≤ 0xFF then '\\' :: 'x' :: hexDigits 2 c.toNat
      else if c.toNat ≤ 0xFFFF then '\\' :: 'u' :: hexDigits 4 c.toNat
      else '\\' :: 'U' :: hexDigits 8 c.toNat

def doubleQuoted (cs : List Char) : String :=
  String.ofList ('"' :: cs.flatMap escaped ++ ['"'])

/-- The head of a literal block: whether its indentation must be told and how it ends. -/
def literalHead (cs : List Char) : String :=
  let indentation := match cs with
    | c :: _ => if c = ' ' || isBreak c then "2" else ""
    | [] => ""
  let chomping := match cs.reverse with
    | '\n' :: '\n' :: _ => "+"
    | ['\n'] => "+"
    | '\n' :: _ => ""
    | _ => "-"
  "|" ++ indentation ++ chomping

/-- The lines of a literal block, without one more after the last line break. -/
def literalLines (cs : List Char) : List String :=
  let lines := Text.splitOn '\n' cs
  (if cs.getLast? = some '\n' then lines.dropLast else lines).map String.ofList

def writeText (s : String) : String × List String :=
  let cs := s.toList
  let allowed := Allowance.of cs
  if cs.contains '\n' then
    if allowed.literal then (literalHead cs, literalLines cs) else (doubleQuoted cs, [])
  else if allowed.plain && !isAmbiguous s then (s, [])
  else if allowed.single then (singleQuoted cs, [])
  else (doubleQuoted cs, [])

def writeKey (s : String) : String :=
  match writeText s with
  | (text, []) => text
  | _ => doubleQuoted s.toList

def writeNumber : Number → String
  | .int n => toString n
  | .float x => ({ Decimal.wire with plus := false } : Decimal.Layout).write x

def indented (line : String) : String := if line.isEmpty then line else "  " ++ line

def dashed : List String → List String
  | [] => ["-"]
  | line :: rest => ("- " ++ line) :: rest.map indented

mutual
def lines : Json → List String
  | .null => ["null"]
  | .bool b => [toString b]
  | .number n => [writeNumber n]
  | .text s =>
    let (here, below) := writeText s
    here :: below.map indented
  | .list items => if items.isEmpty then ["[]"] else itemLines items
  | .object ms => if ms.isEmpty then ["\x7b\x7d"] else memberLines ms

def itemLines : List Json → List String
  | [] => []
  | .text s :: rest =>
    let (here, below) := writeText s
    (("- " ++ here) :: below.map indented) ++ itemLines rest
  | v :: rest => dashed (lines v) ++ itemLines rest

def memberLines : List (String × Json) → List String
  | [] => []
  | (key, v) :: rest =>
    let ls := lines v
    let key := writeKey key ++ ":"
    (match v with
      | .list (_ :: _) => key :: ls
      | .object (_ :: _) => key :: ls.map indented
      | _ => match ls with
        | [] => [key]
        | line :: below => (key ++ " " ++ line) :: below) ++ memberLines rest
end

def write (v : Json) : String := String.join ((lines v).map (· ++ "\n"))

end Provisioning.Yaml
