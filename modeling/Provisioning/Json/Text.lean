import Provisioning.Json.Value
import Provisioning.Text.Blank
import Provisioning.Text.Quoted

/-!
JSON as text: on one line, or indented by two blanks a level.  Only quotes, backslashes and
control characters are escaped, and numbers are written in the wire layout.
-/
namespace Provisioning

def Number.write : Number → String
  | .int n => toString n
  | .float x => Decimal.wire.write x

namespace Json

def hexDigits4 (n : Nat) : List Char :=
  let ds := Text.hex n
  List.replicate (4 - ds.length) '0' ++ ds

def escapeChar (c : Char) : List Char :=
  if c = '"' then ['\\', '"']
  else if c = '\\' then ['\\', '\\']
  else if c = '\n' then ['\\', 'n']
  else if c = '\r' then ['\\', 'r']
  else if c = '\t' then ['\\', 't']
  else if c.toNat = 8 then ['\\', 'b']
  else if c.toNat = 12 then ['\\', 'f']
  else if c.toNat < 0x20 then '\\' :: 'u' :: hexDigits4 c.toNat
  else [c]

def writeText (s : String) : String :=
  String.ofList ('"' :: s.toList.flatMap escapeChar ++ ['"'])

mutual
def compact : Json → String
  | .null => "null"
  | .bool b => if b then "true" else "false"
  | .number n => n.write
  | .text s => writeText s
  | .list items => "[" ++ Text.joinWith "," (compactItems items) ++ "]"
  | .object ms => "\x7b" ++ Text.joinWith "," (compactMembers ms) ++ "\x7d"

def compactItems : List Json → List String
  | [] => []
  | v :: rest => compact v :: compactItems rest

def compactMembers : List (String × Json) → List String
  | [] => []
  | (k, v) :: rest => (writeText k ++ ":" ++ compact v) :: compactMembers rest
end

def indent (level : Nat) : String := String.ofList (List.replicate (2 * level) ' ')

/-- Lines between brackets, each one level deeper; without lines just the brackets. -/
def block (first last : String) (level : Nat) (lines : List String) : String :=
  if lines.isEmpty then first ++ last
  else first ++ "\n" ++ Text.joinWith ",\n" (lines.map (indent (level + 1) ++ ·)) ++ "\n" ++
    indent level ++ last

mutual
def prettyAt (level : Nat) : Json → String
  | .list items => block "[" "]" level (prettyItems (level + 1) items)
  | .object ms => block "\x7b" "\x7d" level (prettyMembers (level + 1) ms)
  | .null => "null"
  | .bool b => if b then "true" else "false"
  | .number n => n.write
  | .text s => writeText s

def prettyItems (level : Nat) : List Json → List String
  | [] => []
  | v :: rest => prettyAt level v :: prettyItems level rest

def prettyMembers (level : Nat) : List (String × Json) → List String
  | [] => []
  | (k, v) :: rest => (writeText k ++ ": " ++ prettyAt level v) :: prettyMembers level rest
end

def pretty (v : Json) : String := prettyAt 0 v

end Json
end Provisioning
