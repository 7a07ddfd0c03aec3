import Provisioning.Configuration.Value
import Provisioning.Decimal.Literal

/-!
Keys that lead into nested values: names after points, and indices in brackets.  A key that is no
such path is the name of one member.
-/
namespace Provisioning.Configuration

inductive Step where
  | key (name : String)
  | item (index : Int)
  deriving DecidableEq, Repr

abbrev KeyPath := List Step

namespace KeyPath

def isNameChar (c : Char) : Bool := c.isAlphanum || c = '_' || c = '-' || c = ' '

def isGap (c : Char) : Bool := c = ' ' || c = '\t'

def index? (cs : List Char) : Option (Int × List Char) :=
  let cs := cs.dropWhile isGap
  let (negative, cs) := match cs with
    | '-' :: rest => (true, rest)
    | rest => (false, rest)
  let (digits, rest) := cs.span Char.isDigit
  match Decimal.natural? digits, rest.dropWhile isGap with
  | some n, ']' :: rest =>
    if n < 0x8000000000000000 then some (if negative then -(n : Int) else n, rest) else none
  | _, _ => none

def steps? : Nat → List Char → Option KeyPath
  | _, [] => some []
  | 0, _ => none
  | fuel + 1, '.' :: rest =>
    let (name, rest) := rest.span isNameChar
    if name.isEmpty then none else (steps? fuel rest).map (.key (String.ofList name) :: ·)
  | fuel + 1, '[' :: rest =>
    match index? rest with
    | some (i, rest) => (steps? fuel rest).map (.item i :: ·)
    | none => none
  | _, _ => none

def ofKey (key : String) : KeyPath :=
  let key := Text.lower key
  let (name, rest) := key.toList.span isNameChar
  let path := if name.isEmpty then none
    else (steps? rest.length rest).map (.key (String.ofList name) :: ·)
  path.getD [.key key]

end KeyPath

/-- Put a value at the end of a path, making tables and lists along it. -/
def Value.setAt (v : Value) : KeyPath → Value → Value
  | [], _ => v
  | [.key name], target => Value.put name v target
  | .key name :: rest, target =>
    target.onMembers fun ms => ms.insert name (setAt v rest ((ms.find? name).getD Value.empty))
  | .item i :: rest, target => target.onItem i (setAt v rest)

abbrev Layer := List (String × Value)

def Layer.over (layer : Layer) (below : Value) : Value :=
  layer.foldl (fun target (key, v) => v.setAt (KeyPath.ofKey key) target) below

def Layer.merge (layers : List Layer) : Value :=
  layers.foldl (fun below layer => layer.over below) Value.noMembers

end Provisioning.Configuration
