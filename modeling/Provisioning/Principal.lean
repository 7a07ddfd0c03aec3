import Provisioning.Text.Blank
import Provisioning.Wire.Decode

/-!
References to users and groups as descriptors write them.  A user is `user:` and an address
whose at sign is written as an underscore, the last one; a group is `group:` and a name that is
not blank.
-/
namespace Provisioning

inductive PrincipalRef where
  | user (email : String)
  | group (name : String)
  deriving DecidableEq, Repr

namespace PrincipalRef

def externalId : PrincipalRef → String
  | user email => email
  | group name => name

def isGroup : PrincipalRef → Bool
  | user _ => false
  | group _ => true

inductive Malformed where
  | user (whole : String)
  | group (whole : String)
  | kind (whole : String)
  deriving DecidableEq, Repr

def Malformed.message : Malformed → String
  | .user s => s!"'{s}' is not a valid user reference, expected 'user:<name>_<domain>'"
  | .group s => s!"'{s}' is not a valid group reference"
  | .kind s => s!"'{s}' is not a valid principal reference, expected 'user:' or 'group:' prefix"

def address? (written : List Char) : Option String :=
  match Text.splitLast '_' written with
  | some (l, d) => if l.isEmpty || d.isEmpty then none else some (String.ofList (l ++ '@' :: d))
  | none => none

def parse (s : String) : Except Malformed PrincipalRef :=
  match Text.after? "user:" s with
  | some written =>
    match address? written.toList with
    | some email => .ok (user email)
    | none => .error (.user s)
  | none =>
    match Text.after? "group:" s with
    | some name => if Text.blank name then .error (.group s) else .ok (group name)
    | none => .error (.kind s)

def writtenAddress (email : List Char) : List Char :=
  match Text.splitLast '@' email with
  | some (l, d) => l ++ '_' :: d
  | none => email

def display : PrincipalRef → String
  | user email => "user:" ++ String.ofList (writtenAddress email.toList)
  | group name => "group:" ++ name

def toJson (p : PrincipalRef) : Json := .text p.display

def decode : Wire.Decoder PrincipalRef := fun v => do
  let s ← Wire.text v
  match parse s with
  | .ok p => .ok p
  | .error e => .error (.refused e.message)

end PrincipalRef
end Provisioning
