import Provisioning.Json.Text
import Provisioning.Text.Blank

/-!
Where two JSON values differ.  Objects are compared member by member, a missing member counting as
the empty value; anything else is compared as a whole.  Differences are told in ascending order of
the keys at every level.
-/
namespace Provisioning

structure Difference where
  position : List String
  left : Json
  right : Json
  deriving Repr

namespace Json

def memberOrNull (key : String) (ms : Members) : Json := (ms.lookup key).getD .null

def joinedKeys (ls rs : Members) : List String :=
  Keyed.keys ((ls ++ rs).foldl (fun keys m => Keyed.insert m.1 () keys) [])

theorem sizeOf_memberOrNull_lt (key : String) (ms : Members) :
    sizeOf (memberOrNull key ms) < sizeOf (Json.object ms) := by
  unfold memberOrNull
  induction ms with
  | nil => simp
  | cons m rest ih =>
    obtain ⟨k, v⟩ := m
    by_cases h : key = k
    · subst h
      simp
      omega
    · simp only [List.lookup_cons, beq_eq_false_iff_ne.2 h]
      simp only [object.sizeOf_spec, List.cons.sizeOf_spec] at ih ⊢
      omega

def differencesAt (position : List String) : Json → Json → List Difference
  | .object ls, .object rs =>
    (joinedKeys ls rs).flatMap fun key =>
      differencesAt (position ++ [key]) (memberOrNull key ls) (memberOrNull key rs)
  | l, r => if l.same r then [] else [⟨position, l, r⟩]
termination_by l => sizeOf l
decreasing_by exact sizeOf_memberOrNull_lt key ls

def differences (l r : Json) : List Difference := differencesAt [] l r

end Json

namespace Difference

def pathTo (path key : String) : String := if path.isEmpty then key else path ++ "." ++ key

def path (d : Difference) : String := d.position.foldl pathTo ""

def describe (d : Difference) : String :=
  d.path ++ ": " ++ d.left.compact ++ " -> " ++ d.right.compact

end Difference
end Provisioning
