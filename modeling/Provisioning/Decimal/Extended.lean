import Provisioning.Decimal.Literal
import Provisioning.Decimal.Shortest

/-!
Numbers of 64 bits together with those that are not finite, so that every decimal text stands for
one: a decimal past the largest finite number is infinite.
-/
namespace Provisioning.Decimal

inductive Extended where
  | finite (x : Double)
  | infinite (negative : Bool)
  | undefined
  deriving DecidableEq, Repr

namespace Extended

def ofLiteral (l : Literal) : Extended :=
  match l.toDouble? with
  | some x => .finite x
  | none => .infinite l.negative

def named? (cs : List Char) : Option Extended :=
  let (negative, cs) := splitSign cs
  let name := String.ofList (cs.map Char.toLower)
  if name = "inf" || name = "infinity" then some (.infinite negative)
  else if name = "nan" then some .undefined
  else none

def parse? (cs : List Char) : Option Extended :=
  match Literal.parse? cs with
  | some l => some (ofLiteral l)
  | none => named? cs

def text : Extended → String
  | .finite x => plain.write x
  | .infinite negative => if negative then "-inf" else "inf"
  | .undefined => "NaN"

def isZero : Extended → Bool
  | .finite x => x.pattern == 0
  | _ => false

def largestWord : Nat := UInt64.size - 1

/-- The nearest number of 64 bits without sign: zero for what is below all of them and for what is
no number, the largest for what is above. -/
def toWord : Extended → Nat
  | .finite x => min x.round.toNat largestWord
  | .infinite negative => if negative then 0 else largestWord
  | .undefined => 0

end Extended
end Provisioning.Decimal
