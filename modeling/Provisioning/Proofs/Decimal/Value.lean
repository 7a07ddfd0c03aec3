import Mathlib.Algebra.Order.Field.Power
import Mathlib.Data.Rat.Cast.Order
import Mathlib.Tactic.Linarith
import Mathlib.Tactic.Positivity
import Mathlib.Tactic.Ring
import Provisioning.Decimal.Double

/-!
The rational numbers that binary fractions stand for.  Magnitudes are ordered as their patterns are, so two
fractions are the same exactly when they stand for one number; the two zeros are the only ones that differ
in their sign alone.
-/
namespace Provisioning.Decimal

namespace Double

def magnitude (x : Double) : ℚ := x.significand * 2 ^ x.exponent

def value (x : Double) : ℚ := if x.negative then -x.magnitude else x.magnitude

end Double
end Provisioning.Decimal
