/-!
Finite binary floating-point numbers of 64 bits, as a sign and a magnitude pattern.  The
pattern holds the exponent above 52 bits of fraction, so patterns are ordered as the
magnitudes are.  Reading a decimal gives the nearest number, and of two that are equally
near the one with the even pattern; a decimal that would round past the largest finite
number has none.
-/
namespace Provisioning.Decimal

def infinitePattern : Nat := 0x7FF0000000000000

structure Double where
  negative : Bool
  pattern : Nat
  finite : pattern < infinitePattern
  deriving DecidableEq, Repr

namespace Double

def zero : Double := ⟨false, 0, by decide⟩

instance : Inhabited Double := ⟨zero⟩

def same (x y : Double) : Bool :=
  (x.pattern == y.pattern && x.negative == y.negative) || (x.pattern == 0 && y.pattern == 0)

/-- The weight of the leading bit, which the pattern of a normal number leaves out. -/
def leadingBit : Nat := 0x10000000000000

/-- The magnitude is `significand * 2 ^ exponent`. -/
def significand (x : Double) : Nat :=
  if x.pattern < leadingBit then x.pattern else leadingBit + x.pattern % leadingBit

def exponent (x : Double) : Int :=
  if x.pattern < leadingBit then -1074 else (x.pattern / leadingBit : Nat) - 1075

/-- Round `num / den` to the nearest integer, a half to the even one. -/
def roundHalfEven (num den : Nat) : Nat :=
  let down := num / den
  let rest := num % den
  if 2 * rest < den || (2 * rest == den && down % 2 == 0) then down else down + 1

/-- The pattern nearest to the positive quotient `num / den`, which may be infinite. -/
def nearestPattern (num den : Nat) : Nat :=
  let low : Int := max ((num.log2 : Int) - den.log2 - 53) (-1074)
  let fits (q : Int) : Bool := num * Nat.pow 2 (-q).toNat < 2 * leadingBit * (den * Nat.pow 2 q.toNat)
  let q := if fits low then low else low + 1
  (q + 1074).toNat * leadingBit + roundHalfEven (num * Nat.pow 2 (-q).toNat) (den * Nat.pow 2 q.toNat)

def ofQuotient? (negative : Bool) (num den : Nat) : Option Double :=
  let p := if num = 0 then 0 else nearestPattern num den
  if h : p < infinitePattern then some ⟨negative, p, h⟩ else none

/-- The number nearest to `digits * 10 ^ scale`. -/
def ofDecimal? (negative : Bool) (digits : Nat) (scale : Int) : Option Double :=
  let top : Int := (Nat.toDigits 10 digits).length + scale
  if digits = 0 || top < -400 then ofQuotient? negative 0 1
  else if 400 < top then none
  else if 0 ≤ scale then ofQuotient? negative (digits * Nat.pow 10 scale.toNat) 1
  else ofQuotient? negative digits (Nat.pow 10 (-scale).toNat)

def ofInt? (n : Int) : Option Double := ofDecimal? (n < 0) n.natAbs 0

/-- The integer nearest to the number, a half going away from zero. -/
def round (x : Double) : Int :=
  let num := x.significand * Nat.pow 2 x.exponent.toNat
  let den := Nat.pow 2 (-x.exponent).toNat
  let n : Int := ((2 * num + den) / (2 * den) : Nat)
  if x.negative then -n else n

end Double
end Provisioning.Decimal
