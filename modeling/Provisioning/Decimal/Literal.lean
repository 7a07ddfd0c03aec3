import Provisioning.Decimal.Double

/-!
Decimal numbers as they are written: a sign, digits with a point somewhere in or around them, and
an exponent, with at least one digit besides the exponent.
-/
namespace Provisioning.Decimal

/-- The magnitude is `digits * 10 ^ scale`. -/
structure Literal where
  negative : Bool
  digits : Nat
  scale : Int
  deriving DecidableEq, Repr

def natOfDigits (ds : List Char) : Nat := ds.foldl (fun n c => 10 * n + (c.toNat - 48)) 0

def splitSign : List Char → Bool × List Char
  | '-' :: rest => (true, rest)
  | '+' :: rest => (false, rest)
  | rest => (false, rest)

def natural? (cs : List Char) : Option Nat :=
  if !cs.isEmpty && cs.all Char.isDigit then some (natOfDigits cs) else none

def integer? (cs : List Char) : Option Int :=
  let (negative, ds) := splitSign cs
  (natural? ds).map fun n => if negative then -(n : Int) else n

/-- The exponent after the digits; no text at all stands for none. -/
def exponent? : List Char → Option Int
  | [] => some 0
  | c :: rest => if c = 'e' || c = 'E' then integer? rest else none

def Literal.parse? (cs : List Char) : Option Literal :=
  let (negative, cs) := splitSign cs
  let (whole, rest) := cs.span Char.isDigit
  let (fraction, rest) := match rest with
    | '.' :: rest => rest.span Char.isDigit
    | rest => ([], rest)
  if whole.isEmpty && fraction.isEmpty then none
  else (exponent? rest).map fun e => ⟨negative, natOfDigits (whole ++ fraction), e - fraction.length⟩

def Literal.toDouble? (l : Literal) : Option Double := Double.ofDecimal? l.negative l.digits l.scale

end Provisioning.Decimal
