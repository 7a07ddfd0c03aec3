import Provisioning.Decimal.Double

/-!
The shortest decimal that reads back as a given number.  The reals that round to it form an
interval, closed when its significand is even.  Decimal grids are tried from the coarsest
on; the first grid with a point in the interval gives the digits, the nearer of two points
winning and the even one of two equally near.
-/
namespace Provisioning.Decimal

/-- Digits `d` and a power `k` of ten: the magnitude `d * 10 ^ k`. -/
structure Digits where
  value : Nat
  power : Int
  deriving DecidableEq, Repr

/-- An interval around `mid / den`, its ends included when `closed`. -/
structure Interval where
  low : Nat
  mid : Nat
  high : Nat
  den : Nat
  closed : Bool

def Double.interval (x : Double) : Interval :=
  let q := x.exponent - 2
  let up := Nat.pow 2 q.toNat
  let m := x.significand
  let below := if x.pattern % leadingBit = 0 && 2 * leadingBit ≤ x.pattern then 1 else 2
  ⟨(4 * m - below) * up, 4 * m * up, (4 * m + 2) * up, Nat.pow 2 (-q).toNat, m % 2 == 0⟩

def Interval.contains (i : Interval) (c : Nat) (k : Int) : Bool :=
  let point := c * Nat.pow 10 k.toNat * i.den
  let scale := Nat.pow 10 (-k).toNat
  if i.closed then i.low * scale ≤ point && point ≤ i.high * scale
  else i.low * scale < point && point < i.high * scale

/-- The best point of the grid of multiples of `10 ^ k`, if one lies in the interval. -/
def Interval.onGrid (i : Interval) (k : Int) : Option Nat :=
  let unit := Nat.pow 10 k.toNat * i.den
  let mid := i.mid * Nat.pow 10 (-k).toNat
  let c := mid / unit
  let lowIn := 0 < c && i.contains c k
  let highIn := i.contains (c + 1) k
  if lowIn && highIn then
    let twice := 2 * mid
    let half := (2 * c + 1) * unit
    if twice < half || (twice == half && c % 2 == 0) then some c else some (c + 1)
  else if lowIn then some c
  else if highIn then some (c + 1)
  else none

def leadingPower (num den : Nat) : Int :=
  ((Nat.toDigits 10 (num * Nat.pow 10 330 / den)).length : Int) - 331

def Interval.search (i : Interval) : Nat → Int → Option Digits
  | 0, _ => none
  | fuel + 1, k =>
    match i.onGrid k with
    | some c => some ⟨c, k⟩
    | none => i.search fuel (k - 1)

def Digits.normalize : Nat → Digits → Digits
  | 0, d => d
  | fuel + 1, d =>
    if d.value ≠ 0 && d.value % 10 = 0 then normalize fuel ⟨d.value / 10, d.power + 1⟩ else d

def Double.shortest (x : Double) : Digits :=
  if x.pattern = 0 then ⟨0, 0⟩
  else
    let i := x.interval
    ((i.search 18 (leadingPower i.mid i.den)).getD ⟨0, 0⟩).normalize 20

/-- How a number is laid out: which powers of the leading digit are written positionally,
and how an exponent is marked. -/
structure Layout where
  least : Int
  greatest : Int
  pointZero : Bool
  mark : String
  plus : Bool

def zeros (n : Nat) : List Char := List.replicate n '0'

/-- Digits with the point where it belongs, for a leading digit of power `e`. -/
def positional (digits : List Char) (e : Int) (pointZero : Bool) : List Char :=
  if e < 0 then '0' :: '.' :: zeros (-e - 1).toNat ++ digits
  else
    let whole := e.toNat + 1
    if digits.length ≤ whole then
      digits ++ zeros (whole - digits.length) ++ (if pointZero then ['.', '0'] else [])
    else digits.take whole ++ '.' :: digits.drop whole

def exponential (digits : List Char) (e : Int) (l : Layout) : List Char :=
  (match digits with
    | [d] => [d]
    | d :: rest => d :: '.' :: rest
    | [] => []) ++ l.mark.toList ++
  (if e < 0 then '-' :: Nat.toDigits 10 e.natAbs
    else (if l.plus then ['+'] else []) ++ Nat.toDigits 10 e.natAbs)

def Layout.write (l : Layout) (x : Double) : String :=
  let d := x.shortest
  let digits := Nat.toDigits 10 d.value
  let e := d.power + digits.length - 1
  let body :=
    if l.least ≤ e && e ≤ l.greatest then positional digits e l.pointZero
    else exponential digits e l
  String.ofList (if x.negative then '-' :: body else body)

/-- Positional from 1e-5 up to below 1e16, always with a point, else with a signed exponent. -/
def wire : Layout := ⟨-5, 15, true, "e", true⟩

def plain : Layout := ⟨-400, 400, false, "e", false⟩

def pointed : Layout := ⟨-400, 400, true, "e", false⟩

end Provisioning.Decimal
