import Provisioning.Decimal.Literal
import Provisioning.Wire.Fault
import Provisioning.Yaml.Token

/-!
What a scalar means.  A plain one is the empty value, a truth value, an integer, a fraction or else
a text; quotes make a text, and so does any tag but those of the four other kinds.
-/
namespace Provisioning.Yaml

inductive Meaning where
  | null
  | bool (b : Bool)
  | int (n : Int)
  | float (x : Decimal.Double)
  | unbounded (name : String)
  | text (s : String)
  deriving DecidableEq, Repr

def isNull (s : String) : Bool := ["null", "Null", "NULL", "~"].contains s

def truth? (s : String) : Option Bool :=
  if ["true", "True", "TRUE"].contains s then some true
  else if ["false", "False", "FALSE"].contains s then some false
  else none

def startsWithSign : List Char → Bool
  | c :: _ => c = '+' || c = '-'
  | [] => false

def naturalIn? (base : Nat) (cs : List Char) : Option Nat :=
  if !cs.isEmpty && cs.all (fun c => isHex c && hexDigit c < base) then
    some (cs.foldl (fun n c => base * n + hexDigit c) 0)
  else none

/-- An integer without sign, in base sixteen, eight or two when marked so. -/
def magnitude? : List Char → Option Nat
  | '0' :: 'x' :: rest => naturalIn? 16 rest
  | '0' :: 'o' :: rest => naturalIn? 8 rest
  | '0' :: 'b' :: rest => naturalIn? 2 rest
  | cs => naturalIn? 10 cs

def isZeroPadded (cs : List Char) : Bool :=
  let cs := if startsWithSign cs then cs.tail else cs
  cs.length > 1 && cs.head? = some '0' && cs.all Char.isDigit

def integer? (cs : List Char) : Option Int :=
  if isZeroPadded cs then none
  else match cs with
    | '-' :: rest => (magnitude? rest).bind fun n => if n ≤ Nat.pow 2 127 then some (-(n : Int)) else none
    | '+' :: rest | rest => (magnitude? rest).bind fun n => if n < Nat.pow 2 128 then some (n : Int) else none

def unbounded? (s : String) : Option String :=
  if [".inf", ".Inf", ".INF", "+.inf", "+.Inf", "+.INF"].contains s then some "inf"
  else if ["-.inf", "-.Inf", "-.INF"].contains s then some "-inf"
  else if [".nan", ".NaN", ".NAN"].contains s then some "NaN"
  else none

def fraction? (cs : List Char) : Option Decimal.Double :=
  match cs with
  | '+' :: rest => if startsWithSign rest then none else (Decimal.Literal.parse? rest).bind (·.toDouble?)
  | cs => (Decimal.Literal.parse? cs).bind (·.toDouble?)

def fractional? (s : String) : Option Meaning :=
  match unbounded? s with
  | some name => some (.unbounded name)
  | none => (fraction? s.toList).map .float

def Meaning.ofPlain (s : String) : Meaning :=
  if s.isEmpty || isNull s then .null
  else match truth? s with
    | some b => .bool b
    | none =>
      match integer? s.toList with
      | some n => .int n
      | none => if isZeroPadded s.toList then .text s else (fractional? s).getD (.text s)

def boolTag : String := "tag:yaml.org,2002:bool"
def intTag : String := "tag:yaml.org,2002:int"
def floatTag : String := "tag:yaml.org,2002:float"
def nullTag : String := "tag:yaml.org,2002:null"

def expecting (what : String) (s : String) : Option Meaning → Except Wire.Fault Meaning
  | some m => .ok m
  | none => .error (.wrongValue (.text s) what)

def Meaning.ofScalar (tag : Option String) (s : String) (style : Style) : Except Wire.Fault Meaning :=
  match tag with
  | none => .ok (if style = .plain then ofPlain s else text s)
  | some tag =>
    if tag = boolTag then expecting "a boolean" s ((truth? s).map bool)
    else if tag = intTag then expecting "an integer" s ((integer? s.toList).map int)
    else if tag = floatTag then expecting "a float" s (fractional? s)
    else if tag = nullTag then expecting "null" s (if isNull s then some null else none)
    else .ok (text s)

def Meaning.found : Meaning → Wire.Found
  | null => .unit
  | bool b => .bool b
  | int n => if Number.isWord n then .int n else .wideInt n
  | float x => .float x
  | unbounded name => .unbounded name
  | text s => .text s

/-- The value in a free section: what is not finite becomes the empty value, and an integer must
fit 64 bits. -/
def Meaning.toJson : Meaning → Except Wire.Fault Json
  | null => .ok .null
  | bool b => .ok (.bool b)
  | int n => if Number.isWord n then .ok (.int n) else .error (.refused "JSON number out of range")
  | float x => .ok (.number (.float x))
  | unbounded _ => .ok .null
  | text s => .ok (.text s)

end Provisioning.Yaml
