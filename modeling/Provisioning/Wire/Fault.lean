import Provisioning.Text.Blank
import Provisioning.Json.Text

/-!
Why a value does not decode.  A fault names what was found and what was expected; its wording
differs between formats in three points only, the word for an empty value, the word for an integer
and the layout of fractions.
-/
namespace Provisioning.Wire

inductive Found where
  | unit
  | bool (b : Bool)
  | int (n : Int)
  | wideInt (n : Int)
  | float (x : Decimal.Double)
  | unbounded (name : String)
  | text (s : String)
  | sequence
  | map
  | tagged
  | bareVariant
  deriving DecidableEq, Repr

inductive Fault where
  | wrongType (found : Found) (expected : String)
  | wrongValue (found : Found) (expected : String)
  | wrongLength (length : Nat) (expected : String)
  | unknownVariant (name : String) (known : List String)
  | missingField (name : String)
  | duplicateField (name : String)
  | refused (reason : String)
  deriving DecidableEq, Repr

structure Wording where
  unit : String
  integer : String
  layout : Decimal.Layout

def Wording.json : Wording := ⟨"null", "integer", Decimal.wire⟩

def Wording.yaml : Wording := ⟨"unit value", "integer", Decimal.pointed⟩

def Wording.converted : Wording := ⟨"unit value", "64-bit integer", Decimal.plain⟩

def ticked (s : String) : String := "`" ++ s ++ "`"

def wideName (n : Int) : String := if n < 0 then "i128" else "u128"

def Found.describe (w : Wording) : Found → String
  | .unit => w.unit
  | .bool b => "boolean " ++ ticked (toString b)
  | .int n => w.integer ++ " " ++ ticked (toString n)
  | .wideInt n => s!"integer {ticked (toString n)} as {wideName n}"
  | .float x => "floating point " ++ ticked (w.layout.write x)
  | .unbounded name => "floating point " ++ ticked (if w.layout.pointZero then name ++ ".0" else name)
  | .text s => "string " ++ Text.quoted s
  | .sequence => "sequence"
  | .map => "map"
  | .tagged => "enum"
  | .bareVariant => "unit variant"

def expectedNames : List String → String
  | [] => "there are no variants"
  | [a] => s!"expected {ticked a}"
  | [a, b] => s!"expected {ticked a} or {ticked b}"
  | many => "expected one of " ++ Text.joinWith ", " (many.map ticked)

def Fault.message (w : Wording) : Fault → String
  | .wrongType f e => s!"invalid type: {f.describe w}, expected {e}"
  | .wrongValue f e => s!"invalid value: {f.describe w}, expected {e}"
  | .wrongLength n e => s!"invalid length {n}, expected {e}"
  | .unknownVariant n known => s!"unknown variant {ticked n}, {expectedNames known}"
  | .missingField n => s!"missing field {ticked n}"
  | .duplicateField n => s!"duplicate field {ticked n}"
  | .refused reason => reason

end Provisioning.Wire
