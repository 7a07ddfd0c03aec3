import Provisioning.Text.Blank
import Provisioning.Wire.Decode

/-!
Moments in time, counted in seconds from 1970 with nanoseconds on top, in universal time.  A leap
second is the second before it with a thousand million nanoseconds more.  A moment is written
with as many groups of three fraction digits as it needs; it is read from a date, a `T` or
blanks, a time and an offset.
-/
namespace Provisioning

structure Timestamp where
  seconds : Int
  nanos : Nat
  deriving DecidableEq, Repr

namespace Timestamp

def epoch : Timestamp := ⟨0, 0⟩

/-- Days from 1970-01-01 to a day of the Gregorian calendar. -/
def daysOfDate (year : Int) (month day : Nat) : Int :=
  let y := if month ≤ 2 then year - 1 else year
  let m : Int := if month ≤ 2 then month + 9 else (month : Int) - 3
  let era := y / 400
  let yearOfEra := y - era * 400
  let dayOfYear := (153 * m + 2) / 5 + day - 1
  era * 146097 + yearOfEra * 365 + yearOfEra / 4 - yearOfEra / 100 + dayOfYear - 719468

def dateOfDays (days : Int) : Int × Nat × Nat :=
  let z := days + 719468
  let era := z / 146097
  let dayOfEra := z - era * 146097
  let yearOfEra := (dayOfEra - dayOfEra / 1460 + dayOfEra / 36524 - dayOfEra / 146096) / 365
  let dayOfYear := dayOfEra - (365 * yearOfEra + yearOfEra / 4 - yearOfEra / 100)
  let m := (5 * dayOfYear + 2) / 153
  let day := dayOfYear - (153 * m + 2) / 5 + 1
  let month := if m < 10 then m + 3 else m - 9
  (yearOfEra + era * 400 + (if month ≤ 2 then 1 else 0), month.toNat, day.toNat)

def isLeap (year : Int) : Bool := year % 4 == 0 && (year % 100 != 0 || year % 400 == 0)

def daysInMonth (year : Int) (month : Nat) : Nat :=
  if month = 2 then (if isLeap year then 29 else 28)
  else if month = 4 || month = 6 || month = 9 || month = 11 then 30 else 31

def padded (width n : Nat) : String :=
  let ds := Nat.toDigits 10 n
  String.ofList (List.replicate (width - ds.length) '0' ++ ds)

def yearText (year : Int) : String :=
  if 0 ≤ year && year ≤ 9999 then padded 4 year.toNat
  else (if year < 0 then "-" else "+") ++ padded 4 year.natAbs

def fractionText (nanos : Nat) : String :=
  if nanos = 0 then ""
  else if nanos % 1000000 = 0 then "." ++ padded 3 (nanos / 1000000)
  else if nanos % 1000 = 0 then "." ++ padded 6 (nanos / 1000)
  else "." ++ padded 9 nanos

def write (t : Timestamp) : String :=
  let (year, month, day) := dateOfDays (t.seconds / 86400)
  let clock := (t.seconds % 86400).toNat
  let second := clock % 60 + t.nanos / 1000000000
  yearText year ++ "-" ++ padded 2 month ++ "-" ++ padded 2 day ++ "T" ++
    padded 2 (clock / 3600) ++ ":" ++ padded 2 (clock / 60 % 60) ++ ":" ++ padded 2 second ++
    fractionText (t.nanos % 1000000000) ++ "Z"

inductive Malformed where
  | outOfRange
  | tooShort
  | tooLong
  | invalid
  deriving DecidableEq, Repr

def Malformed.message : Malformed → String
  | outOfRange => "input is out of range"
  | tooShort => "premature end of input"
  | tooLong => "trailing input"
  | invalid => "input contains invalid characters"

abbrev Step (α : Type) := List Char → Except Malformed (α × List Char)

def digitsNat (ds : List Char) : Nat := ds.foldl (fun n c => 10 * n + (c.toNat - 48)) 0

def number (most : Nat) : Step Nat := fun cs =>
  let ds := (cs.take most).takeWhile Char.isDigit
  if cs.isEmpty then .error .tooShort
  else if ds.isEmpty then .error .invalid
  else .ok (digitsNat ds, cs.drop ds.length)

def skipBlank (cs : List Char) : List Char := cs.dropWhile Text.isBlank

def bounded (most low high : Nat) : Step Nat := fun cs => do
  let (n, rest) ← number most (skipBlank cs)
  if low ≤ n && n ≤ high then .ok (n, rest) else .error .outOfRange

def sign (c : Char) : Step Unit := fun cs =>
  match skipBlank cs with
  | [] => .error .tooShort
  | d :: rest => if d = c then .ok ((), rest) else .error .invalid

/-- A year of up to four digits, or of any length after a sign. -/
def year : Step Int := fun cs => do
  let (n, rest) ← (match skipBlank cs with
    | '-' :: rest => (number rest.length rest).map fun ((n : Nat), r) => (-(n : Int), r)
    | '+' :: rest => (number rest.length rest).map fun ((n : Nat), r) => ((n : Int), r)
    | rest => (number 4 rest).map fun ((n : Nat), r) => ((n : Int), r))
  if -0x80000000 ≤ n && n < 0x80000000 then .ok (n, rest) else .error .outOfRange

/-- Fraction digits after a point, the tenth and later ones without effect. -/
def fraction : Step Nat := fun cs =>
  match cs with
  | '.' :: rest => do
    let (n, after) ← number 9 rest
    let used := rest.length - after.length
    .ok (n * Nat.pow 10 (9 - used), after.dropWhile Char.isDigit)
  | rest => .ok (0, rest)

def twoDigits (tens : Char) : Step Nat := fun cs =>
  match cs with
  | a :: b :: rest =>
    if a.isDigit && b.isDigit then
      if a ≤ tens then .ok (digitsNat [a, b], rest) else .error .outOfRange
    else .error .invalid
  | _ => .error .tooShort

def offset : Step Int := fun cs =>
  match skipBlank cs with
  | [] => .error .tooShort
  | c :: rest =>
    if ((c :: rest).take 3).map Char.toUpper = ['U', 'T', 'C'] then .ok (0, (c :: rest).drop 3)
    else if c = 'Z' || c = 'z' then .ok (0, rest)
    else if c = '+' || c = '-' || c.toNat = 0x2212 then do
      let (h, rest) ← twoDigits '9' rest
      let (m, rest) ← twoDigits '5' (rest.dropWhile fun c => c = ':' || Text.isBlank c)
      let s : Int := h * 3600 + m * 60
      .ok (if c = '+' then s else -s, rest)
    else .error .invalid

def separator : Step Unit := fun cs =>
  match cs with
  | [] => .error .tooShort
  | c :: rest =>
    if c = 'T' || c = 't' then .ok ((), rest)
    else if c = ' ' || (9 ≤ c.toNat && c.toNat ≤ 13 && c.toNat != 11) then .ok ((), skipBlank rest)
    else .error .invalid

def ofParts (y : Int) (month day hour minute second nanos : Nat) (off : Int) :
    Except Malformed Timestamp :=
  if day ≤ daysInMonth y month && -262143 ≤ y && y ≤ 262142 && off.natAbs < 86400 then
    let leap := second = 60
    let s := if leap then 59 else second
    .ok ⟨daysOfDate y month day * 86400 + hour * 3600 + minute * 60 + s - off,
      if leap then nanos + 1000000000 else nanos⟩
  else .error .outOfRange

def parse (text : String) : Except Malformed Timestamp := do
  let (y, cs) ← year text.toList
  let (_, cs) ← sign '-' cs
  let (month, cs) ← bounded 2 1 12 cs
  let (_, cs) ← sign '-' cs
  let (day, cs) ← bounded 2 1 31 cs
  let (_, cs) ← separator cs
  let (hour, cs) ← bounded 2 0 23 cs
  let (_, cs) ← sign ':' cs
  let (minute, cs) ← bounded 2 0 59 cs
  let (_, cs) ← sign ':' cs
  let (second, cs) ← bounded 2 0 60 cs
  let (nanos, cs) ← fraction cs
  let (off, cs) ← offset cs
  if cs.isEmpty then ofParts y month day hour minute second nanos off else .error .tooLong

def toJson (t : Timestamp) : Json := .text t.write

def decode : Wire.Decoder Timestamp
  | .text s =>
    match parse s with
    | .ok t => .ok t
    | .error e => .error (.refused e.message)
  | v => Wire.unexpected v "an RFC 3339 formatted date and time string"

end Timestamp
end Provisioning
