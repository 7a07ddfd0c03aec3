import Provisioning.Log.Entry
import Provisioning.Text.Case
import Provisioning.Decimal.Literal

/-!
Which log entries pass.  A filter is a list of directives, each with a level and perhaps a source and
fields; of those that an entry meets the most specific one decides.
-/
namespace Provisioning.Log

structure Directive where
  level : Level
  /-- How the sources begin that it is about; all sources when absent. -/
  source : Option String
  fields : List String
  /-- Whether it is only about entries inside of spans, or with certain values. -/
  bound : Bool
  deriving DecidableEq, Repr

def Level.read? (s : String) : Option Level :=
  let number := match s.toList with
    | '+' :: rest => Decimal.natural? rest
    | cs => Decimal.natural? cs
  match number.bind fun n => Level.all[n]? with
  | some l => some l
  | none =>
    if s.isEmpty then some .error
    else Level.all.find? fun l => Text.sameIgnoringAsciiCase l.name s

namespace Directive

inductive Stage where
  | start
  | levelOrSource (first : Nat)
  | span (first : Nat)
  | field (first : Nat)
  | fields
  | afterSpan
  | level (first : Nat)

def slice (cs : List Char) (first last : Nat) : String := String.ofList ((cs.take last).drop first)

def withField (text : String) (d : Directive) : Directive :=
  let (name, value) := text.toList.span (· != '=')
  { d with fields := d.fields ++ [String.ofList name], bound := d.bound || !value.isEmpty }

/-- Read one character more; `whole` is the text of the directive and `i` the place. -/
def advance (whole : List Char) (i : Nat) (c : Char) : Stage × Directive → Option (Stage × Directive)
  | (.start, d) =>
    if c = '[' then some (.span (i + 1), d)
    else if c.isAlphanum || 0x80 ≤ c.toNat || "-:_".toList.contains c then some (.levelOrSource i, d)
    else none
  | (.levelOrSource first, d) =>
    if c = '=' then some (.level (i + 1), { d with source := some (slice whole first i) })
    else if c = '[' then some (.span (i + 1), { d with source := some (slice whole first i) })
    else some (.levelOrSource first, d)
  | (.span first, d) =>
    if c = ']' then some (.afterSpan, { d with bound := true })
    else if c = '\x7b' then some (.field (i + 1), { d with bound := d.bound || first < i })
    else some (.span first, d)
  | (.field first, d) =>
    if c = '\x7d' then
      if first = i then none else some (.fields, d.withField (slice whole first i))
    else some (.field first, d)
  | (.fields, d) => if c = ']' then some (.afterSpan, d) else none
  | (.afterSpan, d) => if c = '=' then some (.level (i + 1), d) else none
  | (.level first, d) => some (.level first, d)

def finish (whole : List Char) : Stage × Directive → Option Directive
  | (.levelOrSource first, d) =>
    let s := slice whole first whole.length
    match Level.read? s with
    | some l => some { d with level := l }
    | none => some { d with source := some s }
  | (.level first, d) =>
    let s := slice whole first whole.length
    if s.isEmpty then some d else (Level.read? s).map fun l => { d with level := l }
  | (.afterSpan, d) => some d
  | _ => none

def run (whole : List Char) : Nat → List Char → Stage × Directive → Option Directive
  | _, [], state => finish whole state
  | i, c :: rest, state => (advance whole i c state).bind (run whole (i + 1) rest)

def read? (s : String) : Option Directive :=
  run s.toList 0 (Text.trim s).toList (.start, ⟨.trace, none, [], false⟩)

def concerns (e : Entry) (d : Directive) : Bool :=
  !d.bound && (d.source.all fun s => target.startsWith s) &&
  d.fields.all fun name => name = "message" || e.fields.any (·.1 = name)

/-- How specific the directive is: first by its source, then by its fields. -/
def weight (d : Directive) : Nat × Nat :=
  ((d.source.map fun s => s.utf8ByteSize + 1).getD 0, d.fields.length)

/-- Whether the first directive decides where both could; the later one does among equals. -/
def outweighs (d later : Directive) : Bool :=
  let (a, b) := d.weight
  let (c, e) := later.weight
  c < a || (c == a && e < b)

end Directive

abbrev Filter := List Directive

namespace Filter

def ofLevel (l : Level) : Filter := [⟨l, none, [], false⟩]

def read? (s : String) : Option Filter :=
  if s.isEmpty then some (ofLevel .error)
  else ((Text.splitOn ',' s.toList).map String.ofList).mapM Directive.read?

def deciding? (e : Entry) (f : Filter) : Option Directive :=
  (f.filter (Directive.concerns e)).foldl
    (fun best d => match best with
      | some b => if b.outweighs d then some b else some d
      | none => some d)
    none

def admits (f : Filter) (e : Entry) : Bool :=
  match f.deciding? e with
  | some d => d.level.admits e.level
  | none => false

end Filter
end Provisioning.Log
