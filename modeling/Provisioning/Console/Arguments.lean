import Provisioning.Text.Blank

/-!
The arguments of the command line.  Options of the whole program stand before the task, each at most
once but for the one that is counted; options of a task stand after it.
-/
namespace Provisioning.Console

inductive Task where
  | validate
  | display
  | environments
  | compare (base target : String)
  deriving DecidableEq, Repr

structure Options where
  environment : String
  directory : Option String
  verbosity : Nat
  format : String
  deriving DecidableEq, Repr

inductive Invocation where
  | run (options : Options) (task : Task)
  | help
  | version
  deriving DecidableEq, Repr

structure Spec where
  name : String
  letter : Option Char
  allowsEmpty : Bool
  deriving Repr

abbrev Given := List (String × String)

/-- The given options with one more; none when it was given before or must not be empty. -/
def give? (o : Spec) (value : String) (g : Given) : Option Given :=
  if (g.lookup o.name).isSome || (value.isEmpty && !o.allowsEmpty) then none
  else some ((o.name, value) :: g)

def isValue (arg : String) : Bool := arg = "-" || !arg.startsWith "-"

inductive Part where
  | option (o : Spec) (value : String)
  | pending (o : Spec)
  | counted (n : Nat)
  | help
  | version
  deriving Repr

structure Grammar where
  options : List Spec
  whole : Bool

namespace Grammar

/-- Letters after a dash: counted ones, and at the end perhaps one with a value. -/
def ofLetters (g : Grammar) : (count : Nat) → List Char → Option (List Part)
  | n, [] => some [.counted n]
  | n, c :: rest =>
    match g.options.find? fun o => o.letter == some c with
    | some o =>
      let part := match rest with
        | [] => Part.pending o
        | '=' :: value => .option o (String.ofList value)
        | value => .option o (String.ofList value)
      some [.counted n, part]
    | none =>
      if c = 'h' then some [.counted n, .help]
      else if g.whole && c = 'V' then some [.counted n, .version]
      else if g.whole && c = 'v' then ofLetters g (n + 1) rest
      else none

def ofName (g : Grammar) (name : String) (value : Option String) : Option (List Part) :=
  match g.options.find? fun o => o.name == name, value with
  | some o, some value => some [.option o value]
  | some o, none => some [.pending o]
  | none, some _ => none
  | none, none =>
    if name = "help" then some [.help]
    else if g.whole && name = "version" then some [.version]
    else if g.whole && name = "verbose" then some [.counted 1]
    else none

def ofArgument (g : Grammar) (arg : String) : Option (List Part) :=
  match arg.toList with
  | '-' :: '-' :: rest =>
    let (name, tail) := rest.span (· != '=')
    g.ofName (String.ofList name) (match tail with
      | [] => none
      | _ :: value => some (String.ofList value))
  | '-' :: letters => g.ofLetters 0 letters
  | _ => none

end Grammar

structure Progress where
  given : Given := []
  count : Nat := 0
  pending : Option Spec := none
  asked : Option Invocation := none

def Progress.take? (p : Progress) : List Part → Option Progress
  | [] => some p
  | part :: rest =>
    match part with
    | .option o value => (give? o value p.given).bind fun given => take? { p with given } rest
    | .pending o =>
      if (p.given.lookup o.name).isSome then none else take? { p with pending := some o } rest
    | .counted n => take? { p with count := p.count + n } rest
    | .help => some { p with asked := some .help }
    | .version => some { p with asked := some .version }

/-- Read the options at the front of the arguments: what they are, and what follows them. -/
def readOptions (g : Grammar) (p : Progress) : List String → Option (Progress × List String)
  | [] => if p.pending.isSome then none else some (p, [])
  | arg :: rest =>
    match p.pending with
    | some o =>
      if isValue arg then
        (give? o arg p.given).bind fun given => readOptions g { p with given, pending := none } rest
      else none
    | none =>
      if arg = "--" then if rest.isEmpty then some (p, []) else none
      else if isValue arg then some (p, arg :: rest)
      else do
        let p ← p.take? (← g.ofArgument arg)
        if p.asked.isSome then some (p, []) else readOptions g p rest

def environmentOption : Spec := ⟨"environment", some 'e', true⟩
def directoryOption : Spec := ⟨"config-dir", some 'c', false⟩
def formatOption : Spec := ⟨"format", none, true⟩
def baseOption : Spec := ⟨"base", some 'b', true⟩
def targetOption : Spec := ⟨"target", some 't', true⟩

def program : Grammar := ⟨[environmentOption, directoryOption, formatOption], true⟩

def simpleTask : Grammar := ⟨[], false⟩

def comparison : Grammar := ⟨[baseOption, targetOption], false⟩

def standardEnvironment : String := "development"

def taskNames : List String := ["validate", "show", "environments", "compare", "help"]

def readTask (name : String) (args : List String) : Option (Task ⊕ Invocation) :=
  let reading (g : Grammar) (task : Progress → Option Task) : Option (Task ⊕ Invocation) := do
    let (p, rest) ← readOptions g {} args
    match p.asked, rest with
    | some asked, _ => some (.inr asked)
    | none, [] => .inl <$> task p
    | none, _ => none
  match name with
  | "validate" => reading simpleTask fun _ => some .validate
  | "show" => reading simpleTask fun _ => some .display
  | "environments" => reading simpleTask fun _ => some .environments
  | "compare" => reading comparison fun p => do
    let target ← p.given.lookup targetOption.name
    some (.compare ((p.given.lookup baseOption.name).getD standardEnvironment) target)
  | "help" =>
    match args with
    | [] => some (.inr .help)
    | [name] => if taskNames.contains name then some (.inr .help) else none
    | _ => none
  | _ => none

def Progress.options (p : Progress) : Options where
  environment := (p.given.lookup environmentOption.name).getD standardEnvironment
  directory := p.given.lookup directoryOption.name
  verbosity := p.count
  format := (p.given.lookup formatOption.name).getD "json"

/-- What the arguments ask for; none when they are not well formed.  Without a task the settings are
validated. -/
def Invocation.read (args : List String) : Option Invocation := do
  let (p, rest) ← readOptions program {} args
  match p.asked, rest with
  | some asked, _ => some asked
  | none, [] => some (.run p.options .validate)
  | none, name :: rest =>
    match ← readTask name rest with
    | .inl task => some (.run p.options task)
    | .inr asked => some asked

end Provisioning.Console
