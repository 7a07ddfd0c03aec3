import Provisioning.Configuration.Load
import Provisioning.Console.Arguments
import Provisioning.Json.Difference
import Provisioning.Yaml.Written

/-!
What the tasks of the command line print.  A task ends with success or with one error; what it
printed before the error stays printed.
-/
namespace Provisioning.Console

open Provisioning.Configuration (Surroundings Loaded)

structure Outcome where
  status : Nat
  output : List String
  errors : List String
  deriving DecidableEq, Repr

namespace Outcome

def text (lines : List String) : String := String.join (lines.map (· ++ "\n"))

def success (output : List String) : Outcome := ⟨0, output, []⟩

def failure (output : List String) (message : String) : Outcome := ⟨1, output, ["Error: " ++ message]⟩

def after (printed : List String) (o : Outcome) : Outcome := { o with output := printed ++ o.output }

end Outcome

def loading (o : Options) (environment : String) (s : Surroundings) (next : Loaded → Outcome) : Outcome :=
  match s.load o.directory environment with
  | .error e => .failure [] e.source.message
  | .ok l => next l

def Settings.summary (s : Settings) : List String :=
  let count (ids : List String) : String := toString ids.length
  ["  max concurrent jobs:   " ++ toString s.maxJobs,
   "  development env:       " ++ s.development,
   "  managed workspaces:    " ++ toString s.workspace.managed,
   "  region:                " ++ s.workspace.region,
   "  git provider:          " ++ s.gitProvider,
   "  templates:             " ++ count s.templates.job ++ " job, " ++ count s.templates.pipeline ++
     " pipeline, " ++ count s.templates.workflow ++ " workflow, " ++ count s.templates.outputPort ++
     " output port"]

def validate (o : Options) (s : Surroundings) : Outcome :=
  Outcome.after ["Validating provisioner configuration", "Environment: " ++ o.environment] <|
    loading o o.environment s fun l =>
      .success <| ["Config Directory: " ++ l.directory, ""] ++ Settings.summary l.settings ++
        ["", "All configuration validation checks passed"]

def display (o : Options) (s : Surroundings) : Outcome :=
  loading o o.environment s fun l =>
    let format := Text.lower o.format
    if format = "json" then .success [l.settings.toJson.pretty]
    else if format = "yaml" then .success (Yaml.lines l.settings.toJson)
    else .failure [] ("Unknown output format: " ++ format)

def environmentOf? (file : String) : Option String :=
  match Configuration.splitExtension file with
  | (stem, some "yaml") => if stem = "base" then none else some stem
  | _ => none

def environments (o : Options) (s : Surroundings) : Outcome :=
  let directory := o.directory.getD Configuration.standardDirectory
  if s.isFile directory then .failure [] "Not a directory (os error 20)"
  else match s.entries? directory with
    | none => .success ["Configuration directory not found: " ++ directory]
    | some names =>
      let found := (names.filterMap environmentOf?).mergeSort (fun a b => decide (a ≤ b))
      .success (("Available environments in " ++ directory ++ ":") :: found.map ("  - " ++ ·))

def differenceLines (base target : Settings) : List String :=
  match base.toJson.differences target.toJson with
  | [] => ["No differences"]
  | ds => ds.map fun d => "  " ++ d.describe

def compare (base target : String) (o : Options) (s : Surroundings) : Outcome :=
  Outcome.after ["Comparing configurations: " ++ base ++ " vs " ++ target] <|
    loading o base s fun b => loading o target s fun t =>
      .success (differenceLines b.settings t.settings)

def perform (o : Options) (s : Surroundings) : Task → Outcome
  | .validate => validate o s
  | .display => display o s
  | .environments => environments o s
  | .compare base target => compare base target o s

def programName : String := "config-validator"

def usage : List String :=
  ["Validate provisioner configuration files", "",
   "Usage: " ++ programName ++ " [OPTIONS] [COMMAND]"]

def misuse : Nat := 2

def run (args : List String) (s : Surroundings) : Outcome :=
  match Invocation.read args with
  | none => ⟨misuse, [], usage⟩
  | some .help => .success usage
  | some .version => .success [programName ++ " 0.1.0"]
  | some (.run o task) => perform o s task

end Provisioning.Console
