import Provisioning.Console.Run

/-!
The command line.  It looks around in the configuration directory and in the environment, and all
else is decided by `Console.run`.
-/
namespace Provisioning.Console

def ownVariables : IO (List (String × String)) := do
  let text ← try IO.FS.readFile "/proc/self/environ" catch _ => pure ""
  return (Text.splitOn (Char.ofNat 0) text.toList).filterMap fun cs =>
    match cs.span (· != '=') with
    | (_, []) => none
    | (name, _ :: value) => some (String.ofList name, String.ofList value)

def directoryTexts (directory : String) : IO (Option (List (String × String))) := do
  let place := (← IO.currentDir) / directory
  if ← place.isDir then
    let entries ← place.readDir
    some <$> entries.toList.mapM fun entry => do
      let text ← try IO.FS.readFile entry.path catch _ => pure ""
      return (Configuration.inDirectory directory entry.fileName, text)
  else return none

def lookAround (args : List String) : IO Configuration.Surroundings := do
  let directory := match Invocation.read args with
    | some (.run o _) => o.directory.getD Configuration.standardDirectory
    | _ => Configuration.standardDirectory
  let bindings ← ownVariables
  match ← directoryTexts directory with
  | some files => return { files, bindings, directories := [directory] }
  | none => return { files := [], bindings }

end Provisioning.Console

def main (args : List String) : IO UInt32 := do
  let o := Provisioning.Console.run args (← Provisioning.Console.lookAround args)
  IO.print (Provisioning.Console.Outcome.text o.output)
  IO.eprint (Provisioning.Console.Outcome.text o.errors)
  return UInt32.ofNat o.status
