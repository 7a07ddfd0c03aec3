import Provisioning.Text.Blank
import Provisioning.Text.Case

/-!
What a process finds around itself: the texts of files by their path from the working directory,
and environment variables.  Paths are told apart by their parts, and a part that leads nowhere new
does not count.
-/
namespace Provisioning.Configuration

/-- The parts of a path, without empty parts and without points that stand for the place itself. -/
def pathParts (path : String) : List String :=
  ((Text.splitOn '/' path.toList).map String.ofList).filter fun part => part != "" && part != "."

/-- One step along a path from a place, which is given by its parts with the last one first. -/
def stepFrom (place : List String) (part : String) : List String :=
  if part != ".." then part :: place
  else match place with
    | [] | ".." :: _ => part :: place
    | ["/"] => place
    | _ :: outer => outer

/-- Where a path leads, by the parts from the working directory or from the root. -/
def resolve (path : String) : List String :=
  ((pathParts path).foldl stepFrom (if path.startsWith "/" then ["/"] else [])).reverse

def shownPath (path : String) : String :=
  (if path.startsWith "/" then "/" else "") ++ Text.joinWith "/" (pathParts path)

def inDirectory (directory file : String) : String :=
  if file.startsWith "/" || directory.isEmpty then file
  else if Text.endsWith directory "/" then directory ++ file
  else directory ++ "/" ++ file

structure Surroundings where
  files : List (String × String)
  bindings : List (String × String)
  directories : List String := []
  deriving Repr

namespace Surroundings

def lookUp? (name : String) (s : Surroundings) : Option String := s.bindings.lookup name

def file? (path : String) (s : Surroundings) : Option String :=
  (s.files.find? fun f => resolve f.1 == resolve path).map (·.2)

def isFile (path : String) (s : Surroundings) : Bool := (s.file? path).isSome

/-- Names of what a directory holds, files and directories; none when there is no such directory. -/
def entries? (directory : String) (s : Surroundings) : Option (List String) :=
  let place := resolve directory
  let names := s.files.filterMap fun f =>
    let parts := resolve f.1
    if place.isPrefixOf parts then (parts.drop place.length).head? else none
  if place.isEmpty || !names.isEmpty || s.directories.any (resolve · == place) then
    some names.eraseDups
  else none

def detected (s : Surroundings) : String :=
  Text.lower (((s.lookUp? "PROVISIONER_ENV").orElse fun _ => s.lookUp? "APP_ENV").getD "development")

end Surroundings

def fileName (path : String) : String :=
  match Text.splitLast '/' path.toList with
  | some (_, name) => String.ofList name
  | none => path

/-- The part of a file's name before its last point and the part after it, which it has only when
something stands before that point. -/
def splitExtension (name : String) : String × Option String :=
  match Text.splitLast '.' name.toList with
  | some (stem, extension) =>
    if stem.isEmpty then (name, none) else (String.ofList stem, some (String.ofList extension))
  | none => (name, none)

def hasExtension (path : String) : Bool := (splitExtension (fileName path)).2.isSome

end Provisioning.Configuration
