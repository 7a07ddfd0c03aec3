import Provisioning.Chain.Completion

/-!
Repositories of workloads.  One that is registered at the path already is taken as it is; removal
attempts every repository at the path and reports each one that stays.
-/
namespace Provisioning.Session

def lostRepository (s : Session) (path : String) : Failure :=
  .single <|
    s!"Repository at '{path}' in workspace '{s.workspace.name}' " ++
    "was reported as existing but could not be found"

def ensureRepository (s : Session) (url path provider : String) : Remote RepoInfo := do
  match ← s.repositories (.create url path provider) with
  | .created repo => pure repo
  | .alreadyExists =>
    match ← s.repositories (.listByPath path) with
    | repo :: _ => pure repo
    | [] => Program.fail (s.lostRepository path)

def repositoryContext (s : Session) (repo : RepoInfo) : String :=
  s!"Failed to delete repository '{repo.path}' in workspace '{s.workspace.name}'"

def removeRepository (s : Session) (repo : RepoInfo) : Remote (Except Failure Deletion) := do
  let result ← (s.repositories (.delete repo.id)).attempt
  pure (result.mapError (Failure.inContext (s.repositoryContext repo)))

def removeRepositories (s : Session) (path : String) : Remote Unit := do
  let found ← s.repositories (.listByPath path)
  let results ← Program.each s.removeRepository found
  let _ ← Program.ofExcept (accumulate results)
  pure ()

end Provisioning.Session
