import Provisioning.Configuration.Surroundings
import Provisioning.Log.Filter

/-!
Logging of one process.  The environment chooses the style and the level, and a variable of its own
may ask for another level.  The first line tells that logging has begun; beginning again changes
nothing.
-/
namespace Provisioning.Log

open Provisioning.Configuration (Surroundings)

structure Session where
  style : Style
  filter : Filter
  environment : String
  deriving DecidableEq, Repr

def production : String := "production"

def levelOf (environment : String) : Level := if environment = production then .info else .debug

def Session.of (s : Surroundings) : Session where
  style := if s.detected = production then .json else .words
  filter := ((s.lookUp? "RUST_LOG").bind Filter.read?).getD (Filter.ofLevel (levelOf s.detected))
  environment := s.detected

def Session.lines (stamp : Stamp) (entries : List Entry) (s : Session) : List String :=
  ((started stamp.process s.environment :: entries).filter s.filter.admits).map (Entry.write s.style stamp)

end Provisioning.Log
