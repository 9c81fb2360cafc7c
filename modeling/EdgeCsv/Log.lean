/-!
# The log

What the program says while it works is a list of events. An event has a level and the part of the
program it comes from; who listens chooses the least level worth hearing.
-/

namespace EdgeCsv.Log

/-- How important an event is. -/
inductive Level
  | error
  | warn
  | info
  | debug
  | trace
  deriving DecidableEq, Repr

/-- How far down the scale a level lies; errors come first. -/
def Level.rank : Level → Nat
  | .error => 0
  | .warn => 1
  | .info => 2
  | .debug => 3
  | .trace => 4

/-- The name of a level. -/
def Level.name : Level → String
  | .error => "ERROR"
  | .warn => "WARN"
  | .info => "INFO"
  | .debug => "DEBUG"
  | .trace => "TRACE"

/-- The part of the program that an event comes from. -/
inductive Origin
  | program
  | files
  | conversion
  | running
  | loadScript
  | commands
  deriving DecidableEq, Repr

/-- The name under which a part of the program appears in the log. -/
def Origin.name : Origin → String
  | .program => "cfl_edges"
  | .files => "cfl_edges::common"
  | .conversion => "cfl_edges::converter"
  | .running => "cfl_edges::plan_execution"
  | .loadScript => "cfl_edges::export::to_cypher"
  | .commands => "cfl_edges::generate_commands"

/-- One thing said. -/
structure Event where
  /-- How important it is. -/
  level : Level
  /-- Who says it. -/
  origin : Origin
  /-- What is said. -/
  message : String
  deriving DecidableEq, Repr

/-- Whether a listener who wants `least` and everything more important hears the event. -/
def Event.isHeard (least : Level) (e : Event) : Bool :=
  e.level.rank ≤ least.rank

/-- The events that a listener hears. -/
def heard (least : Level) (log : List Event) : List Event :=
  log.filter (Event.isHeard least)

end EdgeCsv.Log
