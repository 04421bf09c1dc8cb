/-!
# Log events

What the parts of the library note while they work. An event carries its text in full; which events
are written, and where, is decided outside.
-/

namespace TemplateServer.Log

/-- How much an event matters. -/
inductive Level
  | error
  | warn
  | info
  | debug
  | trace
deriving DecidableEq, Repr

def Level.text : Level → String
  | error => "ERROR"
  | warn => "WARN"
  | info => "INFO"
  | debug => "DEBUG"
  | trace => "TRACE"

/-- How many levels matter more. -/
def Level.rank : Level → Nat
  | error => 0
  | warn => 1
  | info => 2
  | debug => 3
  | trace => 4

def Level.ofName? : String → Option Level
  | "error" => some error
  | "warn" => some warn
  | "info" => some info
  | "debug" => some debug
  | "trace" => some trace
  | _ => none

/-- The part of the library that notes an event. -/
inductive Target
  | dispatch
  | cache
  | resolver
  | runtime
  | compiler
  | server
  | cli
deriving DecidableEq, Repr

def Target.text : Target → String
  | dispatch => "dispatch"
  | cache => "cache"
  | resolver => "resolver"
  | runtime => "runtime"
  | compiler => "compiler"
  | server => "server"
  | cli => "cli"

structure Event where
  level : Level
  target : Target
  message : String
deriving DecidableEq, Repr

def Event.line (e : Event) : String := s!"{e.level.text} {e.target.text}: {e.message}"

/-- Those of the events that matter at least as much as a level. -/
def atLeast (level : Level) (events : List Event) : List Event :=
  events.filter fun e => e.level.rank ≤ level.rank

end TemplateServer.Log
