import RegistryTokens.Log.Context
import RegistryTokens.Log.Encoding
import RegistryTokens.Log.Incident

/-!
# Log records and their lines

A record has a level, a logger, a message, the context in which it was made, named extra values
and possibly the failure that it reports. Its line is one JSON object. The fields of the envelope
and of the context stand first and cannot be replaced by extras, nor can those reserved for the
machinery of logging be set; the fields of a reported failure follow and replace extras of their
names. Where the time of a record or the trace of its failure is not kept, no extra can pose as it
either. A record with a value that has no tree leaves no line.
-/

set_option autoImplicit false

namespace RegistryTokens.Log

open RegistryTokens.Text RegistryTokens.Time

inductive Level where
  | notset
  | debug
  | info
  | warning
  | error
  | critical
  | custom (rank : Nat) (name : String)
  deriving DecidableEq, Repr

namespace Level

def all : List Level := [notset, debug, info, warning, error, critical]

def name : Level → String
  | notset => "NOTSET"
  | debug => "DEBUG"
  | info => "INFO"
  | warning => "WARNING"
  | error => "ERROR"
  | critical => "CRITICAL"
  | custom _ name => name

def rank : Level → Nat
  | notset => 0
  | debug => 10
  | info => 20
  | warning => 30
  | error => 40
  | critical => 50
  | custom rank _ => rank

/-- Two levels have second names. -/
def ofName? (name : String) : Option Level :=
  if name = "WARN" then some warning
  else if name = "FATAL" then some critical
  else all.find? fun l => l.name == name

/-- The level from which on records count; without one of its own it is that of warnings. -/
def effective (threshold : Level) : Level := if threshold.rank = 0 then warning else threshold

def admits (threshold level : Level) : Bool := threshold.effective.rank ≤ level.rank

end Level

structure Record where
  level : Level
  logger : String
  message : String
  context : Context := .empty
  extras : List (String × Value) := []
  incident : Option Incident := none
  created : Option Instant := none

namespace Record

def reserved : List String := [
  "name", "msg", "args", "levelname", "levelno", "pathname", "filename", "module", "exc_info",
  "exc_text", "stack_info", "lineno", "funcName", "created", "msecs", "relativeCreated", "thread",
  "threadName", "processName", "process", "message", "taskName"]

def timeName : String := "ts"

def envelope (r : Record) : Keyed String Value :=
  (r.created.toList.map fun i => (timeName, .text i.iso)) ++
    [("level", .text r.level.name), ("logger", .text r.logger), ("message", .text r.message)] ++
    r.context.fields.map fun f => (f.1, .text f.2)

def withExtras (payload : Keyed String Value) (extras : List (String × Value)) :
    Keyed String Value :=
  (Keyed.ofList extras).foldl (fun p e =>
    if reserved.contains e.1 || Keyed.has p e.1 then p else p ++ [e]) payload

/-- Whether a name is that of a field which the record has but does not keep. -/
def withholds (r : Record) (name : String) : Bool :=
  (name == timeName && r.created.isNone) ||
    (name == Incident.traceName && r.incident.any fun i => i.trace.isNone)

def payload (r : Record) : Keyed String Value :=
  let told := withExtras r.envelope (r.extras.filter fun e => !r.withholds e.1)
  match r.incident with
  | some i => Keyed.extend told i.fields
  | none => told

def tree (r : Record) : Answer Json := do
  let fields ← r.payload.mapM fun f => do pure (f.1, ← encode f.2)
  pure (.object fields)

def line (r : Record) : Answer String := r.tree.map Json.line

def trees (records : List Record) : List Json := records.filterMap fun r => r.tree.toOption

end Record

def rootName : String := "allocation_kernel"

def loggerName (name : String) : String := rootName ++ "." ++ name

end RegistryTokens.Log
