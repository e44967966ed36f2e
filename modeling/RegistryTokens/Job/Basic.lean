import RegistryTokens.Log.Record
import RegistryTokens.Store

/-!
# Jobs

A job works on the world of the registry: the store, whose tables may be missing, the clock, the
context of log lines and the journal of what was logged. It ends with a result or a failure, and
the world is there in both cases. A transaction brings the store back when its job fails.
-/

set_option autoImplicit false

namespace RegistryTokens

open RegistryTokens.Time

structure World where
  store : Option Store
  clock : Clock
  context : Log.Context := .empty
  journal : List Log.Record := []

abbrev Job := ExceptT Failure (StateM World)

namespace Job

variable {α : Type}

def ofAnswer (answer : Answer α) : Job α := ExceptT.mk (pure answer)

def fail (failure : Failure) : Job α := ofAnswer (.error failure)

def refuse (refusal : Refusal) : Job α := fail (.refused refusal)

def get : Job World := ExceptT.lift (StateT.get)

def update (f : World → World) : Job Unit := ExceptT.lift (StateT.modifyGet fun w => ((), f w))

end Job

namespace World

def log (w : World) (level : Log.Level) (logger message : String)
    (extras : List (String × Value)) (incident : Option Log.Incident) : World :=
  let logger := Log.loggerName logger
  let record : Log.Record := { level, logger, message, context := w.context, extras, incident }
  { w with journal := w.journal ++ [record] }

end World

namespace Job

variable {α : Type}

def log (level : Log.Level) (logger message : String) (extras : List (String × Value)) :
    Job Unit :=
  update fun w => w.log level logger message extras none

def now : Job Stamp := do ofAnswer ((← get).clock.now.mapError Failure.ofClock)

def tables : Job Store := do
  ofAnswer (Answer.ofOption (.broke (.store .operational)) (← get).store)

def setTables (s : Store) : Job Unit := update fun w => { w with store := some s }

def within (bindings : List (Log.ContextField × String)) (job : Job α) : Job α :=
  ExceptT.mk fun w =>
    let saved := w.context.saved bindings
    let (result, after) := job.run { w with context := w.context.assign bindings }
    (result, { after with context := after.context.restore saved })

def onFailure (job : Job α) (react : Failure → World → World) : Job α :=
  ExceptT.mk fun w =>
    match job.run w with
    | (.ok a, after) => (.ok a, after)
    | (.error failure, after) => (.error failure, react failure after)

def engineLogger : String := "db.engine"

/-- A job in a transaction: the store keeps what it wrote only if it succeeds. -/
def transact (job : Job α) : Job α :=
  ExceptT.mk fun w =>
    let started := w.log .debug engineLogger "transaction_started" [] none
    match job.run started with
    | (.ok a, after) => (.ok a, after.log .debug engineLogger "transaction_committed" [] none)
    | (.error failure, after) =>
      (.error failure, { after with store := w.store }.log .warning engineLogger
        "transaction_rolled_back" [] (some (Log.Incident.ofFailure failure)))

theorem store_transact_of_error (job : Job α) (w : World) {failure : Failure}
    (h : ((transact job).run w).1 = .error failure) :
    ((transact job).run w).2.store = w.store := by
  simp only [transact, ExceptT.run, ExceptT.mk] at h ⊢
  split at h
  · simp at h
  · rfl

end Job

end RegistryTokens
