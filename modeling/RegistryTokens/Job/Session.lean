import RegistryTokens.Job.Basic

/-!
# Sessions

A session runs several steps in one transaction. Each step answers and may leave a row that is
written right after its answer. The first failure ends the session; then, or when the session is
abandoned, the store is as it was before.
-/

set_option autoImplicit false

namespace RegistryTokens.Session

/-- A step gives its answer together with what is to be written afterwards. -/
structure Step (α : Type) where
  act : Job (α × Job Unit)

variable {α : Type}

def Step.of (job : Job α) : Step α := ⟨do pure (← job, pure ())⟩

structure Report (α : Type) where
  answers : List (Answer α)
  kept : Bool

def runSteps : List (Step α) → World → List (Answer α) × Option Failure × World
  | [], w => ([], none, w)
  | step :: rest, w =>
    match step.act.run w with
    | (.error failure, w) => ([.error failure], some failure, w)
    | (.ok (answer, pending), w) =>
      match pending.run w with
      | (.error failure, w) => ([.ok answer], some failure, w)
      | (.ok (), w) =>
        let (answers, failure, w) := runSteps rest w
        (.ok answer :: answers, failure, w)

def run (steps : List (Step α)) (abandon : Bool) (w : World) : Report α × World :=
  let log (w : World) (level : Log.Level) (message : String) (incident : Option Log.Incident) :=
    w.log level Job.engineLogger message [] incident
  let started := log w .debug "transaction_started" none
  match runSteps steps started with
  | (answers, none, after) =>
    if abandon then
      (⟨answers, false⟩, log { after with store := w.store } .warning "transaction_rolled_back"
        (some (Log.Incident.ofBreakdown .abandoned)))
    else (⟨answers, true⟩, log after .debug "transaction_committed" none)
  | (answers, some failure, after) =>
    (⟨answers, false⟩, log { after with store := w.store } .warning "transaction_rolled_back"
      (some (Log.Incident.ofFailure failure)))

end RegistryTokens.Session
