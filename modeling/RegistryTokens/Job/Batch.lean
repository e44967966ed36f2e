import RegistryTokens.Job.Selection
import RegistryTokens.Job.Usage
import RegistryTokens.Update

/-!
# Batches

A batch applies one update to all tokens of a selection. Every change is computed before anything
is written; the first token that is rejected ends the batch, and then nothing is written at all.
Only changed fields of changed tokens are written, together with the time of the update. A dry run
computes the same answer and writes nothing.
-/

set_option autoImplicit false

namespace RegistryTokens

open RegistryTokens.Time RegistryTokens.Store

namespace Batch

structure Request where
  selection : Selection
  updates : Updates
  dryRun : Bool := false

structure Outcome where
  token : String
  fields : List TokenField
  deriving DecidableEq, Repr

def Outcome.changed (o : Outcome) : Bool := !o.fields.isEmpty

def Outcome.ofDelta (d : Delta) : Outcome := ⟨d.before.identifier, d.fields⟩

structure Result where
  outcomes : List Outcome
  committed : Bool
  dryRun : Bool
  deriving DecidableEq, Repr

def Result.changedTokens (r : Result) : List String :=
  (r.outcomes.filter (·.changed)).map (·.token)

def Result.unchangedTokens (r : Result) : List String :=
  (r.outcomes.filter fun o => !o.changed).map (·.token)

def logger : String := "services.token_update_orchestrator"

/-- Notes that a token was rejected; a breakdown is not the token's fault. -/
def noteRejection (failure : Failure) (w : World) : World :=
  match failure with
  | .refused r =>
    w.log .warning logger "token_update_rejected"
      [("error_code", .text r.code), ("reason", .text r.message)] none
  | .broke _ => w

def delta (updates : Updates) (t : Token) : Job Delta :=
  Job.within [(.token, t.identifier)] <|
    Job.onFailure (t.apply (Job.countBound t.identifier) updates) noteRejection

def writeDelta (now : Instant) (s : Store) (d : Delta) : Answer Store := do
  if d.fields.contains .years then Column.requireFit d.after.years
  pure { s with
    tokens := s.tokens.modify d.before.identifier fun row => row.update d.after d.fields now }

/-- Writes what changed. The clock is read even if nothing did. -/
def write (deltas : List Delta) : Job Unit := do
  let stamp ← Job.now
  let changed := deltas.filter (·.changed)
  if changed.isEmpty then pure ()
  else do
    let instant ← Job.ofAnswer (Column.writeStamp stamp)
    let s ← Job.tables
    Job.setTables (← Job.ofAnswer (changed.foldlM (writeDelta instant) s))

def runWithin (request : Request) : Job (List Delta) := do
  let targets ← Job.resolve request.selection
  let deltas ← targets.mapM (delta request.updates)
  if request.dryRun then pure deltas
  else do
    write deltas
    pure deltas

def told : Failure → Failure
  | .broke (.store _) => .refused (Refusal.storeFailed "batch update" "")
  | failure => failure

def tellFault {α : Type} (job : Job α) : Job α :=
  ExceptT.mk fun w =>
    let (result, after) := job.run w
    (result.mapError told, after)

/-- The work of a batch in a transaction of its own, under an identifier of its own. -/
def conduct (work : Job (List Delta)) (identifier : String) (request : Request) : Job Result :=
  Job.within [(.batch, identifier)] do
    Job.log .info logger "token_batch_started"
      [("prefix", .optional request.selection.start),
        ("identifier_count", match request.selection.identifiers with
          | some identifiers => .int identifiers.length
          | none => .null),
        ("fields", .list (request.updates.suppliedFields.map fun f => .text f.name)),
        ("dry_run", .bool request.dryRun)]
    let deltas ← tellFault (Job.transact work)
    let outcomes := deltas.map Outcome.ofDelta
    let changed := (outcomes.filter (·.changed)).length
    Job.log .info logger
      (if request.dryRun then "token_batch_dry_run" else "token_batch_committed")
      [("token_count", .int outcomes.length), ("changed_count", .int changed)]
    pure ⟨outcomes, !request.dryRun && 0 < changed, request.dryRun⟩

def run (identifier : String) (request : Request) : Job Result :=
  conduct (runWithin request) identifier request

end Batch

end RegistryTokens
