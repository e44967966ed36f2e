import RegistryTokens.Job.Basic

/-!
# Domains in use and packages

A domain counts against a token while it is bound to it and live at the clock's time. Packages are
looked up together with the number of domains that count against their tokens.
-/

set_option autoImplicit false

namespace RegistryTokens.Job

open RegistryTokens.Time

def cutoff : Job Instant := do ofAnswer (Store.Column.writeStamp (← now))

def countBound (token : String) : Job Int := do
  let instant ← cutoff
  pure ((← tables).countBound token instant)

/-- The counts of several tokens, which are zero unless the store counts otherwise. No tokens have no
counts, whatever the clock shows. -/
def countsBound (tokens : List String) : Job (Keyed String Int) := do
  if tokens.isEmpty then pure []
  else do
    let instant ← cutoff
    let s ← tables
    let zeros := Keyed.ofList (tokens.map fun token => (token, 0))
    pure (zeros.extend ((s.boundCounts tokens instant).map fun c => (c.1, (c.2 : Int))))

/-- The packages of tokens, in the order of the request without repetitions. -/
def packages (tokens : List String) : Job (List Package) := do
  let ordered := distinct tokens
  if ordered.isEmpty then
    refuse (Refusal.malformed "tokens" (.list []) "at least one token identifier is required")
  let s ← tables
  match ordered.find? fun token => !s.packages.has token with
  | some missing => refuse (Refusal.unknownPackage missing)
  | none => pure ()
  let counts ← countsBound ordered
  ofAnswer <| (counts.filterMap fun (token, inUse) =>
    (s.packages.get? token).map fun row => row.toPackage token inUse).mapM id

def package (token : String) : Job Package := do
  match ← packages [token] with
  | p :: _ => pure p
  | [] => refuse (Refusal.unknownPackage token)

def isLive (domain : String) (moment : Stamp) : Job Bool := do
  match (← tables).domains.get? domain with
  | some row => ofAnswer (row.isLiveAt moment)
  | none => fail (.broke .missingAttribute)

def describe (kind : Store.RowKind) (key : String) : Job (Option String) := do
  let s ← tables
  match kind with
  | .token => pure ((s.tokens.get? key).map fun row => row.describe key)
  | .package => ofAnswer ((s.packages.get? key).mapM fun row => row.describe key)
  | .domain => pure ((s.domains.get? key).map fun _ => Store.DomainRow.describe key)

end RegistryTokens.Job
