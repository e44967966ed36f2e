import RegistryTokens.Job.Basic

/-!
# Selecting tokens

A batch names its tokens either by their identifiers or by a text with which the identifiers
begin. Identifiers are answered in the order of the request without repetitions, and one that is
not stored fails the whole selection; a beginning is answered in the order of the identifiers.
-/

set_option autoImplicit false

namespace RegistryTokens

/-- What a batch is to update; exactly one of the two must be given. -/
structure Selection where
  identifiers : Option (List String) := none
  start : Option String := none
  deriving DecidableEq, Repr

namespace Job

def token (identifier : String) : Job Token := do
  match ← ofAnswer ((← tables).token? identifier) with
  | some t => pure t
  | none => refuse (Refusal.unknownToken identifier)

def findToken (identifier : String) : Job (Option Token) := do
  ofAnswer ((← tables).token? identifier)

def statusAt (identifier : String) (moment : Time.Stamp) : Job Status := do
  match (← token identifier).statusAt moment with
  | .ok s => pure s
  | .error fault => refuse (Refusal.noValue fault)

/-- No identifiers select no tokens, whatever the state of the store. -/
def byIdentifiers (identifiers : List String) : Job (List Token) :=
  (distinct identifiers).mapM token

def byStart (start : String) : Job (List Token) := do
  if Text.blank start then refuse (Refusal.blankPrefix start)
  ofAnswer ((← tables).tokensFrom start)

def resolve (selection : Selection) : Job (List Token) := do
  let (mode, tokens) ← match selection.identifiers, selection.start with
    | some identifiers, none => do pure ("identifiers", ← byIdentifiers identifiers)
    | none, some start => do pure ("prefix", ← byStart start)
    | _, _ => refuse Refusal.ambiguousSelector
  log .info "selectors.token" "tokens_selected"
    [("mode", .text mode), ("prefix", .optional selection.start), ("count", .int tokens.length)]
  pure tokens

end Job

end RegistryTokens
