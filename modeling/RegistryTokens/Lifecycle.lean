import RegistryTokens.Failure

/-!
# The lifecycle of a token

A token that has not started becomes valid, and a valid one is cancelled or ended; nothing follows
these. A timeline is judged by its consecutive statuses. A bulk token may not end its promotion
while domains are bound to it, and only then are those domains counted: the count is asked for in
whatever way the caller has, a number, a counter or a query.
-/

set_option autoImplicit false

namespace RegistryTokens.Lifecycle

open RegistryTokens.Time

def successors : Status → List Status
  | .notStarted => [.valid]
  | .valid => [.cancelled, .ended]
  | .cancelled | .ended => []

def legal (source target : Status) : Bool := (successors source).contains target

def terminal (s : Status) : Bool := (successors s).isEmpty

def firstIllegal? : List Status → Option (Status × Status)
  | a :: b :: rest => if legal a b then firstIllegal? (b :: rest) else some (a, b)
  | _ => none

/-- Whether the last step leads from valid to ended. -/
def endsPromotion (statuses : List Status) : Bool :=
  match statuses.reverse with
  | .ended :: .valid :: _ => true
  | _ => false

variable {m : Type → Type} [Monad m]

/-- Judges a timeline that is to replace the one of a token. -/
def judge (kind : TokenKind) (countBound : ExceptT Failure m Int) (timeline : Timeline Status)
    (token : Option String) : ExceptT Failure m Unit :=
  match firstIllegal? timeline.values with
  | some (source, target) => throw (.refused (Refusal.illegalTransition source target token))
  | none =>
    if kind = .bulkPricing ∧ endsPromotion timeline.values = true then do
      let count ← countBound
      if 0 < count then throw (.refused (Refusal.promotionActive token count)) else pure ()
    else pure ()

def requireEpoch (timeline : Timeline Status) : Answer Unit :=
  if timeline.firstInstant = Instant.epoch then .ok ()
  else Answer.refuse <|
    Refusal.malformedTimeline "tokenStatusTransitions map must start at START_OF_TIME."

def Chained : List Status → Prop
  | a :: b :: rest => legal a b = true ∧ Chained (b :: rest)
  | _ => True

theorem firstIllegal?_eq_none_iff (statuses : List Status) :
    firstIllegal? statuses = none ↔ Chained statuses := by
  induction statuses with
  | nil => simp [firstIllegal?, Chained]
  | cons a rest ih =>
    cases rest with
    | nil => simp [firstIllegal?, Chained]
    | cons b rest =>
      simp only [firstIllegal?, Chained]
      split
      · next h => simp [h, ih]
      · next h => simp [h]

end RegistryTokens.Lifecycle
