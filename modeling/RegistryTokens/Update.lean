import RegistryTokens.Field.Transitions
import RegistryTokens.Lifecycle
import RegistryTokens.Token

/-!
# Updates

An update gives some fields of a token new values and leaves the others alone; leaving alone and
clearing are different things. Applying an update reads the given values field by field, judges a
new timeline, and checks the rules on the result. The first failure counts and is put down to the
token. What changed is found by comparing the token before and after.
-/

set_option autoImplicit false

namespace RegistryTokens

/-- The value given for each field; only an assigned one is supplied. -/
structure Updates where
  given : TokenField → Value

namespace Updates

def empty : Updates := ⟨fun _ => .unassigned⟩

def supplied? (u : Updates) (f : TokenField) : Option Value :=
  match u.given f with
  | .assigned v => some v
  | _ => none

def suppliedFields (u : Updates) : List TokenField :=
  TokenField.all.filter fun f => (u.supplied? f).isSome

def isEmpty (u : Updates) : Bool := u.suppliedFields.isEmpty

def give (u : Updates) (f : TokenField) (v : Value) : Updates :=
  ⟨fun g => if g = f then v else u.given g⟩

def assignment (v : Value) : Value :=
  match v with
  | .assigned _ => v
  | v => .assigned v

def giveOption (u : Updates) (option : String) (v : Value) : Answer Updates :=
  match TokenField.ofOption? option with
  | some f => .ok (u.give f (assignment v))
  | none => Answer.refuse (Refusal.malformed option v "unrecognized option")

def ofOptions (options : Keyed String Value) : Answer Updates :=
  options.foldlM (fun u entry => u.giveOption entry.1 entry.2) empty

def ofFields (fields : Keyed String Value) : Answer Updates :=
  fields.foldlM (fun u entry =>
    match TokenField.ofName? entry.1 with
    | some f => .ok (u.give f entry.2)
    | none => .error .wrongType) empty

theorem supplied?_give_self (u : Updates) (f : TokenField) (v : Value) :
    (u.give f (.assigned v)).supplied? f = some v := by
  simp [give, supplied?]

theorem supplied?_give_of_ne (u : Updates) {f g : TokenField} (v : Value) (h : g ≠ f) :
    (u.give f v).supplied? g = u.supplied? g := by
  simp [give, supplied?, h]

end Updates

structure Delta where
  before : Token
  after : Token
  fields : List TokenField
  deriving Repr

namespace Delta

def changed (d : Delta) : Bool := !d.fields.isEmpty

def still (t : Token) : Delta := ⟨t, t, []⟩

def between (before after : Token) : Answer Delta := do
  pure ⟨before, after, ← before.compare after⟩

end Delta

namespace Token

variable {m : Type → Type} [Monad m]

def judgeTransitions (kind : TokenKind) (countBound : ExceptT Failure m Int)
    (timeline : Timeline Status) (token : String) : ExceptT Failure m Unit := do
  Lifecycle.judge kind countBound timeline (some token)
  Answer.lift (Lifecycle.requireEpoch timeline)

/-- The rule for registrations, which demands a domain of an anchor tenant. -/
def readRegistration (t : Token) (v : Value) : Answer RegistrationRule := do
  let rule ← Field.readWord RegistrationRule TokenField.registration.name v
  if rule = .anchorTenant ∧ t.isDomainScoped = false then
    throw (.refused (Refusal.anchorTenant t.identifier))
  pure rule

def withField (t : Token) (f : TokenField) (v : Value) : Answer Token :=
  match f with
  | .tlds => do pure { t with tlds := ← Field.readTexts v }
  | .registrars => do pure { t with registrars := ← Field.readTexts v }
  | .actions => do pure { t with actions := ← Field.readActions v }
  | .fraction => do pure { t with fraction := ← Field.readFraction v }
  | .premiums => do pure { t with premiums := ← Field.readBool f.name v }
  | .years => do pure { t with years := ← Field.readYears v }
  | .renewal => do pure { t with renewal := ← Field.readWord RenewalPricing f.name v }
  | .registration => do pure { t with registration := ← t.readRegistration v }
  | .transitions => do pure { t with transitions := ← Field.readTransitions v }

def setField (countBound : ExceptT Failure m Int) (t : Token) (f : TokenField) (v : Value) :
    ExceptT Failure m Token := do
  let after ← Answer.lift (t.withField f v)
  if f = .transitions then
    judgeTransitions t.kind countBound after.transitions t.identifier
  pure after

def setFields (countBound : ExceptT Failure m Int) (u : Updates) (t : Token) :
    ExceptT Failure m Token :=
  TokenField.all.foldlM (fun t f =>
    match u.supplied? f with
    | some v => setField countBound t f v
    | none => pure t) t

/-- Applies an update to a token. The bound domains are counted only if a bulk token is to end its
promotion. -/
def apply (countBound : ExceptT Failure m Int) (t : Token) (u : Updates) :
    ExceptT Failure m Delta :=
  if u.isEmpty then pure (Delta.still t)
  else
    let attempt : ExceptT Failure m Token := do
      let after ← setFields countBound u t
      Answer.lift after.check
      pure after
    ExceptT.mk do
      match ← attempt.run with
      | .ok after => pure (Delta.between t after)
      | .error failure => pure (.error (failure.about t.identifier))

end Token

end RegistryTokens
