import RegistryTokens.Package
import RegistryTokens.Store.Column
import RegistryTokens.Token

/-!
# Rows

The rows of the three tables: tokens, packages and registered domains. A token row shows a token
as it is read back; the identifier is the key of the row and not part of it. A domain is live
while it has no deletion time or one that is still to come.
-/

set_option autoImplicit false

namespace RegistryTokens.Store

open RegistryTokens.Number RegistryTokens.Time

inductive RowKind where
  | token
  | package
  | domain
  deriving DecidableEq, Repr

def RowKind.ofName? : String → Option RowKind
  | "token" => some .token
  | "package" => some .package
  | "domain" => some .domain
  | _ => none

structure TokenRow where
  kind : TokenKind
  domain : Option String
  tlds : List String
  registrars : List String
  actions : List String
  fraction : Binary64
  premiums : Bool
  years : Int
  renewal : RenewalPricing
  registration : RegistrationRule
  transitions : List (String × String)
  created : Instant
  updated : Instant
  deriving DecidableEq, Repr

namespace TokenRow

def ofToken (t : Token) (now : Instant) : TokenRow where
  kind := t.kind
  domain := t.domain
  tlds := Column.writeTexts t.tlds
  registrars := Column.writeTexts t.registrars
  actions := Column.writeActions t.actions
  fraction := Column.writeDecimal t.fraction
  premiums := t.premiums
  years := t.years
  renewal := t.renewal
  registration := t.registration
  transitions := Column.writeTransitions t.transitions
  created := now
  updated := now

def toToken (identifier : String) (r : TokenRow) : Answer Token := do
  let actions ← Column.readActions r.actions
  let transitions ← Column.readTransitions r.transitions
  pure {
    identifier, kind := r.kind, transitions, domain := r.domain
    tlds := Column.readTexts r.tlds, registrars := Column.readTexts r.registrars, actions
    fraction := Column.readDecimal r.fraction, premiums := r.premiums, years := r.years
    renewal := r.renewal, registration := r.registration
    created := some r.created, updated := some r.updated }

def write (r : TokenRow) (t : Token) : TokenField → TokenRow
  | .tlds => { r with tlds := Column.writeTexts t.tlds }
  | .registrars => { r with registrars := Column.writeTexts t.registrars }
  | .actions => { r with actions := Column.writeActions t.actions }
  | .fraction => { r with fraction := Column.writeDecimal t.fraction }
  | .premiums => { r with premiums := t.premiums }
  | .years => { r with years := t.years }
  | .renewal => { r with renewal := t.renewal }
  | .registration => { r with registration := t.registration }
  | .transitions => { r with transitions := Column.writeTransitions t.transitions }

/-- Writes the named fields and the time of the update. -/
def update (r : TokenRow) (t : Token) (fields : List TokenField) (now : Instant) : TokenRow :=
  { fields.foldl (fun r f => r.write t f) r with updated := now }

def describe (r : TokenRow) (identifier : String) : String :=
  "<AllocationToken " ++ identifier ++ " (" ++ word r.kind ++ ")>"

end TokenRow

structure PackageRow where
  maxDomains : Int
  maxCreates : Int
  amount : Binary64
  currency : String
  nextBilling : Instant
  lastNotice : Option Instant
  deriving DecidableEq, Repr

namespace PackageRow

/-- The price as it is read back, which an infinite amount spoils. -/
def price (r : PackageRow) : Answer Money :=
  match Money.of (Column.readDecimal r.amount) (some r.currency) with
  | .ok m => .ok m
  | .error fault => .error (Failure.ofMoney fault)

def toPackage (token : String) (inUse : Int) (r : PackageRow) : Answer Package := do
  let price ← r.price
  pure {
    token, maxDomains := r.maxDomains, maxCreates := r.maxCreates, price
    nextBilling := r.nextBilling, lastNotice := r.lastNotice.map Stamp.ofInstant, inUse }

def describe (r : PackageRow) (token : String) : Answer String := do
  let price ← r.price
  pure ("<BulkPricingPackage " ++ token ++ ": " ++ intText r.maxDomains ++ " domains at " ++
    price.display ++ ">")

end PackageRow

structure DomainRow where
  bulkToken : Option String
  deleted : Option Instant
  created : Instant
  updated : Instant
  deriving DecidableEq, Repr

namespace DomainRow

def isLive (r : DomainRow) (now : Instant) : Bool :=
  match r.deleted with
  | none => true
  | some deleted => now < deleted

/-- Whether the domain is live at a stamp. A deletion time cannot be compared with a stamp without
an offset. -/
def isLiveAt (r : DomainRow) (moment : Stamp) : Answer Bool :=
  match r.deleted with
  | none => .ok true
  | some deleted =>
    if moment.isNaive then .error .wrongType else .ok (moment.utcTicks < deleted.ticks)

def countsFor (r : DomainRow) (token : String) (now : Instant) : Bool :=
  r.bulkToken == some token && r.isLive now

def describe (name : String) : String := "<RegisteredDomain " ++ name ++ ">"

end DomainRow

end RegistryTokens.Store
