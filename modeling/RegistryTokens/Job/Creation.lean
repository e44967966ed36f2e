import RegistryTokens.Job.Basic
import RegistryTokens.Update

/-!
# Creating tokens, packages and domains

A new token is read field by field with the readers that updates use, and passes the same
lifecycle and the same rules, before it is stored under a free identifier. A package is attached
to a bulk token that has none. Rejected creations store nothing.
-/

set_option autoImplicit false

namespace RegistryTokens

open RegistryTokens.Number RegistryTokens.Time RegistryTokens.Store

namespace Token

def creationFields : List String := "domain_name" :: TokenField.all.map (·.name)

def orDefault {α : Type} (given : Keyed String Value) (f : TokenField) (fallback : α)
    (read : Value → Answer α) : Answer α :=
  match Keyed.get? given f.name with
  | some v => read v
  | none => .ok fallback

/-- A timeline that is not given, or given as nothing, holds the token as not started. -/
def createTransitions (identifier : String) (kind : TokenKind) (given : Keyed String Value) :
    Answer (Timeline Status) :=
  match (Keyed.get? given TokenField.transitions.name).getD .null with
  | .null => .ok (Timeline.constant .notStarted)
  | v => do
    let timeline ← Field.readTransitions v
    (judgeTransitions kind (pure 0) timeline identifier : ExceptT Failure Id Unit).run
    pure timeline

def givenDomain (given : Keyed String Value) : Value :=
  let v := (Keyed.get? given "domain_name").getD .null
  if v.truthy then v else .null

/-- A domain is known by its text, and one of another kind by its display. -/
def domainText (v : Value) : Option String :=
  match v with
  | .null => none
  | v => some (v.asText?.getD v.display)

def create (identifier : String) (kind : Value) (given : Keyed String Value) : Answer Token := do
  let kind ← Field.readWord TokenKind "token_type" kind
  let transitions ← createTransitions identifier kind given
  let token : Token := {
    identifier, kind, transitions
    domain := domainText (givenDomain given)
    tlds := ← orDefault given .tlds SortedSet.empty Field.readTexts
    registrars := ← orDefault given .registrars SortedSet.empty Field.readTexts
    actions := ← orDefault given .actions SortedSet.empty Field.readActions
    fraction := ← orDefault given .fraction Decimal.zero Field.readFraction
    premiums := ← orDefault given .premiums false (Field.readBool TokenField.premiums.name)
    years := ← orDefault given .years 1 Field.readYears
    renewal := ← orDefault given .renewal .standard
      (Field.readWord RenewalPricing TokenField.renewal.name)
    registration := ← orDefault given .registration .standard
      (Field.readWord RegistrationRule TokenField.registration.name) }
  token.check
  pure token

end Token

/-- A token that was created, with its domain as it was given. -/
structure NewToken where
  token : Token
  domain : Value

namespace Job

def storeToken (t : Token) (domain : Value) (stamp : Stamp) : Job Unit := do
  let instant ← ofAnswer (Column.writeStamp stamp)
  if !Column.writable t.fraction then fail .unwritable
  let s ← tables
  let domain ← ofAnswer (Column.writeText domain)
  ofAnswer (Column.requireFit t.years)
  if t.fraction.isNaN then ofAnswer Store.integrity
  setTables (← ofAnswer (s.insertToken t.identifier (TokenRow.ofToken { t with domain } instant)))

def seedToken (t : Token) (stamp : Stamp) : Job Unit :=
  storeToken t (Value.optional t.domain) stamp

def createToken (identifier : String) (kind : Value) (given : Keyed String Value) :
    Job NewToken := do
  if given.any fun entry => !Token.creationFields.contains entry.1 then fail .wrongType
  if Text.blank identifier then
    refuse (Refusal.malformed "token" identifier "token identifier must not be blank")
  if (← tables).tokens.has identifier then refuse (Refusal.alreadyExists identifier)
  let token ← ofAnswer (Token.create identifier kind given)
  let stamp ← now
  let domain := Token.givenDomain given
  storeToken token domain stamp
  log .info "services.allocation_token" "token_created"
    [("token", .text identifier), ("token_type", .text (word token.kind)),
      ("initial_status", .ofMember token.transitions.initial)]
  pure ⟨{ token with created := some stamp, updated := some stamp }, domain⟩

def storePackage (p : Package) : Job Unit := do
  let nextBilling ← ofAnswer (Column.writeStamp p.nextBilling)
  let lastNotice ← p.lastNotice.mapM fun s => ofAnswer (Column.writeStamp s)
  let s ← tables
  ofAnswer (Column.requireFit p.maxDomains)
  ofAnswer (Column.requireFit p.maxCreates)
  let row : PackageRow := {
    maxDomains := p.maxDomains, maxCreates := p.maxCreates
    amount := Column.writeDecimal p.price.amount, currency := p.price.currency
    nextBilling, lastNotice }
  setTables (← ofAnswer (s.insertPackage p.token row))

def refuseNegative (name token : String) (n : Int) : Job Unit :=
  if n < 0 then
    refuse { Refusal.outOfRange name (.int n) (name ++ " must not be negative") with
      token := some token }
  else pure ()

def createPackage (p : Package) : Job Package := do
  match ← ofAnswer ((← tables).token? p.token) with
  | none => refuse (Refusal.unknownToken p.token)
  | some owner =>
    if owner.kind ≠ .bulkPricing then
      refuse <|
        Refusal.constraint "BulkPricingPackage must be tied to a BULK_PRICING token" p.token
  if (← tables).packages.has p.token then
    refuse <| Refusal.constraint
      ("BulkPricingPackage with token " ++ p.token ++ " already exists") p.token
  refuseNegative "max_domains" p.token p.maxDomains
  refuseNegative "max_creates" p.token p.maxCreates
  storePackage p
  log .info "services.bulk_pricing" "bulk_pricing_package_created"
    [("token", .text p.token), ("max_domains", .int p.maxDomains),
      ("max_creates", .int p.maxCreates), ("bulk_price", .text p.price.display)]
  pure p

def storeDomain (name : String) (bulkToken : Option String) (deleted : Option Stamp)
    (stamp : Stamp) : Job Unit := do
  let deleted ← deleted.mapM fun s => ofAnswer (Column.writeStamp s)
  let instant ← ofAnswer (Column.writeStamp stamp)
  let row : DomainRow := { bulkToken, deleted, created := instant, updated := instant }
  setTables (← ofAnswer ((← tables).insertDomain name row))

end Job

end RegistryTokens
