import RegistryTokens.Failure
import RegistryTokens.SortedSet

/-!
# Tokens

A token has an identifier, a kind and possibly a domain, which never change, and nine fields that
a batch may update. The fields have names and an order; comparing two tokens lists the fields that
differ, fractions being compared as numbers. Rules that tie several fields together hold of every
token that is created or updated.
-/

set_option autoImplicit false

namespace RegistryTokens

open RegistryTokens.Number RegistryTokens.Time

inductive TokenField where
  | tlds
  | registrars
  | actions
  | fraction
  | premiums
  | years
  | renewal
  | registration
  | transitions
  deriving DecidableEq, Repr

namespace TokenField

/-- The fields in the order in which they are updated. -/
def all : List TokenField :=
  [tlds, registrars, actions, fraction, premiums, years, renewal, registration, transitions]

def name : TokenField → String
  | tlds => "allowed_tlds"
  | registrars => "allowed_registrar_ids"
  | actions => "allowed_epp_actions"
  | fraction => "discount_fraction"
  | premiums => "discount_premiums"
  | years => "discount_years"
  | renewal => "renewal_price_behavior"
  | registration => "registration_behavior"
  | transitions => "token_status_transitions"

def ofName? (name : String) : Option TokenField := all.find? fun f => f.name == name

/-- Registrars may also be called clients. -/
def ofOption? (option : String) : Option TokenField :=
  if option = "allowed_client_ids" then some registrars else ofName? option

theorem mem_all (f : TokenField) : f ∈ all := by cases f <;> decide

theorem ofName?_name (f : TokenField) : ofName? f.name = some f := by cases f <;> decide

end TokenField

structure Token where
  identifier : String
  kind : TokenKind
  transitions : Timeline Status
  domain : Option String := none
  tlds : TextSet := SortedSet.empty
  registrars : TextSet := SortedSet.empty
  actions : ActionSet := SortedSet.empty
  fraction : Decimal := Decimal.zero
  premiums : Bool := false
  years : Int := 1
  renewal : RenewalPricing := .standard
  registration : RegistrationRule := .standard
  created : Option Stamp := none
  updated : Option Stamp := none
  deriving DecidableEq, Repr

namespace Token

def isDomainScoped (t : Token) : Bool := t.domain.any fun d => !d.isEmpty

def statusAt (t : Token) (s : Stamp) : Except BeforeFirst Status := t.transitions.valueAt s

def agree (a b : Token) : TokenField → Bool
  | .tlds => a.tlds == b.tlds
  | .registrars => a.registrars == b.registrars
  | .actions => a.actions == b.actions
  | .fraction => a.fraction.sameNumber b.fraction
  | .premiums => a.premiums == b.premiums
  | .years => a.years == b.years
  | .renewal => a.renewal == b.renewal
  | .registration => a.registration == b.registration
  | .transitions => a.transitions == b.transitions

def diff (a b : Token) : List TokenField := TokenField.all.filter fun f => !a.agree b f

/-- The fields that differ, provided that the fractions can be compared. -/
def compare (a b : Token) : Answer (List TokenField) :=
  if a.fraction.isSignal || b.fraction.isSignal then .error (.broke .incomparable)
  else .ok (a.diff b)

def sameStamp (a b : Option Stamp) : Bool :=
  match a, b with
  | some a, some b => a.same b
  | none, none => true
  | _, _ => false

def same (a b : Token) : Bool :=
  a.identifier == b.identifier && a.kind == b.kind && a.domain == b.domain && (a.diff b).isEmpty &&
    sameStamp a.created b.created && sameStamp a.updated b.updated

def check (t : Token) : Answer Unit := do
  let violated (rule : String) : Answer Unit := Answer.refuse (Refusal.constraint rule t.identifier)
  if t.registration = .anchorTenant ∧ t.isDomainScoped = false then
    throw (.refused (Refusal.anchorTenant t.identifier))
  if t.isDomainScoped = true ∧ t.kind ≠ .singleUse then
    violated "Domain name can only be specified for SINGLE_USE tokens"
  let undiscounted ← Answer.ofOption (.broke .incomparable) t.fraction.nonpositive?
  if t.premiums && undiscounted then
    violated "Discount premiums can only be specified along with a discount fraction"
  if 1 < t.years && undiscounted then
    violated "Discount years can only be specified along with a discount fraction"
  if t.kind = .bulkPricing then
    if t.renewal ≠ .specified then
      violated "Bulk tokens must have renewalPriceBehavior set to SPECIFIED"
    if t.registrars.size ≠ 1 then
      violated "Bulk tokens must have exactly one allowed client registrar"
    if t.premiums then
      violated "Bulk tokens cannot discount premium names"

theorem mem_diff_iff (a b : Token) (f : TokenField) : f ∈ a.diff b ↔ a.agree b f = false := by
  simp [diff, TokenField.mem_all]

end Token

end RegistryTokens
