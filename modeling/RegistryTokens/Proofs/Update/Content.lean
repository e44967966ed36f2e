import RegistryTokens.Proofs.Number.Decimal
import RegistryTokens.Proofs.Answer
import RegistryTokens.Store.Row
import RegistryTokens.Update

/-!
# Fields as places

Each field of a token has a type of content and a type of cell. Reading a value for a field, putting
content into a token and writing a row all touch this one place, so the nine fields are
treated alike: what is said of a field here is said of all of them.
-/

set_option autoImplicit false

namespace RegistryTokens

open RegistryTokens.Number RegistryTokens.Time RegistryTokens.Store

def TokenField.Content : TokenField → Type
  | .tlds | .registrars => TextSet
  | .actions => ActionSet
  | .fraction => Decimal
  | .premiums => Bool
  | .years => Int
  | .renewal => RenewalPricing
  | .registration => RegistrationRule
  | .transitions => Timeline Status

namespace Token

def content (t : Token) : (f : TokenField) → f.Content
  | .tlds => t.tlds
  | .registrars => t.registrars
  | .actions => t.actions
  | .fraction => t.fraction
  | .premiums => t.premiums
  | .years => t.years
  | .renewal => t.renewal
  | .registration => t.registration
  | .transitions => t.transitions

def withContent (t : Token) : (f : TokenField) → f.Content → Token
  | .tlds, c => { t with tlds := c }
  | .registrars, c => { t with registrars := c }
  | .actions, c => { t with actions := c }
  | .fraction, c => { t with fraction := c }
  | .premiums, c => { t with premiums := c }
  | .years, c => { t with years := c }
  | .renewal, c => { t with renewal := c }
  | .registration, c => { t with registration := c }
  | .transitions, c => { t with transitions := c }

def identity (t : Token) : String × TokenKind × Option String × Option Stamp × Option Stamp :=
  (t.identifier, t.kind, t.domain, t.created, t.updated)

/-- The content that a value stands for. Only the rule for registrations looks at the token. -/
def reading (t : Token) : (f : TokenField) → Value → Answer f.Content
  | .tlds, v => Field.readTexts v
  | .registrars, v => Field.readTexts v
  | .actions, v => Field.readActions v
  | .fraction, v => Field.readFraction v
  | .premiums, v => Field.readBool TokenField.premiums.name v
  | .years, v => Field.readYears v
  | .renewal, v => Field.readWord RenewalPricing TokenField.renewal.name v
  | .registration, v => t.readRegistration v
  | .transitions, v => Field.readTransitions v

theorem withField_eq_reading (t : Token) (f : TokenField) (v : Value) :
    t.withField f v = t.reading f v >>= fun c => .ok (t.withContent f c) := by
  cases f <;> rfl

theorem content_withContent_self (t : Token) (f : TokenField) (c : f.Content) :
    (t.withContent f c).content f = c := by
  cases f <;> rfl

theorem content_withContent_of_ne (t : Token) {f g : TokenField} (c : f.Content) (h : g ≠ f) :
    (t.withContent f c).content g = t.content g := by
  cases f <;> cases g <;> trivial

@[simp] theorem identity_withContent (t : Token) (f : TokenField) (c : f.Content) :
    (t.withContent f c).identity = t.identity := by
  cases f <;> rfl

theorem identifier_of_identity {a b : Token} (h : a.identity = b.identity) :
    a.identifier = b.identifier :=
  congrArg (·.1) h

theorem kind_of_identity {a b : Token} (h : a.identity = b.identity) : a.kind = b.kind :=
  congrArg (·.2.1) h

theorem domain_of_identity {a b : Token} (h : a.identity = b.identity) : a.domain = b.domain :=
  congrArg (·.2.2.1) h

theorem isDomainScoped_of_domain {a b : Token} (h : a.domain = b.domain) :
    a.isDomainScoped = b.isDomainScoped := by
  rw [isDomainScoped, isDomainScoped, h]

theorem reading_congr {a b : Token} (identifier : a.identifier = b.identifier)
    (domain : a.domain = b.domain) (f : TokenField) (v : Value) :
    a.reading f v = b.reading f v := by
  cases f with
  | registration =>
    change a.readRegistration v = b.readRegistration v
    simp only [readRegistration, isDomainScoped_of_domain domain, identifier]
  | _ => rfl

theorem reading_of_identity {a b : Token} (h : a.identity = b.identity) (f : TokenField)
    (v : Value) : a.reading f v = b.reading f v :=
  reading_congr (identifier_of_identity h) (domain_of_identity h) f v

theorem ext_content {a b : Token} (identity : a.identity = b.identity)
    (content : ∀ f, a.content f = b.content f) : a = b := by
  have tlds : a.tlds = b.tlds := content .tlds
  have registrars : a.registrars = b.registrars := content .registrars
  have actions : a.actions = b.actions := content .actions
  have fraction : a.fraction = b.fraction := content .fraction
  have premiums : a.premiums = b.premiums := content .premiums
  have years : a.years = b.years := content .years
  have renewal : a.renewal = b.renewal := content .renewal
  have registration : a.registration = b.registration := content .registration
  have transitions : a.transitions = b.transitions := content .transitions
  simp only [Token.identity, Prod.mk.injEq] at identity
  cases a
  cases b
  simp_all

end Token

theorem Field.isFraction_of_readFraction {v : Value} {d : Decimal}
    (h : Field.readFraction v = .ok d) : d.isFraction = true := by
  have ranged {d e : Decimal} {refusal : Refusal}
      (h : (if e.isFraction then pure e else Answer.refuse refusal) = Except.ok d) :
      d.isFraction = true := by
    split at h
    · rename_i fraction
      cases h
      exact fraction
    · cases h
  unfold Field.readFraction Field.readFractionOf at h
  dsimp only at h
  split at h
  · exact ranged h
  · split at h
    · exact ranged h
    · cases h

namespace TokenField

/-- The timeline comes last. -/
theorem all_eq : all = all.dropLast ++ [.transitions] := rfl

theorem mem_dropLast_all {f : TokenField} : f ∈ all.dropLast ↔ f ≠ .transitions := by
  cases f <;> decide

def Cell : TokenField → Type
  | .tlds | .registrars | .actions => List String
  | .fraction => Binary64
  | .premiums => Bool
  | .years => Int
  | .renewal => RenewalPricing
  | .registration => RegistrationRule
  | .transitions => List (String × String)

def encode : (f : TokenField) → f.Content → f.Cell
  | .tlds, c => Column.writeTexts c
  | .registrars, c => Column.writeTexts c
  | .actions, c => Column.writeActions c
  | .fraction, c => Column.writeDecimal c
  | .premiums, c => c
  | .years, c => c
  | .renewal, c => c
  | .registration, c => c
  | .transitions, c => Column.writeTransitions c

end TokenField

namespace Store.TokenRow

def cell (r : TokenRow) : (f : TokenField) → f.Cell
  | .tlds => r.tlds
  | .registrars => r.registrars
  | .actions => r.actions
  | .fraction => r.fraction
  | .premiums => r.premiums
  | .years => r.years
  | .renewal => r.renewal
  | .registration => r.registration
  | .transitions => r.transitions

def fixed (r : TokenRow) : TokenKind × Option String × Instant := (r.kind, r.domain, r.created)

theorem cell_write_self (r : TokenRow) (t : Token) (f : TokenField) :
    (r.write t f).cell f = f.encode (t.content f) := by
  cases f <;> rfl

theorem cell_write_of_ne (r : TokenRow) (t : Token) {f g : TokenField} (h : g ≠ f) :
    (r.write t f).cell g = r.cell g := by
  cases f <;> cases g <;> trivial

@[simp] theorem fixed_write (r : TokenRow) (t : Token) (f : TokenField) :
    (r.write t f).fixed = r.fixed := by
  cases f <;> rfl

theorem fixed_writes (r : TokenRow) (t : Token) (fields : List TokenField) :
    (fields.foldl (fun r f => r.write t f) r).fixed = r.fixed := by
  induction fields generalizing r with
  | nil => rfl
  | cons f rest ih => rw [List.foldl_cons, ih, fixed_write]

theorem cell_writes (r : TokenRow) (t : Token) (fields : List TokenField) (g : TokenField) :
    (fields.foldl (fun r f => r.write t f) r).cell g =
      if g ∈ fields then g.encode (t.content g) else r.cell g := by
  induction fields generalizing r with
  | nil => rfl
  | cons f rest ih =>
    rw [List.foldl_cons, ih]
    by_cases hr : g ∈ rest
    · simp [hr]
    · by_cases hf : g = f
      · subst hf
        simp [hr, cell_write_self]
      · simp [hr, hf, cell_write_of_ne r t hf]

theorem cell_update (r : TokenRow) (t : Token) (fields : List TokenField) (now : Instant)
    (g : TokenField) : (r.update t fields now).cell g =
      if g ∈ fields then g.encode (t.content g) else r.cell g := by
  rw [← cell_writes]
  cases g <;> rfl

@[simp] theorem fixed_update (r : TokenRow) (t : Token) (fields : List TokenField)
    (now : Instant) : (r.update t fields now).fixed = r.fixed :=
  fixed_writes r t fields

theorem ext_cell {a b : TokenRow} (fixed : a.fixed = b.fixed) (cells : ∀ f, a.cell f = b.cell f)
    (updated : a.updated = b.updated) : a = b := by
  have tlds : a.tlds = b.tlds := cells .tlds
  have registrars : a.registrars = b.registrars := cells .registrars
  have actions : a.actions = b.actions := cells .actions
  have fraction : a.fraction = b.fraction := cells .fraction
  have premiums : a.premiums = b.premiums := cells .premiums
  have years : a.years = b.years := cells .years
  have renewal : a.renewal = b.renewal := cells .renewal
  have registration : a.registration = b.registration := cells .registration
  have transitions : a.transitions = b.transitions := cells .transitions
  simp only [TokenRow.fixed, Prod.mk.injEq] at fixed
  cases a
  cases b
  simp_all

theorem update_of_same {r : TokenRow} {t : Token} {fields : List TokenField}
    (same : ∀ f ∈ fields, r.cell f = f.encode (t.content f)) : r.update t fields r.updated = r := by
  apply ext_cell (r.fixed_update t fields r.updated)
  · intro f
    rw [cell_update]
    split
    · rename_i within
      exact (same f within).symm
    · rfl
  · rfl

end Store.TokenRow

end RegistryTokens
