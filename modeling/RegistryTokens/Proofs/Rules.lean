import RegistryTokens.Proofs.Lifecycle
import RegistryTokens.Proofs.Store.Domain
import RegistryTokens.Proofs.Store.Row

/-!
# Stored rules

The kind and the domain of a token are given once, while updates touch any of the fields that are
tied to them. A creation and every update check the token as a whole, and what no update changes is
shown as it was created. So the rules hold of every stored token; those on discounts alone can be
lost on the way into a column.
-/

set_option autoImplicit false

namespace RegistryTokens

open RegistryTokens.Time RegistryTokens.Store

theorem Field.one_le_of_readYears {v : Value} {n : Int} (h : Field.readYears v = .ok n) :
    1 ≤ n := by
  have ranged {m : Int} {refusal : Refusal}
      (h : (if m < 1 then Answer.refuse refusal else pure m) = Except.ok n) : 1 ≤ n := by
    split at h
    · cases h
    · cases h
      omega
  unfold Field.readYears at h
  dsimp only at h
  split at h
  · cases h
  · exact ranged h
  · split at h
    · exact ranged h
    · cases h

/-- The domain was given as text or not at all. -/
def NewToken.TextDomain (new : NewToken) : Prop :=
  new.domain = .null ∨ new.domain.asText?.isSome = true

namespace Token

/-- The rules of a stored token that are not about discounts. -/
structure Ruled (new : NewToken) (t : Token) : Prop where
  years : 1 ≤ t.years
  tied : t.domain ≠ none → t.kind = .singleUse
  anchored : new.TextDomain → t.registration = .anchorTenant → t.isDomainScoped = true
  bulk : t.kind = .bulkPricing →
    t.renewal = .specified ∧ t.registrars.size = 1 ∧ t.premiums = false

/-- What a stored token keeps of the token as which it was created. -/
structure CreatedAs (new : NewToken) (t : Token) : Prop where
  identifier : t.identifier = new.token.identifier
  kind : t.kind = new.token.kind
  domain : Column.writeText new.domain = .ok t.domain
  text : new.TextDomain → t.domain = new.token.domain
  created : ∃ stamp instant, new.token.created = some stamp ∧
    Column.writeStamp stamp = .ok instant ∧ t.created = some (Stamp.ofInstant instant)

theorem Ruled.of_alike {new : NewToken} {t seen : Token} (h : Ruled new t) (same : seen.Alike t) :
    Ruled new seen := by
  have years : seen.years = t.years := same.content .years nofun
  have registration : seen.registration = t.registration := same.content .registration nofun
  have renewal : seen.renewal = t.renewal := same.content .renewal nofun
  have registrars : seen.registrars = t.registrars := same.content .registrars nofun
  have premiums : seen.premiums = t.premiums := same.content .premiums nofun
  constructor
  · rw [years]
    exact h.years
  · rw [same.domain, same.kind]
    exact h.tied
  · rw [registration, isDomainScoped, same.domain]
    exact h.anchored
  · rw [same.kind, renewal, registrars, premiums]
    exact h.bulk

theorem Lawful.atDomain {t : Token} (h : t.Lawful) (anchor : t.registration = .anchorTenant) :
    t.isDomainScoped = true := by
  cases tied : t.isDomainScoped with
  | true => rfl
  | false => exact absurd ⟨anchor, tied⟩ h.anchored

theorem Lawful.singleUse {t : Token} (h : t.Lawful) (tied : t.isDomainScoped = true) :
    t.kind = .singleUse := by
  by_cases single : t.kind = .singleUse
  · exact single
  · exact absurd ⟨tied, single⟩ h.tied

theorem Lawful.ofBulk {t : Token} (h : t.Lawful) (bulk : t.kind = .bulkPricing) :
    t.renewal = .specified ∧ t.registrars.size = 1 ∧ t.premiums = false := by
  obtain ⟨renewal, registrars, premiums⟩ := h.bulk bulk
  exact ⟨Decidable.not_not.1 renewal, Decidable.not_not.1 registrars, by simpa using premiums⟩

theorem ruled_of_created {name : String} {kind : Value} {given : Keyed String Value}
    {new : NewToken} {cell : Option String} (made : Created name kind given new.token)
    (domain : new.domain = givenDomain given) (written : Column.writeText new.domain = .ok cell) :
    Ruled new { new.token with domain := cell } := by
  have lawful := (check_eq_ok_iff _).1 made.checked
  have seen : new.token.domain = domainText new.domain := by
    rw [made.domain, domain]
  constructor
  · have years := made.years
    unfold orDefault at years
    split at years
    · exact Field.one_le_of_readYears years
    · have single : 1 = new.token.years := Except.ok.inj years
      exact Int.le_of_eq single
  · intro some
    obtain ⟨d, rfl⟩ := Option.ne_none_iff_exists'.1 some
    have something := domain ▸ givenDomain_eq_null_or_truthy given
    obtain ⟨shown, text, named⟩ := domainText_of_cell something written
    exact lawful.singleUse (isDomainScoped_iff.2 ⟨shown, seen.trans text, named⟩)
  · intro text anchor
    obtain rfl : cell = new.token.domain := by
      rw [writeText_of_text text, ← seen] at written
      exact (Except.ok.inj written).symm
    exact lawful.atDomain anchor
  · exact lawful.ofBulk

theorem ruled_of_applied {new : NewToken} {t : Token} {count : Answer Int} {u : Updates} {d : Delta}
    (before : Ruled new t) (applied : t.applied count u = .ok d) : Ruled new d.after := by
  rcases ok_of_applied applied with ⟨rfl, -⟩ | ⟨-, -, updated⟩
  · exact before
  have lawful := (check_eq_ok_iff _).1 updated.checked
  constructor
  · cases supplied : u.supplied? .years with
    | none =>
      have kept : d.after.years = t.years := updated.kept .years supplied
      rw [kept]
      exact before.years
    | some v =>
      have read : Field.readYears v = .ok d.after.years := updated.given .years v supplied
      exact Field.one_le_of_readYears read
  · rw [domain_of_identity updated.identity, kind_of_identity updated.identity]
    exact before.tied
  · intro _ anchor
    exact lawful.atDomain anchor
  · exact lawful.ofBulk

end Token

theorem ruled_lasts : Lasting fun name new row => ∀ t, row.toToken name = .ok t → t.Ruled new := by
  constructor
  · intro name kind given c new row stored t shown
    obtain ⟨cell, stamp, instant, written, -, -, -, rfl⟩ := stored.stored
    exact (Token.ruled_of_created stored.made stored.domain written).of_alike
      (TokenRow.alike_ofToken shown)
  · intro name new row t updates count d instant holds shown applied seen after
    exact (Token.ruled_of_applied (holds t shown) applied).of_alike
      (TokenRow.alike_update shown applied after)

theorem createdAs_lasts :
    Lasting fun name new row => ∀ t, row.toToken name = .ok t → t.CreatedAs new := by
  constructor
  · intro name kind given c new row stored t shown
    obtain ⟨cell, stamp, instant, written, -, created, stamped, rfl⟩ := stored.stored
    obtain ⟨kind, domain, instants⟩ := TokenRow.fixed_toToken shown
    have named := TokenRow.identifier_toToken shown
    have kept : Column.writeText new.domain = .ok t.domain := written.trans (congrArg _ domain.symm)
    refine ⟨named.trans stored.made.named.symm, kind, kept, fun text => ?_, stamp, instant, created,
      stamped, instants⟩
    rw [Token.writeText_of_text text, stored.domain, ← stored.made.domain] at kept
    exact (Except.ok.inj kept).symm
  · intro name new row t updates count d instant holds shown applied seen after
    obtain ⟨kind, domain, created⟩ := TokenRow.fixed_toToken shown
    obtain ⟨kindAfter, domainAfter, createdAfter⟩ := TokenRow.fixed_toToken after
    obtain ⟨named, ofKind, written, text, stamp, first, stampedAt, stamped, instants⟩ := holds t shown
    have same : seen.domain = t.domain := by
      rw [domainAfter, TokenRow.domain_update, ← domain]
    constructor
    · rw [TokenRow.identifier_toToken after, ← TokenRow.identifier_toToken shown, named]
    · rw [kindAfter, TokenRow.kind_update, ← kind, ofKind]
    · rw [same, written]
    · rw [same]
      exact text
    · refine ⟨stamp, first, stampedAt, stamped, ?_⟩
      rw [createdAfter, TokenRow.created_update, ← created, instants]

/-- A token that is read back from a reachable store has an origin, and whatever way led to the
store, it obeys the rules of its kind and is still what it was created as. -/
theorem Reachable.rules {s : Store} (h : Reachable s) {name : String}
    (stored : name ∈ s.tokens.keys) : ∃ t, s.token? name = .ok (some t) ∧
      (∃ new, Born s name new) ∧ ∀ new, Born s name new → t.CreatedAs new ∧ t.Ruled new := by
  obtain ⟨row, found⟩ := Table.mem_keys_iff.1 stored
  obtain ⟨t, shown, -⟩ := h.toToken found
  refine ⟨t, Store.token?_eq_ok found shown, h.exists_born found, fun new born => ?_⟩
  exact ⟨born.holds createdAs_lasts found t shown, born.holds ruled_lasts found t shown⟩

def tiedDomain : Keyed String Value := [("domain_name", .text "example.tld")]

def tiedWorld : World :=
  ((Job.createToken "T1" (.text "SINGLE_USE") tiedDomain).run freshWorld).2

def anchoring : Call := .update ⟨⟨some ["T1"], none⟩,
  Updates.empty.give .registration (.assigned (.text "ANCHOR_TENANT")), false⟩

theorem rules_of_anchorTenant : ∃ s t new, Reachable s ∧ "T1" ∈ s.tokens.keys ∧
    s.token? "T1" = .ok (some t) ∧ t.registration = .anchorTenant ∧ Born s "T1" new ∧
    new.TextDomain ∧ t.CreatedAs new ∧ t.Ruled new ∧ t.isDomainScoped = true := by
  have made : ((Job.createToken "T1" (.text "SINGLE_USE") tiedDomain).run
      freshWorld).1.toOption.map (·.domain.asText?) = some (some "example.tld") := by
    decide +kernel
  have anchored : (anchoring.job.run tiedWorld).2.store.map (fun s =>
      (s.tokens.keys, (s.token? "T1").toOption.join.map (·.registration))) =
        some (["T1"], some .anchorTenant) := by decide +kernel
  obtain ⟨new, answered, domain⟩ := Option.map_eq_some_iff.1 made
  have answered := Answer.eq_ok_of_toOption answered
  obtain ⟨s, left, facts⟩ := Option.map_eq_some_iff.1 anchored
  obtain ⟨keys, registration⟩ := Prod.mk.inj facts
  obtain ⟨first, created, -⟩ := (Call.createToken "T1" (.text "SINGLE_USE") tiedDomain).store_left
    (rfl : freshWorld.store = some .empty)
  rw [Call.store_createToken] at created
  have there : tiedWorld.store = some first := by
    rw [tiedWorld]
    exact created
  have update : Leads first s := .call (c := anchoring) (w := tiedWorld) .refl there left
  have born : Born s "T1" new :=
    .created .empty (rfl : freshWorld.store = some .empty) List.not_mem_nil answered created update
  have reachable : Reachable s := .of_leads <|
    .trans (.call .refl (rfl : freshWorld.store = some .empty)
      ((Call.store_createToken ..).trans created)) update
  have text : new.TextDomain := by
    right
    rw [domain]
    rfl
  have stored : "T1" ∈ s.tokens.keys := by
    rw [keys]
    exact List.mem_singleton_self _
  obtain ⟨t, shown, -, rules⟩ := reachable.rules stored
  obtain ⟨same, ruled⟩ := rules new born
  have anchor : t.registration = .anchorTenant := by
    rw [shown] at registration
    exact Option.some.inj registration
  exact ⟨s, t, new, reachable, stored, shown, anchor, born, text, same, ruled,
    ruled.anchored text anchor⟩

end RegistryTokens
