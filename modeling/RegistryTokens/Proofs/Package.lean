import RegistryTokens.Proofs.Lifecycle
import RegistryTokens.Proofs.Store.Row

/-!
# Packages and their tokens

Nothing in the store ties a package to its token. Only a creation puts a package down, and it looks
for the token and for its kind first; from then on the token stays, since names are never lost, and
so does its kind, since updates leave that column. The row of a package has nobody to change it.
-/

set_option autoImplicit false

namespace RegistryTokens

open RegistryTokens.Time RegistryTokens.Store

theorem Call.packages_left (c : Call) {w : World} {before after : Store}
    (there : w.store = some before) (left : (c.job.run w).2.store = some after) :
    after.packages = before.packages ∨
      ∃ p row, c = .createPackage p ∧ Creation.Packed p row before after := by
  cases c with
  | createToken name kind given =>
    rw [job, Job.store_discarded (Job.does_createToken name kind given), there] at left
    cases hp : Creation.createdToken name kind given (some before) w.clock with
    | error _ =>
      rw [hp] at left
      cases left
      exact .inl rfl
    | ok plan =>
      rw [hp] at left
      obtain ⟨_, _, _, ⟨⟩, stays, -, inserted⟩ := Creation.stored_of_createdToken hp
      cases stays.symm.trans left
      exact .inl (Creation.get?_insertToken inserted).2.2
  | createPackage p =>
    rw [job, Job.store_discarded (Job.does_createPackage p), there] at left
    cases hp : Creation.createdPackage p (some before) with
    | error _ =>
      rw [hp] at left
      cases left
      exact .inl rfl
    | ok plan =>
      rw [hp] at left
      obtain ⟨_, row, _, ⟨⟩, stays, -, packed⟩ := Creation.packed_of_createdPackage hp
      cases stays.symm.trans left
      exact .inr ⟨p, row, rfl, packed⟩
  | update request =>
    rw [job, Job.store_discarded (Job.does_runWithin request), there] at left
    cases hp : Batch.planned request (some before) w.clock with
    | error _ =>
      rw [hp] at left
      cases left
      exact .inl rfl
    | ok plan =>
      rw [hp] at left
      obtain ⟨_, stays, -, packages⟩ := Batch.keys_of_planned hp
      cases stays.symm.trans left
      exact .inl packages

theorem Call.package_kept (c : Call) {w : World} {before after : Store}
    (there : w.store = some before) (left : (c.job.run w).2.store = some after) {name : String}
    {row : PackageRow} (stored : before.packages.get? name = some row) :
    after.packages.get? name = some row := by
  rcases c.packages_left there left with same | ⟨p, new, -, packed⟩
  · rw [same]
    exact stored
  · obtain ⟨-, free, rows⟩ := Creation.get?_insertPackage packed.inserted
    have other : name ≠ p.token := by
      rintro rfl
      cases free.symm.trans stored
    rw [rows, if_neg other]
    exact stored

theorem Call.kind_kept (c : Call) {w : World} {before after : Store} (there : w.store = some before)
    (left : (c.job.run w).2.store = some after) {name : String} {row : TokenRow}
    (stored : before.tokens.get? name = some row) :
    ∃ later, after.tokens.get? name = some later ∧ later.kind = row.kind := by
  obtain ⟨_, stays, keys, rows⟩ := c.store_left there
  cases stays.symm.trans left
  have taken : name ∈ before.tokens.keys := Table.mem_keys_iff.2 ⟨row, stored⟩
  obtain ⟨later, found⟩ := Table.mem_keys_iff.1 (keys name taken)
  refine ⟨later, found, ?_⟩
  cases rows name later found with
  | kept was =>
    cases stored.symm.trans was
    rfl
  | updated was =>
    cases stored.symm.trans was
    exact TokenRow.kind_update _ _ _ _
  | created free => exact absurd taken free

/-- The token of a package is stored and is a bulk token, and neither of the limits of the package
is less than nothing. -/
structure Store.Backs (s : Store) (name : String) (row : PackageRow) : Prop where
  owned : ∃ owner, s.tokens.get? name = some owner ∧ owner.kind = .bulkPricing
  maxDomains : 0 ≤ row.maxDomains
  maxCreates : 0 ≤ row.maxCreates

theorem Creation.Packed.backs {p : Package} {row : PackageRow} {before after : Store}
    (h : Packed p row before after) : after.Backs p.token row := by
  obtain ⟨owner, shown, bulk⟩ := h.owned
  obtain ⟨found, stored, read⟩ := Store.token?_eq_some_iff.1 shown
  obtain ⟨tokens, -, -⟩ := get?_insertPackage h.inserted
  obtain ⟨kind, -, -⟩ := TokenRow.fixed_toToken read
  constructor
  · exact ⟨found, tokens ▸ stored, kind.symm.trans bulk⟩
  · rw [h.records.maxDomains]
    exact h.maxDomains
  · rw [h.records.maxCreates]
    exact h.maxCreates

theorem Store.Backs.call {s after : Store} {name : String} {row : PackageRow}
    (h : s.Backs name row) {c : Call} {w : World} (there : w.store = some s)
    (left : (c.job.run w).2.store = some after) : after.Backs name row := by
  obtain ⟨owner, stored, bulk⟩ := h.owned
  obtain ⟨later, found, kind⟩ := c.kind_kept there left stored
  exact ⟨⟨later, found, kind.trans bulk⟩, h.maxDomains, h.maxCreates⟩

/-- A package is never changed and never removed. -/
theorem Leads.package {s t : Store} (h : Leads s t) {name : String} {row : PackageRow}
    (stored : s.packages.get? name = some row) : t.packages.get? name = some row := by
  induction h with
  | refl => exact stored
  | call _ there left ih => exact Call.package_kept _ there left ih
  | domains _ _ ih => exact ih

theorem Reachable.backs {s : Store} (h : Reachable s) {name : String} {row : PackageRow}
    (stored : s.packages.get? name = some row) : s.Backs name row := by
  have steps := h.leads
  clear h
  induction steps with
  | refl => cases stored
  | @call t after c w _ there left ih =>
    rcases c.packages_left there left with same | ⟨p, new, -, packed⟩
    · rw [same] at stored
      exact (ih stored).call there left
    · obtain ⟨-, -, rows⟩ := Creation.get?_insertPackage packed.inserted
      rw [rows] at stored
      by_cases own : name = p.token
      · rw [if_pos own] at stored
        cases stored
        exact own ▸ packed.backs
      · rw [if_neg own] at stored
        exact (ih stored).call there left
  | domains _ _ ih =>
    obtain ⟨owned, maxDomains, maxCreates⟩ := ih stored
    exact ⟨owned, maxDomains, maxCreates⟩

theorem Reachable.createPackage_twice {s : Store} (h : Reachable s) {p : Package}
    (packed : p.token ∈ s.packages.keys) {w : World} (there : w.store = some s) :
    ((Job.createPackage p).run w).1 = .error (.refused (Refusal.constraint
        ("BulkPricingPackage with token " ++ p.token ++ " already exists") p.token)) ∧
      ((Job.createPackage p).run w).2.store = some s := by
  obtain ⟨row, stored⟩ := Table.mem_keys_iff.1 packed
  obtain ⟨owner, token, bulk⟩ := (h.backs stored).owned
  obtain ⟨t, shown, -⟩ := h.toToken token
  have kind : t.kind = .bulkPricing := (TokenRow.fixed_toToken shown).1.trans bulk
  have taken : s.packages.has p.token = true := by simpa [Table.has] using packed
  have refused : Creation.createdPackage p (some s) = .error (.refused (Refusal.constraint
      ("BulkPricingPackage with token " ++ p.token ++ " already exists") p.token)) := by
    change (s.token? p.token >>= _) = _
    rw [Store.token?_eq_ok token shown]
    change Creation.packageFor p t (some s) = _
    rw [Creation.packageFor, if_neg (fun other => other kind)]
    change (if s.packages.has p.token then _ else _) = _
    rw [if_pos taken]
  have does := Job.does_createPackage p
  rw [does.answer, does.store, there, refused]
  exact ⟨rfl, rfl⟩

/-- Every stored package belongs to a stored bulk token and has limits that are no less than
nothing. No token has two, a second one being refused, and a package once stored stays for ever as
it is, whatever calls and operations follow. -/
theorem Reachable.package_integrity {s : Store} (h : Reachable s) :
    (∀ name row, (name, row) ∈ s.packages.rows →
      (∃ t, s.token? name = .ok (some t) ∧ t.kind = .bulkPricing) ∧
      0 ≤ row.maxDomains ∧ 0 ≤ row.maxCreates) ∧
    (s.packages.rows.map (·.1)).Nodup ∧
    (∀ (w : World) (p : Package), w.store = some s → p.token ∈ s.packages.keys →
      ((Job.createPackage p).run w).1 = .error (.refused (Refusal.constraint
        ("BulkPricingPackage with token " ++ p.token ++ " already exists") p.token)) ∧
      ((Job.createPackage p).run w).2.store = some s) ∧
    (∀ later, Leads s later → ∀ entry ∈ s.packages.rows, entry ∈ later.packages.rows) ∧
    ∀ (o : Operation) (w : World), w.store = some s → ∃ after, (o.run w).store = some after ∧
      ∀ entry ∈ s.packages.rows, entry ∈ after.packages.rows := by
  have kept (later : Store) (leads : Leads s later) : ∀ entry ∈ s.packages.rows,
      entry ∈ later.packages.rows := by
    rintro ⟨name, row⟩ stored
    exact Table.get?_eq_some_iff.1 (leads.package (Table.get?_eq_some_iff.2 stored))
  refine ⟨fun name row stored => ?_, s.packages.distinctKeys,
    fun w p there packed => h.createPackage_twice packed there, kept, fun o w there => ?_⟩
  · obtain ⟨⟨owner, token, bulk⟩, maxDomains, maxCreates⟩ :=
      h.backs (Table.get?_eq_some_iff.2 stored)
    obtain ⟨t, shown, -⟩ := h.toToken token
    have kind : t.kind = .bulkPricing := (TokenRow.fixed_toToken shown).1.trans bulk
    exact ⟨⟨t, Store.token?_eq_ok token shown, kind⟩, maxDomains, maxCreates⟩
  · obtain ⟨after, left, leads⟩ := o.leads there
    exact ⟨after, left, kept after leads⟩

def createBulkToken : Call :=
  .createToken "T1" (.text "BULK_PRICING") [("renewal_price_behavior", .text "SPECIFIED"),
    ("allowed_registrar_ids", .text "TheRegistrar")]

def packageAt (price : Money) : Package where
  token := "T1"
  maxDomains := 100
  maxCreates := 500
  price := price
  nextBilling := Instant.epoch

def tenDollars : Money := ⟨.finite false 10 0, "USD", rfl, by decide⟩

def packedStore : Option Store :=
  ((Operation.session [createBulkToken, .createPackage (packageAt tenDollars)] false).run
    freshWorld).store

theorem Reachable.package_integrity_of_packed : ∃ s row t, Reachable s ∧ ("T1", row) ∈ s.packages.rows ∧
    s.token? "T1" = .ok (some t) ∧ t.kind = .bulkPricing ∧ 0 ≤ row.maxDomains := by
  have created : packedStore.map (fun s => (s.packages.get? "T1").isSome) = some true := by
    decide +kernel
  obtain ⟨s, left, packed⟩ := Option.map_eq_some_iff.1 created
  obtain ⟨row, stored⟩ := Option.isSome_iff_exists.1 packed
  have reachable : Reachable s := .step .empty (w := freshWorld) rfl left
  have member := Table.get?_eq_some_iff.1 stored
  obtain ⟨⟨t, shown, bulk⟩, maxDomains, -⟩ := reachable.package_integrity.1 "T1" row member
  exact ⟨s, row, t, reachable, member, shown, bulk, maxDomains⟩

end RegistryTokens
