import RegistryTokens.Proofs.Job.Usage
import RegistryTokens.Proofs.Number.Exactness
import RegistryTokens.Proofs.Package
import RegistryTokens.Proofs.Text.Normal

/-!
# Stored prices

The amount of a price goes through its column as a binary number, its currency as it is. So a price
is read back just if some number of the binary64 format shows it. Up to `2^23` there always is one;
beyond, the numbers of the format stand too far apart for nine places.
-/

set_option autoImplicit false

namespace RegistryTokens

open RegistryTokens.Number RegistryTokens.Time RegistryTokens.Store

namespace Money

open RegistryTokens.Text

theorem currencyCode_currencyCode (code : Option String) :
    currencyCode (some (currencyCode code)) = currencyCode code := by
  have settled : ∀ c ∈ trimChars (upperChars (code.getD "").toList), Settled c.toNat := by
    intro c kept
    obtain ⟨d, -, capital⟩ := List.mem_flatMap.1 (trimChars_subset _ kept)
    exact settled_of_mem_upperChar capital
  simp only [currencyCode, trim, upper, Option.getD_some, String.toList_ofList,
    upperChars_self settled, trimChars_trimChars]

theorem of_eq_ok {amount : Decimal} {code : Option String} {m : Money}
    (h : Money.of amount code = .ok m) : m.amount = amount ∧ m.currency = currencyCode code := by
  unfold Money.of at h
  split at h
  · split at h
    · cases h
      exact ⟨rfl, rfl⟩
    · cases h
  · cases h

theorem of_currency {amount other : Decimal} {code : Option String} {m : Money}
    (h : Money.of amount code = .ok m) (finite : other.isFinite = true) :
    Money.of other (some m.currency) = .ok { m with amount := other, finite } := by
  have own : currencyCode (some m.currency) = m.currency := by
    rw [(of_eq_ok h).2, currencyCode_currencyCode]
  have three : isCurrency (currencyCode (some m.currency)) = true := own.symm ▸ m.threeLetters
  rw [Money.of, dif_pos finite, dif_pos three]
  simp only [own]

end Money

theorem Money.same_iff {a b : Money} (currency : a.currency = b.currency) :
    a.same b = true ↔ a.amount.sameNumber b.amount = true := by
  rw [Money.same, currency, beq_self_eq_true, Bool.and_true]

section
variable {row : PackageRow} {p : Package} {amount : Decimal} {code : Option String}

theorem Store.PackageRow.price_of_records (h : row.Records p)
    (money : Money.of amount code = .ok p.price) (fits : p.price.amount.FitsColumn) :
    ∃ price, row.price = .ok price ∧
      price.amount = Column.readDecimal (Column.writeDecimal p.price.amount) ∧
      price.currency = p.price.currency := by
  have finite : (Column.readDecimal (Column.writeDecimal p.price.amount)).isFinite = true :=
    Binary64.isFinite_fixedPlaces (Column.inFormat_writeDecimal fits) Column.decimalPlaces
  refine ⟨{ p.price with amount := _, finite }, ?_, rfl, rfl⟩
  rw [price, h.amount, h.currency, Money.of_currency money finite]

end

namespace Job

/-- A package that was created is looked up with a price in its currency, and with the amount that
its column makes of the one that was given. That is the same price just if some number of the
binary64 format shows the amount, as one does up to `2^23`. -/
theorem price_kept_iff_shown {p new : Package} {amount : Decimal} {code : Option String}
    {w v : World} {after later : Store} {stamp : Stamp} {instant : Instant}
    (money : Money.of amount code = .ok p.price) (fits : p.price.amount.FitsColumn)
    (created : ((createPackage p).run w).1 = .ok new)
    (left : ((createPackage p).run w).2.store = some after) (leads : Leads after later)
    (there : v.store = some later) (now : v.clock.now = .ok stamp)
    (placed : Column.writeStamp stamp = .ok instant) :
    ∃ found, ((packages [p.token]).run v).1 = .ok [found] ∧ found.token = p.token ∧
      found.price.currency = p.price.currency ∧
      found.price.amount = Column.readDecimal (Column.writeDecimal p.price.amount) ∧
      (found.price.same p.price = true ↔ ∃ x : Binary64, x.InFormat ∧
        (x.fixedPlaces Column.decimalPlaces).sameNumber p.price.amount = true) ∧
      ∀ negative q, q ≤ 2 ^ (23 : Nat) * 10 ^ (9 : Nat) →
        (Decimal.finite negative q (-9)).sameNumber p.price.amount = true →
        found.price.same p.price = true := by
  have does := does_createPackage p
  rw [does.answer] at created
  rw [does.store] at left
  cases plan : Creation.createdPackage p w.store with
  | error _ =>
    rw [plan] at created
    cases created
  | ok made =>
    rw [plan] at left
    obtain ⟨before, row, stored, -, stays, -, packed⟩ := Creation.packed_of_createdPackage plan
    cases stays.symm.trans left
    obtain ⟨-, -, rows⟩ := Creation.get?_insertPackage packed.inserted
    have put : after.packages.get? p.token = some row := by rw [rows, if_pos rfl]
    obtain ⟨price, shown, read, currency⟩ :=
      PackageRow.price_of_records packed.records money fits
    have answer := packages_singleton there (leads.package put) now placed
    rw [PackageRow.toPackage, shown] at answer
    refine ⟨_, answer, rfl, currency, read, ?_, fun negative q small same => ?_⟩
    · rw [Money.same_iff currency, read]
      exact Column.sameNumber_readDecimal_iff_shown fits
    · rw [Money.same_iff currency, read]
      exact Column.sameNumber_readDecimal_of_le small same

def bulkWorld : World := (Operation.session [createBulkToken] false).run freshWorld

theorem price_kept_of_tenDollars : ∃ new after v found,
    ((createPackage (packageAt tenDollars)).run bulkWorld).1 = .ok new ∧
    ((createPackage (packageAt tenDollars)).run bulkWorld).2.store = some after ∧
    v.store = some after ∧ ((packages ["T1"]).run v).1 = .ok [found] ∧
    found.price.same tenDollars = true := by
  have money : Money.of (.finite false 10 0) (some "usd") = .ok tenDollars := by decide +kernel
  have same : (Decimal.finite false 10000000000 (-9)).sameNumber tenDollars.amount = true := by
    decide +kernel
  have succeeds : ((createPackage (packageAt tenDollars)).run bulkWorld).1.toOption.isSome = true := by
    decide +kernel
  have stored : ((createPackage (packageAt tenDollars)).run bulkWorld).2.store.isSome = true := by
    decide +kernel
  obtain ⟨new, answered⟩ := Option.isSome_iff_exists.1 succeeds
  obtain ⟨after, left⟩ := Option.isSome_iff_exists.1 stored
  have created := Answer.eq_ok_of_toOption answered
  obtain ⟨found, read, -, -, -, -, small⟩ := price_kept_iff_shown
    (v := { freshWorld with store := some after }) money ⟨false, _, by decide, same⟩ created left
    .refl rfl (Clock.now_start _) rfl
  exact ⟨new, after, _, found, created, left, rfl, read, small false _ (by decide) same⟩

/-- The first price beyond `2^23` dollars. -/
def dearPrice : Money :=
  { tenDollars with amount := .finite false 8388608000000001 (-9), finite := rfl }

/-- A billionth more than `2^23` dollars is read back as two billionths more. -/
theorem price_changed : ∃ new found,
    ((transact (createPackage (packageAt dearPrice))).run bulkWorld).1 = .ok new ∧
    ((packages ["T1"]).run ((transact (createPackage (packageAt dearPrice))).run bulkWorld).2).1 =
      .ok [found] ∧
    new.price = dearPrice ∧ dearPrice.amount.FitsColumn ∧
    found.price.amount = .finite false 8388608000000002 (-9) ∧
    found.price.same dearPrice = false := by
  have created : ((transact (createPackage (packageAt dearPrice))).run bulkWorld).1.toOption.map
      (·.price) = some dearPrice := by decide +kernel
  have read : ((packages ["T1"]).run
      ((transact (createPackage (packageAt dearPrice))).run bulkWorld).2).1.toOption.map
        (·.map (·.price.amount)) = some [.finite false 8388608000000002 (-9)] := by decide +kernel
  have fits : dearPrice.amount.FitsColumn :=
    ⟨false, 8388608000000001, by decide, by decide +kernel⟩
  have apart : (Decimal.finite false 8388608000000002 (-9)).sameNumber dearPrice.amount = false := by
    decide +kernel
  obtain ⟨new, answered, price⟩ := Option.map_eq_some_iff.1 created
  obtain ⟨listed, answer, amounts⟩ := Option.map_eq_some_iff.1 read
  obtain ⟨found, rfl, amount⟩ := List.map_eq_singleton_iff.1 amounts
  refine ⟨new, found, Answer.eq_ok_of_toOption answered, Answer.eq_ok_of_toOption answer, price, fits,
    amount, ?_⟩
  rw [Money.same, amount, apart, Bool.false_and]

end Job

end RegistryTokens
