import RegistryTokens.Proofs.Number.Nearest
import RegistryTokens.Proofs.Number.Places

/-!
# Decimals that keep their places

A decimal is read back as the same number just if some number of the binary64 format shows all its
places. Up to `2^23` the format is so fine that nine places are always shown; beyond, it no longer
is. What is read back always has nine places, so no fraction with more is read back as itself.
-/

set_option autoImplicit false

namespace RegistryTokens.Number

open RegistryTokens.Store

/-- Rounded to steps that are smaller than a place, a number still shows its places. -/
theorem roundHalfEven_of_finer (q : Nat) {p u : Nat} (hp : 0 < p) (fine : p < u) :
    roundHalfEven (roundHalfEven (q * u) p * p) u = q := by
  obtain ⟨low, high⟩ := roundHalfEven_bounds (q * u) hp
  generalize roundHalfEven (q * u) p = m at low high
  rw [Nat.mul_comm p m] at low high
  refine (roundHalfEven_eq_iff (by omega)).2 ?_
  rw [Nat.mul_comm u q]
  omega

namespace Decimal

/-- Whether the number can be written with this many places. -/
def WithinPlaces (places : Nat) (d : Decimal) : Prop :=
  ∃ q : Nat, (finite false q (-places)).sameNumber d = true

/-- Whether the number has at most nine places and 38 digits, as its column says. -/
def FitsColumn (d : Decimal) : Prop :=
  ∃ negative q, q < 10 ^ (38 : Nat) ∧ (finite negative q (-9)).sameNumber d = true

theorem magnitude_of_sameNumber {p negative : Bool} {q c : Nat} {e : Int}
    (same : (finite p q (-9)).sameNumber (finite negative c e) = true) :
    magnitude c e = q / 10 ^ (9 : Nat) := by
  have equal := (sameNumber_iff_toRat rfl rfl).1 same
  rw [← abs_toRat negative, ← equal, abs_toRat]
  rfl

theorem billionths_of_isFraction {d : Decimal} (h : d.isFraction = true) {q : Nat}
    (same : (finite false q (-9)).sameNumber d = true) :
    q ≤ 2 ^ (23 : Nat) * 10 ^ (9 : Nat) := by
  obtain ⟨negative, c, e, rfl⟩ := exists_of_isFinite (isFinite_of_sameNumber rfl same)
  obtain ⟨-, bounded⟩ := isFraction_finite_iff.1 h
  have one : magnitude c e ≤ 1 := by
    rw [magnitude_eq_div]
    exact div_le_one_of_le₀ (by exact_mod_cast bounded) (Nat.cast_nonneg _)
  rw [magnitude_of_sameNumber same, div_le_one (by positivity)] at one
  have few : q ≤ 10 ^ (9 : Nat) := by exact_mod_cast one
  omega

theorem billionths_lt {q : Nat} (fits : q < 10 ^ (38 : Nat)) :
    (q / 10 ^ (9 : Nat) : ℚ) < 10 ^ (29 : Int) := by
  have digits : (q : ℚ) < 10 ^ (38 : Nat) := by exact_mod_cast fits
  rw [div_lt_iff₀ (by positivity)]
  exact digits.trans_eq (by norm_num)

theorem bounded_of_billionths {c q : Nat} {e : Int} (fits : q < 10 ^ (38 : Nat))
    (exact : magnitude c e = q / 10 ^ (9 : Nat)) :
    ((c * 10 ^ e.toNat : Nat) / (10 ^ (-e).toNat : Nat) : ℚ) < 2 ^ Binary64.maxPower := by
  rw [← magnitude_eq_div, exact]
  calc (q / 10 ^ (9 : Nat) : ℚ)
    _ < 10 ^ (29 : Int) := billionths_lt fits
    _ ≤ 2 ^ (97 : Int) := by norm_num
    _ ≤ 2 ^ Binary64.maxPower := zpow_le_zpow_right₀ one_le_two (by decide)

theorem ofDecimal_of_billionths {c q : Nat} {e : Int} (hc : 0 < c) (fits : q < 10 ^ (38 : Nat))
    (exact : magnitude c e = q / 10 ^ (9 : Nat)) (negative : Bool) :
    Binary64.ofDecimal (finite negative c e) =
      Binary64.ofRatio negative (c * 10 ^ e.toNat) (10 ^ (-e).toNat) := by
  obtain ⟨low, high⟩ := magnitude_bracket hc e
  have some : (1 : ℚ) ≤ q := by
    have positive := magnitude_pos hc e
    rw [exact, div_pos_iff_of_pos_right (by positivity), Nat.cast_pos] at positive
    exact_mod_cast positive
  have least : (10 : ℚ) ^ (-9 : Int) ≤ q / 10 ^ (9 : Nat) := by
    rw [le_div_iff₀ (by positivity)]
    exact le_trans (by norm_num) some
  rw [exact] at low high
  have below : leading c e < 29 :=
    (zpow_lt_zpow_iff_right₀ (by norm_num)).1 (low.trans_lt (billionths_lt fits))
  have above : -9 < leading c e + 1 :=
    (zpow_lt_zpow_iff_right₀ (by norm_num)).1 (least.trans_lt high)
  rw [Binary64.ofDecimal, if_neg hc.ne', if_neg (by omega), if_neg (by omega)]

theorem nearest_of_billionths {c q : Nat} {e : Int} (hc : 0 < c) (fits : q < 10 ^ (38 : Nat))
    (exact : magnitude c e = q / 10 ^ (9 : Nat)) (negative : Bool) :
    (Binary64.ofDecimal (finite negative c e)).InFormat ∧ ∀ (x : Binary64) (sign : Bool),
      x.InFormat → x.fixedPlaces Column.decimalPlaces = finite sign q (-9) →
      (Binary64.ofDecimal (finite negative c e)).fixedPlaces Column.decimalPlaces =
        finite negative q (-9) := by
  have bounded := bounded_of_billionths fits exact
  have numerator : 0 < c * 10 ^ e.toNat := Nat.mul_pos hc (Nat.pow_pos (by decide))
  have denominator : 0 < 10 ^ (-e).toNat := Nat.pow_pos (by decide)
  rw [magnitude_eq_div] at exact
  rw [ofDecimal_of_billionths hc fits (by rw [magnitude_eq_div, exact]) negative]
  constructor
  · obtain ⟨m, f, ratio, format, -⟩ := Binary64.ofRatio_nearest numerator denominator bounded
    rw [ratio]
    exact format
  · intro x sign format shown
    exact Binary64.fixedPlaces_of_shown numerator denominator bounded exact format shown negative

theorem FitsColumn.exists_billionths {d : Decimal} (h : d.FitsColumn) : ∃ negative c e, ∃ q : Nat,
    d = finite negative c e ∧ q < 10 ^ (38 : Nat) ∧ magnitude c e = q / 10 ^ (9 : Nat) := by
  obtain ⟨_, q, digits, same⟩ := h
  obtain ⟨negative, c, e, rfl⟩ := exists_of_isFinite (isFinite_of_sameNumber rfl same)
  exact ⟨negative, c, e, q, rfl, digits, magnitude_of_sameNumber same⟩

end Decimal

end RegistryTokens.Number

namespace RegistryTokens.Store.Column

open RegistryTokens.Number

theorem toRat_readDecimal_writeDecimal (d : Decimal) : (readDecimal (writeDecimal d)).toRat =
    ((Binary64.ofDecimal d).fixedPlaces decimalPlaces).toRat := by
  unfold writeDecimal
  dsimp only
  split
  · rename_i none
    cases stored : Binary64.ofDecimal d with
    | finite negative m e =>
      rw [stored] at none
      rw [beq_iff_eq.1 none, readDecimal_zero, Binary64.fixedPlaces_zero]
      cases negative
      · rfl
      · simp [Decimal.toRat, Decimal.magnitude]
    | _ =>
      rw [stored] at none
      cases none
  · rfl

theorem inFormat_writeDecimal {d : Decimal} (fits : d.FitsColumn) :
    (writeDecimal d).InFormat := by
  obtain ⟨negative, c, e, q, rfl, digits, exact⟩ := fits.exists_billionths
  have least : Binary64.Fits 0 Binary64.minPower := by
    unfold Binary64.Fits
    decide
  unfold writeDecimal
  dsimp only
  split
  · exact least
  · rcases Nat.eq_zero_or_pos c with rfl | hc
    · exact least
    · exact (Decimal.nearest_of_billionths hc digits exact negative).1

theorem readDecimal_of_shown {d : Decimal} (fits : d.FitsColumn) {x : Binary64} (format : x.InFormat)
    (shown : (x.fixedPlaces decimalPlaces).sameNumber d = true) :
    (readDecimal (writeDecimal d)).sameNumber d = true := by
  have read : (readDecimal (writeDecimal d)).isFinite = true :=
    Binary64.isFinite_fixedPlaces (inFormat_writeDecimal fits) decimalPlaces
  obtain ⟨negative, c, e, q, rfl, digits, exact⟩ := fits.exists_billionths
  rw [Decimal.sameNumber_iff_toRat read rfl, toRat_readDecimal_writeDecimal]
  rcases Nat.eq_zero_or_pos c with rfl | hc
  · change (Binary64.fixedPlaces 9 (.finite negative 0 Binary64.minPower)).toRat = _
    rw [Binary64.fixedPlaces_zero]
    simp [Decimal.toRat, Decimal.magnitude]
  obtain ⟨sign, k, places⟩ : ∃ sign k, x.fixedPlaces decimalPlaces = .finite sign k (-9) := by
    cases x with
    | finite sign m f => exact ⟨sign, _, rfl⟩
    | _ => cases format
  rw [places] at shown
  have again := Decimal.magnitude_of_sameNumber shown
  obtain rfl : k = q := by
    rw [again, div_left_inj' (by positivity)] at exact
    exact_mod_cast exact
  rw [(Decimal.nearest_of_billionths hc digits exact negative).2 x sign format places]
  have worth : Decimal.magnitude k (-9) = Decimal.magnitude c e := again.symm
  unfold Decimal.toRat
  dsimp only
  rw [← worth]

/-- A number that fits its column is read back as the same number just if any number of the binary64
format shows it. -/
theorem sameNumber_readDecimal_iff_shown {d : Decimal} (fits : d.FitsColumn) :
    (readDecimal (writeDecimal d)).sameNumber d = true ↔
      ∃ x : Binary64, x.InFormat ∧ (x.fixedPlaces decimalPlaces).sameNumber d = true :=
  ⟨fun same => ⟨writeDecimal d, inFormat_writeDecimal fits, same⟩,
    fun ⟨_, format, shown⟩ => readDecimal_of_shown fits format shown⟩

theorem sameNumber_readDecimal_of_le {negative : Bool} {q : Nat} {d : Decimal}
    (small : q ≤ 2 ^ (23 : Nat) * 10 ^ (9 : Nat))
    (same : (Decimal.finite negative q (-9)).sameNumber d = true) :
    (readDecimal (writeDecimal d)).sameNumber d = true := by
  have fits : d.FitsColumn := ⟨negative, q, Nat.lt_of_le_of_lt small (by decide), same⟩
  have mantissa : roundHalfEven (q * 2 ^ (30 : Nat)) (10 ^ (9 : Nat)) ≤ 2 * Binary64.leastMantissa := by
    apply roundHalfEven_le (by decide)
    unfold Binary64.leastMantissa
    omega
  have shown := Binary64.fixedPlaces_settle 9
    (roundHalfEven (q * 2 ^ (30 : Nat)) (10 ^ (9 : Nat))) 29 negative
  rw [roundHalfEven_of_finer q (by decide) (by decide)] at shown
  obtain ⟨m, e, settled, format, -⟩ :=
    Binary64.settle_eq (p := -((29 + 1 : Nat) : Int)) mantissa (by decide) (by decide)
  rw [settled] at shown
  have member : (Binary64.finite negative m e).InFormat := format
  exact readDecimal_of_shown fits member (shown ▸ same)

/-- A fraction is read back as the same number just if it has at most nine places. -/
theorem sameNumber_readDecimal_iff {d : Decimal} (h : d.isFraction = true) :
    (readDecimal (writeDecimal d)).sameNumber d = true ↔ d.WithinPlaces 9 := by
  constructor
  · intro same
    obtain ⟨q, -, shown, -⟩ := readDecimal_writeDecimal h
    rw [shown] at same
    exact ⟨q, same⟩
  · rintro ⟨q, same⟩
    exact sameNumber_readDecimal_of_le (Decimal.billionths_of_isFraction h same) same

end RegistryTokens.Store.Column
