import RegistryTokens.Proofs.Number.Rational

/-!
# The nearest binary number

No number of the binary64 format is nearer to a quotient than the one that it is brought to. So if
any number of the format shows all the places of a quotient, then that one does.
-/

set_option autoImplicit false

namespace RegistryTokens.Number

namespace Binary64

def Fits (m : Nat) (e : Int) : Prop := m < 2 * leastMantissa ∧ minPower ≤ e ∧ e ≤ maxPower

def InFormat : Binary64 → Prop
  | .finite _ m e => Fits m e
  | _ => False

theorem shifted_eq_div (n d : Nat) (e : Int) :
    ((shifted n d e).1 / (shifted n d e).2 : ℚ) = n / d / 2 ^ e := by
  rw [shifted, zpow_eq_div]
  push_cast
  rw [div_div_div_eq, mul_comm (d : ℚ)]

theorem shifted_pos (n : Nat) {d : Nat} (hd : 0 < d) (e : Int) : 0 < (shifted n d e).2 :=
  Nat.mul_pos hd (Nat.pow_pos (by decide))

theorem log2_bracket {n : Nat} (hn : 0 < n) :
    (2 : ℚ) ^ (n.log2 : Int) ≤ n ∧ (n : ℚ) < 2 ^ ((n.log2 : Int) + 1) := by
  have low := Nat.log2_self_le hn.ne'
  have high : n < 2 ^ (n.log2 + 1) := Nat.lt_log2_self
  have next : (n.log2 : Int) + 1 = ((n.log2 + 1 : Nat) : Int) := rfl
  rw [next, zpow_natCast, zpow_natCast]
  exact ⟨by exact_mod_cast low, by exact_mod_cast high⟩

theorem leadingPower_bracket {n d : Nat} (hn : 0 < n) (hd : 0 < d) :
    (2 : ℚ) ^ leadingPower n d ≤ n / d ∧ (n / d : ℚ) < 2 ^ (leadingPower n d + 1) := by
  have unit : (0 : ℚ) < d := Nat.cast_pos.2 hd
  have two : (2 : ℚ) ≠ 0 := two_ne_zero
  obtain ⟨nLow, nHigh⟩ := log2_bracket hn
  obtain ⟨dLow, dHigh⟩ := log2_bracket hd
  unfold leadingPower
  simp only
  generalize (n.log2 : Int) = a at nLow nHigh ⊢
  generalize (d.log2 : Int) = b at dLow dHigh ⊢
  have step : (0 : ℚ) < (shifted n d (a - b)).2 := Nat.cast_pos.2 (shifted_pos n hd _)
  have power : (0 : ℚ) < 2 ^ (a - b) := zpow_pos (by norm_num) _
  have whole : ((shifted n d (a - b)).2 : ℚ) ≤ (shifted n d (a - b)).1 ↔ _ := Nat.cast_le
  have reached : (shifted n d (a - b)).2 ≤ (shifted n d (a - b)).1 ↔ (2 : ℚ) ^ (a - b) ≤ n / d := by
    rw [← whole, ← one_le_div step, shifted_eq_div, one_le_div power]
  split
  · rename_i above
    have next : a - b + 1 = a + 1 - b := by omega
    refine ⟨reached.1 above, ?_⟩
    rw [next, zpow_sub₀ two]
    exact div_lt_div₀ nHigh dLow (zpow_nonneg (by norm_num) _) (zpow_pos (by norm_num) _)
  · rename_i below
    have last : a - b - 1 = a - (b + 1) := by omega
    rw [sub_add_cancel, last, zpow_sub₀ two]
    exact ⟨div_le_div₀ (Nat.cast_nonneg n) nLow unit dHigh.le, not_le.1 (mt reached.2 below)⟩

theorem settle_eq {m : Nat} {p : Int} (fits : m ≤ 2 * leastMantissa) (least : minPower ≤ p)
    (most : p < maxPower) : ∃ m' e', (∀ negative, settle negative m p = finite negative m' e') ∧
      Fits m' e' ∧ (m' * 2 ^ e' : ℚ) = m * 2 ^ p := by
  by_cases full : m = 2 * leastMantissa
  · refine ⟨leastMantissa, p + 1, fun negative => ?_, ⟨by decide, by omega, by omega⟩, ?_⟩
    · rw [settle, if_pos full]
      exact if_neg (by omega)
    · rw [full, zpow_add_one₀ two_ne_zero]
      push_cast
      ring
  · refine ⟨m, p, fun negative => ?_, ⟨by omega, least, by omega⟩, rfl⟩
    rw [settle, if_neg full]
    exact if_neg (by omega)

theorem leastMantissa_mul (p : Int) : (2 : ℚ) ^ (52 + p) = leastMantissa * 2 ^ p := by
  rw [zpow_add₀ two_ne_zero]
  norm_num [leastMantissa]

theorem exists_steps_of_le {p e : Int} (h : p ≤ e) (m : Nat) :
    ∃ k : ℤ, (m * 2 ^ e : ℚ) = k * 2 ^ p := by
  obtain ⟨j, hj⟩ : ∃ j : Nat, e = j + p := ⟨(e - p).toNat, by omega⟩
  refine ⟨m * 2 ^ j, ?_⟩
  rw [hj, zpow_add₀ two_ne_zero, zpow_natCast]
  push_cast
  ring

theorem le_of_lt_power {p e : Int} (h : e < p) {m : Nat} (fits : m < 2 * leastMantissa) :
    (m * 2 ^ e : ℚ) ≤ leastMantissa * 2 ^ p := by
  have half : (2 : ℚ) ^ e ≤ 2 ^ (p - 1) := zpow_le_zpow_right₀ one_le_two (by omega)
  have whole : (2 : ℚ) ^ p = 2 * 2 ^ (p - 1) := by
    rw [← zpow_one_add₀ two_ne_zero, add_sub_cancel]
  have most : (m : ℚ) ≤ 2 * leastMantissa := by exact_mod_cast fits.le
  calc (m * 2 ^ e : ℚ)
    _ ≤ 2 * leastMantissa * 2 ^ (p - 1) :=
      mul_le_mul most half (zpow_nonneg two_pos.le e) (by positivity)
    _ = leastMantissa * 2 ^ p := by rw [whole]; ring

theorem steps_bracket {n d : Nat} (hn : 0 < n) (hd : 0 < d) {p : Int} {y : ℚ}
    (power : max (leadingPower n d - 52) minPower = p) (steps : (n / d : ℚ) = y * 2 ^ p) :
    y < 2 * leastMantissa ∧ (minPower < p → leastMantissa ≤ y) := by
  obtain ⟨low, high⟩ := leadingPower_bracket hn hd
  have unit : (0 : ℚ) < 2 ^ p := zpow_pos two_pos p
  rw [steps] at low high
  constructor
  · have within : (2 : ℚ) ^ (leadingPower n d + 1) ≤ 2 ^ (52 + (p + 1)) :=
      zpow_le_zpow_right₀ one_le_two (by omega)
    have twice : (leastMantissa * (2 ^ p * 2) : ℚ) = 2 * leastMantissa * 2 ^ p := by ring
    rw [leastMantissa_mul, zpow_add_one₀ two_ne_zero p, twice] at within
    exact lt_of_mul_lt_mul_right (high.trans_le within) unit.le
  · intro normal
    have leading : leadingPower n d = 52 + p := by omega
    rw [leading, leastMantissa_mul] at low
    exact le_of_mul_le_mul_right low unit

/-- A positive quotient is brought to a number of the format, and none is nearer. -/
theorem ofRatio_nearest {n d : Nat} (hn : 0 < n) (hd : 0 < d)
    (bounded : (n / d : ℚ) < 2 ^ maxPower) :
    ∃ m e, (∀ negative, ofRatio negative n d = finite negative m e) ∧ Fits m e ∧
      ∀ m' e', Fits m' e' → |(m * 2 ^ e : ℚ) - n / d| ≤ |(m' * 2 ^ e' : ℚ) - n / d| := by
  have leading : leadingPower n d < maxPower :=
    (zpow_lt_zpow_iff_right₀ one_lt_two).1 ((leadingPower_bracket hn hd).1.trans_lt bounded)
  obtain ⟨p, power⟩ : ∃ p, max (leadingPower n d - 52) minPower = p := ⟨_, rfl⟩
  have inRange : minPower ≤ p ∧ p < maxPower := by
    unfold minPower maxPower at *
    omega
  have unit : (0 : ℚ) < 2 ^ p := zpow_pos two_pos p
  have counted (x : ℚ) : x = x / 2 ^ p * 2 ^ p := (div_mul_cancel₀ x unit.ne').symm
  have steps := shifted_eq_div n d p
  have step := shifted_pos n hd p
  obtain ⟨few, normal⟩ := steps_bracket hn hd power (counted _)
  rw [← steps] at few normal
  have nearest := roundHalfEven_nearest (n := (shifted n d p).1) step
  have mantissa : roundHalfEven (shifted n d p).1 (shifted n d p).2 ≤ 2 * leastMantissa := by
    apply roundHalfEven_le step
    rw [div_lt_iff₀' (Nat.cast_pos.2 step)] at few
    exact_mod_cast few.le
  obtain ⟨m, e, settled, fits, worth⟩ := settle_eq mantissa inRange.1 inRange.2
  refine ⟨m, e, fun negative => ?_, fits, fun m' e' fits' => ?_⟩
  · rw [ofRatio, if_neg hn.ne', power]
    exact settled negative
  have scaled (x : ℚ) : |x - n / d| = |x / 2 ^ p - (shifted n d p).1 / (shifted n d p).2| * 2 ^ p := by
    rw [steps, ← sub_div, abs_div, abs_of_pos unit, div_mul_cancel₀ _ unit.ne']
  rw [scaled, scaled, worth, mul_div_cancel_right₀ _ unit.ne']
  apply mul_le_mul_of_nonneg_right _ unit.le
  rcases le_or_gt p e' with coarse | fine
  · obtain ⟨k, whole⟩ := exists_steps_of_le coarse m'
    rw [whole, mul_div_cancel_right₀ _ unit.ne']
    exact nearest k
  · -- A finer number lies below all the mantissas, so the least of them is nearer already.
    have below : (m' * 2 ^ e' / 2 ^ p : ℚ) ≤ leastMantissa :=
      (div_le_iff₀ unit).2 (le_of_lt_power fine fits'.1)
    have above := normal (lt_of_le_of_lt fits'.2.1 fine)
    refine (nearest leastMantissa).trans ?_
    rw [Int.cast_natCast, abs_of_nonpos (by linarith), abs_of_nonpos (by linarith)]
    linarith

theorem isFinite_fixedPlaces {x : Binary64} (format : x.InFormat) (places : Nat) :
    (x.fixedPlaces places).isFinite = true := by
  cases x with
  | finite => rfl
  | _ => cases format

theorem places_eq_div (m : Nat) (e : Int) (places : Nat) :
    ((m * 2 ^ e.toNat * 10 ^ places : Nat) / (2 ^ (-e).toNat : Nat) : ℚ) =
      m * 2 ^ e * 10 ^ places := by
  rw [zpow_eq_div]
  push_cast
  ring

/-- If a number of the format shows a number of places, then so does the one that this number is
brought to. -/
theorem fixedPlaces_of_shown {n d q places : Nat} (hn : 0 < n) (hd : 0 < d)
    (bounded : (n / d : ℚ) < 2 ^ maxPower) (exact : (n / d : ℚ) = q / 10 ^ places) {negative : Bool}
    {x : Binary64} (format : x.InFormat)
    (shown : x.fixedPlaces places = .finite negative q (-places)) (sign : Bool) :
    (ofRatio sign n d).fixedPlaces places = .finite sign q (-places) := by
  obtain ⟨m, e, ratio, -, nearest⟩ := ofRatio_nearest hn hd bounded
  cases x with
  | nan => cases format
  | infinite => cases format
  | finite negative m' e' =>
    obtain ⟨-, rounded, -⟩ := Decimal.finite.inj shown
    have ten : (10 : ℚ) ^ places ≠ 0 := pow_ne_zero _ (by norm_num)
    have whole : (q : ℚ) = n / d * 10 ^ places := by rw [exact, div_mul_cancel₀ _ ten]
    have unit (e : Int) : 0 < 2 ^ (-e).toNat := Nat.pow_pos (by decide)
    rw [ratio, fixedPlaces, roundHalfEven_eq_of_nearer (unit e) (unit e') rounded]
    rw [places_eq_div, places_eq_div, whole, ← sub_mul, ← sub_mul, abs_mul, abs_mul,
      abs_sub_comm, abs_sub_comm (n / d : ℚ)]
    exact mul_le_mul_of_nonneg_right (nearest m' e' format) (abs_nonneg _)

end Binary64

end RegistryTokens.Number
