import RegistryTokens.Number.Binary64

/-!
# Rounded quotients

Rounding keeps to every whole number on either side of a quotient, and to an even one as far as the
half behind it. A quotient of at most one has its leading binary digit at or behind the point, and
the nearest binary64 number is a whole number of the steps that start there.
-/

set_option autoImplicit false

namespace RegistryTokens.Number

theorem roundHalfEven_le {n d k : Nat} (hd : 0 < d) (h : n ≤ d * k) : roundHalfEven n d ≤ k := by
  have split := Nat.div_add_mod n d
  have small := Nat.mod_lt n hd
  unfold roundHalfEven
  simp only
  by_cases hq : n / d < k
  · split <;> omega
  · have above : d * k ≤ d * (n / d) := Nat.mul_le_mul_left d (Nat.le_of_not_lt hq)
    have exact : n / d = k := by
      refine Nat.le_antisymm ?_ (Nat.le_of_not_lt hq)
      exact Nat.div_le_of_le_mul h
    split <;> omega

theorem le_roundHalfEven {n d k : Nat} (hd : 0 < d) (h : d * k ≤ n) : k ≤ roundHalfEven n d := by
  have below : k ≤ n / d := (Nat.le_div_iff_mul_le hd).2 (Nat.mul_comm k d ▸ h)
  unfold roundHalfEven
  simp only
  split <;> omega

theorem roundHalfEven_le_iff {n d k : Nat} (hd : 0 < d) (even : k % 2 = 0) :
    roundHalfEven n d ≤ k ↔ 2 * n ≤ 2 * (d * k) + d := by
  have split := Nat.div_add_mod n d
  have small := Nat.mod_lt n hd
  unfold roundHalfEven
  simp only
  rcases Nat.lt_trichotomy (n / d) k with hq | hq | hq
  · have below : d * (n / d + 1) ≤ d * k := Nat.mul_le_mul_left d hq
    rw [Nat.mul_add] at below
    split <;> omega
  · subst hq
    split <;> omega
  · have above : d * (k + 1) ≤ d * (n / d) := Nat.mul_le_mul_left d hq
    rw [Nat.mul_add] at above
    split <;> omega

theorem roundHalfEven_eq_zero_iff {n d : Nat} (hd : 0 < d) :
    roundHalfEven n d = 0 ↔ 2 * n ≤ d := by
  have bound := roundHalfEven_le_iff (n := n) (k := 0) hd rfl
  rw [Nat.mul_zero, Nat.mul_zero, Nat.zero_add] at bound
  rw [← bound]
  omega

/-- Rounding misses a quotient by a half at most, and by less where it gives an odd number. -/
theorem roundHalfEven_eq_iff {n d q : Nat} (hd : 0 < d) : roundHalfEven n d = q ↔
    (2 * (d * q) ≤ 2 * n + d ∧ 2 * n ≤ 2 * (d * q) + d) ∧
      (q % 2 = 1 → 2 * (d * q) < 2 * n + d ∧ 2 * n < 2 * (d * q) + d) := by
  have split := Nat.div_add_mod n d
  have small := Nat.mod_lt n hd
  have next : d * (n / d + 1) = d * (n / d) + d := Nat.mul_succ d _
  unfold roundHalfEven
  simp only
  rcases Nat.lt_trichotomy q (n / d) with less | rfl | more
  · have below : d * (q + 1) ≤ d * (n / d) := Nat.mul_le_mul_left d less
    rw [Nat.mul_succ] at below
    split <;> omega
  · split <;> omega
  · rcases Nat.eq_or_lt_of_le more with same | more
    · rw [← same, next]
      split <;> omega
    · have above : d * (n / d + 2) ≤ d * q := Nat.mul_le_mul_left d more
      rw [Nat.mul_add] at above
      split <;> omega

theorem roundHalfEven_double (n d : Nat) : roundHalfEven (2 * n) (2 * d) = roundHalfEven n d := by
  unfold roundHalfEven
  simp only [Nat.mul_div_mul_left n d (by decide : 0 < 2), Nat.mul_mod_mul_left]
  split <;> split <;> omega

namespace Binary64

theorem shifted_neg (n d k : Nat) : shifted n d (-(k : Int)) = (n * 2 ^ k, d) := by
  have front : (-(-(k : Int))).toNat = k := by omega
  have back : (-(k : Int)).toNat = 0 := by omega
  rw [shifted, front, back, Nat.pow_zero, Nat.mul_one]

theorem log2_mono {n d : Nat} (hn : 0 < n) (h : n ≤ d) : n.log2 ≤ d.log2 := by
  apply Nat.le_of_not_lt
  intro above
  have low : 2 ^ (d.log2 + 1) ≤ 2 ^ n.log2 := Nat.pow_le_pow_right (by decide) above
  have nLow := Nat.log2_self_le (Nat.pos_iff_ne_zero.1 hn)
  have dHigh : d < 2 ^ (d.log2 + 1) := Nat.lt_log2_self
  omega

theorem leadingPower_of_le {n d : Nat} (hn : 0 < n) (h : n ≤ d) :
    ∃ l : Nat, leadingPower n d = -(l : Int) ∧ d ≤ n * 2 ^ l ∧ n * 2 ^ l < 2 * d := by
  have hd : 0 < d := Nat.lt_of_lt_of_le hn h
  have nLow := Nat.log2_self_le (Nat.pos_iff_ne_zero.1 hn)
  have nHigh : n < 2 ^ (n.log2 + 1) := Nat.lt_log2_self
  have dLow := Nat.log2_self_le (Nat.pos_iff_ne_zero.1 hd)
  have dHigh : d < 2 ^ (d.log2 + 1) := Nat.lt_log2_self
  obtain ⟨g, hg⟩ : ∃ g, d.log2 = n.log2 + g :=
    ⟨_, (Nat.add_sub_cancel' (log2_mono hn h)).symm⟩
  have guess : ((n.log2 : Int) - d.log2) = -(g : Int) := by omega
  have scale : 2 ^ (n.log2 + g) = 2 ^ n.log2 * 2 ^ g := Nat.pow_add 2 _ _
  have upper : n * 2 ^ g < 2 * d := by
    have step : n * 2 ^ g < 2 ^ (n.log2 + 1) * 2 ^ g :=
      Nat.mul_lt_mul_of_pos_right nHigh (Nat.pow_pos (by decide))
    rw [Nat.pow_succ, Nat.mul_right_comm] at step
    rw [hg] at dLow
    omega
  have lower : d < 2 * (n * 2 ^ g) := by
    have step : 2 ^ n.log2 * 2 ^ g ≤ n * 2 ^ g := Nat.mul_le_mul_right _ nLow
    rw [hg, Nat.pow_succ] at dHigh
    omega
  unfold leadingPower
  simp only [guess, shifted_neg]
  by_cases reached : d ≤ n * 2 ^ g
  · exact ⟨g, if_pos reached, reached, upper⟩
  · have doubled : n * 2 ^ (g + 1) = 2 * (n * 2 ^ g) := by
      rw [Nat.pow_succ, ← Nat.mul_assoc, Nat.mul_comm]
    refine ⟨g + 1, ?_, ?_, ?_⟩
    · rw [if_neg reached]
      omega
    · omega
    · omega

theorem ofRatio_of_le {n d : Nat} (hn : 0 < n) (h : n ≤ d) : ∃ l k : Nat,
    d ≤ n * 2 ^ l ∧ n * 2 ^ l < 2 * d ∧ k = min (l + 52) 1074 ∧
    ∀ negative, ofRatio negative n d =
      settle negative (roundHalfEven (n * 2 ^ k) d) (-(k : Int)) := by
  obtain ⟨l, leading, low, high⟩ := leadingPower_of_le hn h
  refine ⟨l, min (l + 52) 1074, low, high, rfl, fun negative => ?_⟩
  have power : max (leadingPower n d - 52) minPower = -((min (l + 52) 1074 : Nat) : Int) := by
    rw [leading, minPower]
    omega
  rw [ofRatio, if_neg (Nat.pos_iff_ne_zero.1 hn), power]
  dsimp only
  rw [shifted_neg]

theorem fixedPlaces_finite (places m k : Nat) (negative : Bool) :
    (finite negative m (-(k : Int))).fixedPlaces places =
      .finite negative (roundHalfEven (m * 10 ^ places) (2 ^ k)) (-places) := by
  have back : (-(-(k : Int))).toNat = k := by omega
  have front : (-(k : Int)).toNat = 0 := by omega
  rw [fixedPlaces, back, front, Nat.pow_zero, Nat.mul_one]

theorem fixedPlaces_settle (places m k : Nat) (negative : Bool) :
    (settle negative m (-((k + 1 : Nat) : Int))).fixedPlaces places =
      .finite negative (roundHalfEven (m * 10 ^ places) (2 ^ (k + 1))) (-places) := by
  by_cases full : m = 2 * leastMantissa
  · have next : -((k + 1 : Nat) : Int) + 1 = -(k : Int) := by omega
    have within : ¬maxPower < -(k : Int) := by
      unfold maxPower
      omega
    have settled : settle negative m (-((k + 1 : Nat) : Int)) =
        finite negative leastMantissa (-(k : Int)) := by
      rw [settle, if_pos full, next]
      exact if_neg within
    rw [settled, fixedPlaces_finite, full, Nat.pow_succ, Nat.mul_comm (2 ^ k) 2, Nat.mul_assoc,
      roundHalfEven_double]
  · have within : ¬maxPower < -((k + 1 : Nat) : Int) := by
      unfold maxPower
      omega
    have settled : settle negative m (-((k + 1 : Nat) : Int)) =
        finite negative m (-((k + 1 : Nat) : Int)) := by
      rw [settle, if_neg full]
      exact if_neg within
    rw [settled, fixedPlaces_finite]

end Binary64

end RegistryTokens.Number
