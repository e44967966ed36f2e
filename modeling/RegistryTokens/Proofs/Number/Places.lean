import RegistryTokens.Proofs.Number.Decimal
import RegistryTokens.Proofs.Number.Rounding
import RegistryTokens.Store.Column

/-!
# Fractions in their column

A fraction is written as a binary64 number and read back with nine places. What is read back is
again a fraction. It is zero just for those that lie no further than halfway between the last
binary64 number before `5 · 10⁻¹⁰` and the next one, so a fraction may be positive and yet read back
as zero.
-/

set_option autoImplicit false

namespace RegistryTokens.Number

open RegistryTokens.Store

/-- Twice the last whole number of steps of `2^-83` before `5 · 10⁻¹⁰`, and one. -/
def vanishingBound : Nat := 9671406556917033

namespace Binary64

variable {n d l k : Nat}

/-- Before `2^-31`, everything is read back as zero. -/
theorem vanish_of_small (hd : 0 < d) (high : n * 2 ^ l < 2 * d) (hl : 32 ≤ l) (hk : 84 ≤ k) :
    2 * (roundHalfEven (n * 2 ^ k) d * 10 ^ (9 : Nat)) ≤ 2 ^ k ∧
      n * 2 ^ (84 : Nat) ≤ vanishingBound * d := by
  have small : n * 2 ^ 31 < d := by
    have shift : 2 ^ 32 ≤ 2 ^ l := Nat.pow_le_pow_right (by decide) hl
    have step : n * 2 ^ 32 ≤ n * 2 ^ l := Nat.mul_le_mul_left n shift
    omega
  obtain ⟨j, rfl⟩ : ∃ j, k = 31 + j := ⟨k - 31, by omega⟩
  have scale : 2 ^ (31 + j) = 2 ^ 31 * 2 ^ j := Nat.pow_add 2 31 j
  have mantissa : roundHalfEven (n * 2 ^ (31 + j)) d ≤ 2 ^ j := by
    apply roundHalfEven_le hd
    rw [scale, ← Nat.mul_assoc]
    exact Nat.mul_le_mul_right _ (Nat.le_of_lt small)
  unfold vanishingBound
  omega

/-- From `2^-30` on, nothing is. -/
theorem stay_of_large (hd : 0 < d) (low : d ≤ n * 2 ^ l) (hl : l ≤ 30) (hk : 30 ≤ k) :
    ¬2 * (roundHalfEven (n * 2 ^ k) d * 10 ^ (9 : Nat)) ≤ 2 ^ k ∧
      ¬n * 2 ^ (84 : Nat) ≤ vanishingBound * d := by
  have large : d ≤ n * 2 ^ 30 := by
    have shift : 2 ^ l ≤ 2 ^ 30 := Nat.pow_le_pow_right (by decide) hl
    exact Nat.le_trans low (Nat.mul_le_mul_left n shift)
  obtain ⟨j, rfl⟩ : ∃ j, k = 30 + j := ⟨k - 30, by omega⟩
  have scale : 2 ^ (30 + j) = 2 ^ 30 * 2 ^ j := Nat.pow_add 2 30 j
  have positive : 0 < 2 ^ j := Nat.pow_pos (by decide)
  have mantissa : 2 ^ j ≤ roundHalfEven (n * 2 ^ (30 + j)) d := by
    apply le_roundHalfEven hd
    rw [scale, ← Nat.mul_assoc]
    exact Nat.mul_le_mul_right _ large
  unfold vanishingBound
  omega

/-- In between, the mantissa is the count `x / d` of steps of `2^-83`. -/
theorem vanish_iff_of_middle (x : Nat) (hd : 0 < d) :
    2 * (roundHalfEven x d * 10 ^ (9 : Nat)) ≤ 2 ^ (83 : Nat) ↔ 2 * x ≤ vanishingBound * d := by
  have half := roundHalfEven_le_iff (n := x) (k := 4835703278458516) hd rfl
  have whole : (2 : Nat) ^ 83 = 9671406556917033397649408 := by rfl
  rw [whole, vanishingBound]
  omega

theorem fixedPlaces_ofRatio (hn : 0 < n) (h : n ≤ d) : ∃ q ≤ 10 ^ (9 : Nat),
    (ofRatio false n d).fixedPlaces 9 = .finite false q (-9) ∧
      (q = 0 ↔ n * 2 ^ (84 : Nat) ≤ vanishingBound * d) := by
  have hd : 0 < d := Nat.lt_of_lt_of_le hn h
  obtain ⟨l, k, low, high, hk, ratio⟩ := ofRatio_of_le hn h
  obtain ⟨j, rfl⟩ : ∃ j, k = j + 1 := ⟨k - 1, by omega⟩
  have mantissa : roundHalfEven (n * 2 ^ (j + 1)) d ≤ 2 ^ (j + 1) :=
    roundHalfEven_le hd (Nat.mul_le_mul_right _ h)
  have unit : 0 < 2 ^ (j + 1) := Nat.pow_pos (by decide)
  refine ⟨roundHalfEven (roundHalfEven (n * 2 ^ (j + 1)) d * 10 ^ 9) (2 ^ (j + 1)),
    roundHalfEven_le unit (Nat.mul_le_mul_right _ mantissa), ?_, ?_⟩
  · rw [ratio, fixedPlaces_settle]
    rfl
  · rw [roundHalfEven_eq_zero_iff unit]
    rcases Nat.lt_trichotomy l 31 with hl | rfl | hl
    · obtain ⟨left, right⟩ := stay_of_large hd low (Nat.le_of_lt_succ hl) (k := j + 1) (by omega)
      exact iff_of_false left right
    · obtain rfl : j = 82 := by omega
      have doubled : n * 2 ^ 84 = 2 * (n * 2 ^ 83) := by
        rw [Nat.pow_succ, ← Nat.mul_assoc, Nat.mul_comm]
      rw [doubled]
      exact vanish_iff_of_middle (n * 2 ^ 83) hd
    · obtain ⟨left, right⟩ := vanish_of_small hd high hl (k := j + 1) (by omega)
      exact iff_of_true left right

theorem fixedPlaces_zero (places : Nat) (negative : Bool) (e : Int) :
    (finite negative 0 e).fixedPlaces places = .finite negative 0 (-places) := by
  have unit : 0 < 2 ^ (-e).toNat := Nat.pow_pos (by decide)
  have rounded : roundHalfEven (0 * 2 ^ e.toNat * 10 ^ places) (2 ^ (-e).toNat) = 0 := by
    rw [roundHalfEven_eq_zero_iff unit]
    omega
  rw [fixedPlaces, rounded]

end Binary64

/-- Whether a fraction lies so close to zero that it is read back as zero. -/
def Decimal.Vanishes : Decimal → Prop
  | .finite _ c e => c * 10 ^ e.toNat * 2 ^ (84 : Nat) ≤ vanishingBound * 10 ^ (-e).toNat
  | _ => False

theorem Decimal.vanishes_of_leading (negative : Bool) {c : Nat} {e : Int}
    (h : Decimal.leading c e < -400) : (Decimal.finite negative c e).Vanishes := by
  have digits := lt_pow_size10 c
  unfold Decimal.leading at h
  have front : e.toNat = 0 := by omega
  have behind : 10 ^ (size10 c + 26) ≤ 10 ^ (-e).toNat :=
    Nat.pow_le_pow_right (by decide) (by omega)
  have scale : c * 2 ^ 84 ≤ 10 ^ size10 c * 10 ^ 26 :=
    Nat.mul_le_mul (Nat.le_of_lt digits) (by decide)
  rw [Nat.pow_add] at behind
  rw [Decimal.Vanishes, front, Nat.pow_zero, Nat.mul_one]
  calc c * 2 ^ 84
    _ ≤ 10 ^ size10 c * 10 ^ 26 := scale
    _ ≤ 10 ^ (-e).toNat := behind
    _ ≤ vanishingBound * 10 ^ (-e).toNat := Nat.le_mul_of_pos_left _ (by decide)

end RegistryTokens.Number

namespace RegistryTokens.Store.Column

open RegistryTokens.Number

theorem readDecimal_zero : readDecimal Binary64.zero = .finite false 0 (-9) :=
  Binary64.fixedPlaces_zero 9 false Binary64.minPower

theorem readDecimal_unsigned {x : Binary64} {q : Nat}
    (shown : x.fixedPlaces decimalPlaces = .finite false q (-9)) :
    readDecimal (if x.isZero then Binary64.zero else x) = .finite false q (-9) := by
  by_cases hx : x.isZero = true
  · cases x with
    | nan => cases hx
    | infinite => cases hx
    | finite _ m e =>
      rw [beq_iff_eq.1 hx, Binary64.fixedPlaces_zero] at shown
      injection shown with _ none
      rw [if_pos hx, readDecimal_zero, none]
  · rw [if_neg hx]
    exact shown

/-- A fraction is read back with nine places, and as zero just when it vanishes. -/
theorem readDecimal_writeDecimal {d : Decimal} (h : d.isFraction = true) :
    ∃ q ≤ 10 ^ (9 : Nat), readDecimal (writeDecimal d) = .finite false q (-9) ∧
      (q = 0 ↔ d.Vanishes) := by
  cases d with
  | nan => cases h
  | infinite => cases h
  | finite negative c e =>
    obtain ⟨sign, bounded⟩ := Decimal.isFraction_finite_iff.1 h
    unfold writeDecimal Binary64.ofDecimal
    dsimp only
    by_cases hc : c = 0
    · rw [if_pos hc]
      refine ⟨0, Nat.zero_le _, readDecimal_zero, iff_of_true rfl ?_⟩
      rw [Decimal.Vanishes, hc, Nat.zero_mul, Nat.zero_mul]
      exact Nat.zero_le _
    rw [if_neg hc]
    by_cases high : 400 < Decimal.leading c e
    · have above := Decimal.lt_of_leading_pos (Nat.pos_of_ne_zero hc) (e := e) (by omega)
      exact absurd bounded (Nat.not_le.2 above)
    rw [if_neg high]
    by_cases low : Decimal.leading c e < -400
    · rw [if_pos low]
      exact ⟨0, Nat.zero_le _, readDecimal_zero,
        iff_of_true rfl (Decimal.vanishes_of_leading _ low)⟩
    rw [if_neg low]
    obtain rfl : negative = false := sign.resolve_left hc
    have positive : 0 < c * 10 ^ e.toNat :=
      Nat.mul_pos (Nat.pos_of_ne_zero hc) (Nat.pow_pos (by decide))
    obtain ⟨q, within, shown, vanishes⟩ := Binary64.fixedPlaces_ofRatio positive bounded
    exact ⟨q, within, readDecimal_unsigned shown, vanishes⟩

end RegistryTokens.Store.Column
