import Mathlib.Algebra.Order.Field.Power
import Mathlib.Algebra.Order.Field.Rat
import Mathlib.Data.Rat.Cast.Order
import Mathlib.Tactic.FieldSimp
import Mathlib.Tactic.Linarith
import Mathlib.Tactic.Positivity
import Mathlib.Tactic.Qify
import Mathlib.Tactic.Ring
import RegistryTokens.Proofs.Number.Decimal
import RegistryTokens.Proofs.Number.Rounding

/-!
# The rationals that numbers stand for

A quotient is rounded to a nearest whole number, and whatever lies at least as near to that number is
rounded to it too. Decimals stand for the same number just if they stand for the same rational,
however their exponents are written.
-/

set_option autoImplicit false

namespace RegistryTokens.Number

theorem roundHalfEven_eq_iff_near {n d q : Nat} (hd : 0 < d) : roundHalfEven n d = q ↔
    |(q : ℚ) - n / d| ≤ 1 / 2 ∧ (q % 2 = 1 → |(q : ℚ) - n / d| < 1 / 2) := by
  have unit : (0 : ℚ) < d := Nat.cast_pos.2 hd
  generalize quotient : (n / d : ℚ) = y
  have whole : (n : ℚ) = d * y := by rw [← quotient, mul_div_cancel₀ _ unit.ne']
  have up : (2 * (d * q) + d : ℚ) = d * (2 * q + 1) := by ring
  have down : (2 * n + d : ℚ) = d * (2 * y + 1) := by rw [whole]; ring
  have left : (2 * (d * q) : ℚ) = d * (2 * q) := by ring
  have right : (2 * n : ℚ) = d * (2 * y) := by rw [whole]; ring
  rw [roundHalfEven_eq_iff hd, abs_sub_le_iff, abs_sub_lt_iff]
  qify
  rw [up, down, left, right]
  simp only [mul_le_mul_iff_right₀ unit, mul_lt_mul_iff_right₀ unit]
  constructor
  · rintro ⟨⟨low, high⟩, strict⟩
    refine ⟨⟨by linarith, by linarith⟩, fun odd => ?_⟩
    obtain ⟨low, high⟩ := strict odd
    exact ⟨by linarith, by linarith⟩
  · rintro ⟨⟨low, high⟩, strict⟩
    refine ⟨⟨by linarith, by linarith⟩, fun odd => ?_⟩
    obtain ⟨low, high⟩ := strict odd
    exact ⟨by linarith, by linarith⟩

theorem roundHalfEven_eq_of_nearer {n d n' d' q : Nat} (hd : 0 < d) (hd' : 0 < d')
    (rounded : roundHalfEven n' d' = q)
    (nearer : |(q : ℚ) - n / d| ≤ |(q : ℚ) - n' / d'|) : roundHalfEven n d = q := by
  obtain ⟨near, strict⟩ := (roundHalfEven_eq_iff_near hd').1 rounded
  exact (roundHalfEven_eq_iff_near hd).2
    ⟨nearer.trans near, fun odd => nearer.trans_lt (strict odd)⟩

theorem roundHalfEven_nearest {n d : Nat} (hd : 0 < d) (k : ℤ) :
    |(roundHalfEven n d : ℚ) - n / d| ≤ |(k : ℚ) - n / d| := by
  obtain ⟨near, -⟩ := (roundHalfEven_eq_iff_near hd).1 (rfl : roundHalfEven n d = _)
  generalize roundHalfEven n d = m at near ⊢
  by_cases same : (m : ℤ) = k
  · rw [← same, Int.cast_natCast]
  · have apart : (1 : ℚ) ≤ |(k : ℚ) - m| := by
      exact_mod_cast Int.one_le_abs (sub_ne_zero.2 (Ne.symm same))
    have along := abs_sub_le (k : ℚ) (n / d) m
    rw [abs_sub_comm (n / d : ℚ) (m : ℚ)] at along
    linarith

theorem zpow_eq_div (b : ℚ) (e : Int) : b ^ e = b ^ e.toNat / b ^ (-e).toNat := by
  rcases Int.le_total 0 e with forward | backward
  · have none : (-e).toNat = 0 := by omega
    rw [none, pow_zero, div_one, ← zpow_natCast, Int.toNat_of_nonneg forward]
  · have none : e.toNat = 0 := by omega
    have all : ((-e).toNat : Int) = -e := by omega
    rw [none, pow_zero, one_div, ← zpow_natCast, all, zpow_neg, inv_inv]

namespace Decimal

def magnitude (c : Nat) (e : Int) : ℚ := c * 10 ^ e

def toRat : Decimal → ℚ
  | .finite negative c e => if negative then -magnitude c e else magnitude c e
  | _ => 0

theorem magnitude_eq_div (c : Nat) (e : Int) :
    magnitude c e = (c * 10 ^ e.toNat : Nat) / (10 ^ (-e).toNat : Nat) := by
  rw [magnitude, zpow_eq_div]
  push_cast
  rw [mul_div_assoc]

theorem magnitude_pos {c : Nat} (hc : 0 < c) (e : Int) : 0 < magnitude c e :=
  mul_pos (Nat.cast_pos.2 hc) (zpow_pos (by norm_num) e)

theorem magnitude_nonneg (c : Nat) (e : Int) : 0 ≤ magnitude c e :=
  mul_nonneg (Nat.cast_nonneg c) (zpow_nonneg (by norm_num) e)

theorem magnitude_eq_zero_iff {c : Nat} {e : Int} : magnitude c e = 0 ↔ c = 0 := by
  have unit : (10 : ℚ) ^ e ≠ 0 := zpow_ne_zero e (by norm_num)
  rw [magnitude, mul_eq_zero, or_iff_left unit, Nat.cast_eq_zero]

theorem exists_of_isFinite {x : Decimal} (h : x.isFinite = true) :
    ∃ negative c e, x = finite negative c e := by
  cases x with
  | finite negative c e => exact ⟨negative, c, e, rfl⟩
  | _ => cases h

theorem isFinite_of_sameNumber {x y : Decimal} (h : x.isFinite = true)
    (same : x.sameNumber y = true) : y.isFinite = true := by
  obtain ⟨_, _, _, rfl⟩ := exists_of_isFinite h
  cases y with
  | finite => rfl
  | infinite negative => cases negative <;> cases same
  | nan => cases same

theorem abs_toRat (negative : Bool) (c : Nat) (e : Int) :
    |(finite negative c e).toRat| = magnitude c e := by
  have positive := abs_of_nonneg (magnitude_nonneg c e)
  cases negative
  · exact positive
  · exact (abs_neg _).trans positive

theorem magnitude_bracket {c : Nat} (hc : 0 < c) (e : Int) :
    (10 : ℚ) ^ leading c e ≤ magnitude c e ∧ magnitude c e < (10 : ℚ) ^ (leading c e + 1) := by
  have ten : (10 : ℚ) ≠ 0 := by norm_num
  have unit : (0 : ℚ) < 10 ^ e := zpow_pos (by norm_num) e
  have positive := size10_pos c
  have front : leading c e = ((size10 c - 1 : Nat) : Int) + e := by
    unfold leading
    omega
  have behind : leading c e + 1 = (size10 c : Int) + e := by
    unfold leading
    omega
  have low : (10 : ℚ) ^ (size10 c - 1) ≤ c := by exact_mod_cast pow_size10_le hc
  have high : (c : ℚ) < 10 ^ size10 c := by exact_mod_cast lt_pow_size10 c
  rw [behind, front, zpow_add₀ ten, zpow_add₀ ten, zpow_natCast, zpow_natCast, magnitude]
  exact ⟨mul_le_mul_of_nonneg_right low unit.le, mul_lt_mul_of_pos_right high unit⟩

theorem orderMagnitudes_eq_iff {a b : Nat} {e f : Int} :
    orderMagnitudes a e b f = .eq ↔ magnitude a e = magnitude b f := by
  unfold orderMagnitudes
  by_cases either : a = 0 ∨ b = 0
  · rw [if_pos either, Nat.compare_eq_eq]
    constructor
    · rintro rfl
      obtain rfl : a = 0 := by omega
      rw [magnitude_eq_zero_iff.2 rfl, magnitude_eq_zero_iff.2 rfl]
    · intro same
      rcases either with rfl | rfl
      · rw [magnitude_eq_zero_iff.2 rfl] at same
        exact (magnitude_eq_zero_iff.1 same.symm).symm
      · rw [magnitude_eq_zero_iff.2 (rfl : 0 = 0)] at same
        exact magnitude_eq_zero_iff.1 same
  rw [if_neg either]
  obtain ⟨low, high⟩ := magnitude_bracket (c := a) (by omega) e
  obtain ⟨low', high'⟩ := magnitude_bracket (c := b) (by omega) f
  have ten : (1 : ℚ) < 10 := by norm_num
  rcases Int.lt_trichotomy (leading a e) (leading b f) with less | same | more
  · rw [Int.compare_eq_lt.2 less]
    have apart : (10 : ℚ) ^ (leading a e + 1) ≤ 10 ^ leading b f := zpow_le_zpow_right₀ ten.le less
    exact iff_of_false nofun (high.trans_le (apart.trans low')).ne
  · rw [Int.compare_eq_eq.2 same, Nat.compare_eq_eq]
    have unit : (10 : ℚ) ^ f ≠ 0 := zpow_ne_zero f (by norm_num)
    have below : (10 : ℚ) ^ (f - e).toNat ≠ 0 := pow_ne_zero _ (by norm_num)
    have moved : magnitude a e = a * (10 ^ (e - f).toNat / 10 ^ (f - e).toNat) * 10 ^ f := by
      rw [← Int.neg_sub e f, ← zpow_eq_div, mul_assoc, ← zpow_add₀ (by norm_num), sub_add_cancel,
        magnitude]
    rw [moved, magnitude, mul_left_inj' unit, mul_div_assoc', div_eq_iff below]
    exact_mod_cast Iff.rfl
  · rw [Int.compare_eq_gt.2 more]
    have apart : (10 : ℚ) ^ (leading b f + 1) ≤ 10 ^ leading a e := zpow_le_zpow_right₀ ten.le more
    exact iff_of_false nofun (high'.trans_le (apart.trans low)).ne'

theorem sameNumber_iff_toRat {x y : Decimal} (hx : x.isFinite = true) (hy : y.isFinite = true) :
    x.sameNumber y = true ↔ x.toRat = y.toRat := by
  obtain ⟨p, a, e, rfl⟩ := exists_of_isFinite hx
  obtain ⟨q, b, f, rfl⟩ := exists_of_isFinite hy
  have none (e : Int) : magnitude 0 e = 0 := magnitude_eq_zero_iff.2 rfl
  by_cases ha : a = 0
  · subst ha
    by_cases hb : b = 0
    · subst hb
      simp [sameNumber, order?, toRat, none]
    · have some := magnitude_pos (Nat.pos_of_ne_zero hb) f
      cases p <;> cases q <;>
        simp [sameNumber, order?, toRat, hb, orderMagnitudes_eq_iff, none, some.ne, some.ne']
  · have some := magnitude_pos (Nat.pos_of_ne_zero ha) e
    have least := magnitude_nonneg b f
    have below : -magnitude a e ≠ magnitude b f := by linarith
    have above : magnitude a e ≠ -magnitude b f := by linarith
    by_cases hb : b = 0
    · subst hb
      cases p <;> cases q <;>
        simp [sameNumber, order?, toRat, ha, orderMagnitudes_eq_iff, none, some.ne']
    · cases p <;> cases q <;>
        simp [sameNumber, order?, toRat, ha, hb, orderMagnitudes_eq_iff, below, above]
      exact eq_comm

end Decimal

end RegistryTokens.Number
