import RegistryTokens.Number.Decimal

/-!
# Comparing decimals with zero and one

The order of decimals goes by the leading digit first. Against zero and one it says what the powers
of ten say, however large the exponents are.
-/

set_option autoImplicit false

namespace RegistryTokens.Number.Decimal

theorem orderMagnitudes_self (a : Nat) (e : Int) : orderMagnitudes a e a e = .eq := by
  unfold orderMagnitudes
  split <;> simp

theorem sameNumber_self {a : Decimal} (h : a.isNaN = false) : a.sameNumber a = true := by
  cases a with
  | nan => cases h
  | infinite negative => cases negative <;> rfl
  | finite negative c e =>
    by_cases hc : c = 0
    · simp [sameNumber, order?, hc]
    · cases negative <;> simp [sameNumber, order?, hc, orderMagnitudes_self]

theorem leading_one : leading 1 0 = 0 := by
  rw [leading, size10, dif_pos (by decide)]
  rfl

theorem lt_of_leading_neg {c : Nat} {e : Int} (h : leading c e < 0) :
    c * 10 ^ e.toNat < 10 ^ (-e).toNat := by
  have digits := lt_pow_size10 c
  have positive := size10_pos c
  unfold leading at h
  have front : e.toNat = 0 := by omega
  have behind : 10 ^ size10 c ≤ 10 ^ (-e).toNat := Nat.pow_le_pow_right (by decide) (by omega)
  rw [front, Nat.pow_zero, Nat.mul_one]
  omega

theorem lt_of_leading_pos {c : Nat} {e : Int} (hc : 0 < c) (h : 0 < leading c e) :
    10 ^ (-e).toNat < c * 10 ^ e.toNat := by
  have digits : 10 ^ (size10 c - 1) ≤ c := pow_size10_le hc
  have positive := size10_pos c
  unfold leading at h
  have fewer : (-e).toNat < (size10 c - 1) + e.toNat := by omega
  have scaled : 10 ^ (size10 c - 1) * 10 ^ e.toNat ≤ c * 10 ^ e.toNat :=
    Nat.mul_le_mul_right _ digits
  rw [← Nat.pow_add] at scaled
  exact Nat.lt_of_lt_of_le (Nat.pow_lt_pow_right (by decide) fewer) scaled

theorem orderMagnitudes_one_ne_gt {c : Nat} {e : Int} (hc : 0 < c) :
    orderMagnitudes c e 1 0 ≠ .gt ↔ c * 10 ^ e.toNat ≤ 10 ^ (-e).toNat := by
  have nonzero : ¬(c = 0 ∨ 1 = 0) := by omega
  have front : e - 0 = e := Int.sub_zero e
  have back : 0 - e = -e := Int.zero_sub e
  rw [orderMagnitudes, if_neg nonzero, leading_one]
  rcases Int.lt_trichotomy (leading c e) 0 with before | here | behind
  · rw [Int.compare_eq_lt.2 before]
    exact iff_of_true nofun (Nat.le_of_lt (lt_of_leading_neg before))
  · rw [here, front, back, Nat.one_mul]
    exact Nat.compare_ne_gt
  · rw [Int.compare_eq_gt.2 behind]
    exact iff_of_false (fun h => h rfl) (Nat.not_le.2 (lt_of_leading_pos hc behind))

theorem orderMagnitudes_zero {c : Nat} (e : Int) (hc : 0 < c) : orderMagnitudes c e 0 0 = .gt := by
  rw [orderMagnitudes, if_pos (.inr rfl)]
  exact Nat.compare_eq_gt.2 hc

theorem eq_zero_of_orderMagnitudes {a b : Nat} {e f : Int} (h : orderMagnitudes a e b f = .eq) :
    a = 0 ↔ b = 0 := by
  by_cases either : a = 0 ∨ b = 0
  · rw [orderMagnitudes, if_pos either] at h
    rw [Nat.compare_eq_eq.1 h]
  · omega

theorem isFraction_finite_iff {negative : Bool} {c : Nat} {e : Int} :
    (finite negative c e).isFraction = true ↔
      (c = 0 ∨ negative = false) ∧ c * 10 ^ e.toNat ≤ 10 ^ (-e).toNat := by
  by_cases hc : c = 0
  · have small : compare 0 1 ≠ Ordering.gt := by decide
    simp [isFraction, isFinite, order?, zero, ofNat, hc, orderMagnitudes, small]
  · have above := orderMagnitudes_zero e (Nat.pos_of_ne_zero hc)
    have ordered := orderMagnitudes_one_ne_gt (e := e) (Nat.pos_of_ne_zero hc)
    cases negative <;> simp [isFraction, isFinite, order?, zero, ofNat, hc, above, ordered]

theorem nonpositive?_finite (negative : Bool) (c : Nat) (e : Int) :
    (finite negative c e).nonpositive? = some (negative || c == 0) := by
  by_cases hc : c = 0
  · simp [nonpositive?, order?, zero, ofNat, hc]
  · have above := orderMagnitudes_zero e (Nat.pos_of_ne_zero hc)
    cases negative <;> simp [nonpositive?, order?, zero, ofNat, hc, above]

theorem isSignal_of_isFraction {d : Decimal} (h : d.isFraction = true) : d.isSignal = false := by
  cases d with
  | nan => cases h
  | _ => rfl

theorem isSome_nonpositive? {d : Decimal} (h : d.isFraction = true) :
    d.nonpositive?.isSome = true := by
  cases d with
  | nan => cases h
  | infinite => cases h
  | finite negative c e =>
    rw [nonpositive?_finite]
    rfl

theorem below_of_equal {p q : Bool} {c d : Nat} {e f : Int}
    (h : (finite p c e).order? (finite q d f) = some .eq) : (p || c == 0) = (q || d == 0) := by
  by_cases both : c = 0 ∧ d = 0
  · simp [both]
  have equal := Option.some.inj h
  rw [if_neg both] at equal
  split at equal
  · rename_i below
    split at equal
    · rename_i alsoBelow
      rw [Bool.and_eq_true] at below alsoBelow
      rw [below.1, alsoBelow.1, Bool.true_or, Bool.true_or]
    · cases equal
  · rename_i notBelow
    split at equal
    · cases equal
    · rename_i neitherBelow
      have together := eq_zero_of_orderMagnitudes equal
      have hc : c ≠ 0 := by omega
      have hd : d ≠ 0 := by omega
      have hp : p = false := by simpa [hc] using notBelow
      have hq : q = false := by simpa [hd] using neitherBelow
      rw [hp, hq, beq_eq_false_iff_ne.2 hc, beq_eq_false_iff_ne.2 hd]

theorem nonpositive?_of_sameNumber {a b : Decimal} (h : a.sameNumber b = true) :
    a.nonpositive? = b.nonpositive? := by
  have ordered : a.order? b = some .eq := beq_iff_eq.1 h
  cases a with
  | nan => cases ordered
  | infinite p =>
    cases b with
    | nan => cases ordered
    | infinite q => cases p <;> cases q <;> first | rfl | cases ordered
    | finite => cases p <;> cases ordered
  | finite p c e =>
    cases b with
    | nan => cases ordered
    | infinite q => cases q <;> cases ordered
    | finite q d f => rw [nonpositive?_finite, nonpositive?_finite, below_of_equal ordered]

end RegistryTokens.Number.Decimal
