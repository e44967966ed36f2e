import RegistryTokens.Number.Digits

/-!
# Rounding a quotient and counting digits

A quotient of natural numbers is rounded to the nearest integer, a half going to the even
neighbour. The size of a number is the count of its decimal digits; it brackets the number
between two powers of ten.
-/

set_option autoImplicit false

namespace RegistryTokens.Number

/-- The integer nearest to `n / d`; of two equally near ones the even one. -/
def roundHalfEven (n d : Nat) : Nat :=
  let q := n / d
  let r := n % d
  if d < 2 * r ∨ (2 * r = d ∧ q % 2 = 1) then q + 1 else q

def size10 (n : Nat) : Nat :=
  if h : n < 10 then 1 else size10 (n / 10) + 1
termination_by n
decreasing_by omega

theorem size10_pos (n : Nat) : 0 < size10 n := by
  unfold size10; split <;> omega

theorem lt_pow_size10 (n : Nat) : n < 10 ^ size10 n := by
  induction n using size10.induct with
  | case1 n small => rw [size10, dif_pos small]; omega
  | case2 n large ih => rw [size10, dif_neg large, Nat.pow_succ]; omega

theorem pow_size10_le {n : Nat} (h : 0 < n) : 10 ^ (size10 n - 1) ≤ n := by
  induction n using size10.induct with
  | case1 n small => rw [size10, dif_pos small, Nat.sub_self, Nat.pow_zero]; omega
  | case2 n large ih =>
    have rest := ih (by omega)
    have positive := size10_pos (n / 10)
    rw [size10, dif_neg large, Nat.add_sub_cancel]
    obtain ⟨k, hk⟩ : ∃ k, size10 (n / 10) = k + 1 := ⟨_, (Nat.sub_add_cancel positive).symm⟩
    rw [hk] at rest ⊢
    rw [Nat.add_sub_cancel] at rest
    rw [Nat.pow_succ]
    omega

theorem roundHalfEven_bounds (n : Nat) {d : Nat} (h : 0 < d) :
    2 * (d * roundHalfEven n d) ≤ 2 * n + d ∧ 2 * n ≤ 2 * (d * roundHalfEven n d) + d := by
  have split := Nat.div_add_mod n d
  have small := Nat.mod_lt n h
  unfold roundHalfEven
  simp only
  split
  · next up => rw [Nat.mul_add]; omega
  · next down => omega

end RegistryTokens.Number
