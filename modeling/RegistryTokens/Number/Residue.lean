import RegistryTokens.Number.Decimal

/-!
# Residues of numbers

The residue of a rational number modulo the prime `2^61 - 1`: since ten and two have inverses
there, powers of either sign have residues too. A number keeps its residue however it is written,
so that equal numbers are found under one residue. Infinities have residues of their own.
-/

set_option autoImplicit false

namespace RegistryTokens.Number

def residueModulus : Nat := 2305843009213693951

def powerResidue (base exponent : Nat) : Nat :=
  if exponent = 0 then 1
  else
    let root := powerResidue (base * base % residueModulus) (exponent / 2)
    if exponent % 2 = 0 then root else root * base % residueModulus
termination_by exponent
decreasing_by omega

theorem powerResidue_eq (base exponent : Nat) :
    powerResidue base exponent = base ^ exponent % residueModulus := by
  fun_induction powerResidue base exponent with
  | case1 => simp [residueModulus]
  | case2 base exponent _ root even ih =>
    have halves : base ^ exponent = (base * base) ^ (exponent / 2) := by
      rw [← Nat.pow_two, ← Nat.pow_mul]
      congr 1
      omega
    rw [halves, Nat.pow_mod]
    exact ih
  | case3 base exponent _ root odd ih =>
    have halves : base ^ exponent = (base * base) ^ (exponent / 2) * base := by
      rw [← Nat.pow_two, ← Nat.pow_mul, ← Nat.pow_succ]
      congr 1
      omega
    have same : root = (base * base) ^ (exponent / 2) % residueModulus := by
      rw [Nat.pow_mod]
      exact ih
    rw [halves, same, Nat.mod_mul_mod]

/-- A power of ten with an exponent of either sign: powers repeat after one less than the prime. -/
def tenPowerResidue (exponent : Int) : Nat :=
  powerResidue 10 (exponent % (residueModulus - 1 : Nat)).toNat

namespace Decimal

def residue? : Decimal → Option Int
  | .nan .. => none
  | .infinite negative => some (if negative then -314159 else 314159)
  | .finite negative c e =>
    let r := c % residueModulus * tenPowerResidue e % residueModulus
    some (if negative then -r else r)

end Decimal

end RegistryTokens.Number
