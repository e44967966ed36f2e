import RegistryTokens.Number.Shortest

/-!
# The shortest decimal has digits

The decimal that is found for a positive number has a coefficient other than zero, before and after
the zeros at its end are stripped.
-/

set_option autoImplicit false

namespace RegistryTokens.Number.Shortest

theorem holds_ne_zero {r : Reach} {num den q : Nat} (below : 0 < r.below) (unit : 0 < num)
    (h : r.holds num den q = true) : q ≠ 0 := by
  rintro rfl
  have reach : 0 < r.below * num := Nat.mul_pos below unit
  unfold Reach.holds at h
  rw [Nat.zero_mul] at h
  dsimp only at h
  split at h
  · have low := of_decide_eq_true (Bool.and_eq_true_iff.1 h).1
    omega
  · have low := of_decide_eq_true (Bool.and_eq_true_iff.1 h).1
    omega

theorem candidate?_ne_zero {r : Reach} {num den q : Nat} (below : 0 < r.below) (unit : 0 < num)
    (h : candidate? r num den = some q) : q ≠ 0 := by
  unfold candidate? at h
  dsimp only at h
  split at h
  · rename_i low _
    cases h
    split
    · exact holds_ne_zero below unit low
    · exact Nat.succ_ne_zero _
  · rename_i low _
    cases h
    exact holds_ne_zero below unit low
  · cases h
    exact Nat.succ_ne_zero _
  · cases h

theorem decimal_spec {m : Nat} (positive : m ≠ 0) (e : Int) :
    (decimal m e).1 ≠ 0 ∨ (decimal m e).2 = 0 := by
  unfold decimal
  dsimp only
  generalize found : (List.range 17).findSome? _ = result
  cases result with
  | none => exact .inr rfl
  | some pair =>
    obtain ⟨count, -, attempt⟩ := List.exists_of_findSome?_eq_some found
    obtain ⟨q, candidate, rfl⟩ := Option.map_eq_some_iff.1 attempt
    refine .inl (candidate?_ne_zero ?_ ?_ candidate)
    · unfold reach
      dsimp only
      split <;> omega
    · exact Nat.mul_pos (Nat.pow_pos (by decide)) (Nat.pow_pos (by decide))

theorem stripped_spec (fuel : Nat) {c : Nat} {p : Int} (h : c ≠ 0 ∨ p = 0) :
    (stripped fuel c p).1 ≠ 0 ∨ (stripped fuel c p).2 = 0 := by
  induction fuel generalizing c p with
  | zero => exact h
  | succ fuel ih =>
    unfold stripped
    split
    · rename_i trailing
      exact ih (.inl (by omega))
    · exact h

end RegistryTokens.Number.Shortest
