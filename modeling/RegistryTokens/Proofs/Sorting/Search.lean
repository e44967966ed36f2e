import RegistryTokens.Proofs.Sorting.Run
import RegistryTokens.Sorting.Search

/-!
# Where a search ends

A search whose questions are answered ends at a place that is passed just before and not passed
there. Where what passes stands before all that does not, this is the number of the items that pass.
-/

set_option autoImplicit false

namespace RegistryTokens.Sorting

variable {ε : Type} {passes : Nat → Except ε Bool} {size : Nat}

structure Boundary (passes : Nat → Except ε Bool) (size k : Nat) : Prop where
  inside : k ≤ size
  passed : 0 < k → passes (k - 1) = .ok true
  failed : k < size → passes k = .ok false

theorem stride_yields (answered : ∀ i < size, ∃ b, passes i = .ok b) {low high : Nat}
    (open_ : low < high) (inside : low < size) (passed : passes low = .ok true) :
    Yields (stride passes size low high) fun steps => steps.1 < steps.2 ∧ steps.2 ≤ size ∧
      passes steps.1 = .ok true ∧ (steps.2 < size → passes steps.2 = .ok false) := by
  induction low, high using stride.induct size with
  | case1 low high further ih =>
    obtain ⟨b, asked⟩ := answered high further
    unfold stride
    rw [if_pos further, asked]
    cases b with
    | true => exact ih (by omega) further asked
    | false => exact yields_ok ⟨open_, Nat.le_of_lt further, passed, fun _ => asked⟩
  | case2 low high reached =>
    unfold stride
    rw [if_neg reached]
    exact yields_ok ⟨inside, Nat.le_refl _, passed, fun out => absurd out (Nat.lt_irrefl _)⟩

theorem halve_yields (answered : ∀ i < size, ∃ b, passes i = .ok b) (early : Bool)
    {low high : Nat} (le_high : low ≤ high) (inside : high ≤ size)
    (passed : 0 < low → passes (low - 1) = .ok true)
    (failed : high < size → passes high = .ok false) :
    Yields (halve passes early low high) (Boundary passes size) := by
  induction low, high using halve.induct early with
  | case1 low high open_ middle right left =>
    have between : low ≤ middle ∧ middle < high := by
      dsimp only [middle]
      split <;> omega
    obtain ⟨b, asked⟩ := answered middle (by omega)
    unfold halve
    rw [if_pos open_]
    dsimp only
    rw [show passes (low + (if early = true then high - low - 1 else high - low) / 2) = .ok b
      from asked]
    cases b with
    | true => exact right (by omega) inside (fun _ => by simpa using asked) failed
    | false => exact left between.1 (by omega) passed fun _ => asked
  | case2 low high closed =>
    have same : low = high := by omega
    unfold halve
    rw [if_neg closed]
    exact yields_ok ⟨by omega, passed, same ▸ failed⟩

theorem leading_yields (answered : ∀ i < size, ∃ b, passes i = .ok b) (early : Bool) :
    Yields (leading passes early size) (Boundary passes size) := by
  unfold leading
  by_cases none : size = 0
  · rw [if_pos none]
    exact yields_ok ⟨Nat.zero_le _, by omega, by omega⟩
  · obtain ⟨b, asked⟩ := answered 0 (by omega)
    rw [if_neg none, asked]
    cases b with
    | true =>
      refine (stride_yields answered Nat.zero_lt_one (by omega) asked).bind ?_
      rintro ⟨low, high⟩ ⟨lt, inside, passed, failed⟩
      exact halve_yields answered early lt inside (fun _ => passed) failed
    | false => exact yields_ok ⟨Nat.zero_le _, by omega, fun _ => asked⟩

end RegistryTokens.Sorting
