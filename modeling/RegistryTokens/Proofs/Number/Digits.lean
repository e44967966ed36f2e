import RegistryTokens.Number.Digits

/-!
# Digits read back

All digits of a number are digits, they do not begin with a zero unless they are that zero alone,
and they read back as the number.
-/

set_option autoImplicit false

namespace RegistryTokens.Number

theorem digits_of_lt {n : Nat} (h : n < 10) : digits n = [Nat.digitChar n] :=
  Nat.toDigits_of_lt_base h

theorem digits_of_le {n : Nat} (h : 10 ≤ n) :
    digits n = digits (n / 10) ++ [Nat.digitChar (n % 10)] :=
  Nat.toDigits_of_base_le (by decide) h

theorem isDigit_digitChar {d : Nat} (h : d < 10) : isDigit (Nat.digitChar d) = true := by
  rw [isDigit, digit?_digitChar h]
  rfl

theorem isDigit_of_mem_digits {n : Nat} {c : Char} (h : c ∈ digits n) : isDigit c = true := by
  induction n using Nat.strongRecOn with
  | ind n ih =>
    by_cases small : n < 10
    · rw [digits_of_lt small, List.mem_singleton] at h
      exact h ▸ isDigit_digitChar small
    · rw [digits_of_le (Nat.le_of_not_lt small), List.mem_append, List.mem_singleton] at h
      rcases h with front | rfl
      · exact ih (n / 10) (by omega) front
      · exact isDigit_digitChar (Nat.mod_lt n (by decide))

theorem readDigits?_concat {cs : List Char} {n d : Nat} (h : readDigits? cs = some n)
    (small : d < 10) : readDigits? (cs ++ [Nat.digitChar d]) = some (10 * n + d) := by
  obtain ⟨ds, read, rfl⟩ := Option.map_eq_some_iff.1 h
  rw [readDigits?, List.mapM_append, read]
  simp [digit?_digitChar small, ofDigits_concat]

theorem readDigits?_digits (n : Nat) : readDigits? (digits n) = some n := by
  induction n using Nat.strongRecOn with
  | ind n ih =>
    by_cases small : n < 10
    · rw [digits_of_lt small, ← List.nil_append [_], readDigits?_concat (n := 0) rfl small]
      simp
    · rw [digits_of_le (Nat.le_of_not_lt small),
        readDigits?_concat (ih (n / 10) (by omega)) (Nat.mod_lt n (by decide)), Nat.div_add_mod]

theorem exists_digits_eq_cons {n : Nat} (h : n ≠ 0) :
    ∃ c cs, digits n = c :: cs ∧ c ≠ '0' := by
  induction n using Nat.strongRecOn with
  | ind n ih =>
    by_cases small : n < 10
    · refine ⟨_, [], digits_of_lt small, ?_⟩
      match n, small, h with
      | 1, _, _ | 2, _, _ | 3, _, _ | 4, _, _ | 5, _, _ | 6, _, _ | 7, _, _ | 8, _, _ | 9, _, _ =>
        decide
    · obtain ⟨c, cs, front, other⟩ := ih (n / 10) (by omega) (by omega)
      exact ⟨c, cs ++ [_], by rw [digits_of_le (Nat.le_of_not_lt small), front]; rfl, other⟩

theorem exists_readDigits? {cs : List Char} (h : ∀ c ∈ cs, isDigit c = true) :
    ∃ n, readDigits? cs = some n := by
  have each : ∃ ds, cs.mapM digit? = some ds := by
    induction cs with
    | nil => exact ⟨[], rfl⟩
    | cons c rest ih =>
      obtain ⟨first, later⟩ := List.forall_mem_cons.1 h
      obtain ⟨d, read⟩ := Option.isSome_iff_exists.1 first
      obtain ⟨ds, reads⟩ := ih later
      exact ⟨d :: ds, by rw [List.mapM_cons, read, reads]; rfl⟩
  obtain ⟨ds, read⟩ := each
  exact ⟨ofDigits ds, by rw [readDigits?, read]; rfl⟩

end RegistryTokens.Number
