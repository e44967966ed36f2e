import Mathlib.Data.List.Induction

/-!
# What is open after some steps

Some steps open what others close. Whether anything is open after some steps depends on the last of
them that did either.
-/

set_option autoImplicit false

namespace RegistryTokens

variable {σ : Type} {opens : List σ → σ → Prop} {closes : σ → Prop}

/-- Whatever was opened was closed later. Whether a step opens may depend on those before it. -/
def Shut (opens : List σ → σ → Prop) (closes : σ → Prop) (steps : List σ) : Prop :=
  ∀ before s after, steps = before ++ s :: after → opens before s → ∃ c ∈ after, closes c

theorem shut_nil : Shut opens closes [] := by
  intro before s after parts
  cases before <;> cases parts

theorem shut_concat_iff {steps : List σ} {s : σ} :
    Shut opens closes (steps ++ [s]) ↔ ¬opens steps s ∧ (closes s ∨ Shut opens closes steps) := by
  constructor
  · intro shut
    have last : ¬opens steps s := by
      intro opened
      obtain ⟨c, there, -⟩ := shut steps s [] rfl opened
      cases there
    refine ⟨last, ?_⟩
    by_cases closing : closes s
    · exact .inl closing
    · right
      intro before o after parts opened
      have longer : steps ++ [s] = before ++ o :: (after ++ [s]) := by rw [parts]; simp
      obtain ⟨c, there, closed⟩ := shut before o (after ++ [s]) longer opened
      rcases List.mem_append.1 there with there | last
      · exact ⟨c, there, closed⟩
      · exact absurd (List.mem_singleton.1 last ▸ closed) closing
  · rintro ⟨last, closed⟩ before o after parts opened
    rcases List.eq_nil_or_concat after with rfl | ⟨rest, c, rfl⟩
    · obtain ⟨rfl, same⟩ := List.append_inj' parts rfl
      cases same
      exact absurd opened last
    · have ends : steps ++ [s] = (before ++ o :: rest) ++ [c] := by simpa using parts
      obtain ⟨rfl, same⟩ := List.append_inj' ends rfl
      cases same
      rcases closed with closing | shut
      · exact ⟨s, by simp, closing⟩
      · obtain ⟨c, there, closed⟩ := shut before o rest rfl opened
        exact ⟨c, by simp [there], closed⟩

theorem exists_first_opening (apart : ∀ before s, opens before s → ¬closes s) {steps : List σ}
    (h : ¬Shut opens closes steps) : ∃ before s after, steps = before ++ s :: after ∧
      opens before s ∧ Shut opens closes before ∧ ∀ c ∈ after, ¬closes c := by
  induction steps using List.reverseRecOn with
  | nil => exact absurd shut_nil h
  | append_singleton steps s ih =>
    rw [shut_concat_iff] at h
    by_cases shut : Shut opens closes steps
    · have opened : opens steps s := not_not.1 fun idle => h ⟨idle, .inr shut⟩
      exact ⟨steps, s, [], rfl, opened, shut, nofun⟩
    · obtain ⟨before, o, after, rfl, opened, closed, free⟩ := ih shut
      have kept : ¬closes s := by
        intro closing
        exact h ⟨fun opened => apart _ s opened closing, .inl closing⟩
      refine ⟨before, o, after ++ [s], by simp, opened, closed, fun c there => ?_⟩
      rcases List.mem_append.1 there with there | last
      · exact free c there
      · exact List.mem_singleton.1 last ▸ kept

end RegistryTokens
