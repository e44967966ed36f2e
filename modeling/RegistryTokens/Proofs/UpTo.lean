import RegistryTokens.Job.Batch
import RegistryTokens.Proofs.Answer

/-!
# Answers up to their wording

Steps that answer alike, up to how a failure is worded, are put together to steps that answer alike.
What may be worded in another way is a relation of failures; with equality nothing may.
-/

set_option autoImplicit false

namespace RegistryTokens

namespace Failure

/-- The same failure, but that a word which names no action may be told in another way. -/
inductive Reworded : Failure → Failure → Prop where
  | same (failure : Failure) : Reworded failure failure
  | word (told other : Value) (token : Option Value) :
      Reworded (.refused ⟨.unknownAction told, token⟩) (.refused ⟨.unknownAction other, token⟩)

class Likeness (R : Failure → Failure → Prop) : Prop where
  refl : ∀ failure, R failure failure
  about : ∀ {failure other} token, R failure other → R (failure.about token) (other.about token)
  told : ∀ {failure other}, R failure other → R (Batch.told failure) (Batch.told other)

instance : Likeness Eq where
  refl _ := rfl
  about _ := congrArg _
  told := congrArg _

instance : Likeness Reworded where
  refl := .same
  about := by
    rintro _ _ token (_ | ⟨told, other, named⟩)
    · exact .same _
    · have unnamed : Refusal.unnamed ⟨.unknownAction told, named⟩ =
          Refusal.unnamed ⟨.unknownAction other, named⟩ := rfl
      change Reworded (.refused (Refusal.about token _)) (.refused (Refusal.about token _))
      rw [Refusal.about, Refusal.about, unnamed]
      split
      · exact .word told other _
      · exact .word told other _
  told := by
    rintro _ _ (_ | ⟨told, other, named⟩)
    · exact .same _
    · exact .word told other named

end Failure

namespace Answer

variable {R : Failure → Failure → Prop} {α β : Type}

/-- The same results, and failures that are alike. -/
inductive UpTo (R : Failure → Failure → Prop) {α : Type} : Answer α → Answer α → Prop where
  | ok (a : α) : UpTo R (.ok a) (.ok a)
  | error {failure other : Failure} (alike : R failure other) : UpTo R (.error failure) (.error other)

theorem upTo_eq_iff {x y : Answer α} : UpTo Eq x y ↔ x = y := by
  constructor
  · rintro (_ | rfl) <;> rfl
  · rintro rfl
    cases x with
    | ok a => exact .ok a
    | error failure => exact .error rfl

theorem UpTo.eq_ok_iff {x y : Answer α} (h : UpTo R x y) {a : α} : x = .ok a ↔ y = .ok a := by
  cases h with
  | ok b => exact Iff.rfl
  | error => exact ⟨nofun, nofun⟩

theorem UpTo.map {x y : Answer α} (h : UpTo R x y) (f : α → β) : UpTo R (x.map f) (y.map f) := by
  cases h with
  | ok a => exact .ok (f a)
  | error alike => exact .error alike

theorem UpTo.mapError {x y : Answer α} (h : UpTo R x y) {f : Failure → Failure}
    (keeps : ∀ {failure other}, R failure other → R (f failure) (f other)) :
    UpTo R (x.mapError f) (y.mapError f) := by
  cases h with
  | ok a => exact .ok a
  | error alike => exact .error (keeps alike)

theorem UpTo.bind {x y : Answer α} (h : UpTo R x y) {f g : α → Answer β}
    (next : ∀ a, UpTo R (f a) (g a)) : UpTo R (x >>= f) (y >>= g) := by
  cases h with
  | ok a => exact next a
  | error alike => exact .error alike

theorem UpTo.refl [Failure.Likeness R] (x : Answer α) : UpTo R x x := by
  cases x with
  | ok a => exact .ok a
  | error failure => exact .error (Failure.Likeness.refl failure)

theorem UpTo.mapM {f g : α → Answer β} (each : ∀ a, UpTo R (f a) (g a)) (items : List α) :
    UpTo R (items.mapM f) (items.mapM g) := by
  induction items with
  | nil => exact .ok []
  | cons a rest ih =>
    rw [List.mapM_cons, List.mapM_cons]
    exact (each a).bind fun b => ih.bind fun bs => .ok (b :: bs)

theorem UpTo.foldlM {f g : β → α → Answer β} (each : ∀ b a, UpTo R (f b a) (g b a))
    (items : List α) (b : β) : UpTo R (items.foldlM f b) (items.foldlM g b) := by
  induction items generalizing b with
  | nil => exact .ok b
  | cons a rest ih =>
    rw [List.foldlM_cons, List.foldlM_cons]
    exact (each b a).bind ih

end Answer

end RegistryTokens
