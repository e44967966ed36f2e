import RegistryTokens.Job.Creation
import RegistryTokens.Proofs.Answer

/-!
# The domain of a new token

A new token is judged with the text of its domain as it is displayed, and stored with the text that
its column makes of it. The two may differ, but a token that is stored with a domain was judged with
one, and what is given as text or not at all is stored as it was judged.
-/

set_option autoImplicit false

namespace RegistryTokens

open RegistryTokens.Number RegistryTokens.Time RegistryTokens.Store

namespace Number

theorem digits_ne_nil (n : Nat) : digits n ≠ [] := Nat.toDigits_ne_nil

theorem intText_ne_empty (n : Int) : intText n ≠ "" := by
  rw [intText, Ne, String.ofList_eq_empty_iff]
  cases n with
  | ofNat n => exact digits_ne_nil n
  | negSucc n => exact List.cons_ne_nil _ _

theorem pointed_ne_nil {ds : List Char} (h : ds ≠ []) (place : Int) :
    Decimal.pointed ds place ≠ [] := by
  unfold Decimal.pointed
  split
  · exact List.cons_ne_nil _ _
  · split
    · simp
    · simp [h]

theorem floatChars_ne_nil (negative : Bool) (coefficient : Nat) (power : Int) :
    floatChars negative coefficient power ≠ [] := by
  unfold floatChars
  intro empty
  have body := (List.append_eq_nil_iff.1 empty).2
  split at body
  · split at body
    · simp at body
    · exact pointed_ne_nil (digits_ne_nil _) _ body
  · simp at body

theorem Binary64.text_ne_empty (x : Binary64) : x.text ≠ "" := by
  cases x with
  | nan => decide
  | infinite negative => cases negative <;> decide
  | finite negative m e =>
    simp only [Binary64.text]
    split
    · cases negative <;> decide
    · rw [Ne, String.ofList_eq_empty_iff]
      exact floatChars_ne_nil _ _ _

end Number

theorem Time.Stamp.spaced_ne_empty (s : Stamp) : s.spaced ≠ "" := by
  rw [Stamp.spaced, Ne, String.ofList_eq_empty_iff]
  simp [Stamp.charsWith]

theorem Value.boolText_ne_empty (b : Bool) : Value.boolText b ≠ "" := by
  cases b <;> decide

theorem Member.text_ne_empty (m : Member) : m.text ≠ "" := by
  cases m with
  | kind k => cases k <;> decide
  | status s => cases s <;> decide
  | renewal r => cases r <;> decide
  | registration r => cases r <;> decide
  | action a => cases a <;> decide

namespace Token

theorem givenDomain_eq_null_or_truthy (given : Keyed String Value) :
    givenDomain given = .null ∨ (givenDomain given).truthy = true := by
  unfold givenDomain
  dsimp only
  split
  · rename_i something
    exact .inr something
  · exact .inl rfl

theorem domainText_of_cell {v : Value} (given : v = .null ∨ v.truthy = true) {cell : String}
    (written : Column.writeText v = .ok (some cell)) : ∃ d, domainText v = some d ∧ d ≠ "" := by
  cases v with
  | null => cases written
  | bool b => exact ⟨_, rfl, Value.boolText_ne_empty b⟩
  | int n => exact ⟨_, rfl, intText_ne_empty n⟩
  | float x => exact ⟨_, rfl, x.text_ne_empty⟩
  | text s =>
    refine ⟨s, rfl, ?_⟩
    rintro rfl
    rcases given with given | given <;> cases given
  | member m => exact ⟨_, rfl, m.text_ne_empty⟩
  | stamp s => exact ⟨_, rfl, s.spaced_ne_empty⟩
  | _ => cases written

theorem writeText_of_text {v : Value} (text : v = .null ∨ v.asText?.isSome = true) :
    Column.writeText v = .ok (domainText v) := by
  cases v with
  | null => rfl
  | text s => rfl
  | member m => rfl
  | _ => rcases text with text | text <;> cases text

theorem isDomainScoped_iff {t : Token} :
    t.isDomainScoped = true ↔ ∃ d, t.domain = some d ∧ d ≠ "" := by
  rw [isDomainScoped]
  cases t.domain <;> simp

end Token

end RegistryTokens
