import RegistryTokens.Proofs.Text.JsonNumber

/-!
# The text of a tree is one line

Whatever characters a tree holds, its text has only those of printable ASCII, of which none ends a
line.
-/

set_option autoImplicit false

namespace RegistryTokens.Text.Json

open RegistryTokens.Number

def Plain (cs : List Char) : Prop := ∀ c ∈ cs, ' '.toNat ≤ c.toNat ∧ c.toNat ≤ '~'.toNat

instance (cs : List Char) : Decidable (Plain cs) :=
  List.decidableBAll _ cs

variable {cs ds : List Char} {c : Char}

theorem plain_nil : Plain [] := nofun

theorem Plain.cons (first : ' '.toNat ≤ c.toNat ∧ c.toNat ≤ '~'.toNat) (rest : Plain cs) :
    Plain (c :: cs) :=
  List.forall_mem_cons.2 ⟨first, rest⟩

theorem Plain.append (front : Plain cs) (back : Plain ds) : Plain (cs ++ ds) :=
  fun c member => (List.mem_append.1 member).elim (front c) (back c)

theorem plain_of_isDigit (h : ∀ c ∈ cs, isDigit c = true) : Plain cs := by
  intro c member
  have digit := h c member
  unfold isDigit digit? at digit
  split at digit
  · rename_i between
    have low : '0'.toNat ≤ c.toNat := between.1
    have high : c.toNat ≤ '9'.toNat := between.2
    exact ⟨Nat.le_trans (by decide) low, Nat.le_trans high (by decide)⟩
  · cases digit

theorem plain_signChars (negative : Bool) : Plain (Decimal.signChars negative) := by
  cases negative
  · exact plain_nil
  · exact .cons (by decide) plain_nil

theorem plain_digits (n : Nat) : Plain (digits n) := plain_of_isDigit fun _ => isDigit_of_mem_digits

theorem plain_intDigits (n : Int) : Plain (intDigits n) := by
  cases n with
  | ofNat n => exact plain_digits n
  | negSucc n => exact .cons (by decide) (plain_digits (n + 1))

theorem Numeral.WellFormed.plain {n : Numeral} (h : n.WellFormed) : Plain n.chars := by
  have fraction : Plain n.fraction := by
    rcases h.fraction with none | ⟨ds, run, some⟩
    · rw [none]
      exact plain_nil
    · rw [some]
      exact .cons (by decide) (plain_of_isDigit run.2)
  have exponent : Plain n.exponent := by
    rcases h.exponent with none | ⟨s, ds, sign, run, some⟩
    · rw [none]
      exact plain_nil
    · rw [some]
      refine .cons (by decide) (.cons ?_ (plain_of_isDigit run.2))
      rcases sign with rfl | rfl <;> decide
  exact ((plain_of_isDigit h.whole.2).append fraction).append exponent

theorem plain_floatText (x : Binary64) : Plain (floatText x).toList := by
  cases x with
  | finite negative m e =>
    obtain ⟨n, formed, -, text⟩ := exists_numeral_of_finite negative m e
    rw [text]
    exact (plain_signChars negative).append formed.plain
  | infinite negative => cases negative <;> decide
  | nan => decide

theorem plain_unit16 (n : Nat) : Plain (unit16 n) := by
  have digit : ∀ d < 16, ' '.toNat ≤ (Nat.digitChar d).toNat ∧
      (Nat.digitChar d).toNat ≤ '~'.toNat := by decide
  refine .cons (by decide) (.cons (by decide) fun c member => ?_)
  obtain ⟨i, -, rfl⟩ := List.mem_map.1 member
  exact digit _ (Nat.mod_lt _ (by decide))

theorem plain_escaped (c : Char) : Plain (escaped c) := by
  unfold escaped
  split
  · rename_i special
    refine .cons (by decide) (.cons ?_ plain_nil)
    rcases special with rfl | rfl <;> decide
  split
  · rename_i shown
    exact .cons shown plain_nil
  iterate 5
    split
    · exact .cons (by decide) (.cons (by decide) plain_nil)
  split
  · exact plain_unit16 _
  · exact (plain_unit16 _).append (plain_unit16 _)

theorem plain_stringChars (s : String) : Plain (stringChars s) := by
  refine .cons (by decide) (.append (fun c member => ?_) (.cons (by decide) plain_nil))
  obtain ⟨d, -, inside⟩ := List.mem_flatMap.1 member
  exact plain_escaped d c inside

mutual

theorem plain_chars : (j : Json) → Plain j.chars
  | .null => by decide
  | .bool true => by decide
  | .bool false => by decide
  | .int n => plain_intDigits n
  | .float x => plain_floatText x
  | .text s => plain_stringChars s
  | .list [] => by decide
  | .list (item :: rest) =>
    .append (.cons (by decide) (plain_chars item)) (plain_itemChars rest)
  | .object [] => by decide
  | .object ((name, value) :: rest) =>
    .append (.cons (by decide) (.append (plain_stringChars name)
      (.cons (by decide) (.cons (by decide) (plain_chars value))))) (plain_fieldChars rest)

theorem plain_itemChars : (items : List Json) → Plain (itemChars items)
  | [] => by decide
  | item :: rest => .append (.cons (by decide) (.cons (by decide) (plain_chars item)))
    (plain_itemChars rest)

theorem plain_fieldChars : (fields : List (String × Json)) → Plain (fieldChars fields)
  | [] => by decide
  | (name, value) :: rest =>
    .append (.cons (by decide) (.cons (by decide) (.append (plain_stringChars name)
      (.cons (by decide) (.cons (by decide) (plain_chars value)))))) (plain_fieldChars rest)

end

end RegistryTokens.Text.Json
