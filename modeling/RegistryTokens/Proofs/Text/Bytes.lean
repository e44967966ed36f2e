import Mathlib.Data.Nat.Basic

/-!
# The order of texts and of their bytes

Texts are ordered by their characters, and a store orders them by the bytes of UTF-8. These orders
are the same: of two characters the greater one is written with the greater bytes, and no character
is written with the beginning of another.
-/

set_option autoImplicit false

namespace RegistryTokens

def bytes (s : String) : List UInt8 := s.toUTF8.data.toList

theorem bytes_eq_flatMap (s : String) : bytes s = s.toList.flatMap String.utf8EncodeChar := by
  change s.toByteArray.data.toList = _
  rw [← String.utf8Encode_toList]
  simp [List.utf8Encode]

section
variable {x y : Nat}

theorem byte_lt_iff (hx : x < 256) (hy : y < 256) : UInt8.ofNat x < UInt8.ofNat y ↔ x < y := by
  simp [UInt8.lt_iff_toNat_lt, Nat.mod_eq_of_lt hx, Nat.mod_eq_of_lt hy]

theorem byte_eq_iff (hx : x < 256) (hy : y < 256) : UInt8.ofNat x = UInt8.ofNat y ↔ x = y := by
  simp [← UInt8.toNat_inj, Nat.mod_eq_of_lt hx, Nat.mod_eq_of_lt hy]

end

theorem toNat_lt_of_char (c : Char) : c.val.toNat < 0x110000 := by
  have valid : c.val.toNat.isValidChar := c.valid
  rcases valid with low | high <;> omega

theorem digit_lt_iff {v w : Nat} {later : Prop} :
    (v / 64 < w / 64 ∨ v / 64 = w / 64 ∧ (v % 64 < w % 64 ∨ v % 64 = w % 64 ∧ later)) ↔
      (v < w ∨ v = w ∧ later) := by
  by_cases h : later <;> simp only [h, and_true, and_false, or_false] <;> omega

theorem encode_append_lt {c d : Char} (h : c < d) (s t : List UInt8) :
    String.utf8EncodeChar c ++ s < String.utf8EncodeChar d ++ t := by
  have less : c.val.toNat < d.val.toNat := h
  have bound := toNat_lt_of_char d
  have two (n : Nat) : n / 4096 = n / 64 / 64 := by omega
  have three (n : Nat) : n / 262144 = n / 64 / 64 / 64 := by omega
  simp only [String.utf8EncodeChar]
  generalize c.val.toNat = v at *
  generalize d.val.toNat = w at *
  -- Characters of different lengths differ in the first byte, others are compared digit by digit.
  split_ifs
  all_goals first
    | exact absurd less (by omega)
    | simp (disch := omega) only [List.cons_append, List.nil_append, List.cons_lt_cons_iff,
        byte_lt_iff, byte_eq_iff, Nat.add_lt_add_iff_right, Nat.add_right_cancel_iff,
        Nat.mod_eq_of_lt]
      first
        | exact .inl (by omega)
        | simp only [two, three, digit_lt_iff, less, true_or]

theorem append_lt_append_iff (front : List UInt8) {s t : List UInt8} :
    front ++ s < front ++ t ↔ s < t := by
  induction front with
  | nil => rfl
  | cons b rest ih => simp [ih]

theorem encode_ne_nil (c : Char) : String.utf8EncodeChar c ≠ [] := by
  simp only [String.utf8EncodeChar]
  split_ifs <;> simp

theorem flatMap_encode_lt {xs ys : List Char} (h : xs < ys) :
    xs.flatMap String.utf8EncodeChar < ys.flatMap String.utf8EncodeChar := by
  induction xs generalizing ys with
  | nil =>
    cases ys with
    | nil => exact absurd h (List.lt_irrefl _)
    | cons d ys =>
      have some := encode_ne_nil d
      cases first : String.utf8EncodeChar d with
      | nil => exact absurd first some
      | cons b rest => simp [first]
  | cons c xs ih =>
    cases ys with
    | nil => simp at h
    | cons d ys =>
      rw [List.flatMap_cons, List.flatMap_cons]
      rcases List.cons_lt_cons_iff.1 h with less | ⟨rfl, later⟩
      · exact encode_append_lt less _ _
      · exact (append_lt_append_iff _).2 (ih later)

/-- Texts come in the order of their bytes. -/
theorem lt_iff_bytes_lt {a b : String} : a < b ↔ bytes a < bytes b := by
  have forward {a b : String} (h : a < b) : bytes a < bytes b := by
    rw [bytes_eq_flatMap, bytes_eq_flatMap]
    exact flatMap_encode_lt (String.lt_iff.1 h)
  refine ⟨forward, fun less => ?_⟩
  by_contra notLess
  by_cases greater : b < a
  · exact List.lt_asymm less (forward greater)
  · have same : a = b := String.le_antisymm (String.not_lt.1 greater) (String.not_lt.1 notLess)
    exact List.lt_irrefl _ (same ▸ less)

end RegistryTokens
