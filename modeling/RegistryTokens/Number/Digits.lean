/-!
# Decimal digits

Fixed-width fields show the low digits of a number, padded with zeros on the left. Reading a run
of digits back is a fold, so the value of two adjoining runs is the value of the first, shifted,
plus the value of the second. Every script with decimal digits has its ten digits in one block, in
increasing order; a table holds the code points of their zeros.
-/

set_option autoImplicit false

namespace RegistryTokens

-- Powers are those of core, whatever other instances are in scope.
attribute [scoped instance (2000)] instPowNat

end RegistryTokens

namespace RegistryTokens.Number

def digits (n : Nat) : List Char := Nat.toDigits 10 n

def padded : Nat → Nat → List Char
  | 0, _ => []
  | width + 1, n => padded width (n / 10) ++ [Nat.digitChar (n % 10)]

def intDigits : Int → List Char
  | .ofNat n => digits n
  | .negSucc n => '-' :: digits (n + 1)

def intText (n : Int) : String := String.ofList (intDigits n)

def digit? (c : Char) : Option Nat :=
  if '0' ≤ c ∧ c ≤ '9' then some (c.toNat - 48) else none

def hexDigit? (c : Char) : Option Nat :=
  if 'a' ≤ c ∧ c ≤ 'f' then some (c.toNat - 87)
  else if 'A' ≤ c ∧ c ≤ 'F' then some (c.toNat - 55)
  else digit? c

def isDigit (c : Char) : Bool := (digit? c).isSome

def ofDigits (ds : List Nat) : Nat := ds.foldl (fun n d => 10 * n + d) 0

/-- The number that a run of ASCII digits stands for, if it holds nothing else. -/
def readDigits? (cs : List Char) : Option Nat := (cs.mapM digit?).map ofDigits

@[simp] theorem padded_length (width n : Nat) : (padded width n).length = width := by
  induction width generalizing n with
  | zero => rfl
  | succ width ih => simp [padded, ih]

theorem digit?_digitChar {d : Nat} (h : d < 10) : digit? (Nat.digitChar d) = some d := by
  match d, h with
  | 0, _ | 1, _ | 2, _ | 3, _ | 4, _ | 5, _ | 6, _ | 7, _ | 8, _ | 9, _ => decide

theorem ofDigits_concat (ds : List Nat) (d : Nat) :
    ofDigits (ds ++ [d]) = 10 * ofDigits ds + d := by
  simp [ofDigits]

theorem readDigits?_padded (width n : Nat) (h : n < 10 ^ width) :
    readDigits? (padded width n) = some n := by
  have each : ∀ (width n : Nat), n < 10 ^ width →
      ∃ ds, (padded width n).mapM digit? = some ds ∧ ofDigits ds = n := by
    intro width
    induction width with
    | zero => intro n h; exact ⟨[], rfl, by simp at h; simp [ofDigits, h]⟩
    | succ width ih =>
      intro n h
      obtain ⟨ds, read, value⟩ := ih (n / 10) (by rw [Nat.pow_succ] at h; omega)
      refine ⟨ds ++ [n % 10], ?_, ?_⟩
      · simp [padded, List.mapM_append, read, digit?_digitChar (Nat.mod_lt n (by decide : 0 < 10))]
      · rw [ofDigits_concat, value]; omega
  obtain ⟨ds, read, value⟩ := each width n h
  simp [readDigits?, read, value]

end RegistryTokens.Number

namespace RegistryTokens.Text

def zeros : List Nat := [
  0x30, 0x660, 0x6F0, 0x7C0, 0x966, 0x9E6, 0xA66, 0xAE6, 0xB66, 0xBE6, 0xC66, 0xCE6, 0xD66, 0xDE6,
  0xE50, 0xED0, 0xF20, 0x1040, 0x1090, 0x17E0, 0x1810, 0x1946, 0x19D0, 0x1A80, 0x1A90, 0x1B50,
  0x1BB0, 0x1C40, 0x1C50, 0xA620, 0xA8D0, 0xA900, 0xA9D0, 0xA9F0, 0xAA50, 0xABF0, 0xFF10, 0x104A0,
  0x10D30, 0x11066, 0x110F0, 0x11136, 0x111D0, 0x112F0, 0x11450, 0x114D0, 0x11650, 0x116C0,
  0x11730, 0x118E0, 0x11950, 0x11C50, 0x11D50, 0x11DA0, 0x16A60, 0x16AC0, 0x16B50, 0x1D7CE,
  0x1D7D8, 0x1D7E2, 0x1D7EC, 0x1D7F6, 0x1E140, 0x1E2F0, 0x1E950, 0x1FBF0]

def digitValue? (c : Char) : Option Nat :=
  (zeros.find? fun first => first ≤ c.toNat && c.toNat < first + 10).map (c.toNat - ·)

end RegistryTokens.Text
