import RegistryTokens.Proofs.Number.Digits
import RegistryTokens.Proofs.Number.Shortest
import RegistryTokens.Proofs.Store.Domain
import RegistryTokens.Text.JsonReader

/-!
# Numbers read as JSON

A number is written in three parts: a whole part without leading zeros, and possibly a fraction and
an exponent. It is read up to its end whatever follows, as long as that does not go on with it.
-/

set_option autoImplicit false

namespace RegistryTokens.Text.Json

open RegistryTokens.Number

def IsRun (ds : List Char) : Prop := ds ≠ [] ∧ ∀ c ∈ ds, isDigit c = true

def Ends (rest : List Char) : Prop :=
  ∀ c ∈ rest.head?, isDigit c = false ∧ c ≠ '.' ∧ c ≠ 'e' ∧ c ≠ 'E'

theorem ends_nil : Ends [] := fun _ h => nomatch h

theorem ends_cons {c : Char} {rest : List Char}
    (h : isDigit c = false ∧ c ≠ '.' ∧ c ≠ 'e' ∧ c ≠ 'E') : Ends (c :: rest) := by
  intro d first
  cases first
  exact h

structure Numeral where
  whole : List Char
  fraction : List Char := []
  exponent : List Char := []

namespace Numeral

def chars (n : Numeral) : List Char := n.whole ++ n.fraction ++ n.exponent

structure WellFormed (n : Numeral) : Prop where
  whole : IsRun n.whole
  unpadded : n.whole.head? = some '0' → n.whole = ['0']
  fraction : n.fraction = [] ∨ ∃ ds, IsRun ds ∧ n.fraction = '.' :: ds
  exponent : n.exponent = [] ∨ ∃ s ds, (s = '+' ∨ s = '-') ∧ IsRun ds ∧ n.exponent = 'e' :: s :: ds

end Numeral

theorem takeWhile_run {ds rest : List Char} (all : ∀ c ∈ ds, isDigit c = true)
    (ends : ∀ c ∈ rest.head?, isDigit c = false) : (ds ++ rest).takeWhile isDigit = ds := by
  rw [List.takeWhile_append_of_pos all]
  cases rest with
  | nil => simp
  | cons c rest => simp [ends c rfl]

theorem dropWhile_run {ds rest : List Char} (all : ∀ c ∈ ds, isDigit c = true)
    (ends : ∀ c ∈ rest.head?, isDigit c = false) : (ds ++ rest).dropWhile isDigit = rest := by
  rw [List.dropWhile_append_of_pos all]
  cases rest with
  | nil => rfl
  | cons c rest => simp [ends c rfl]

theorem readRun?_append {ds rest : List Char} (run : IsRun ds)
    (ends : ∀ c ∈ rest.head?, isDigit c = false) : readRun? (ds ++ rest) = some (ds, rest) := by
  rw [readRun?, takeWhile_run run.2 ends, dropWhile_run run.2 ends]
  simp [run.1]

theorem readWhole?_append {ds rest : List Char} (run : IsRun ds)
    (unpadded : ds.head? = some '0' → ds = ['0']) (ends : ∀ c ∈ rest.head?, isDigit c = false) :
    readWhole? (ds ++ rest) = some (ds, rest) := by
  unfold readWhole?
  split
  · rename_i tail zero
    obtain ⟨c, cs, rfl⟩ := List.exists_cons_of_ne_nil run.1
    obtain ⟨rfl, same⟩ := List.cons.inj zero
    obtain ⟨-, rfl⟩ := List.cons.inj (unpadded rfl)
    rw [← same]
    rfl
  · exact readRun?_append run ends

theorem exists_front {n : Numeral} (h : n.WellFormed) :
    ∃ c cs, n.chars = c :: cs ∧ isDigit c = true := by
  obtain ⟨c, cs, run⟩ := List.exists_cons_of_ne_nil h.whole.1
  refine ⟨c, cs ++ n.fraction ++ n.exponent, ?_, h.whole.2 c (run ▸ List.mem_cons_self)⟩
  rw [Numeral.chars, run]
  rfl

theorem exponent_front {n : Numeral} (h : n.WellFormed) {rest : List Char}
    (ends : ∀ c ∈ rest.head?, isDigit c = false ∧ c ≠ '.') :
    ∀ c ∈ (n.exponent ++ rest).head?, isDigit c = false ∧ c ≠ '.' := by
  rcases h.exponent with none | ⟨s, ds, -, -, some⟩
  · rw [none]
    exact ends
  · rw [some]
    intro c first
    cases first
    decide

theorem fraction_front {n : Numeral} (h : n.WellFormed) {rest : List Char}
    (ends : ∀ c ∈ rest.head?, isDigit c = false) :
    ∀ c ∈ (n.fraction ++ rest).head?, isDigit c = false := by
  rcases h.fraction with none | ⟨ds, -, some⟩
  · rw [none]
    exact ends
  · rw [some]
    intro c first
    cases first
    decide

theorem readFraction?_append {n : Numeral} (h : n.WellFormed) {rest : List Char}
    (ends : ∀ c ∈ rest.head?, isDigit c = false ∧ c ≠ '.') :
    readFraction? (n.fraction ++ rest) = some (n.fraction, rest) := by
  rcases h.fraction with none | ⟨ds, run, some⟩
  · rw [none, List.nil_append]
    unfold readFraction?
    split
    · exact absurd rfl (ends '.' rfl).2
    · rfl
  · rw [some, List.cons_append, readFraction?, readRun?_append run fun c first => (ends c first).1]
    rfl

theorem readExponent?_append {n : Numeral} (h : n.WellFormed) {rest : List Char} (ends : Ends rest) :
    readExponent? (n.exponent ++ rest) = some (n.exponent, rest) := by
  rcases h.exponent with none | ⟨s, ds, sign, run, some⟩
  · rw [none, List.nil_append]
    cases rest with
    | nil => rfl
    | cons c rest =>
      obtain ⟨-, -, e, E⟩ := ends c rfl
      exact if_neg (not_or.2 ⟨e, E⟩)
  · rw [some]
    change (if s = '+' ∨ s = '-' then _ else _) = _
    rw [if_pos sign]
    change (readRun? (ds ++ rest) >>= _) = _
    rw [readRun?_append run fun c first => (ends c first).1]
    rfl

theorem readNumber?_append {n : Numeral} (h : n.WellFormed) (negative : Bool) {rest : List Char}
    (ends : Ends rest) : readNumber? (Decimal.signChars negative ++ n.chars ++ rest) =
      if n.fraction.isEmpty && n.exponent.isEmpty then
        (readDigits? n.whole).map fun k => (.int (if negative then -(k : Int) else k), rest)
      else
        (Binary64.readChars? (Decimal.signChars negative ++ n.chars)).map fun x =>
          (.float x, rest) := by
  have pointed := exponent_front h fun c first => ⟨(ends c first).1, (ends c first).2.1⟩
  have whole := fraction_front h fun c first => (pointed c first).1
  have unsigned : readNumber? (Decimal.signChars negative ++ n.chars ++ rest) =
      readUnsigned? negative (n.chars ++ rest) := by
    cases negative with
    | true => rfl
    | false =>
      obtain ⟨c, cs, front, digit⟩ := exists_front h
      rw [Decimal.signChars, if_neg Bool.false_ne_true, List.nil_append, front, List.cons_append]
      unfold readNumber?
      split
      · rename_i minus
        obtain ⟨rfl, -⟩ := List.cons.inj minus
        exact absurd digit (by decide)
      · rfl
  have grouped : n.chars ++ rest = n.whole ++ (n.fraction ++ (n.exponent ++ rest)) := by
    simp [Numeral.chars]
  rw [unsigned, grouped, readUnsigned?, readWhole?_append h.whole h.unpadded whole]
  change (readFraction? (n.fraction ++ (n.exponent ++ rest)) >>= _) = _
  rw [readFraction?_append h pointed]
  change (readExponent? (n.exponent ++ rest) >>= _) = _
  rw [readExponent?_append h ends, Numeral.chars, ← List.append_assoc, ← List.append_assoc]
  change (if _ then _ else _) = _
  split
  · cases readDigits? n.whole <;> rfl
  · cases Binary64.readChars? (Decimal.signChars negative ++ n.whole ++ n.fraction ++ n.exponent) <;>
      rfl

theorem isRun_digits (n : Nat) : IsRun (digits n) :=
  ⟨digits_ne_nil n, fun _ => isDigit_of_mem_digits⟩

theorem unpadded_digits (n : Nat) (h : (digits n).head? = some '0') : digits n = ['0'] := by
  by_cases zero : n = 0
  · rw [zero]
    rfl
  · obtain ⟨c, cs, front, other⟩ := exists_digits_eq_cons zero
    rw [front] at h
    exact absurd (Option.some.inj h) other

theorem readNumber?_digits (n : Nat) (negative : Bool) {rest : List Char} (ends : Ends rest) :
    readNumber? (Decimal.signChars negative ++ digits n ++ rest) =
      some (.int (if negative then -(n : Int) else n), rest) := by
  have written : Numeral.WellFormed { whole := digits n } :=
    ⟨isRun_digits n, unpadded_digits n, .inl rfl, .inl rfl⟩
  have read := readNumber?_append written negative ends
  rw [Numeral.chars, List.append_nil, List.append_nil, readDigits?_digits] at read
  exact read

theorem readNumber?_intDigits (n : Int) {rest : List Char} (ends : Ends rest) :
    readNumber? (intDigits n ++ rest) = some (.int n, rest) := by
  cases n with
  | ofNat n => exact readNumber?_digits n false ends
  | negSucc n => exact readNumber?_digits (n + 1) true ends

theorem splitSign_append {n : Numeral} (h : n.WellFormed) (negative : Bool) :
    Decimal.splitSign (Decimal.signChars negative ++ n.chars) = (negative, n.chars) := by
  cases negative with
  | true => rfl
  | false =>
    obtain ⟨c, cs, front, digit⟩ := exists_front h
    rw [Decimal.signChars, if_neg Bool.false_ne_true, List.nil_append, front]
    unfold Decimal.splitSign
    split
    · rename_i sign
      obtain ⟨rfl, -⟩ := List.cons.inj sign
      exact absurd digit (by decide)
    · rename_i sign
      obtain ⟨rfl, -⟩ := List.cons.inj sign
      exact absurd digit (by decide)
    · rfl

theorem exists_readPower? {n : Numeral} (h : n.WellFormed) :
    ∃ power, Decimal.readPower? n.exponent = some power := by
  rcases h.exponent with none | ⟨s, ds, sign, run, some⟩
  · exact ⟨0, by rw [none]; rfl⟩
  · obtain ⟨k, read⟩ := exists_readDigits? run.2
    have nonempty : ds.isEmpty = false := by simp [run.1]
    refine ⟨if s = '-' then -k else k, ?_⟩
    rw [some, Decimal.readPower?, if_pos (.inl rfl)]
    rcases sign with rfl | rfl <;> simp [Decimal.splitSign, nonempty, read]

theorem exists_readParts? {n : Numeral} (h : n.WellFormed) :
    ∃ parts, Decimal.readParts? n.chars = some parts := by
  obtain ⟨power, powered⟩ := exists_readPower? h
  have pointed : ∀ c ∈ n.exponent.head?, isDigit c = false ∧ c ≠ '.' := by
    have alone : ∀ c ∈ (n.exponent ++ []).head?, isDigit c = false ∧ c ≠ '.' :=
      exponent_front h nofun
    rwa [List.append_nil] at alone
  have exponent : ∀ c ∈ n.exponent.head?, isDigit c = false := fun c first => (pointed c first).1
  have some_whole : n.whole.isEmpty = false := by simp [h.whole.1]
  rcases h.fraction with none | ⟨ds, run, some⟩
  · have split : n.chars = n.whole ++ n.exponent := by simp [Numeral.chars, none]
    obtain ⟨k, read⟩ := exists_readDigits? h.whole.2
    refine ⟨(k, power), ?_⟩
    unfold Decimal.readParts?
    rw [split, takeWhile_run h.whole.2 exponent, dropWhile_run h.whole.2 exponent]
    dsimp only
    split
    · rename_i point
      exact absurd rfl (pointed '.' (by rw [point]; rfl)).2
    · simp [some_whole, read, powered]
  · have split : n.chars = n.whole ++ '.' :: (ds ++ n.exponent) := by simp [Numeral.chars, some]
    have digits : ∀ c ∈ n.whole ++ ds, isDigit c = true := fun c member =>
      (List.mem_append.1 member).elim (h.whole.2 c) (run.2 c)
    obtain ⟨k, read⟩ := exists_readDigits? digits
    have point : ∀ c ∈ ('.' :: (ds ++ n.exponent)).head?, isDigit c = false := by
      intro c first
      cases first
      decide
    refine ⟨(k, power - ds.length), ?_⟩
    unfold Decimal.readParts?
    rw [split, takeWhile_run h.whole.2 point, dropWhile_run h.whole.2 point]
    simp [takeWhile_run run.2 exponent, dropWhile_run run.2 exponent, some_whole, read, powered]

theorem exists_readChars? {n : Numeral} (h : n.WellFormed) (negative : Bool) :
    ∃ x, Binary64.readChars? (Decimal.signChars negative ++ n.chars) = some x := by
  obtain ⟨parts, read⟩ := exists_readParts? h
  unfold Binary64.readChars?
  rw [splitSign_append h]
  dsimp only
  rw [read]
  split <;> exact ⟨_, rfl⟩

theorem readNumber?_float {n : Numeral} (h : n.WellFormed) (negative : Bool)
    (float : n.fraction ≠ [] ∨ n.exponent ≠ []) {rest : List Char} (ends : Ends rest) :
    ∃ x, Binary64.readChars? (Decimal.signChars negative ++ n.chars) = some x ∧
      readNumber? (Decimal.signChars negative ++ n.chars ++ rest) = some (.float x, rest) := by
  obtain ⟨x, read⟩ := exists_readChars? h negative
  have broken : ¬(n.fraction.isEmpty && n.exponent.isEmpty) = true := by
    intro whole
    obtain ⟨fraction, exponent⟩ := Bool.and_eq_true_iff.1 whole
    exact float.elim (· (List.isEmpty_iff.1 fraction)) (· (List.isEmpty_iff.1 exponent))
  exact ⟨x, read, by rw [readNumber?_append h negative ends, if_neg broken, read]; rfl⟩

/-! ## Binary64 numbers as they are written -/

theorem eq_zero_of_head {c : Nat} (h : (digits c).head? = some '0') : c = 0 := by
  have read := readDigits?_digits c
  rw [unpadded_digits c h] at read
  exact (Option.some.inj read).symm

theorem isRun_append {ds es : List Char} (run : IsRun ds) (all : ∀ c ∈ es, isDigit c = true) :
    IsRun (ds ++ es) := by
  refine ⟨fun none => run.1 (List.append_eq_nil_iff.1 none).1, fun c member => ?_⟩
  exact (List.mem_append.1 member).elim (run.2 c) (all c)

theorem isRun_zero : IsRun ['0'] := ⟨nofun, List.forall_mem_singleton.2 rfl⟩

theorem isDigit_of_mem_zeros {k : Nat} {c : Char} (h : c ∈ List.replicate k '0') :
    isDigit c = true := by
  rw [(List.mem_replicate.1 h).2]
  decide

theorem wellFormed_filled {c k : Nat} (h : c ≠ 0 ∨ k = 0) :
    Numeral.WellFormed ⟨digits c ++ List.replicate k '0', ['.', '0'], []⟩ := by
  refine ⟨isRun_append (isRun_digits c) fun _ => isDigit_of_mem_zeros, fun first => ?_,
    .inr ⟨['0'], isRun_zero, rfl⟩, .inl rfl⟩
  obtain ⟨d, ds, front⟩ := List.exists_cons_of_ne_nil (digits_ne_nil c)
  have zero : c = 0 := eq_zero_of_head (by simpa [front] using first)
  rw [h.resolve_left fun other => other zero, zero]
  rfl

theorem wellFormed_pointed {c : Nat} {place : Int} (inside : place < (digits c).length) :
    ∃ n : Numeral, n.WellFormed ∧ n.fraction ≠ [] ∧ Decimal.pointed (digits c) place = n.chars := by
  unfold Decimal.pointed
  split
  · refine ⟨⟨['0'], '.' :: (List.replicate (-place).toNat '0' ++ digits c), []⟩,
      ⟨isRun_zero, fun _ => rfl, .inr ⟨_, ?_, rfl⟩, .inl rfl⟩, nofun, by simp [Numeral.chars]⟩
    refine ⟨by simp [digits_ne_nil], fun d member => ?_⟩
    exact (List.mem_append.1 member).elim isDigit_of_mem_zeros isDigit_of_mem_digits
  · rename_i positive
    have within : place.toNat < (digits c).length := by omega
    rw [if_pos within]
    refine ⟨⟨(digits c).take place.toNat, '.' :: (digits c).drop place.toNat, []⟩,
      ⟨⟨?_, fun d member => ?_⟩, fun first => ?_, .inr ⟨_, ⟨?_, fun d member => ?_⟩, rfl⟩, .inl rfl⟩,
      nofun, by simp [Numeral.chars]⟩
    · rw [Ne, List.take_eq_nil_iff, not_or]
      exact ⟨by omega, digits_ne_nil c⟩
    · exact isDigit_of_mem_digits (List.mem_of_mem_take member)
    · rw [List.head?_take, if_neg (by omega)] at first
      rw [unpadded_digits c first, List.length_singleton] at within
      omega
    · rw [Ne, List.drop_eq_nil_iff]
      omega
    · exact isDigit_of_mem_digits (List.mem_of_mem_drop member)

theorem wellFormed_scientific (c : Nat) {s : Char} (sign : s = '+' ∨ s = '-') {power : List Char}
    (run : IsRun power) : ∃ n : Numeral, n.WellFormed ∧ n.exponent ≠ [] ∧
      (if (digits c).length = 1 then digits c else (digits c).take 1 ++ '.' :: (digits c).drop 1) ++
        'e' :: s :: power = n.chars := by
  have exponent : ('e' :: s :: power) = [] ∨ ∃ t ds, (t = '+' ∨ t = '-') ∧ IsRun ds ∧
      'e' :: s :: power = 'e' :: t :: ds := .inr ⟨s, power, sign, run, rfl⟩
  split
  · exact ⟨⟨digits c, [], 'e' :: s :: power⟩,
      ⟨isRun_digits c, unpadded_digits c, .inl rfl, exponent⟩, nofun, by simp [Numeral.chars]⟩
  · rename_i several
    obtain ⟨d, ds, front⟩ := List.exists_cons_of_ne_nil (digits_ne_nil c)
    rw [front] at several ⊢
    have all : ∀ e ∈ d :: ds, isDigit e = true := fun e member =>
      isDigit_of_mem_digits (front ▸ member)
    obtain ⟨first, rest⟩ := List.forall_mem_cons.1 all
    have more : ds ≠ [] := fun none => several (by rw [none]; rfl)
    refine ⟨⟨[d], '.' :: ds, 'e' :: s :: power⟩, ⟨⟨nofun, List.forall_mem_singleton.2 first⟩,
      fun zero => by rw [Option.some.inj zero], .inr ⟨ds, ⟨more, rest⟩, rfl⟩, exponent⟩, nofun, ?_⟩
    simp [Numeral.chars]

/-- Every binary64 number is written with a fraction or an exponent. -/
theorem exists_numeral_of_floatChars (negative : Bool) {c : Nat} {power : Int}
    (h : c ≠ 0 ∨ power = 0) : ∃ n : Numeral, n.WellFormed ∧ (n.fraction ≠ [] ∨ n.exponent ≠ []) ∧
      floatChars negative c power = Decimal.signChars negative ++ n.chars := by
  unfold floatChars
  dsimp only
  split
  · split
    · have filled : c ≠ 0 ∨ power.toNat = 0 := h.imp_right fun zero => by rw [zero]; rfl
      refine ⟨_, wellFormed_filled filled, .inl nofun, ?_⟩
      simp [Numeral.chars]
    · obtain ⟨n, formed, fraction, same⟩ :=
        wellFormed_pointed (show power + ((digits c).length : Int) < (digits c).length by omega)
      exact ⟨n, formed, .inl fraction, by rw [same]⟩
  · generalize power + ((digits c).length : Int) - 1 = exponent
    have sign : (if exponent < 0 then '-' else '+') = '+' ∨
        (if exponent < 0 then '-' else '+') = '-' := by
      split
      · exact .inr rfl
      · exact .inl rfl
    have run : IsRun (if (digits exponent.natAbs).length < 2 then '0' :: digits exponent.natAbs
        else digits exponent.natAbs) := by
      split
      · exact isRun_append isRun_zero fun _ => isDigit_of_mem_digits
      · exact isRun_digits _
    obtain ⟨n, formed, some, same⟩ := wellFormed_scientific c sign run
    exact ⟨n, formed, .inr some, by rw [same]⟩

theorem exists_numeral_of_finite (negative : Bool) (m : Nat) (e : Int) :
    ∃ n : Numeral, n.WellFormed ∧ (n.fraction ≠ [] ∨ n.exponent ≠ []) ∧
      (floatText (.finite negative m e)).toList = Decimal.signChars negative ++ n.chars := by
  unfold floatText Binary64.text
  dsimp only
  split
  · refine ⟨⟨['0'], ['.', '0'], []⟩, ⟨isRun_zero, fun _ => rfl,
      .inr ⟨['0'], isRun_zero, rfl⟩, .inl rfl⟩, .inl nofun, ?_⟩
    cases negative <;> rfl
  · rename_i positive
    have digits := Shortest.stripped_spec 17 (Shortest.decimal_spec positive e)
    obtain ⟨n, formed, float, same⟩ := exists_numeral_of_floatChars negative digits
    exact ⟨n, formed, float, by rw [String.toList_ofList, same]⟩

end RegistryTokens.Text.Json
