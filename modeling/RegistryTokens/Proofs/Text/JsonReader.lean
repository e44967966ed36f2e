import RegistryTokens.Proofs.Text.JsonNumber

/-!
# The text of a tree reads back

Reading undoes the escapes of every character, and so the text of a tree is read as that tree, with
each binary64 number as its text is read. The fuel suffices for every text.
-/

set_option autoImplicit false

namespace RegistryTokens.Text.Json

open RegistryTokens.Number

/-! ## Strings -/

theorem hexDigit?_digitChar {d : Nat} (h : d < 16) : hexDigit? (Nat.digitChar d) = some d := by
  have each : ∀ d < 16, hexDigit? (Nat.digitChar d) = some d := by decide
  exact each d h

theorem hexDigits_four (n : Nat) : hexDigits 4 n = [Nat.digitChar (n / 4096 % 16),
    Nat.digitChar (n / 256 % 16), Nat.digitChar (n / 16 % 16), Nat.digitChar (n / 1 % 16)] := rfl

theorem readUnit?_hexDigits {n : Nat} (h : n < 0x10000) (rest : List Char) :
    readUnit? (hexDigits 4 n ++ rest) = some (n, rest) := by
  have sixteen : 0 < 16 := by decide
  rw [hexDigits_four]
  simp only [List.cons_append, List.nil_append, readUnit?,
    hexDigit?_digitChar (Nat.mod_lt _ sixteen)]
  change some (((n / 4096 % 16 * 16 + n / 256 % 16) * 16 + n / 16 % 16) * 16 + n / 1 % 16, rest) = _
  have value : ((n / 4096 % 16 * 16 + n / 256 % 16) * 16 + n / 16 % 16) * 16 + n / 1 % 16 = n := by
    omega
  rw [value]

theorem readCode?_basic {c : Char} (h : c.toNat < 0x10000) (rest : List Char) :
    readCode? (hexDigits 4 c.toNat ++ rest) = some (c, rest) := by
  have valid : c.toNat < 0xD800 ∨ (0xDFFF < c.toNat ∧ c.toNat < 0x110000) := c.valid
  rw [readCode?, readUnit?_hexDigits h]
  change (if _ then _ else _) = _
  rw [if_neg (by omega), if_neg (by omega), Char.ofNat_toNat]
  rfl

theorem readCode?_pair {high low : Nat} (first : 0xD800 ≤ high ∧ high < 0xDC00)
    (second : 0xDC00 ≤ low ∧ low < 0xE000) (rest : List Char) :
    readCode? (hexDigits 4 high ++ (unit16 low ++ rest)) =
      some (Char.ofNat (0x10000 + (high - 0xD800) * 0x400 + (low - 0xDC00)), rest) := by
  have unit : low < 0x10000 := by omega
  rw [readCode?, readUnit?_hexDigits (by omega), Option.bind_eq_bind, Option.bind_some]
  dsimp only
  rw [if_pos first, unit16]
  simp only [List.cons_append, readUnit?_hexDigits unit, Option.bind_some]
  rw [if_pos second]
  rfl

theorem readCode?_halves {c : Char} (h : ¬c.toNat < 0x10000) (rest : List Char) :
    readCode? (hexDigits 4 (0xD800 + (c.toNat - 0x10000) / 0x400) ++
      (unit16 (0xDC00 + (c.toNat - 0x10000) % 0x400) ++ rest)) = some (c, rest) := by
  have valid : c.toNat < 0xD800 ∨ (0xDFFF < c.toNat ∧ c.toNat < 0x110000) := c.valid
  rw [readCode?_pair (by omega) (by omega)]
  have value : 0x10000 + (0xD800 + (c.toNat - 0x10000) / 0x400 - 0xD800) * 0x400 +
      (0xDC00 + (c.toNat - 0x10000) % 0x400 - 0xDC00) = c.toNat := by omega
  rw [value, Char.ofNat_toNat]

theorem readString?_plain (fuel : Nat) {c : Char} (quote : c ≠ '"')
    (clear : ¬(c = '\\' ∨ c.toNat < 0x20)) (rest : List Char) : readString? (fuel + 1) (c :: rest) =
      (readString? fuel rest).map fun p => (c :: p.1, p.2) := by
  rw [not_or] at clear
  rw [readString?, if_neg (not_or.2 clear)]
  · cases readString? fuel rest <;> rfl
  · exact quote
  · exact fun _ same _ => clear.1 same
  · exact fun _ _ same _ => clear.1 same

theorem readString?_escaped (fuel : Nat) (c : Char) (rest : List Char) :
    readString? (fuel + 1) (escaped c ++ rest) =
      (readString? fuel rest).map fun p => (c :: p.1, p.2) := by
  have coded {cs tail : List Char} (h : readCode? cs = some (c, tail)) :
      readString? (fuel + 1) ('\\' :: 'u' :: cs) =
        (readString? fuel tail).map fun p => (c :: p.1, p.2) := by
    rw [readString?, h, Option.bind_eq_bind, Option.bind_some]
    dsimp only
    cases readString? fuel tail <;> rfl
  have lettered {e : Char} (other : e ≠ 'u') (h : plainEscape? e = some c) :
      readString? (fuel + 1) ('\\' :: e :: rest) =
        (readString? fuel rest).map fun p => (c :: p.1, p.2) := by
    rw [readString?, h, Option.bind_eq_bind, Option.bind_some]
    · cases readString? fuel rest <;> rfl
    · exact other
  unfold escaped
  split
  · rename_i special
    rcases special with rfl | rfl <;> exact lettered (by decide) rfl
  split
  · rename_i special shown
    rw [not_or] at special
    have low : ' '.toNat ≤ c.toNat := shown.1
    have clear : ¬(c = '\\' ∨ c.toNat < 0x20) :=
      fun either => either.elim special.2 (Nat.not_lt.2 low)
    exact readString?_plain fuel special.1 clear rest
  iterate 5
    split
    · subst c
      exact lettered (by decide) rfl
  split
  · rename_i basic
    exact coded (readCode?_basic basic rest)
  · rename_i beyond
    dsimp only
    rw [List.append_assoc, unit16, List.cons_append, List.cons_append]
    exact coded (readCode?_halves beyond rest)

theorem escaped_ne_nil (c : Char) : escaped c ≠ [] := by
  unfold escaped unit16
  dsimp only
  repeat' split
  all_goals exact nofun

theorem length_le_escaped (cs : List Char) : cs.length ≤ (cs.flatMap escaped).length := by
  induction cs with
  | nil => exact Nat.le_refl 0
  | cons c cs ih =>
    have some : 0 < (escaped c).length := List.length_pos_iff.2 (escaped_ne_nil c)
    rw [List.flatMap_cons, List.length_append, List.length_cons]
    omega

theorem readString?_flatMap {cs : List Char} {fuel : Nat} (enough : cs.length < fuel)
    (rest : List Char) : readString? fuel (cs.flatMap escaped ++ '"' :: rest) = some (cs, rest) := by
  induction cs generalizing fuel with
  | nil =>
    obtain ⟨fuel, rfl⟩ := Nat.exists_eq_add_one.2 enough
    rfl
  | cons c cs ih =>
    obtain ⟨fuel, rfl⟩ := Nat.exists_eq_add_one.2 (Nat.zero_lt_of_lt enough)
    rw [List.flatMap_cons, List.append_assoc, readString?_escaped,
      ih (by rw [List.length_cons] at enough; omega)]
    rfl

/-! ## Plain values -/

theorem ne_of_isDigit {c d : Char} (h : isDigit c = true) (other : isDigit d = false) : c ≠ d := by
  rintro rfl
  cases h.symm.trans other

theorem readPlain?_signed (negative : Bool) {c : Char} (digit : isDigit c = true) (cs : List Char) :
    readPlain? (Decimal.signChars negative ++ c :: cs) =
      readNumber? (Decimal.signChars negative ++ c :: cs) := by
  have n : 'n' ≠ c := (ne_of_isDigit digit (by decide)).symm
  have t : 't' ≠ c := (ne_of_isDigit digit (by decide)).symm
  have f : 'f' ≠ c := (ne_of_isDigit digit (by decide)).symm
  have N : 'N' ≠ c := (ne_of_isDigit digit (by decide)).symm
  have I : 'I' ≠ c := (ne_of_isDigit digit (by decide)).symm
  have minus : '-' ≠ c := (ne_of_isDigit digit (by decide)).symm
  cases negative <;>
    simp [readPlain?, readName?, Decimal.signChars, n, t, f, N, I, minus]

theorem skipSpaces_cons {c : Char} (h : isSpace c = false) (cs : List Char) :
    grammar.skipSpaces (c :: cs) = c :: cs :=
  List.dropWhile_cons_of_neg (Bool.eq_false_iff.1 h)

theorem readValue?_plain (fuel : Nat) {c : Char} (space : isSpace c = false) (text : c ≠ '"')
    (list : c ≠ '[') (object : c ≠ '\x7b') (cs : List Char) :
    grammar.readValue? (fuel + 1) (c :: cs) = readPlain? (c :: cs) := by
  unfold Grammar.readValue?
  rw [skipSpaces_cons space]
  split
  · rename_i quote
    exact absurd (List.cons.inj quote).1 text
  · rename_i bracket
    exact absurd (List.cons.inj bracket).1 list
  · rename_i brace
    exact absurd (List.cons.inj brace).1 object
  · rfl

theorem isSpace_of_isDigit {c : Char} (h : isDigit c = true) : isSpace c = false := by
  cases blank : isSpace c with
  | false => rfl
  | true =>
    simp only [isSpace, Bool.or_eq_true, beq_iff_eq] at blank
    rcases blank with ((rfl | rfl) | rfl) | rfl <;> exact absurd h (by decide)

theorem readValue?_signed (fuel : Nat) (negative : Bool) {c : Char} (digit : isDigit c = true)
    (cs : List Char) : grammar.readValue? (fuel + 1) (Decimal.signChars negative ++ c :: cs) =
      readNumber? (Decimal.signChars negative ++ c :: cs) := by
  rw [← readPlain?_signed negative digit]
  cases negative with
  | true => exact readValue?_plain fuel rfl (by decide) (by decide) (by decide) (c :: cs)
  | false =>
    exact readValue?_plain fuel (isSpace_of_isDigit digit) (ne_of_isDigit digit (by decide))
      (ne_of_isDigit digit (by decide)) (ne_of_isDigit digit (by decide)) cs

theorem readValue?_blank (fuel : Nat) (cs : List Char) :
    grammar.readValue? fuel (' ' :: cs) = grammar.readValue? fuel cs := by
  cases fuel <;> rfl

theorem readItems?_blank (fuel : Nat) (cs : List Char) :
    grammar.readItems? fuel (' ' :: cs) = grammar.readItems? fuel cs := by
  cases fuel with
  | zero => rfl
  | succ fuel => rw [Grammar.readItems?, Grammar.readItems?, readValue?_blank]

theorem readFields?_blank (fuel : Nat) (cs : List Char) :
    grammar.readFields? fuel (' ' :: cs) = grammar.readFields? fuel cs := by
  cases fuel <;> rfl

/-! ## Trees -/

/-- A binary64 number as its text is read. -/
def reread : Binary64 → Binary64
  | .finite negative m e =>
    (Binary64.readChars? (floatText (.finite negative m e)).toList).getD (.finite negative m e)
  | x => x

mutual

def settled : Json → Json
  | float x => float (reread x)
  | list items => list (settledItems items)
  | object fields => object (settledFields fields)
  | j => j

def settledItems : List Json → List Json
  | [] => []
  | item :: rest => item.settled :: settledItems rest

def settledFields : List (String × Json) → List (String × Json)
  | [] => []
  | (name, value) :: rest => (name, value.settled) :: settledFields rest

end

theorem settledFields_eq_map (fields : List (String × Json)) :
    settledFields fields = fields.map fun f => (f.1, f.2.settled) := by
  induction fields with
  | nil => rfl
  | cons f rest ih => rw [settledFields, ih, List.map_cons]

theorem exists_digit_front (n : Nat) : ∃ c cs, digits n = c :: cs ∧ isDigit c = true := by
  obtain ⟨c, cs, front⟩ := List.exists_cons_of_ne_nil (digits_ne_nil n)
  exact ⟨c, cs, front, isDigit_of_mem_digits (front ▸ List.mem_cons_self)⟩

theorem chars_front (j : Json) : ∃ c cs, j.chars = c :: cs ∧ isSpace c = false ∧ c ≠ ']' := by
  have signed {cs : List Char} {c : Char} (negative : Bool) (digit : isDigit c = true) :
      ∃ d ds, Decimal.signChars negative ++ c :: cs = d :: ds ∧ isSpace d = false ∧ d ≠ ']' := by
    cases negative with
    | true => exact ⟨_, _, rfl, rfl, by decide⟩
    | false => exact ⟨c, cs, rfl, isSpace_of_isDigit digit, ne_of_isDigit digit (by decide)⟩
  cases j with
  | null => exact ⟨_, _, rfl, rfl, by decide⟩
  | bool b => cases b <;> exact ⟨_, _, rfl, rfl, by decide⟩
  | int n =>
    cases n with
    | ofNat n =>
      obtain ⟨c, cs, front, digit⟩ := exists_digit_front n
      rw [chars, intDigits, front]
      exact signed false digit
    | negSucc n => exact ⟨_, _, rfl, rfl, by decide⟩
  | float x =>
    cases x with
    | finite negative m e =>
      obtain ⟨n, formed, -, text⟩ := exists_numeral_of_finite negative m e
      obtain ⟨c, cs, front, digit⟩ := exists_front formed
      rw [chars, text, front]
      exact signed negative digit
    | infinite negative => cases negative <;> exact ⟨_, _, rfl, rfl, by decide⟩
    | nan => exact ⟨_, _, rfl, rfl, by decide⟩
  | text s => exact ⟨_, _, rfl, rfl, by decide⟩
  | list items => cases items <;> exact ⟨_, _, rfl, rfl, by decide⟩
  | object fields =>
    cases fields with
    | nil => exact ⟨_, _, rfl, rfl, by decide⟩
    | cons f fields => exact ⟨_, _, rfl, rfl, by decide⟩

/-- The text of a tree is read as the tree, and reading stops at its end. -/
def ReadsBack (j : Json) : Prop :=
  ∀ fuel rest, 2 * j.chars.length ≤ fuel → Ends rest →
    grammar.readValue? fuel (j.chars ++ rest) = some (j.settled, rest)

def ItemsReadBack (item : Json) (items : List Json) : Prop :=
  ∀ fuel rest, 2 * (item.chars.length + (itemChars items).length) ≤ fuel →
    grammar.readItems? fuel (item.chars ++ (itemChars items ++ rest)) =
      some (item.settled :: settledItems items, rest)

def FieldsReadBack (name : String) (value : Json) (fields : List (String × Json)) : Prop :=
  ∀ fuel rest, 2 * (value.chars.length + (fieldChars fields).length) ≤ fuel →
    grammar.readFields? (fuel + 1)
        (stringChars name ++ ':' :: ' ' :: (value.chars ++ (fieldChars fields ++ rest))) =
      some ((name, value.settled) :: settledFields fields, rest)

theorem readsBack_of_step {j : Json} (step : ∀ fuel rest, Ends rest →
    grammar.readValue? (fuel + 1) (j.chars ++ rest) = some (j.settled, rest)) : ReadsBack j := by
  intro fuel rest enough ends
  obtain ⟨c, cs, front, -, -⟩ := chars_front j
  have some : 0 < j.chars.length := by
    rw [front]
    exact Nat.zero_lt_succ _
  obtain ⟨fuel, rfl⟩ := Nat.exists_eq_add_one.2 (show 0 < fuel by omega)
  exact step fuel rest ends

theorem readsBack_null : ReadsBack .null := readsBack_of_step fun _ _ _ => rfl

theorem readsBack_bool (b : Bool) : ReadsBack (.bool b) := by
  cases b <;> exact readsBack_of_step fun _ _ _ => rfl

theorem readsBack_signed {j : Json} {negative : Bool} {c : Char} {cs : List Char}
    (written : j.chars = Decimal.signChars negative ++ c :: cs) (digit : isDigit c = true)
    (read : ∀ rest, Ends rest → readNumber? (j.chars ++ rest) = some (j.settled, rest)) :
    ReadsBack j := by
  refine readsBack_of_step fun fuel rest ends => ?_
  have front : j.chars ++ rest = Decimal.signChars negative ++ c :: (cs ++ rest) := by
    rw [written, List.append_assoc, List.cons_append]
  rw [← read rest ends, front, readValue?_signed fuel negative digit]

theorem readsBack_int (n : Int) : ReadsBack (.int n) := by
  have read (rest : List Char) (ends : Ends rest) := readNumber?_intDigits n ends
  cases n with
  | ofNat n =>
    obtain ⟨c, cs, front, digit⟩ := exists_digit_front n
    have written : chars (.int (.ofNat n)) = Decimal.signChars false ++ c :: cs := front
    exact readsBack_signed written digit read
  | negSucc n =>
    obtain ⟨c, cs, front, digit⟩ := exists_digit_front (n + 1)
    have written : chars (.int (.negSucc n)) = Decimal.signChars true ++ c :: cs :=
      congrArg ('-' :: ·) front
    exact readsBack_signed written digit read

theorem readsBack_float (x : Binary64) : ReadsBack (.float x) := by
  cases x with
  | finite negative m e =>
    obtain ⟨n, formed, float, text⟩ := exists_numeral_of_finite negative m e
    obtain ⟨c, cs, front, digit⟩ := exists_front formed
    have written : chars (.float (.finite negative m e)) =
        Decimal.signChars negative ++ c :: cs := text.trans (by rw [front])
    refine readsBack_signed written digit fun rest ends => ?_
    obtain ⟨x, value, read⟩ := readNumber?_float formed negative float ends
    have same : reread (.finite negative m e) = x := by
      rw [reread, text, value]
      rfl
    change readNumber? ((floatText (.finite negative m e)).toList ++ rest) = _
    rw [text, read, settled, same]
  | infinite negative => cases negative <;> exact readsBack_of_step fun _ _ _ => rfl
  | nan => exact readsBack_of_step fun _ _ _ => rfl

theorem readString?_stringChars (s : String) (rest : List Char) : ∃ tail,
    stringChars s ++ rest = '"' :: tail ∧
      readString? (tail.length + 1) tail = some (s.toList, rest) := by
  refine ⟨s.toList.flatMap escaped ++ '"' :: rest, by simp [stringChars], ?_⟩
  have escapes := length_le_escaped s.toList
  exact readString?_flatMap (by rw [List.length_append]; omega) rest

theorem readsBack_text (s : String) : ReadsBack (.text s) := by
  refine readsBack_of_step fun fuel rest _ => ?_
  obtain ⟨tail, opened, read⟩ := readString?_stringChars s rest
  rw [chars, opened]
  change (readString? (tail.length + 1) tail >>= _) = _
  rw [read]
  change some (text (String.ofList s.toList), rest) = _
  rw [String.ofList_toList, settled]
  all_goals exact nofun

/-! ### Lists -/

theorem itemsReadBack_nil {item : Json} (first : ReadsBack item) : ItemsReadBack item [] := by
  intro fuel rest enough
  obtain ⟨fuel, rfl⟩ := Nat.exists_eq_add_one.2 (Nat.lt_of_lt_of_le (by simp [itemChars]) enough)
  have read := first fuel (']' :: rest) (by simp [itemChars] at enough; omega)
    (ends_cons (by decide))
  change (grammar.readValue? fuel (item.chars ++ ']' :: rest) >>= _) = _
  rw [read]
  rfl

theorem itemsReadBack_cons {item next : Json} {items : List Json} (first : ReadsBack item)
    (later : ItemsReadBack next items) : ItemsReadBack item (next :: items) := by
  intro fuel rest enough
  have length : (itemChars (next :: items)).length =
      2 + next.chars.length + (itemChars items).length := by
    simp [itemChars]
    omega
  obtain ⟨fuel, rfl⟩ := Nat.exists_eq_add_one.2 (show 0 < fuel by omega)
  have read := first fuel (itemChars (next :: items) ++ rest) (by omega) (ends_cons (by decide))
  have reads := later fuel rest (by omega)
  change (grammar.readValue? fuel (item.chars ++ (itemChars (next :: items) ++ rest)) >>= _) = _
  rw [read]
  change (grammar.readItems? fuel (' ' :: (next.chars ++ itemChars items ++ rest)) >>= _) = _
  rw [readItems?_blank, List.append_assoc, reads]
  rfl

theorem readsBack_list_cons {item : Json} {items : List Json} (h : ItemsReadBack item items) :
    ReadsBack (.list (item :: items)) := by
  intro fuel rest enough _
  have length : (chars (.list (item :: items))).length =
      1 + item.chars.length + (itemChars items).length := by
    simp [chars]
    omega
  obtain ⟨fuel, rfl⟩ := Nat.exists_eq_add_one.2 (show 0 < fuel by omega)
  obtain ⟨c, cs, front, space, more⟩ := chars_front item
  have reads := h fuel rest (by omega)
  have opened : chars (.list (item :: items)) ++ rest =
      '[' :: (item.chars ++ (itemChars items ++ rest)) := by simp [chars]
  rw [opened]
  rw [front] at reads ⊢
  unfold Grammar.readValue?
  rw [skipSpaces_cons rfl]
  rw [List.cons_append] at reads ⊢
  simp only [skipSpaces_cons space]
  split
  · rename_i closed
    exact absurd (List.cons.inj closed).1 more
  · rw [reads]
    rfl

/-! ### Objects -/

theorem readsBack_field (fuel : Nat) (name : String) {value : Json} (first : ReadsBack value)
    {rest : List Char} (ends : Ends rest) (enough : 2 * value.chars.length ≤ fuel) : ∃ tail,
      stringChars name ++ ':' :: ' ' :: (value.chars ++ rest) = '"' :: tail ∧
      readString? (tail.length + 1) tail =
        some (name.toList, ':' :: ' ' :: (value.chars ++ rest)) ∧
      grammar.readValue? fuel (' ' :: (value.chars ++ rest)) = some (value.settled, rest) := by
  obtain ⟨tail, opened, read⟩ := readString?_stringChars name (':' :: ' ' :: (value.chars ++ rest))
  exact ⟨tail, opened, read, (readValue?_blank fuel _).trans (first fuel rest enough ends)⟩

theorem fieldsReadBack_nil (name : String) {value : Json} (first : ReadsBack value) :
    FieldsReadBack name value [] := by
  intro fuel rest enough
  have ends : Ends (fieldChars [] ++ rest) := ends_cons (by decide)
  obtain ⟨tail, opened, named, valued⟩ := readsBack_field fuel name first ends (by omega)
  rw [opened]
  change (readString? (tail.length + 1) tail >>= _) = _
  rw [named]
  change (grammar.readValue? fuel (' ' :: (value.chars ++ (fieldChars [] ++ rest))) >>= _) = _
  rw [valued]
  change some ([(String.ofList name.toList, value.settled)], rest) = _
  rw [String.ofList_toList]
  rfl

theorem fieldsReadBack_cons (name : String) {value other : Json} {next : String}
    {fields : List (String × Json)} (first : ReadsBack value)
    (later : FieldsReadBack next other fields) :
    FieldsReadBack name value ((next, other) :: fields) := by
  intro fuel rest enough
  have length : (fieldChars ((next, other) :: fields)).length =
      4 + (stringChars next).length + other.chars.length + (fieldChars fields).length := by
    simp [fieldChars]
    omega
  obtain ⟨fuel, rfl⟩ := Nat.exists_eq_add_one.2 (show 0 < fuel by omega)
  have reads := later fuel rest (by omega)
  have followed : fieldChars ((next, other) :: fields) ++ rest = ',' :: ' ' ::
      (stringChars next ++ ':' :: ' ' :: (other.chars ++ (fieldChars fields ++ rest))) := by
    simp [fieldChars]
  rw [followed]
  generalize stringChars next ++ ':' :: ' ' :: (other.chars ++ (fieldChars fields ++ rest)) = back
    at reads
  have ends : Ends (',' :: ' ' :: back) := ends_cons (by decide)
  obtain ⟨tail, opened, named, valued⟩ := readsBack_field (fuel + 1) name first ends (by omega)
  rw [opened]
  change (readString? (tail.length + 1) tail >>= _) = _
  rw [named]
  change (grammar.readValue? (fuel + 1) (' ' :: (value.chars ++ ',' :: ' ' :: back)) >>= _) = _
  rw [valued]
  change (grammar.readFields? (fuel + 1) (' ' :: back) >>= _) = _
  rw [readFields?_blank, reads]
  change some ((String.ofList name.toList, value.settled) :: _, rest) = _
  rw [String.ofList_toList]
  rfl

theorem readsBack_object_cons {name : String} {value : Json} {fields : List (String × Json)}
    (h : FieldsReadBack name value fields) : ReadsBack (.object ((name, value) :: fields)) := by
  intro fuel rest enough _
  have length : (chars (.object ((name, value) :: fields))).length =
      3 + (stringChars name).length + value.chars.length + (fieldChars fields).length := by
    simp [chars]
    omega
  obtain ⟨fuel, rfl⟩ := Nat.exists_eq_add_one.2 (show 0 < fuel by omega)
  obtain ⟨fuel, rfl⟩ := Nat.exists_eq_add_one.2 (show 0 < fuel by omega)
  have reads := h fuel rest (by omega)
  have opened : chars (.object ((name, value) :: fields)) ++ rest = '\x7b' ::
      (stringChars name ++ ':' :: ' ' :: (value.chars ++ (fieldChars fields ++ rest))) := by
    simp [chars]
  rw [opened]
  change (grammar.readFields? (fuel + 1) (stringChars name ++
    ':' :: ' ' :: (value.chars ++ (fieldChars fields ++ rest))) >>= _) = _
  rw [reads]
  rfl

mutual

theorem readsBack : (j : Json) → ReadsBack j
  | .null => readsBack_null
  | .bool b => readsBack_bool b
  | .int n => readsBack_int n
  | .float x => readsBack_float x
  | .text s => readsBack_text s
  | .list [] => readsBack_of_step fun _ _ _ => rfl
  | .list (item :: items) => readsBack_list_cons (itemsReadBack item items (readsBack item))
  | .object [] => readsBack_of_step fun _ _ _ => rfl
  | .object ((name, value) :: fields) =>
    readsBack_object_cons (fieldsReadBack name value fields (readsBack value))

theorem itemsReadBack (item : Json) : (items : List Json) → ReadsBack item → ItemsReadBack item items
  | [], first => itemsReadBack_nil first
  | next :: items, first => itemsReadBack_cons first (itemsReadBack next items (readsBack next))

theorem fieldsReadBack (name : String) (value : Json) :
    (fields : List (String × Json)) → ReadsBack value → FieldsReadBack name value fields
  | [], first => fieldsReadBack_nil name first
  | (next, other) :: fields, first =>
    fieldsReadBack_cons name first (fieldsReadBack next other fields (readsBack other))

end

/-- The line of a tree is read as the tree. -/
theorem read?_line (j : Json) : read? j.line = some j.settled := by
  have whole := readsBack j (2 * j.chars.length + 2) [] (by omega) ends_nil
  rw [List.append_nil] at whole
  rw [read?, Grammar.read?, line, String.toList_ofList, whole]
  rfl

end RegistryTokens.Text.Json
