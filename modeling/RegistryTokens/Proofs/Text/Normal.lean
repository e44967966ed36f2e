import Mathlib.Data.List.DropRight
import RegistryTokens.Text.Blank
import RegistryTokens.Text.Upper

/-!
# Texts in normal form

A text that was upper-cased is its own capital: no capital that the tables name is moved by them
again. Nor does trimming take anything from a text that was trimmed.
-/

set_option autoImplicit false

namespace RegistryTokens.Text

structure Settled (n : Nat) : Prop where
  unexpanded : ∀ expansion ∈ capitalExpansions, expansion.1 ≠ n
  unmoved : ∀ run ∈ capitalRuns, ¬(run.1 ≤ n ∧ n ≤ run.2.1 ∧ (n - run.1) % run.2.2.1 = 0)

/-- Whether the tables leave the code points alone that stand at every step from the first to the
last. Where they stand among those of a run, they alternate with them. -/
def untouched (first last step : Nat) : Bool :=
  capitalExpansions.all (fun expansion => Nat.blt last expansion.1 || Nat.blt expansion.1 first) &&
  capitalRuns.all fun run => Nat.blt last run.1 || Nat.blt run.2.1 first ||
    (first == last || step == 2) && run.2.2.1 == 2 && (first + run.1) % 2 == 1

theorem settled_of_untouched {first last step n : Nat} (h : untouched first last step = true)
    (low : first ≤ n) (high : n ≤ last) (there : (n - first) % step = 0) : Settled n := by
  obtain ⟨expansions, runs⟩ := Bool.and_eq_true_iff.1 h
  constructor
  · intro expansion listed
    have clear := List.all_eq_true.1 expansions expansion listed
    simp only [Bool.or_eq_true, Nat.blt_eq] at clear
    omega
  · rintro run listed ⟨begun, inside, moved⟩
    have clear := List.all_eq_true.1 runs run listed
    simp only [Bool.or_eq_true, Bool.and_eq_true, beq_iff_eq, Nat.blt_eq] at clear
    rcases clear with outside | ⟨⟨alternate, two⟩, odd⟩
    · omega
    · rw [two] at moved
      rcases alternate with single | double
      · omega
      · subst double
        omega

theorem untouched_capitals : ∀ run ∈ capitalRuns, 0 ≤ run.1 + run.2.2.2 ∧
    untouched (run.1 + run.2.2.2).toNat (run.2.1 + run.2.2.2).toNat run.2.2.1 = true := by
  decide +kernel

theorem untouched_parts : ∀ expansion ∈ capitalExpansions, ∀ n ∈ expansion.2,
    untouched n n 1 = true := by
  decide +kernel

theorem ascii_toUpper : ∀ n < 128, (Char.ofNat n).toUpper.toNat ≤ 0x60 ∨
    0x7B ≤ (Char.ofNat n).toUpper.toNat ∧ (Char.ofNat n).toUpper.toNat ≤ 0x7F := by
  decide

theorem toNat_ofNat (n : Nat) : (Char.ofNat n).toNat = n ∨ (Char.ofNat n).toNat = 0 := by
  unfold Char.ofNat
  by_cases valid : n.isValidChar
  · rw [dif_pos valid]
    exact .inl rfl
  · rw [dif_neg valid]
    exact .inr rfl

theorem settled_ascii {n : Nat} (h : n ≤ 0x60 ∨ 0x7B ≤ n ∧ n ≤ 0x7F) : Settled n := by
  have front : untouched 0 0x60 1 = true := by decide +kernel
  have behind : untouched 0x7B 0x7F 1 = true := by decide +kernel
  rcases h with low | ⟨begun, inside⟩
  · exact settled_of_untouched front (Nat.zero_le n) low (Nat.mod_one _)
  · exact settled_of_untouched behind begun inside (Nat.mod_one _)

theorem settled_ofNat {n : Nat} (h : Settled n) : Settled (Char.ofNat n).toNat := by
  rcases toNat_ofNat n with same | zero
  · rw [same]
    exact h
  · rw [zero]
    exact settled_ascii (.inl (Nat.zero_le _))

theorem settled_of_mem_upperWide {c x : Char} (h : x ∈ upperWide c) : Settled x.toNat := by
  unfold upperWide at h
  split at h
  · rename_i expansion found
    obtain ⟨n, part, rfl⟩ := List.mem_map.1 h
    have clear := untouched_parts expansion (List.mem_of_find?_eq_some found) n part
    exact settled_ofNat (settled_of_untouched clear (Nat.le_refl n) (Nat.le_refl n) (Nat.mod_one _))
  · rename_i unexpanded
    split at h
    · rename_i run found
      obtain rfl := List.mem_singleton.1 h
      obtain ⟨positive, clear⟩ := untouched_capitals run (List.mem_of_find?_eq_some found)
      have moved := List.find?_some found
      simp only [Bool.and_eq_true, decide_eq_true_eq, beq_iff_eq] at moved
      obtain ⟨⟨begun, inside⟩, step⟩ := moved
      have shifted : (c.toNat + run.2.2.2).toNat - (run.1 + run.2.2.2).toNat = c.toNat - run.1 := by
        omega
      refine settled_ofNat (settled_of_untouched clear (by omega) (by omega) ?_)
      rw [shifted]
      exact step
    · rename_i unmoved
      obtain rfl := List.mem_singleton.1 h
      constructor
      · intro expansion listed same
        exact List.find?_eq_none.1 unexpanded expansion listed (beq_iff_eq.2 same)
      · rintro run listed ⟨begun, inside, step⟩
        apply List.find?_eq_none.1 unmoved run listed
        simp [begun, inside, step]

theorem settled_of_mem_upperChar {c x : Char} (h : x ∈ upperChar c) : Settled x.toNat := by
  unfold upperChar at h
  split at h
  · rename_i small
    obtain rfl := List.mem_singleton.1 h
    have capital := ascii_toUpper c.toNat small
    rw [Char.ofNat_toNat] at capital
    exact settled_ascii capital
  · exact settled_of_mem_upperWide h

theorem upperChar_of_settled {c : Char} (h : Settled c.toNat) : upperChar c = [c] := by
  unfold upperChar
  split
  · rename_i small
    have letters : ∀ n < 128, ¬(0x61 ≤ n ∧ n ≤ 0x7A) → (Char.ofNat n).toUpper = Char.ofNat n := by
      decide
    have other := letters c.toNat small fun ⟨begun, inside⟩ =>
      h.unmoved (0x61, 0x7A, 1, -32) List.mem_cons_self ⟨begun, inside, Nat.mod_one _⟩
    rw [Char.ofNat_toNat] at other
    rw [other]
  · have unexpanded : capitalExpansions.find? (·.1 == c.toNat) = none :=
      List.find?_eq_none.2 fun expansion listed same =>
        h.unexpanded expansion listed (beq_iff_eq.1 same)
    have unmoved : capitalRuns.find? (fun run =>
        run.1 ≤ c.toNat && c.toNat ≤ run.2.1 && (c.toNat - run.1) % run.2.2.1 == 0) = none := by
      refine List.find?_eq_none.2 fun run listed moved => h.unmoved run listed ?_
      simpa [and_assoc] using moved
    rw [upperWide, unexpanded]
    dsimp only
    rw [unmoved]

theorem upperChars_self {cs : List Char} (h : ∀ c ∈ cs, Settled c.toNat) : upperChars cs = cs := by
  induction cs with
  | nil => rfl
  | cons c cs ih =>
    have rest := ih fun d listed => h d (List.mem_cons_of_mem c listed)
    rw [upperChars] at rest ⊢
    rw [List.flatMap_cons, rest, upperChar_of_settled (h c List.mem_cons_self)]
    rfl

theorem mem_upperChars_of_settled {c : Char} {cs : List Char} (h : Settled c.toNat)
    (member : c ∈ cs) : c ∈ upperChars cs :=
  List.mem_flatMap.2 ⟨c, member, by rw [upperChar_of_settled h]; exact List.mem_singleton_self c⟩

theorem settled_of_isBlank {c : Char} (h : isBlank c = true) : Settled c.toNat := by
  have clear : ∀ span ∈ blankSpans, untouched span.1 span.2 1 = true := by decide +kernel
  obtain ⟨span, listed, low, high⟩ := (Spans.mem_iff _ _).1 h
  exact settled_of_untouched (clear span listed) low high (Nat.mod_one _)

theorem upperChars_of_toUpper {cs capitals : List Char} (ascii : ∀ c ∈ capitals, c.toNat < 128)
    (h : cs.map Char.toUpper = capitals) : upperChars cs = capitals := by
  subst h
  refine upperChars_ascii fun c member => ?_
  have small := ascii c.toUpper (List.mem_map_of_mem member)
  unfold Char.toUpper at small
  split at small
  · rename_i letter
    have last : c.val.toNat ≤ 122 := UInt32.le_iff_toNat_le.1 letter.2
    exact Nat.lt_of_le_of_lt last (by decide)
  · exact small

theorem trimChars_begins (cs : List Char) : trimChars cs <+: trimStart cs :=
  List.rdropWhile_prefix isBlank (trimStart cs)

theorem trimChars_subset (cs : List Char) : trimChars cs ⊆ cs :=
  fun _ kept => (List.dropWhile_suffix isBlank).subset ((trimChars_begins cs).subset kept)

theorem trimChars_blank_append {gap : List Char} (h : ∀ c ∈ gap, isBlank c = true)
    (cs : List Char) : trimChars (gap ++ cs) = trimChars cs := by
  rw [trimChars, trimStart_append_of_blank cs h, trimChars]

theorem trimChars_append_blank {gap : List Char} (h : ∀ c ∈ gap, isBlank c = true)
    (cs : List Char) : trimChars (cs ++ gap) = trimChars cs := by
  have start : trimStart (cs ++ gap) = if (trimStart cs).isEmpty then [] else trimStart cs ++ gap := by
    rw [trimStart, List.dropWhile_append, List.dropWhile_eq_nil_iff.2 h]
    rfl
  rw [trimChars, start, trimChars]
  cases left : trimStart cs with
  | nil => rfl
  | cons c rest => exact trimEnd_append_of_blank (c :: rest) h

theorem exists_blank_ends (cs : List Char) : ∃ before after, cs = before ++ trimChars cs ++ after ∧
    (∀ c ∈ before, isBlank c = true) ∧ ∀ c ∈ after, isBlank c = true := by
  refine ⟨cs.takeWhile isBlank, ((trimStart cs).reverse.takeWhile isBlank).reverse, ?_, ?_, ?_⟩
  · have finish : trimChars cs ++ ((trimStart cs).reverse.takeWhile isBlank).reverse =
        trimStart cs := by
      rw [trimChars, trimEnd, ← List.reverse_append, List.takeWhile_append_dropWhile,
        List.reverse_reverse]
    rw [List.append_assoc, finish, trimStart, List.takeWhile_append_dropWhile]
  · exact fun c => List.mem_takeWhile_imp
  · exact fun c member => List.mem_takeWhile_imp (List.mem_reverse.1 member)

structure Word (cs : List Char) : Prop where
  nonempty : cs ≠ []
  dense : ∀ c ∈ cs, isBlank c = false

theorem trimStart_word {cs : List Char} (h : Word cs) (rest : List Char) :
    trimStart (cs ++ rest) = cs ++ rest := by
  obtain ⟨c, cs, rfl⟩ := List.exists_cons_of_ne_nil h.nonempty
  rw [trimStart, List.cons_append, List.dropWhile_cons_of_neg]
  simp [h.dense c List.mem_cons_self]

theorem trimEnd_word {cs : List Char} (h : Word cs) (rest : List Char) :
    trimEnd (rest ++ cs) = rest ++ cs := by
  have turned : Word cs.reverse :=
    ⟨fun none => h.nonempty (List.reverse_eq_nil_iff.1 none),
      fun c member => h.dense c (List.mem_reverse.1 member)⟩
  have start := trimStart_word turned rest.reverse
  rw [trimStart] at start
  rw [trimEnd, List.reverse_append, start, ← List.reverse_append, List.reverse_reverse]

theorem trimChars_word {cs : List Char} (h : Word cs) : trimChars cs = cs := by
  have start := trimStart_word h []
  rw [List.append_nil] at start
  rw [trimChars, start]
  exact trimEnd_word h []

theorem trimChars_between {front back : List Char} (begins : Word front) (ends : Word back)
    (middle : List Char) : trimChars (front ++ middle ++ back) = front ++ middle ++ back := by
  rw [trimChars, List.append_assoc, trimStart_word begins, ← List.append_assoc, trimEnd_word ends]

theorem trimChars_trimChars (cs : List Char) : trimChars (trimChars cs) = trimChars cs := by
  have start : trimStart (trimChars cs) = trimChars cs := by
    refine List.dropWhile_eq_self_iff.2 fun some blank => ?_
    rw [(trimChars_begins cs).getElem some] at blank
    exact List.dropWhile_get_zero_not isBlank cs _ blank
  rw [trimChars, start]
  exact List.rdropWhile_idempotent isBlank (trimStart cs)

end RegistryTokens.Text
