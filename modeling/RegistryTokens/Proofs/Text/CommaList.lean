import RegistryTokens.Proofs.Text.Normal
import RegistryTokens.Text.CommaList

/-!
# Comma lists of given cells

Cells that hold no separator are the cells of the text that joins them. Blanks at the ends of a list
lie in its outer cells and carry nothing.
-/

set_option autoImplicit false

namespace RegistryTokens.Text.CommaList

theorem cells_eq_splitOn (separator : Char) (cs : List Char) :
    cells separator cs = cs.splitOn separator := by
  induction cs with
  | nil => rfl
  | cons c cs ih =>
    rw [cells, ih, List.splitOn_cons_eq_if_modifyHead]
    by_cases here : c = separator
    · simp [here]
    · cases split : cs.splitOn separator with
      | nil => exact absurd (ih.trans split) (cells_ne_nil separator cs)
      | cons cell rest => simp [here]

theorem cells_eq_singleton {separator : Char} {cs : List Char} (free : separator ∉ cs) :
    cells separator cs = [cs] := by
  rw [cells_eq_splitOn, List.splitOn_eq_singleton free]

theorem cells_intercalate {separator : Char} {parts : List (List Char)} (some : parts ≠ [])
    (free : ∀ part ∈ parts, separator ∉ part) :
    cells separator (List.intercalate [separator] parts) = parts := by
  rw [cells_eq_splitOn, List.splitOn_intercalate separator free some]

theorem separator_not_mem {separator : Char} {cs cell : List Char}
    (member : cell ∈ cells separator cs) : separator ∉ cell := by
  induction cs generalizing cell with
  | nil =>
    rw [List.mem_singleton.1 member]
    exact List.not_mem_nil
  | cons c cs ih =>
    rw [cells] at member
    by_cases here : c = separator
    · rw [if_pos here] at member
      rcases List.mem_cons.1 member with rfl | later
      · exact List.not_mem_nil
      · exact ih later
    · rw [if_neg here] at member
      cases split : cells separator cs with
      | nil => exact absurd split (cells_ne_nil separator cs)
      | cons first rest =>
        rw [split] at member ih
        rcases List.mem_cons.1 member with rfl | later
        · rw [List.mem_cons, not_or]
          exact ⟨fun same => here same.symm, ih List.mem_cons_self⟩
        · exact ih (List.mem_cons_of_mem _ later)

theorem itemChars_intercalate {parts : List (List Char)} (free : ∀ part ∈ parts, ',' ∉ part) :
    itemChars (List.intercalate [','] parts) = kept parts := by
  cases parts with
  | nil => rfl
  | cons part rest => rw [itemChars, cells_intercalate (List.cons_ne_nil _ _) free]

theorem comma_not_mem_of_blank {cs : List Char} (h : ∀ c ∈ cs, isBlank c = true) : ',' ∉ cs :=
  fun member => absurd (h _ member) (by decide)

theorem itemChars_blank_append {gap : List Char} (h : ∀ c ∈ gap, isBlank c = true)
    (cs : List Char) : itemChars (gap ++ cs) = itemChars cs := by
  have none := comma_not_mem_of_blank h
  by_cases comma : ',' ∈ cs
  · obtain ⟨cell, rest, rfl, free⟩ := List.eq_append_cons_of_mem comma
    have widened : ',' ∉ gap ++ cell := by simp [none, free]
    rw [itemChars, itemChars, ← List.append_assoc, cells_append, cells_append,
      cells_eq_singleton free, cells_eq_singleton widened, kept_append, kept_append]
    simp only [kept, List.map_cons, trimChars_blank_append h]
  · have widened : ',' ∉ gap ++ cs := by simp [none, comma]
    rw [itemChars, itemChars, cells_eq_singleton comma, cells_eq_singleton widened]
    simp only [kept, List.map_cons, trimChars_blank_append h]

theorem itemChars_append_blank {gap : List Char} (h : ∀ c ∈ gap, isBlank c = true)
    (cs : List Char) : itemChars (cs ++ gap) = itemChars cs := by
  have none := comma_not_mem_of_blank h
  by_cases comma : ',' ∈ cs.reverse
  · obtain ⟨back, front, split, free⟩ := List.eq_append_cons_of_mem comma
    obtain rfl : cs = front.reverse ++ ',' :: back.reverse := by
      rw [← List.reverse_reverse cs, split]
      simp
    rw [← List.mem_reverse] at free
    have widened : ',' ∉ back.reverse ++ gap := by simp [none, free]
    rw [itemChars, itemChars, List.append_assoc, List.cons_append, cells_append, cells_append,
      cells_eq_singleton free, cells_eq_singleton widened, kept_append, kept_append]
    simp only [kept, List.map_cons, trimChars_append_blank h]
  · rw [List.mem_reverse] at comma
    have widened : ',' ∉ cs ++ gap := by simp [none, comma]
    rw [itemChars, itemChars, cells_eq_singleton comma, cells_eq_singleton widened]
    simp only [kept, List.map_cons, trimChars_append_blank h]

theorem itemChars_trimChars (cs : List Char) : itemChars (trimChars cs) = itemChars cs := by
  obtain ⟨before, after, split, start, finish⟩ := exists_blank_ends cs
  conv => rhs; rw [split]
  rw [itemChars_append_blank finish, itemChars_blank_append start]

structure Item (s : String) : Prop where
  nonempty : s ≠ ""
  start : ∀ c, s.toList.head? = some c → isBlank c = false
  finish : ∀ c, s.toList.getLast? = some c → isBlank c = false

theorem trim_trim (s : String) : trim (trim s) = trim s := by
  rw [trim, trim, String.toList_ofList, trimChars_trimChars]

theorem item_trim {s : String} (some : trim s ≠ "") : Item (trim s) := by
  have chars : (trim s).toList = trimChars s.toList := String.toList_ofList
  refine ⟨some, ?_, ?_⟩
  · intro c first
    obtain ⟨rest, begins⟩ := trimChars_begins s.toList
    have left := List.head?_dropWhile_not isBlank s.toList
    rw [chars] at first
    rw [← trimStart, ← begins, List.head?_append, first] at left
    exact left
  · intro c last
    have left := List.head?_dropWhile_not isBlank (trimStart s.toList).reverse
    rw [chars, trimChars, trimEnd, List.getLast?_reverse] at last
    rw [last] at left
    exact left

def present (parts : List String) : List String := (parts.map trim).filter fun part => !part.isEmpty

theorem mem_present {parts : List String} {x : String} :
    x ∈ present parts ↔ (∃ part ∈ parts, trim part = x) ∧ x ≠ "" := by
  simp [present]

theorem items_eq_present (s : String) :
    items s = present ((cells ',' s.toList).map String.ofList) := by
  have trimmed (cell : List Char) : trim (String.ofList cell) = String.ofList (trimChars cell) := by
    rw [trim, String.toList_ofList]
  have empty (cell : List Char) : (String.ofList cell).isEmpty = cell.isEmpty := by
    rw [Bool.eq_iff_iff, String.isEmpty_iff, List.isEmpty_iff, ← String.toList_inj,
      String.toList_ofList]
    rfl
  simp only [items, itemChars, kept, present, List.map_map, List.filter_map, Function.comp_def,
    trimmed, empty]

theorem items_intercalate {parts : List String} (free : ∀ part ∈ parts, ',' ∉ part.toList) :
    items (String.intercalate "," parts) = present parts := by
  have chars : (String.intercalate "," parts).toList =
      List.intercalate [','] (parts.map String.toList) := by
    rw [String.toList_intercalate]
    rfl
  cases parts with
  | nil => rfl
  | cons part rest =>
    have some : (part :: rest).map String.toList ≠ [] := List.cons_ne_nil _ _
    rw [items_eq_present, chars, cells_intercalate some, List.map_map]
    · simp [Function.comp_def]
    · simpa using free

theorem items_append (a b : String) : items (a ++ "," ++ b) = items a ++ items b := by
  have chars : (a ++ "," ++ b).toList = a.toList ++ ',' :: b.toList := by simp
  rw [items, itemChars, chars, cells_append, kept_append, List.map_append]
  rfl

end RegistryTokens.Text.CommaList
