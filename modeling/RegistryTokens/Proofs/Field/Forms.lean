import RegistryTokens.Proofs.Field.Lists
import RegistryTokens.Proofs.UpTo

/-!
# Lists of items and the texts that join them

Texts are read from a list of items as from the text that joins the items. Actions are not: in a
text a blank part is nothing, and in a list it is an item that names no action. So the two forms of
actions differ just if some item is blank and each of the others names an action.
-/

set_option autoImplicit false

namespace RegistryTokens.Field

open RegistryTokens.Text RegistryTokens.Text.CommaList

def listed (items : List String) : Value := .list (items.map .text)

/-- The items of a set in one text, with commas between them. -/
def joined (items : List String) : Value := .text (String.intercalate "," items)

variable {items : List String} (free : ∀ x ∈ items, ',' ∉ x.toList)

theorem filterMap_present (items : List String) :
    (present items).filterMap actionOf? = items.filterMap actionOf? := by
  induction items with
  | nil => rfl
  | cons item rest ih =>
    have trimmed : actionOf? (trim item) = actionOf? item := by
      rw [actionOf?, normal_trim, actionOf?]
    by_cases blank : trim item = ""
    · have none : actionOf? item = none := by
        rw [← Option.not_isSome_iff_eq_none, ← namesAction_iff]
        exact not_namesAction_of_blank blank
      have passed : present (item :: rest) = present rest := by
        simp [present, blank]
      rw [passed, ih, List.filterMap_cons_none none]
    · have kept : present (item :: rest) = trim item :: present rest := by
        simp [present, blank]
      rw [kept, List.filterMap_cons, List.filterMap_cons, trimmed, ih]

theorem readActions_listed_eq_ok_iff {set : ActionSet} : readActions (listed items) = .ok set ↔
    (∀ x ∈ items, NamesAction x) ∧ set = SortedSet.ofList (items.filterMap actionOf?) :=
  readActionItems_texts_eq_ok_iff

theorem readActions_listed_eq_error {failure : Failure}
    (h : readActions (listed items) = .error failure) :
    ∃ item, failure = .refused (Refusal.unknownAction item) := by
  obtain ⟨item, -, told⟩ := readActionItems_texts_eq_error_iff.1 h
  exact ⟨item, told⟩

include free

theorem readTexts_joined : readTexts (joined items) = readTexts (listed items) := by
  rw [joined, listed, readTexts_text, items_intercalate free, readTexts_list]

theorem readActions_joined :
    readActions (joined items) = readActionItems ((present items).map .text) := by
  rw [joined, readActions_text, items_intercalate free]

theorem readActions_joined_eq_ok_iff {set : ActionSet} : readActions (joined items) = .ok set ↔
    (∀ x ∈ items, trim x ≠ "" → NamesAction x) ∧
      set = SortedSet.ofList (items.filterMap actionOf?) := by
  have named : (∀ x ∈ present items, NamesAction x) ↔ ∀ x ∈ items, trim x ≠ "" → NamesAction x := by
    simp only [mem_present, and_imp, forall_exists_index, forall_apply_eq_imp_iff₂]
    simp only [namesAction_trim]
  rw [readActions_joined free, readActionItems_texts_eq_ok_iff, named, filterMap_present]

theorem readActions_listed_iff_joined {set : ActionSet} : readActions (listed items) = .ok set ↔
    readActions (joined items) = .ok set ∧ ∀ x ∈ items, trim x ≠ "" := by
  rw [readActions_listed_eq_ok_iff, readActions_joined_eq_ok_iff free]
  constructor
  · rintro ⟨named, same⟩
    refine ⟨⟨fun x member _ => named x member, same⟩, fun x member blank => ?_⟩
    exact not_namesAction_of_blank blank (named x member)
  · rintro ⟨⟨named, same⟩, some⟩
    exact ⟨fun x member => named x member (some x member), same⟩

theorem readActions_joined_eq_error {failure : Failure}
    (h : readActions (joined items) = .error failure) :
    (∃ x ∈ items, trim x ≠ "" ∧ ¬NamesAction x) ∧
      ∃ item, failure = .refused (Refusal.unknownAction item) := by
  refine ⟨?_, ?_⟩
  · by_contra known
    have passed : ∀ x ∈ items, trim x ≠ "" → NamesAction x := fun x member some =>
      not_not.1 fun unknown => known ⟨x, member, some, unknown⟩
    rw [(readActions_joined_eq_ok_iff free).2 ⟨passed, rfl⟩] at h
    cases h
  · rw [readActions_joined free] at h
    obtain ⟨item, -, told⟩ := readActionItems_texts_eq_error_iff.1 h
    exact ⟨item, told⟩

theorem readActions_upTo (known : (∀ x ∈ items, trim x ≠ "") ∨
      ∃ x ∈ items, trim x ≠ "" ∧ ¬NamesAction x) :
    Answer.UpTo Failure.Reworded (readActions (listed items)) (readActions (joined items)) := by
  cases fromList : readActions (listed items) with
  | ok set =>
    rw [((readActions_listed_iff_joined free).1 fromList).1]
    exact .ok set
  | error failure =>
    obtain ⟨word, rfl⟩ := readActions_listed_eq_error fromList
    cases fromText : readActions (joined items) with
    | ok set =>
      rcases known with some | ⟨x, member, some, unknown⟩
      · rw [(readActions_listed_iff_joined free).2 ⟨fromText, some⟩] at fromList
        cases fromList
      · exact absurd (((readActions_joined_eq_ok_iff free).1 fromText).1 x member some) unknown
    | error other =>
      obtain ⟨-, item, rfl⟩ := readActions_joined_eq_error free fromText
      exact .error (.word _ _ _)

end RegistryTokens.Field
