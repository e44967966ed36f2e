import RegistryTokens.Field.Plain
import RegistryTokens.Proofs.Answer
import RegistryTokens.Proofs.SortedSet
import RegistryTokens.Proofs.Text.CommaList

/-!
# Sets read from lists

A comma list is read part by part: what two texts with a comma between them are read as is the union
of what each of them is read as, and of several words that name no action the first one from the left
is refused.
-/

set_option autoImplicit false

namespace RegistryTokens.Field

open RegistryTokens.Text RegistryTokens.Text.CommaList

/-- Letters of any case, with or without blanks around them, that spell the word of an action. -/
def NamesAction (s : String) : Prop := ∃ a : EppAction, normal s = word a

def actionOf? (s : String) : Option EppAction := Vocabulary.find? (normal s)

theorem actionOf?_eq_some_iff {s : String} {a : EppAction} :
    actionOf? s = some a ↔ normal s = word a := by
  constructor
  · intro found
    have named := List.find?_some found
    exact (eq_of_beq named).symm
  · intro spelled
    rw [actionOf?, spelled]
    exact find?_word_action a

theorem namesAction_iff {s : String} : NamesAction s ↔ (actionOf? s).isSome = true := by
  rw [Option.isSome_iff_exists]
  exact exists_congr fun a => actionOf?_eq_some_iff.symm

instance (s : String) : Decidable (NamesAction s) := decidable_of_iff _ namesAction_iff.symm

/-- The first item of a comma list, from left to right, that names no action. -/
def firstUnknown? (s : String) : Option String :=
  (((s.toList.splitOn ',').map fun part => trim (String.ofList part)).find? fun item =>
    item ≠ "" ∧ ¬NamesAction item)

theorem normal_trim (s : String) : normal (trim s) = normal s := by
  rw [normal, trim_trim, normal]

theorem not_namesAction_of_blank {s : String} (h : trim s = "") : ¬NamesAction s := by
  rintro ⟨a, spelled⟩
  rw [normal, h] at spelled
  cases a <;> exact absurd spelled (by decide)

theorem namesAction_trim {s : String} : NamesAction (trim s) ↔ NamesAction s := by
  rw [NamesAction, NamesAction, normal_trim]

section texts
variable {v : Value} {set : TextSet}

theorem readTexts_text (s : String) : readTexts (.text s) = .ok (SortedSet.ofList (items s)) := rfl

theorem readTexts_list (parts : List String) :
    readTexts (.list (parts.map .text)) = .ok (SortedSet.ofList (present parts)) := by
  have shown : displays (parts.map .text) = present parts := by
    simp only [displays, present, List.map_map, Function.comp_def]
    rfl
  change Except.ok (SortedSet.ofList (displays (parts.map .text))) = _
  rw [shown]

theorem exists_parts_of_readTexts (h : readTexts v = .ok set) : ∃ parts : List String,
    set = SortedSet.ofList (present parts) ∧
      ∀ s, v.asText? = some s → ∀ part ∈ parts, ',' ∉ part.toList := by
  unfold readTexts at h
  cases text : v.asText? with
  | some s =>
    rw [text] at h
    cases h
    refine ⟨(cells ',' s.toList).map String.ofList, by rw [items_eq_present], ?_⟩
    intro _ _ part member
    obtain ⟨cell, listed, rfl⟩ := List.mem_map.1 member
    rw [String.toList_ofList]
    exact separator_not_mem listed
  | none =>
    rw [text] at h
    cases collected : v.items? with
    | none =>
      rw [collected] at h
      cases h
    | some members =>
      rw [collected] at h
      cases h
      refine ⟨members.map Value.display, ?_, nofun⟩
      simp only [displays, present, List.map_map, Function.comp_def]

theorem mem_of_readTexts (h : readTexts v = .ok set) {x : String} (member : x ∈ set) :
    Item x ∧ trim x = x ∧ (v.asText?.isSome = true → ',' ∉ x.toList) := by
  obtain ⟨parts, rfl, free⟩ := exists_parts_of_readTexts h
  rw [SortedSet.mem_ofList Function.injective_id, mem_present] at member
  obtain ⟨⟨part, listed, rfl⟩, some⟩ := member
  refine ⟨item_trim some, trim_trim part, fun isText comma => ?_⟩
  obtain ⟨s, text⟩ := Option.isSome_iff_exists.1 isText
  rw [trim, String.toList_ofList] at comma
  exact free s text part listed (trimChars_subset part.toList comma)

end texts

theorem readAction_text (s : String) : readAction (.text s) =
    match actionOf? s with
    | some a => .ok a
    | none => Answer.refuse (Refusal.unknownAction s) := by
  have shown : Vocabulary.find? (normal (Value.text s).display) = actionOf? s := rfl
  unfold readAction
  simp only [shown]
  cases actionOf? s <;> rfl

theorem mapM_readAction_texts (words : List String) : (words.map Value.text).mapM readAction =
    match words.find? fun item => ¬NamesAction item with
    | some item => Answer.refuse (Refusal.unknownAction item)
    | none => .ok (words.filterMap actionOf?) := by
  induction words with
  | nil => rfl
  | cons item rest ih =>
    rw [List.map_cons, List.mapM_cons, ih, List.find?_cons, readAction_text]
    cases named : actionOf? item with
    | some a =>
      have passed : decide (¬NamesAction item) = false := by
        simp [namesAction_iff, named]
      rw [passed, List.filterMap_cons_some named]
      cases rest.find? fun item => ¬NamesAction item <;> rfl
    | none =>
      have failed : decide (¬NamesAction item) = true := by
        simp [namesAction_iff, named]
      rw [failed]
      rfl

theorem readActionItems_texts (words : List String) : readActionItems (words.map .text) =
    match words.find? fun item => ¬NamesAction item with
    | some item => Answer.refuse (Refusal.unknownAction item)
    | none => .ok (SortedSet.ofList (words.filterMap actionOf?)) := by
  rw [readActionItems, mapM_readAction_texts]
  cases words.find? fun item => ¬NamesAction item <;> rfl

theorem readActionItems_texts_eq_ok_iff {words : List String} {set : ActionSet} :
    readActionItems (words.map .text) = .ok set ↔
      (∀ item ∈ words, NamesAction item) ∧ set = SortedSet.ofList (words.filterMap actionOf?) := by
  rw [readActionItems_texts]
  cases unknown : words.find? fun item => ¬NamesAction item with
  | some item =>
    have failed := List.find?_some unknown
    have listed := List.mem_of_find?_eq_some unknown
    exact ⟨nofun, fun h => absurd (h.1 item listed) (of_decide_eq_true failed)⟩
  | none =>
    have passed : ∀ item ∈ words, NamesAction item := by simpa using unknown
    constructor
    · rintro ⟨⟩
      exact ⟨passed, rfl⟩
    · rintro ⟨-, rfl⟩
      rfl

theorem readActionItems_texts_eq_error_iff {words : List String} {failure : Failure} :
    readActionItems (words.map .text) = .error failure ↔
      ∃ item, (words.find? fun item => ¬NamesAction item) = some item ∧
        failure = .refused (Refusal.unknownAction item) := by
  rw [readActionItems_texts]
  cases words.find? fun item => ¬NamesAction item with
  | none => simp
  | some item => simp [Answer.refuse, eq_comm]

theorem readActionItems_append (front back : List Value) : readActionItems (front ++ back) = (do
    let first ← readActionItems front
    let second ← readActionItems back
    pure (first ∪ second)) := by
  unfold readActionItems
  rw [List.mapM_append]
  cases front.mapM readAction with
  | error _ => rfl
  | ok first =>
    cases back.mapM readAction with
    | error _ => rfl
    | ok second => exact congrArg Except.ok (SortedSet.ofList_append word_injective first second)

theorem readActions_text (s : String) :
    readActions (.text s) = readActionItems ((items s).map .text) := rfl

theorem find?_present (parts : List String) :
    ((present parts).find? fun item => ¬NamesAction item) =
      (parts.map trim).find? fun item => item ≠ "" ∧ ¬NamesAction item := by
  rw [present, List.find?_filter]
  congr 1
  funext item
  simp

theorem find?_items (s : String) :
    ((items s).find? fun item => ¬NamesAction item) = firstUnknown? s := by
  rw [items_eq_present, find?_present, cells_eq_splitOn, List.map_map]
  rfl

theorem readActions_text_eq_error_iff {s : String} {failure : Failure} :
    readActions (.text s) = .error failure ↔
      ∃ item, firstUnknown? s = some item ∧ failure = .refused (Refusal.unknownAction item) := by
  rw [readActions_text, readActionItems_texts_eq_error_iff, find?_items]

theorem readTexts_append (a b : String) : readTexts (.text (a ++ "," ++ b)) =
    .ok (SortedSet.ofList (items a) ∪ SortedSet.ofList (items b)) := by
  rw [readTexts_text, items_append, SortedSet.ofList_append Function.injective_id]

theorem readActions_append (a b : String) : readActions (.text (a ++ "," ++ b)) = (do
    let first ← readActions (.text a)
    let second ← readActions (.text b)
    pure (first ∪ second)) := by
  rw [readActions_text, items_append, List.map_append, readActionItems_append]
  rfl

theorem readTexts_members {v : Value} {set : TextSet} (h : readTexts v = .ok set)
    {members : List String} (same : ∀ x, x ∈ members ↔ x ∈ set) :
    readTexts (.set (members.map .text)) = .ok set := by
  have kept : present members = members := by
    have trimmed : members.map trim = members := by
      conv => rhs; rw [← List.map_id members]
      exact List.map_congr_left fun x member => (mem_of_readTexts h ((same x).1 member)).2.1
    rw [present, trimmed, List.filter_eq_self]
    intro x member
    simpa using (mem_of_readTexts h ((same x).1 member)).1.nonempty
  change readTexts (.list (members.map .text)) = _
  rw [readTexts_list, kept, SortedSet.ofList_of_mem Function.injective_id same]

theorem readActions_members {set : ActionSet} {members : List EppAction}
    (same : ∀ a, a ∈ members ↔ a ∈ set) : readActions (.set (members.map .ofMember)) = .ok set := by
  have read : (members.map Value.ofMember).mapM readAction = .ok members := by
    rw [Answer.mapM_eq_ok, List.map_map]
    rfl
  change ((members.map Value.ofMember).mapM readAction).map SortedSet.ofList = _
  rw [read, ← SortedSet.ofList_of_mem word_injective same]
  rfl

/-- Two texts with a comma between them are read as the union of what both are read as. Texts are
never refused, and what is read holds items without commas and is read again as it is; of words that
name no action the first one from the left is refused. -/
theorem comma_lists_compose :
    (∀ a b : String, ∃ first second, readTexts (.text a) = .ok first ∧
      readTexts (.text b) = .ok second ∧
      readTexts (.text (a ++ "," ++ b)) = .ok (first ∪ second)) ∧
    (∀ (v : Value) (set : TextSet), readTexts v = .ok set →
      (∀ x ∈ set, Item x ∧ (v.asText?.isSome = true → ',' ∉ x.toList)) ∧
      ∀ members : List String, (∀ x, x ∈ members ↔ x ∈ set) →
        readTexts (.set (members.map .text)) = .ok set) ∧
    (∀ a b : String, (∀ set, readActions (.text (a ++ "," ++ b)) = .ok set ↔
        ∃ first second, readActions (.text a) = .ok first ∧ readActions (.text b) = .ok second ∧
          set = first ∪ second) ∧
      ∀ failure, readActions (.text (a ++ "," ++ b)) = .error failure ↔
        ∃ item, firstUnknown? (a ++ "," ++ b) = some item ∧
          failure = .refused (Refusal.unknownAction item)) ∧
    ∀ (set : ActionSet) (members : List EppAction), (∀ a, a ∈ members ↔ a ∈ set) →
      readActions (.set (members.map .ofMember)) = .ok set := by
  refine ⟨?_, ?_, ?_, fun set members => readActions_members⟩
  · intro a b
    exact ⟨_, _, readTexts_text a, readTexts_text b, readTexts_append a b⟩
  · intro v set h
    refine ⟨fun x member => ?_, fun members => readTexts_members h⟩
    obtain ⟨item, -, free⟩ := mem_of_readTexts h member
    exact ⟨item, free⟩
  · intro a b
    refine ⟨fun set => ?_, fun failure => ?_⟩
    · rw [readActions_append]
      constructor
      · intro both
        obtain ⟨first, fromA, both⟩ := Answer.bind_eq_ok.1 both
        obtain ⟨second, fromB, both⟩ := Answer.bind_eq_ok.1 both
        cases both
        exact ⟨first, second, fromA, fromB, rfl⟩
      · rintro ⟨first, second, fromA, fromB, rfl⟩
        exact Answer.bind_eq_ok.2 ⟨first, fromA, Answer.bind_eq_ok.2 ⟨second, fromB, rfl⟩⟩
    · exact readActions_text_eq_error_iff

theorem comma_lists_compose_of_gaps : ∃ first second both : TextSet,
    readTexts " dev ,,app" = .ok first ∧ readTexts "app ," = .ok second ∧
    readTexts (.text (" dev ,,app" ++ "," ++ "app ,")) = .ok both ∧ both = first ∪ second ∧
    both.items = ["app", "dev"] ∧ Item "dev" ∧ ',' ∉ "dev".toList ∧
    readTexts (.set [.text "dev", .text "app"]) = .ok both ∧
    readActions (.text ("renew, Sell " ++ "," ++ "nope")) =
      .error (.refused (Refusal.unknownAction "Sell")) := by
  obtain ⟨texts, kept, actions, -⟩ := comma_lists_compose
  obtain ⟨first, second, readFirst, readSecond, readBoth⟩ := texts " dev ,,app" "app ,"
  have items : (first ∪ second).items = ["app", "dev"] := by
    cases readFirst
    cases readSecond
    decide +kernel
  have same : ∀ x, x ∈ ["dev", "app"] ↔ x ∈ first ∪ second := by
    intro x
    change _ ↔ x ∈ (first ∪ second).items
    rw [items]
    simp [or_comm]
  obtain ⟨each, again⟩ := kept _ _ readBoth
  obtain ⟨item, free⟩ := each "dev" ((same "dev").1 List.mem_cons_self)
  have refused := (actions "renew, Sell " "nope").2 (.refused (Refusal.unknownAction "Sell"))
  exact ⟨first, second, _, readFirst, readSecond, readBoth, rfl, items, item, free rfl,
    again ["dev", "app"] same, refused.2 ⟨"Sell", by decide +kernel, rfl⟩⟩

end RegistryTokens.Field
