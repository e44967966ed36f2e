import RegistryTokens.Vocabulary

/-!
# Sorted sets

A finite set is kept as the list of its items in strictly increasing order of their key texts, so
equal sets are equal lists. Text is its own key; a protocol action is ordered by its word.
-/

set_option autoImplicit false

namespace RegistryTokens

structure SortedSet {α : Type} (key : α → String) where
  items : List α
  sorted : items.Pairwise fun a b => key a < key b
  deriving Repr

namespace SortedSet

variable {α : Type} {key : α → String}

instance [DecidableEq α] : DecidableEq (SortedSet key) := fun a b =>
  if h : a.items = b.items then isTrue (by cases a; cases b; simp_all)
  else isFalse fun same => h (by rw [same])

def empty : SortedSet key := ⟨[], List.Pairwise.nil⟩

instance : Inhabited (SortedSet key) := ⟨empty⟩

def insertInto (key : α → String) (a : α) : List α → List α
  | [] => [a]
  | b :: rest =>
    if key a < key b then a :: b :: rest
    else if key b < key a then b :: insertInto key a rest
    else b :: rest

theorem mem_of_mem_insertInto {a x : α} {items : List α} (h : x ∈ insertInto key a items) :
    x = a ∨ x ∈ items := by
  induction items with
  | nil => simpa [insertInto] using h
  | cons b rest ih =>
    unfold insertInto at h
    split at h
    · simpa using h
    · split at h
      · rcases List.mem_cons.1 h with here | there
        · exact Or.inr (by simp [here])
        · rcases ih there with same | inRest
          · exact Or.inl same
          · exact Or.inr (by simp [inRest])
      · exact Or.inr h

theorem sorted_insertInto (a : α) {items : List α}
    (h : items.Pairwise fun a b => key a < key b) :
    (insertInto key a items).Pairwise fun a b => key a < key b := by
  induction items with
  | nil => exact List.pairwise_singleton _ _
  | cons b rest ih =>
    obtain ⟨head, tail⟩ := List.pairwise_cons.1 h
    unfold insertInto
    split
    · next before =>
      refine List.pairwise_cons.2 ⟨fun c hc => ?_, h⟩
      rcases List.mem_cons.1 hc with rfl | inRest
      · exact before
      · exact String.lt_trans before (head c inRest)
    · split
      · next after =>
        refine List.pairwise_cons.2 ⟨fun c hc => ?_, ih tail⟩
        rcases mem_of_mem_insertInto hc with rfl | inRest
        · exact after
        · exact head c inRest
      · exact h

def insert (a : α) (s : SortedSet key) : SortedSet key :=
  ⟨insertInto key a s.items, sorted_insertInto a s.sorted⟩

def ofList (items : List α) : SortedSet key := items.foldr insert empty

def size (s : SortedSet key) : Nat := s.items.length

end SortedSet

abbrev TextSet := SortedSet (fun s : String => s)

abbrev ActionSet := SortedSet (fun a : EppAction => word a)

end RegistryTokens
