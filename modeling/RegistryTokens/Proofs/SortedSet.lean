import RegistryTokens.SortedSet

/-!
# Sets by their members

A sorted set is told by its members: in which order items are put in is nothing, and an item that is
put in twice is there once. So the items of two lists make the union of the sets of both.
-/

set_option autoImplicit false

namespace RegistryTokens

theorem word_injective : Function.Injective fun a : EppAction => word a := by
  intro a b same
  have found : some a = some b := by
    rw [← find?_word_action a, ← find?_word_action b]
    exact congrArg Vocabulary.find? same
  exact Option.some.inj found

namespace SortedSet

variable {α : Type} {key : α → String}

theorem insertInto_of_lt {a : α} {items : List α} (h : ∀ b ∈ items, key a < key b) :
    insertInto key a items = a :: items := by
  cases items with
  | nil => rfl
  | cons b rest => rw [insertInto, if_pos (h b List.mem_cons_self)]

theorem items_ofList {items : List α} (h : items.Pairwise fun a b => key a < key b) :
    (ofList items : SortedSet key).items = items := by
  induction items with
  | nil => rfl
  | cons a rest ih =>
    obtain ⟨first, tail⟩ := List.pairwise_cons.1 h
    change insertInto key a (ofList rest : SortedSet key).items = a :: rest
    rw [ih tail, insertInto_of_lt first]

theorem ofList_items (s : SortedSet key) : ofList s.items = s := by
  have same := items_ofList s.sorted
  cases h : (ofList s.items : SortedSet key)
  cases s
  simp_all

instance : Membership α (SortedSet key) := ⟨fun s a => a ∈ s.items⟩

instance : Union (SortedSet key) := ⟨fun s t => ofList (s.items ++ t.items)⟩

theorem nodup_items (s : SortedSet key) : s.items.Nodup := by
  apply s.sorted.imp
  rintro a _ before rfl
  exact String.lt_irrefl (key a) before

theorem ext_mem {s t : SortedSet key} (same : ∀ a, a ∈ s ↔ a ∈ t) : s = t := by
  have perm : s.items.Perm t.items :=
    (List.perm_ext_iff_of_nodup s.nodup_items t.nodup_items).2 same
  have items : s.items = t.items := by
    refine List.Perm.eq_of_pairwise (fun a b _ _ before after => ?_) s.sorted t.sorted perm
    exact absurd (String.lt_trans before after) (String.lt_irrefl _)
  cases s
  cases t
  cases items
  rfl

section
variable (apart : Function.Injective key)
include apart

theorem mem_insertInto {a x : α} {items : List α} :
    x ∈ insertInto key a items ↔ x = a ∨ x ∈ items := by
  induction items with
  | nil => simp [insertInto]
  | cons b rest ih =>
    unfold insertInto
    split
    · exact List.mem_cons
    · rename_i notBefore
      split
      · rw [List.mem_cons, ih, List.mem_cons, or_left_comm]
      · rename_i notAfter
        have same : a = b :=
          apart (String.le_antisymm (String.not_lt.1 notAfter) (String.not_lt.1 notBefore))
        simp [same]

theorem mem_ofList {x : α} {items : List α} : x ∈ (ofList items : SortedSet key) ↔ x ∈ items := by
  induction items with
  | nil => exact Iff.rfl
  | cons a rest ih =>
    change x ∈ insertInto key a (ofList rest : SortedSet key).items ↔ _
    rw [mem_insertInto apart, List.mem_cons]
    exact or_congr_right ih

theorem mem_union {x : α} {s t : SortedSet key} : x ∈ s ∪ t ↔ x ∈ s ∨ x ∈ t :=
  (mem_ofList apart).trans List.mem_append

theorem ofList_of_mem {items : List α} {s : SortedSet key} (same : ∀ x, x ∈ items ↔ x ∈ s) :
    ofList items = s :=
  ext_mem fun x => (mem_ofList apart).trans (same x)

theorem ofList_append (front back : List α) :
    (ofList (front ++ back) : SortedSet key) = ofList front ∪ ofList back := by
  apply ofList_of_mem apart
  intro x
  rw [mem_union apart, mem_ofList apart, mem_ofList apart, List.mem_append]

end

end SortedSet

end RegistryTokens
