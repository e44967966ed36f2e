import Mathlib.Data.List.Perm.Subperm
import RegistryTokens.Proofs.Sorting
import RegistryTokens.Value.Order

/-!
# Values that stand for texts

Texts, and members in the place of their words, mean the same where their texts are the same, and
texts come before each other as they do by their characters. Nothing of this kind has a number to be
placed by, so a set of it keeps the order in which its items come; two such sets mean the same if
the items of one are those of the other in any order, and sorting their texts makes them alike.
-/

set_option autoImplicit false

namespace RegistryTokens

namespace Value

section
variable {a b : Value} {s t : String}

theorem same?_of_asText (ha : a.asText? = some s) (hb : b.asText? = some t) :
    same? a b = some (s == t) := by
  cases a <;> cases ha <;> cases b <;> cases hb <;> simp only [same?, asText?]

theorem before_of_asText (ha : a.asText? = some s) (hb : b.asText? = some t) :
    before a b = .ok (decide (s < t)) := by
  cases a <;> cases ha <;> cases b <;> cases hb <;> simp only [before, asText?]

theorem isKey_of_asText (ha : a.asText? = some s) : a.isKey = true := by
  cases a <;> cases ha <;> simp only [isKey]

theorem placeNumber?_of_asText (ha : a.asText? = some s) : a.placeNumber? = none := by
  cases a <;> cases ha <;> simp [placeNumber?, residue?, asNumber?]

end

def sortTexts (texts : List String) : List String := texts.mergeSort fun a b => a ≤ b

theorem sortTexts_perm (texts : List String) : (sortTexts texts).Perm texts :=
  List.mergeSort_perm _ _

theorem sortTexts_sorted (texts : List String) : (sortTexts texts).Pairwise (· ≤ ·) := by
  refine (List.pairwise_mergeSort ?_ ?_ texts).imp ?_
  · intro a b c hab hbc
    exact decide_eq_true (String.le_trans (of_decide_eq_true hab) (of_decide_eq_true hbc))
  · intro a b
    simpa using String.le_total a b
  · intro a b hab
    exact of_decide_eq_true hab

theorem sortTexts_increasing {texts : List String} (apart : texts.Nodup) :
    (sortTexts texts).Pairwise (· < ·) := by
  have nodup : (sortTexts texts).Nodup := (sortTexts_perm texts).nodup_iff.2 apart
  refine ((sortTexts_sorted texts).and nodup).imp fun {a b} h => ?_
  exact String.not_le.1 fun back => h.2 (String.le_antisymm h.1 back)

theorem sortTexts_of_perm {texts others : List String} (same : texts.Perm others) :
    sortTexts texts = sortTexts others := by
  refine List.Perm.eq_of_pairwise (fun a b _ _ hab hba => String.le_antisymm hab hba)
    (sortTexts_sorted texts) (sortTexts_sorted others) ?_
  exact (sortTexts_perm texts).trans (same.trans (sortTexts_perm others).symm)

theorem orders_texts : Sorting.Orders before (fun a => ∃ s, a = text s)
    fun a b => ∃ s t, a = text s ∧ b = text t ∧ s ≤ t := by
  constructor
  · rintro _ _ ⟨s, rfl⟩ ⟨t, rfl⟩
    rw [before_of_asText rfl rfl]
    by_cases lt : s < t
    · rw [decide_eq_true lt]
      exact .inl ⟨rfl, s, t, rfl, rfl, String.not_lt.1 (String.lt_asymm lt)⟩
    · rw [decide_eq_false lt]
      exact .inr ⟨rfl, t, s, rfl, rfl, String.not_lt.1 lt⟩
  · rintro _ _ _ ⟨s, t, rfl, rfl, first⟩ ⟨_, u, ⟨⟩, rfl, second⟩
    exact ⟨s, u, rfl, rfl, String.le_trans first second⟩

theorem inOrder_texts (texts : List String) :
    inOrder (texts.map text) = .ok ((sortTexts texts).map text) := by
  have all : ∀ a ∈ texts.map text, ∃ s, a = text s := by
    intro a ha
    obtain ⟨s, -, rfl⟩ := List.mem_map.1 ha
    exact ⟨s, rfl⟩
  obtain ⟨sorted, answered, increasing, perm⟩ := Sorting.sort_yields orders_texts all
  have same : sorted = (sortTexts texts).map text := by
    refine List.Perm.eq_of_pairwise ?_ increasing ?_ (perm.trans ((sortTexts_perm texts).map text).symm)
    · rintro _ _ _ _ ⟨s, t, rfl, rfl, first⟩ ⟨_, _, ⟨⟩, ⟨⟩, second⟩
      rw [String.le_antisymm first second]
    · refine List.pairwise_map.2 ((sortTexts_sorted texts).imp fun {a b} le => ?_)
      exact ⟨a, b, rfl, rfl, le⟩
  rw [inOrder, answered, same]

structure Worded {α : Type} (value : α → Value) (word : α → String) : Prop where
  asText : ∀ a, (value a).asText? = some (word a)
  apart : ∀ {a b}, word a = word b → a = b

theorem worded_text : Worded text id := ⟨fun _ => rfl, fun same => same⟩

theorem worded_action : Worded (fun a : EppAction => ofMember a) fun a => word a := by
  constructor
  · intro a
    rfl
  · intro a b same
    have found := find?_word_action a
    rw [same, find?_word_action] at found
    exact (Option.some.inj found).symm

namespace Worded

variable {α : Type} {value : α → Value} {word : α → String} {items others : List α}

theorem same?_eq (h : Worded value word) (a b : α) :
    same? (value a) (value b) = some (word a == word b) :=
  same?_of_asText (h.asText a) (h.asText b)

theorem same?_iff (h : Worded value word) {a b : α} :
    same? (value a) (value b) = some true ↔ a = b := by
  rw [h.same?_eq]
  constructor
  · intro same
    exact h.apart (eq_of_beq (Option.some.inj same))
  · rintro rfl
    simp

theorem areKeys (h : Worded value word) (items : List α) : areKeys (items.map value) = true := by
  induction items with
  | nil => simp [Value.areKeys]
  | cons a rest ih => simp [Value.areKeys, isKey_of_asText (h.asText a), ih]

theorem distinct (h : Worded value word) (apart : items.Nodup) :
    RegistryTokens.distinct (items.map value) = items.map value := by
  induction items with
  | nil => rfl
  | cons a rest ih =>
    obtain ⟨fresh, apart⟩ := List.nodup_cons.1 apart
    rw [List.map_cons, RegistryTokens.distinct, ih apart]
    refine congrArg (value a :: ·) (List.filter_eq_self.2 ?_)
    intro b hb
    obtain ⟨c, hc, rfl⟩ := List.mem_map.1 hb
    have other : same (value a) (value c) = false := by
      refine Bool.eq_false_iff.2 fun same => fresh ?_
      exact h.same?_iff.1 (eq_of_beq same) ▸ hc
    exact Bool.not_eq_true' _ ▸ other

theorem placed (h : Worded value word) (items : List α) :
    placed (items.map value) = items.map value := by
  cases items with
  | nil =>
    simp only [List.map_nil, Value.placed, placeNumbers?]
    rfl
  | cons a rest =>
    unfold Value.placed
    rw [List.map_cons, placeNumbers?, placeNumber?_of_asText (h.asText a)]
    rfl

theorem setOf? (h : Worded value word) (apart : items.Nodup) :
    setOf? (items.map value) = some (set (items.map value)) := by
  rw [Value.setOf?, if_pos (h.areKeys items), h.distinct apart, h.placed items]

theorem allWithin_iff (h : Worded value word) :
    allWithin (items.map value) (others.map value) = true ↔ ∀ a ∈ items, a ∈ others := by
  induction items with
  | nil => simp [allWithin]
  | cons a rest ih =>
    have found : (others.map value).any (fun b => same? (value a) b == some true) = true ↔
        a ∈ others := by
      simp [List.any_eq_true, h.same?_iff]
    rw [List.map_cons, allWithin, Bool.and_eq_true, ih, found, List.forall_mem_cons]

theorem same_set_iff (h : Worded value word) (apart : items.Nodup) :
    same (set (items.map value)) (set (others.map value)) = true ↔ items.Perm others := by
  have meaning : same (set (items.map value)) (set (others.map value)) = true ↔
      items.length = others.length ∧ ∀ a ∈ items, a ∈ others := by
    rw [← h.allWithin_iff]
    simp [same, same?]
  rw [meaning]
  constructor
  · rintro ⟨length, within⟩
    exact (List.subperm_of_subset apart within).perm_of_length_le (Nat.le_of_eq length.symm)
  · intro perm
    exact ⟨perm.length_eq, fun a ha => perm.mem_iff.1 ha⟩

end Worded

end Value

end RegistryTokens
