import RegistryTokens.Keyed
import RegistryTokens.Store.Table

/-!
# Rows by their keys

A key names at most one row, so looking a key up and finding its row in the list are the same. The
sorted rows are the same rows, in strictly increasing order of their keys.
-/

set_option autoImplicit false

namespace RegistryTokens

theorem mem_distinct {α : Type} [BEq α] [LawfulBEq α] {a : α} {items : List α} :
    a ∈ distinct items ↔ a ∈ items := by
  induction items with
  | nil => rfl
  | cons b rest ih =>
    by_cases h : a = b
    · simp [distinct, h]
    · have other : ¬ b = a := fun same => h same.symm
      simp [distinct, ih, h, other]

theorem nodup_distinct {α : Type} [BEq α] [LawfulBEq α] (items : List α) :
    (distinct items).Nodup := by
  induction items with
  | nil => exact List.nodup_nil
  | cons a rest ih => exact List.nodup_cons.2 ⟨by simp, ih.filter _⟩

theorem distinct_perm {α : Type} [BEq α] [LawfulBEq α] {items others : List α}
    (same : ∀ a, a ∈ items ↔ a ∈ others) : (distinct items).Perm (distinct others) :=
  (List.perm_ext_iff_of_nodup (nodup_distinct items) (nodup_distinct others)).2 fun a => by
    rw [mem_distinct, mem_distinct, same]

theorem distinct_append {α : Type} [BEq α] [LawfulBEq α] {front back : List α}
    (apart : ∀ a ∈ front, a ∉ back) : distinct (front ++ back) = distinct front ++ distinct back := by
  induction front with
  | nil => rfl
  | cons a rest ih =>
    obtain ⟨fresh, apart⟩ := List.forall_mem_cons.1 apart
    have untouched : (distinct back).filter (fun b => !(a == b)) = distinct back := by
      refine List.filter_eq_self.2 fun b hb => ?_
      rw [mem_distinct] at hb
      have other : a ≠ b := fun same => fresh (same ▸ hb)
      simpa using other
    rw [List.cons_append, distinct, ih apart, List.filter_append, untouched, distinct,
      List.cons_append]

theorem distinct_of_nodup {α : Type} [BEq α] [LawfulBEq α] {items : List α} (h : items.Nodup) :
    distinct items = items := by
  induction items with
  | nil => rfl
  | cons a rest ih =>
    obtain ⟨fresh, apart⟩ := List.nodup_cons.1 h
    have other : ∀ b ∈ rest, (!(a == b)) = true := by
      intro b hb
      have : a ≠ b := fun same => fresh (same ▸ hb)
      simpa using this
    rw [distinct, ih apart, List.filter_eq_self.2 other]

theorem find?_distinct {α : Type} [BEq α] [LawfulBEq α] (p : α → Bool) (items : List α) :
    (distinct items).find? p = items.find? p := by
  induction items with
  | nil => rfl
  | cons a rest ih =>
    rw [distinct, List.find?_cons, List.find?_cons]
    cases first : p a with
    | true => rfl
    | false =>
      have other : (fun b => decide ((!(a == b)) = true ∧ p b = true)) = p := by
        funext b
        by_cases same : a = b
        · subst same
          simp [first]
        · simp [same]
      rw [List.find?_filter, other, ih]

theorem nodup_of_increasing {names : List String} (h : names.Pairwise (· < ·)) : names.Nodup := by
  apply h.imp
  rintro a _ before rfl
  exact String.lt_irrefl a before

namespace Store.Table

variable {α : Type}

theorem get?_eq_some_iff {t : Table α} {key : String} {row : α} :
    t.get? key = some row ↔ (key, row) ∈ t.rows := by
  obtain ⟨rows, distinctKeys⟩ := t
  simp only [get?]
  induction rows with
  | nil => simp
  | cons first rest ih =>
    obtain ⟨fresh, distinctRest⟩ := List.nodup_cons.1 distinctKeys
    by_cases h : first.1 = key
    · have absent : (key, row) ∉ rest := fun there =>
        fresh (List.mem_map.2 ⟨(key, row), there, h.symm⟩)
      subst h
      obtain ⟨k, r⟩ := first
      simp [absent, eq_comm]
    · have other : (key, row) ≠ first := by
        rintro rfl
        exact h rfl
      simp [h, other, ih distinctRest]

theorem mem_keys_iff {t : Table α} {key : String} :
    key ∈ t.keys ↔ ∃ row, t.get? key = some row := by
  simp only [get?_eq_some_iff, keys, List.mem_map]
  constructor
  · rintro ⟨row, there, rfl⟩
    exact ⟨row.2, there⟩
  · rintro ⟨row, there⟩
    exact ⟨(key, row), there, rfl⟩

theorem get?_of_perm {t u : Table α} (same : t.rows.Perm u.rows) (key : String) :
    t.get? key = u.get? key := by
  refine Option.ext fun row => ?_
  rw [get?_eq_some_iff, get?_eq_some_iff, same.mem_iff]

theorem mem_keys_of_perm {t u : Table α} (same : t.rows.Perm u.rows) (key : String) :
    key ∈ t.keys ↔ key ∈ u.keys := by
  rw [mem_keys_iff, mem_keys_iff, get?_of_perm same]

theorem get?_of_insert? {t u : Table α} {key : String} {row : α} (h : t.insert? key row = some u) :
    t.get? key = none := by
  unfold insert? at h
  split at h
  · cases h
  · rename_i free
    refine Option.eq_none_iff_forall_ne_some.2 fun found stored => free ?_
    exact mem_keys_iff.2 ⟨found, stored⟩

theorem ext_get? {t u : Table α} (keys : t.keys = u.keys) (same : ∀ key, t.get? key = u.get? key) :
    t = u := by
  have entries (t : Table α) : t.keys.map (fun key => (key, t.get? key)) =
      t.rows.map fun row => (row.1, some row.2) := by
    rw [Table.keys, List.map_map]
    refine List.map_congr_left fun row stored => ?_
    rw [Function.comp_apply, get?_eq_some_iff.2 stored]
  have rows : t.rows = u.rows := by
    have both := entries u
    rw [← keys, ← funext same, entries t] at both
    refine (List.map_inj_right fun a b equal => ?_).1 both
    obtain ⟨key, value⟩ := Prod.mk.inj equal
    exact Prod.ext key (Option.some.inj value)
  cases t
  cases u
  cases rows
  rfl

theorem mem_sorted {t : Table α} {row : String × α} : row ∈ t.sorted ↔ row ∈ t.rows :=
  List.mem_mergeSort

theorem sorted_increasing (t : Table α) : (t.sorted.map (·.1)).Pairwise (· < ·) := by
  have ordered : (t.sorted.map (·.1)).Pairwise (· ≤ ·) := by
    refine List.pairwise_map.2 ((List.pairwise_mergeSort ?_ ?_ t.rows).imp ?_)
    · intro a b c hab hbc
      exact decide_eq_true (String.le_trans (of_decide_eq_true hab) (of_decide_eq_true hbc))
    · intro a b
      simpa using String.le_total a.1 b.1
    · intro a b hab
      exact of_decide_eq_true hab
  have apart : (t.sorted.map (·.1)).Nodup :=
    ((List.mergeSort_perm _ _).map _).nodup_iff.2 t.distinctKeys
  refine (ordered.and apart).imp fun {a b} h => ?_
  exact String.not_le.1 fun back => h.2 (String.le_antisymm h.1 back)

end Store.Table

end RegistryTokens
