import RegistryTokens.Keyed
import RegistryTokens.Proofs.Store.Table

/-!
# Keys of ordered tables

Putting entries into a table leaves no key twice and changes only what is found under their keys. A
table is its keys in their order and what is found under them.
-/

set_option autoImplicit false

namespace RegistryTokens.Keyed

variable {κ α : Type} [BEq κ]

def keys (table : Keyed κ α) : List κ := table.map (·.1)

theorem has_eq_isSome (table : Keyed κ α) (key : κ) : has table key = (get? table key).isSome := by
  rw [Bool.eq_iff_iff, has, get?, Option.isSome_map, List.any_eq_true, List.find?_isSome]

theorem get?_append (front back : Keyed κ α) (key : κ) :
    get? (front ++ back) key = (get? front key).or (get? back key) := by
  unfold get?
  rw [List.find?_append]
  cases front.find? fun entry => entry.1 == key <;> rfl

theorem get?_put_of_beq {key : κ} (itself : (key == key) = true) (table : Keyed κ α) (value : α) :
    get? (put key value table) key = some value := by
  induction table with
  | nil => simp [put, get?, itself]
  | cons entry rest ih =>
    obtain ⟨k, v⟩ := entry
    unfold get? at ih
    by_cases same : (k == key) = true
    · simp [put, get?, same]
    · simpa [put, get?, same] using ih

theorem get?_put_of_apart {key other : κ} (itself : (key == key) = true)
    (apart : ∀ k, (k == key) = true → ¬(k == other) = true) (table : Keyed κ α) (value : α) :
    get? (put key value table) other = get? table other := by
  induction table with
  | nil => simp [put, get?, apart key itself]
  | cons entry rest ih =>
    obtain ⟨k, v⟩ := entry
    unfold get? at ih
    by_cases same : (k == key) = true
    · simp [put, get?, same, apart k same]
    · by_cases found : (k == other) = true
      · simp [put, get?, same, found]
      · simpa [put, get?, same, found] using ih

theorem put_put {key : κ} (itself : (key == key) = true) (table : Keyed κ α) (value before : α) :
    put key value (put key before table) = put key value table := by
  induction table with
  | nil => simp [put, itself]
  | cons entry rest ih =>
    obtain ⟨k, v⟩ := entry
    by_cases same : (k == key) = true
    · simp [put, same]
    · simpa [put, same] using ih

theorem put_of_get? {table : Keyed κ α} {key : κ} {value : α} (held : get? table key = some value) :
    put key value table = table := by
  induction table with
  | nil => cases held
  | cons entry rest ih =>
    obtain ⟨k, v⟩ := entry
    unfold get? at ih
    by_cases same : (k == key) = true
    · simp [get?, same] at held
      simp [put, same, held]
    · simp [get?, same] at held
      simpa [put, same] using ih (by simpa using held)

theorem put_ne_nil (key : κ) (value : α) (table : Keyed κ α) : put key value table ≠ [] := by
  cases table with
  | nil => exact List.cons_ne_nil _ _
  | cons entry rest =>
    obtain ⟨k, v⟩ := entry
    unfold put
    by_cases same : (k == key) = true
    · rw [if_pos same]
      exact List.cons_ne_nil _ _
    · rw [if_neg same]
      exact List.cons_ne_nil _ _

theorem mem_or_of_mem_put {table : Keyed κ α} {key : κ} {value : α} {entry : κ × α}
    (there : entry ∈ put key value table) : entry.2 = value ∨ entry ∈ table := by
  induction table with
  | nil =>
    rw [List.mem_singleton.1 there]
    exact .inl rfl
  | cons first rest ih =>
    obtain ⟨k, v⟩ := first
    unfold put at there
    by_cases same : (k == key) = true
    · rw [if_pos same] at there
      rcases List.mem_cons.1 there with rfl | later
      · exact .inl rfl
      · exact .inr (List.mem_cons_of_mem _ later)
    · rw [if_neg same] at there
      rcases List.mem_cons.1 there with rfl | later
      · exact .inr List.mem_cons_self
      · exact (ih later).imp_right (List.mem_cons_of_mem _)

theorem map_put {β : Type} (f : α → β) (key : κ) (value : α) (table : Keyed κ α) :
    (put key value table).map (fun entry => (entry.1, f entry.2)) =
      put key (f value) (table.map fun entry => (entry.1, f entry.2)) := by
  induction table with
  | nil => rfl
  | cons entry rest ih =>
    obtain ⟨k, v⟩ := entry
    by_cases same : (k == key) = true
    · simp [put, same]
    · simpa [put, same] using ih

variable [LawfulBEq κ]

theorem has_iff {table : Keyed κ α} {key : κ} : has table key = true ↔ key ∈ table.keys := by
  simp [has, keys]

theorem get?_eq_none_iff {table : Keyed κ α} {key : κ} : get? table key = none ↔ key ∉ table.keys := by
  rw [← has_iff, has_eq_isSome, Bool.not_eq_true, Option.isSome_eq_false_iff, Option.isNone_iff_eq_none]

theorem mem_keys_put {table : Keyed κ α} {key other : κ} {value : α} :
    other ∈ (put key value table).keys ↔ other = key ∨ other ∈ table.keys := by
  induction table with
  | nil => simp [put, keys]
  | cons entry rest ih =>
    obtain ⟨k, v⟩ := entry
    unfold put
    split
    · rename_i same
      rw [← eq_of_beq same]
      simp [keys]
    · simp only [keys, List.map_cons, List.mem_cons] at ih ⊢
      rw [ih, or_left_comm]

theorem nodup_put {table : Keyed κ α} (h : table.keys.Nodup) (key : κ) (value : α) :
    (put key value table).keys.Nodup := by
  induction table with
  | nil => simp [put, keys]
  | cons entry rest ih =>
    obtain ⟨k, v⟩ := entry
    obtain ⟨fresh, distinctRest⟩ := List.nodup_cons.1 h
    unfold put
    split
    · exact h
    · rename_i differs
      refine List.nodup_cons.2 ⟨fun there => ?_, ih distinctRest⟩
      rcases mem_keys_put.1 there with same | there
      · exact differs (beq_of_eq same)
      · exact fresh there

theorem mem_of_mem_put {table : Keyed κ α} (apart : table.keys.Nodup) {key : κ} {value : α}
    {entry : κ × α} (h : entry ∈ put key value table) :
    entry = (key, value) ∨ entry ∈ table ∧ entry.1 ≠ key := by
  induction table with
  | nil => exact .inl (List.mem_singleton.1 h)
  | cons first rest ih =>
    obtain ⟨k, v⟩ := first
    obtain ⟨fresh, apart⟩ := List.nodup_cons.1 apart
    unfold put at h
    split at h
    · rename_i same
      rw [← eq_of_beq same]
      refine (List.mem_cons.1 h).imp_right fun later => ⟨List.mem_cons_of_mem _ later, ?_⟩
      exact fun same => fresh (List.mem_map.2 ⟨entry, later, same⟩)
    · rename_i differs
      rcases List.mem_cons.1 h with rfl | later
      · exact .inr ⟨List.mem_cons_self, fun same => differs (beq_of_eq same)⟩
      · exact (ih apart later).imp_right fun there => ⟨List.mem_cons_of_mem _ there.1, there.2⟩

theorem keys_put_of_mem {table : Keyed κ α} {key : κ} (h : key ∈ table.keys) (value : α) :
    (put key value table).keys = table.keys := by
  induction table with
  | nil => cases h
  | cons entry rest ih =>
    obtain ⟨k, v⟩ := entry
    unfold put
    split
    · rfl
    · rename_i differs
      have later : key ∈ keys rest :=
        (List.mem_cons.1 h).resolve_left fun same => differs (beq_of_eq same.symm)
      exact congrArg (k :: ·) (ih later)

theorem put_of_not_mem {table : Keyed κ α} {key : κ} (h : key ∉ table.keys) (value : α) :
    put key value table = table ++ [(key, value)] := by
  induction table with
  | nil => rfl
  | cons entry rest ih =>
    obtain ⟨k, v⟩ := entry
    rw [keys, List.map_cons, List.mem_cons, not_or] at h
    have differs : ¬(k == key) = true := fun same => h.1 (eq_of_beq same).symm
    rw [put, if_neg differs, ih h.2, List.cons_append]

theorem has_put {table : Keyed κ α} {key other : κ} {value : α} :
    has (put key value table) other = (key == other || has table other) := by
  rw [Bool.eq_iff_iff, Bool.or_eq_true, has_iff, has_iff, mem_keys_put, beq_iff_eq, eq_comm]

theorem keys_extend (table : Keyed κ α) (entries : List (κ × α)) : (extend table entries).keys =
    table.keys ++ (distinct (entries.map (·.1))).filter fun key => !has table key := by
  induction entries generalizing table with
  | nil => simp [extend, distinct]
  | cons entry rest ih =>
    obtain ⟨k, v⟩ := entry
    have later : (fun key => !has (put k v table) key) = fun key => !has table key && !(k == key) := by
      funext key
      rw [has_put, Bool.not_or, Bool.and_comm]
    change (extend (put k v table) rest).keys = _
    rw [ih, later, List.map_cons, distinct, List.filter_cons, List.filter_filter]
    by_cases there : k ∈ table.keys
    · rw [has_iff.2 there, keys_put_of_mem there]
      rfl
    · rw [Bool.eq_false_iff.2 fun held => there (has_iff.1 held), put_of_not_mem there]
      simp [keys]

theorem nodup_extend {table : Keyed κ α} (h : table.keys.Nodup) (entries : List (κ × α)) :
    (extend table entries).keys.Nodup := by
  induction entries generalizing table with
  | nil => exact h
  | cons entry rest ih => exact ih (nodup_put h entry.1 entry.2)

theorem keys_ofList (entries : List (κ × α)) :
    (ofList entries).keys = distinct (entries.map (·.1)) :=
  (keys_extend [] entries).trans (List.filter_eq_self.2 fun _ _ => rfl)

theorem nodup_ofList (entries : List (κ × α)) : (ofList entries).keys.Nodup := by
  rw [keys_ofList]
  exact nodup_distinct _

theorem keys_extend_of_subset {table : Keyed κ α} {entries : List (κ × α)}
    (h : ∀ entry ∈ entries, entry.1 ∈ table.keys) : (extend table entries).keys = table.keys := by
  have none : (distinct (entries.map (·.1))).filter (fun key => !has table key) = [] := by
    refine List.filter_eq_nil_iff.2 fun key put => ?_
    obtain ⟨entry, given, rfl⟩ := List.mem_map.1 (mem_distinct.1 put)
    simpa using has_iff.2 (h entry given)
  rw [keys_extend, none, List.append_nil]

theorem mem_of_mem_extend {table : Keyed κ α} (apart : table.keys.Nodup) {entries : List (κ × α)}
    {entry : κ × α} (h : entry ∈ extend table entries) :
    entry ∈ entries ∨ entry ∈ table ∧ entry.1 ∉ entries.map (·.1) := by
  induction entries generalizing table with
  | nil => exact .inr ⟨h, List.not_mem_nil⟩
  | cons first rest ih =>
    rcases ih (nodup_put apart first.1 first.2) h with later | ⟨there, notLater⟩
    · exact .inl (List.mem_cons_of_mem _ later)
    · rcases mem_of_mem_put apart there with rfl | ⟨old, other⟩
      · exact .inl List.mem_cons_self
      · exact .inr ⟨old, List.not_mem_cons_of_ne_of_not_mem other notLater⟩

theorem mem_of_mem_ofList {entries : List (κ × α)} {entry : κ × α} (h : entry ∈ ofList entries) :
    entry ∈ entries := by
  have none : keys ([] : Keyed κ α) = [] := rfl
  exact (mem_of_mem_extend (none ▸ List.nodup_nil) h).resolve_right fun old => nomatch old.1

theorem get?_filter (p : κ → Bool) (table : Keyed κ α) (key : κ) :
    get? (table.filter fun entry => p entry.1) key = if p key then get? table key else none := by
  unfold get?
  rw [List.find?_filter]
  cases kept : p key with
  | true =>
    have same : (fun entry : κ × α => decide (p entry.1 = true ∧ (entry.1 == key) = true)) =
        fun entry => entry.1 == key := by
      funext entry
      by_cases found : entry.1 = key
      · simp [found, kept]
      · simp [found]
    rw [same]
    rfl
  | false =>
    have none : table.find? (fun entry => decide (p entry.1 = true ∧ (entry.1 == key) = true)) =
        none := by
      refine List.find?_eq_none.2 fun entry _ found => ?_
      obtain ⟨passes, same⟩ := of_decide_eq_true found
      rw [eq_of_beq same, kept] at passes
      cases passes
    rw [none]
    rfl

theorem get?_extend (table : Keyed κ α) (entries : List (κ × α)) (key : κ) :
    get? (extend table entries) key = (get? entries.reverse key).or (get? table key) := by
  induction entries generalizing table with
  | nil => rfl
  | cons entry rest ih =>
    obtain ⟨k, v⟩ := entry
    change get? (extend (put k v table) rest) key = _
    rw [ih, List.reverse_cons, get?_append, Option.or_assoc]
    congr 1
    by_cases same : k = key
    · subst same
      rw [get?_put_self]
      simp [get?]
    · rw [get?_put_of_ne table v same]
      simp [get?, same]

theorem get?_extend_of_not_mem {table : Keyed κ α} {entries : List (κ × α)} {key : κ}
    (h : key ∉ entries.map (·.1)) : get? (extend table entries) key = get? table key := by
  have none : get? entries.reverse key = none := by
    rw [get?_eq_none_iff, keys, List.map_reverse, List.mem_reverse]
    exact h
  rw [get?_extend, none, Option.none_or]

theorem get?_ofList (entries : List (κ × α)) (key : κ) :
    get? (ofList entries) key = get? entries.reverse key := by
  rw [ofList, get?_extend]
  exact Option.or_none

theorem get?_eq_some_iff {table : Keyed κ α} (distinct : table.keys.Nodup) {key : κ} {value : α} :
    get? table key = some value ↔ (key, value) ∈ table := by
  induction table with
  | nil => simp [get?]
  | cons entry rest ih =>
    obtain ⟨fresh, distinctRest⟩ := List.nodup_cons.1 distinct
    obtain ⟨k, v⟩ := entry
    by_cases same : k = key
    · subst same
      have absent : (k, value) ∉ rest := fun there => fresh (List.mem_map.2 ⟨_, there, rfl⟩)
      simp [get?, absent, eq_comm]
    · have later := ih distinctRest
      have other : ¬key = k := fun equal => same equal.symm
      simpa [get?, same, other] using later

theorem get?_reverse {table : Keyed κ α} (apart : table.keys.Nodup) (key : κ) :
    get? table.reverse key = get? table key := by
  have turned : (keys table.reverse).Nodup := by
    rw [keys, List.map_reverse]
    exact (List.reverse_perm _).nodup_iff.2 apart
  refine Option.ext fun value => ?_
  rw [get?_eq_some_iff turned, get?_eq_some_iff apart, List.mem_reverse]

end RegistryTokens.Keyed
