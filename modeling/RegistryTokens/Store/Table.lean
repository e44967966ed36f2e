/-!
# Tables

A table holds one row for each of its keys, in the order of insertion. Inserting refuses a key
that is taken; changing a row leaves all other rows, and every key, where they are.
-/

set_option autoImplicit false

namespace RegistryTokens.Store

structure Table (α : Type) where
  rows : List (String × α)
  distinctKeys : (rows.map (·.1)).Nodup

namespace Table

variable {α : Type}

instance [DecidableEq α] : DecidableEq (Table α) := fun a b =>
  if h : a.rows = b.rows then isTrue (by cases a; cases b; simp_all)
  else isFalse fun same => h (by rw [same])

def empty : Table α := ⟨[], List.nodup_nil⟩

instance : Inhabited (Table α) := ⟨empty⟩

def keys (t : Table α) : List String := t.rows.map (·.1)

def get? (t : Table α) (key : String) : Option α :=
  (t.rows.find? fun row => row.1 == key).map (·.2)

def has (t : Table α) (key : String) : Bool := t.keys.contains key

def insert? (t : Table α) (key : String) (row : α) : Option (Table α) :=
  if h : key ∈ t.keys then none
  else some ⟨t.rows ++ [(key, row)], by
    rw [List.map_append, List.nodup_append]
    refine ⟨t.distinctKeys, by simp, fun a ha b hb => ?_⟩
    simp only [List.map_cons, List.map_nil, List.mem_singleton] at hb
    rintro rfl
    exact h (hb ▸ ha)⟩

def modify (t : Table α) (key : String) (f : α → α) : Table α :=
  ⟨t.rows.map fun row => if row.1 = key then (row.1, f row.2) else row, by
    have same : (t.rows.map fun row => if row.1 = key then (row.1, f row.2) else row).map (·.1) =
        t.rows.map (·.1) := by
      rw [List.map_map]
      refine List.map_congr_left fun row _ => ?_
      simp only [Function.comp_apply]
      split <;> rfl
    rw [same]
    exact t.distinctKeys⟩

def sorted (t : Table α) : List (String × α) := t.rows.mergeSort fun a b => a.1 ≤ b.1

theorem keys_modify (t : Table α) (key : String) (f : α → α) : (t.modify key f).keys = t.keys := by
  simp only [keys, modify, List.map_map]
  refine List.map_congr_left fun row _ => ?_
  simp only [Function.comp_apply]
  split <;> rfl

theorem get?_modify_self (t : Table α) (key : String) (f : α → α) :
    (t.modify key f).get? key = (t.get? key).map f := by
  simp only [get?, modify]
  induction t.rows with
  | nil => rfl
  | cons row rest ih =>
    simp only [List.map_cons]
    by_cases h : row.1 = key
    · simp [h]
    · simpa [h] using ih

theorem get?_modify_of_ne (t : Table α) {key other : String} (f : α → α) (h : other ≠ key) :
    (t.modify key f).get? other = t.get? other := by
  simp only [get?, modify]
  induction t.rows with
  | nil => rfl
  | cons row rest ih =>
    simp only [List.map_cons]
    by_cases same : row.1 = key
    · have differs : (row.1 == other) = false := by
        simpa [same] using fun e => h e.symm
      simpa [same, List.find?_cons, same ▸ differs] using ih
    · by_cases found : row.1 = other
      · simp [found, h]
      · simpa [same, found] using ih

theorem get?_insert? {t u : Table α} {key : String} {row : α} (h : t.insert? key row = some u)
    (other : String) : u.get? other = if other = key then some row else t.get? other := by
  unfold insert? at h
  split at h
  · simp at h
  · next free =>
    cases h
    simp only [get?, List.find?_append]
    split
    · next same =>
      subst same
      have absent : t.rows.find? (fun r => r.1 == other) = none := by
        refine List.find?_eq_none.2 fun r hr found => free ?_
        rw [← eq_of_beq found]
        exact List.mem_map.2 ⟨r, hr, rfl⟩
      simp [absent]
    · next differs =>
      have skip : (key == other) = false := by simpa using fun e => differs e.symm
      simp [skip]

end Table

end RegistryTokens.Store
