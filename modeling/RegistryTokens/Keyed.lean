/-!
# Ordered tables

A table is a list of keys with values in the order in which the keys first came. Putting a value
under a key that is already there replaces the value and leaves the key in its place.
-/

set_option autoImplicit false

namespace RegistryTokens

abbrev Keyed (κ α : Type) := List (κ × α)

namespace Keyed

variable {κ α : Type} [BEq κ]

def put (key : κ) (value : α) : Keyed κ α → Keyed κ α
  | [] => [(key, value)]
  | (k, v) :: rest => if k == key then (k, value) :: rest else (k, v) :: put key value rest

def get? (table : Keyed κ α) (key : κ) : Option α :=
  (table.find? fun entry => entry.1 == key).map (·.2)

def has (table : Keyed κ α) (key : κ) : Bool := table.any fun entry => entry.1 == key

def extend (table : Keyed κ α) (entries : List (κ × α)) : Keyed κ α :=
  entries.foldl (fun t entry => put entry.1 entry.2 t) table

def ofList (entries : List (κ × α)) : Keyed κ α := extend [] entries

theorem get?_put_self [LawfulBEq κ] (table : Keyed κ α) (key : κ) (value : α) :
    get? (put key value table) key = some value := by
  induction table with
  | nil => simp [put, get?]
  | cons entry rest ih =>
    obtain ⟨k, v⟩ := entry
    simp only [get?] at ih
    by_cases h : k == key <;> simp_all [put, get?]

theorem get?_put_of_ne [LawfulBEq κ] (table : Keyed κ α) {key other : κ} (value : α)
    (h : key ≠ other) : get? (put key value table) other = get? table other := by
  induction table with
  | nil => simp [put, get?, h]
  | cons entry rest ih =>
    obtain ⟨k, v⟩ := entry
    simp only [get?] at ih
    simp only [put]
    split
    · next same =>
      have : k = key := eq_of_beq same
      subst this
      simp [get?, h]
    · simp only [get?, List.find?_cons]
      split
      · rfl
      · exact ih

end Keyed

def distinct {α : Type} [BEq α] : List α → List α
  | [] => []
  | a :: rest => a :: (distinct rest).filter fun b => !(a == b)

end RegistryTokens
