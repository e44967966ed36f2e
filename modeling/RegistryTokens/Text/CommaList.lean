import RegistryTokens.Text.Blank

/-!
# Comma lists

A comma list is a text whose cells are separated by commas. Its items are the trimmed cells that
are not empty, so blank cells and stray commas carry nothing.
-/

set_option autoImplicit false

namespace RegistryTokens.Text.CommaList

def cells (separator : Char) : List Char → List (List Char)
  | [] => [[]]
  | c :: cs =>
    if c = separator then [] :: cells separator cs
    else match cells separator cs with
      | [] => [[c]]
      | cell :: rest => (c :: cell) :: rest

def kept (parts : List (List Char)) : List (List Char) :=
  (parts.map trimChars).filter fun part => !part.isEmpty

def itemChars (cs : List Char) : List (List Char) := kept (cells ',' cs)

def items (s : String) : List String := (itemChars s.toList).map String.ofList

theorem cells_ne_nil (separator : Char) (cs : List Char) : cells separator cs ≠ [] := by
  cases cs with
  | nil => simp [cells]
  | cons c cs =>
    unfold cells
    split
    · simp
    · split <;> simp

theorem cells_append (separator : Char) (a b : List Char) :
    cells separator (a ++ separator :: b) = cells separator a ++ cells separator b := by
  induction a with
  | nil => simp [cells]
  | cons c a ih =>
    simp only [List.cons_append, cells, ih]
    by_cases h : c = separator
    · simp [h]
    · simp only [h, if_false]
      cases hc : cells separator a with
      | nil => exact absurd hc (cells_ne_nil separator a)
      | cons cell rest => simp

theorem kept_append (a b : List (List Char)) : kept (a ++ b) = kept a ++ kept b := by
  simp [kept]

end RegistryTokens.Text.CommaList
