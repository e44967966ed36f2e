/-!
# Searching with growing steps

How many of the first items pass a test is found by steps that double from the first item on, and
then by halving what lies between the last two of them. If all that pass stand before all others the
outcome is their count; in any case it is settled by the items that are asked for.
-/

set_option autoImplicit false

namespace RegistryTokens.Sorting

variable {ε : Type} (passes : Nat → Except ε Bool)

/-- The last step that passed and the first that did not, which may be the end. -/
def stride (size low high : Nat) : Except ε (Nat × Nat) :=
  if high < size then do
    if ← passes high then stride size high (2 * high + 1) else pure (low, high)
  else .ok (low, size)
termination_by size - high
decreasing_by omega

/-- The first of some items that does not pass. Of two items in the middle the earlier or the later
one is asked for. -/
def halve (early : Bool) (low high : Nat) : Except ε Nat :=
  if low < high then do
    let middle := low + (if early then high - low - 1 else high - low) / 2
    if ← passes middle then halve early (middle + 1) high else halve early low middle
  else .ok low
termination_by high - low
decreasing_by all_goals (split <;> omega)

def leading (early : Bool) (size : Nat) : Except ε Nat := do
  if size = 0 then pure 0
  else if ← passes 0 then
    let (low, high) ← stride passes size 0 1
    halve passes early (low + 1) high
  else pure 0

end RegistryTokens.Sorting
