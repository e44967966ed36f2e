/-!
# Runs

A list is cut into runs that are in order. A run begins with the items that rise, or strictly fall
and are turned round; if these are too few, further items are put into their places by halving. The
questions which of two items comes first are asked in a fixed order, so that the first failure is
the same each time, and the outcome is settled even where the answers are those of no order.
-/

set_option autoImplicit false

namespace RegistryTokens.Sorting

variable {α ε : Type} (before : α → α → Except ε Bool)

def falling (last : α) (run : List α) : List α → Except ε (List α × List α)
  | [] => .ok (run, [])
  | a :: rest => do
    if ← before a last then falling a (a :: run) rest else pure (run, a :: rest)

def rising (last : α) : List α → Except ε (List α × List α)
  | [] => .ok ([last], [])
  | a :: rest => do
    if ← before a last then pure ([last], a :: rest)
    else
      let (run, rest) ← rising a rest
      pure (last :: run, rest)

def firstRun : List α → Except ε (List α × List α)
  | [] => .ok ([], [])
  | [a] => .ok ([a], [])
  | a :: b :: rest => do
    if ← before b a then falling before b [b, a] rest
    else
      let (run, rest) ← rising before b rest
      pure (a :: run, rest)

/-- The place of an item between `low` and `high`, after all that it does not come before. -/
def place (sorted : List α) (a : α) (low high : Nat) : Except ε Nat :=
  if low < high then
    let middle := low + (high - low) / 2
    match sorted[middle]? with
    | none => .ok low
    | some b => do
      if ← before a b then place sorted a low middle else place sorted a (middle + 1) high
  else .ok low
termination_by high - low
decreasing_by all_goals omega

def insert (sorted : List α) (a : α) : Except ε (List α) := do
  let i ← place before sorted a 0 sorted.length
  pure (sorted.take i ++ a :: sorted.drop i)

/-- The least length of the runs of a list: its length, halved until it is below 64 and raised by
one if something was lost. -/
def leastRun (length : Nat) : Nat :=
  let halvings := length.log2 - 5
  if length < 64 then length
  else length >>> halvings + if (length >>> halvings) <<< halvings = length then 0 else 1

/-- The first run, brought to a least length if there are enough items, and what follows it. -/
def nextRun (least : Nat) (items : List α) : Except ε (List α × List α) := do
  let (run, rest) ← firstRun before items
  let missing := least - run.length
  pure (← (rest.take missing).foldlM (insert before) run, rest.drop missing)

end RegistryTokens.Sorting
