import RegistryTokens.Sorting.Search

/-!
# Merging runs

Two runs are merged item by item. Once one of them has been taken from several times in a row, whole
stretches are looked for with growing steps, as long as that pays; how soon that is tried again
depends on how it went. What stands in its place from the start, at the front of the first run and
at the end of the second one, is left there, and the shorter of the remaining runs decides from
which side the merge works.
-/

set_option autoImplicit false

namespace RegistryTokens.Sorting

/-- A merge under way. Both runs are kept in the order in which they are taken from. -/
structure Merging (α : Type) where
  short : List α
  long : List α
  taken : List α
  /-- How often in a row a run is taken from before stretches are looked for. -/
  patience : Nat

namespace Merging

variable {α ε : Type}

def settled (m : Merging α) : Bool := m.long.isEmpty || m.short.length ≤ 1

def merged (m : Merging α) : List α := m.taken.reverse ++ m.long ++ m.short

def takeShort (count : Nat) (m : Merging α) : Merging α :=
  { m with
    short := m.short.drop count, taken := (m.short.take count).reverse ++ m.taken }

def takeLong (count : Nat) (m : Merging α) : Merging α :=
  { m with long := m.long.drop count, taken := (m.long.take count).reverse ++ m.taken }

end Merging

/-- From which side runs are merged, and which item of the longer run goes before which one of the
shorter run. -/
structure Side (α ε : Type) where
  fromEnd : Bool
  goesFirst : α → α → Except ε Bool

namespace Side

variable {α ε : Type} (s : Side α ε)

def single (m : Merging α) (shortWins longWins : Nat) : Except ε (Merging α) :=
  if m.settled then .ok m
  else match hs : m.short, hl : m.long with
    | a :: _, b :: _ => do
      if ← s.goesFirst b a then
        let next := m.takeLong 1
        if m.patience ≤ longWins + 1 then pure next else single next 0 (longWins + 1)
      else
        let next := m.takeShort 1
        if m.patience ≤ shortWins + 1 then pure next else single next (shortWins + 1) 0
    | _, _ => .ok m
termination_by m.short.length + m.long.length
decreasing_by
  · simp only [Merging.takeLong, hs, hl, List.length_cons, List.length_drop]; omega
  · simp only [Merging.takeShort, hs, hl, List.length_cons, List.length_drop]; omega

/-- Takes the stretch of the shorter run before which the next item of the longer one does not go,
and then that item. -/
def stretchShort (m : Merging α) : Except ε (Nat × Merging α) :=
  match m.settled, m.long with
  | false, b :: _ => do
    let stays (i : Nat) : Except ε Bool :=
      match m.short[i]? with
      | some a => (s.goesFirst b a).map (!·)
      | none => .ok false
    let count ← leading stays s.fromEnd m.short.length
    let next := m.takeShort count
    pure (count, if next.settled then next else next.takeLong 1)
  | _, _ => .ok (0, m)

/-- Takes the stretch of the longer run that goes before the next item of the shorter one, and then
that item. -/
def stretchLong (m : Merging α) : Except ε (Nat × Merging α) :=
  match m.settled, m.short with
  | false, a :: _ => do
    let goes (i : Nat) : Except ε Bool :=
      match m.long[i]? with
      | some b => s.goesFirst b a
      | none => .ok false
    let count ← leading goes s.fromEnd m.long.length
    let next := m.takeLong count
    pure (count, if next.settled then next else next.takeShort 1)
  | _, _ => .ok (0, m)

def worthwhile : Nat := 7

def stretches : Nat → Merging α → Except ε (Merging α)
  | 0, m => .ok m
  | rounds + 1, m => do
    let m := { m with patience := max 1 (m.patience - 1) }
    let (first, m) ← if s.fromEnd then s.stretchLong m else s.stretchShort m
    let (second, m) ← if s.fromEnd then s.stretchShort m else s.stretchLong m
    if m.settled then pure m
    else if worthwhile ≤ first ∨ worthwhile ≤ second then stretches rounds m
    else pure { m with patience := m.patience + 1 }

def finish : Nat → Merging α → Except ε (Merging α)
  | 0, m => .ok m
  | rounds + 1, m => do
    let m ← s.single m 0 0
    if m.settled then pure m
    else
      let m ← s.stretches (m.short.length + m.long.length)
        { m with patience := m.patience + 1 }
      if m.settled then pure m else finish rounds m

def merge (short long : List α) (patience : Nat) : Except ε (List α × Nat) := do
  let start : Merging α := { short, long, taken := [], patience }
  let m ← s.finish (short.length + long.length) (start.takeLong 1)
  pure (m.merged, m.patience)

end Side

variable {α ε : Type} (before : α → α → Except ε Bool)

def keptFront (run : List α) (next : α) : Except ε Nat :=
  let stays (i : Nat) : Except ε Bool :=
    match run[i]? with
    | some a => (before next a).map (!·)
    | none => .ok false
  leading stays false run.length

def keptEnd (run : List α) (last : α) : Except ε Nat :=
  let stays (i : Nat) : Except ε Bool :=
    match run.reverse[i]? with
    | some a => (before a last).map (!·)
    | none => .ok false
  leading stays true run.length

/-- Merges neighbouring runs, and tells with how much patience the next merge begins. -/
def mergeRuns (first second : List α) (patience : Nat) : Except ε (List α × Nat) :=
  match second with
  | [] => .ok (first, patience)
  | next :: _ => do
    let kept ← keptFront before first next
    let left := first.drop kept
    match left.getLast? with
    | none => pure (first ++ second, patience)
    | some last => do
      let tail := second.length - (← keptEnd before second last)
      let right := second.take tail
      let around (m : List α × Nat) : List α × Nat :=
        (first.take kept ++ m.1 ++ second.drop tail, m.2)
      if right.isEmpty then pure (first ++ second, patience)
      else if left.length ≤ right.length then
        let side : Side α ε := ⟨false, before⟩
        pure (around (← side.merge left right patience))
      else
        let side : Side α ε := ⟨true, fun b a => before a b⟩
        let (merged, patience) ← side.merge right.reverse left.reverse patience
        pure (around (merged.reverse, patience))

end RegistryTokens.Sorting
