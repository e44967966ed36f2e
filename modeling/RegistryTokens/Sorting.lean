import RegistryTokens.Sorting.Merge
import RegistryTokens.Sorting.Run

/-!
# Sorting by a comparison that may fail

A list is cut into runs, which are merged two by two. Where two neighbouring runs meet has a depth,
the number of binary digits after which their middles, as fractions of the whole list, differ; runs
that meet deeper are merged first. Which pairs of items are compared, and in which order, depends on
the answers only. So the first failing comparison ends the sorting with a settled failure, and a
list has a settled outcome even where the answers are those of no order.
-/

set_option autoImplicit false

namespace RegistryTokens.Sorting

/-- A run that waits to be merged with the next one. -/
structure Pending (α : Type) where
  start : Nat
  run : List α
  depth : Nat

/-- The number of binary digits after which `a / size` and `b / size` differ. -/
def differingDigit (size : Nat) : Nat → Nat → Nat → Nat
  | 0, _, _ => 0
  | digits + 1, a, b =>
    if size ≤ a then differingDigit size digits (2 * (a - size)) (2 * (b - size)) + 1
    else if size ≤ b then 1
    else differingDigit size digits (2 * a) (2 * b) + 1

def meetingDepth (size start length next : Nat) : Nat :=
  let middle := 2 * start + length
  differingDigit size (size + 1) middle (middle + length + next)

def firstPatience : Nat := 7

variable {α ε : Type} (before : α → α → Except ε Bool)

def mergeDeeper (depth : Nat) : List (Pending α) → Nat → Except ε (List (Pending α) × Nat)
  | second :: first :: rest, patience => do
    if depth < first.depth then
      let (run, patience) ← mergeRuns before first.run second.run patience
      mergeDeeper depth ({ first with run } :: rest) patience
    else pure (second :: first :: rest, patience)
  | waiting, patience => .ok (waiting, patience)
termination_by waiting => waiting.length

def addRun (size : Nat) (waiting : List (Pending α)) (run : List α) (patience : Nat) :
    Except ε (List (Pending α) × Nat) :=
  match waiting with
  | [] => .ok ([⟨0, run, 0⟩], patience)
  | last :: _ => do
    let depth := meetingDepth size last.start last.run.length run.length
    let start := last.start + last.run.length
    let (waiting, patience) ← mergeDeeper before depth waiting patience
    let marked := match waiting with
      | last :: rest => { last with depth } :: rest
      | [] => []
    pure (⟨start, run, 0⟩ :: marked, patience)

def mergeAll : List (Pending α) → Nat → Except ε (List α)
  | third :: second :: first :: rest, patience => do
    if first.run.length < third.run.length then
      let (run, patience) ← mergeRuns before first.run second.run patience
      mergeAll (third :: { first with run } :: rest) patience
    else
      let (run, patience) ← mergeRuns before second.run third.run patience
      mergeAll ({ second with run } :: first :: rest) patience
  | [second, first], patience => do pure (← mergeRuns before first.run second.run patience).1
  | [only], _ => .ok only.run
  | [], _ => .ok []
termination_by waiting => waiting.length

/-- Cuts the items into runs and merges what meets deep enough. Each round cuts off a run. -/
def sortFrom (size : Nat) : Nat → List (Pending α) → List α → Nat → Except ε (List α)
  | rounds + 1, waiting, item :: items, patience => do
    let (run, rest) ← nextRun before (leastRun size) (item :: items)
    let (waiting, patience) ← addRun before size waiting run patience
    sortFrom size rounds waiting rest patience
  | _, waiting, _, patience => mergeAll before waiting patience

def sort (items : List α) : Except ε (List α) :=
  sortFrom before items.length items.length [] items firstPatience

end RegistryTokens.Sorting
