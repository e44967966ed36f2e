import Mathlib.Data.List.Chain
import Mathlib.Data.List.TakeWhile
import RegistryTokens.Proofs.Lifecycle

/-!
# Statuses over time

What a moment has reached of a timeline is a front part of it, and a later moment has reached more.
So in a legal lifecycle the status of a later moment is the same or comes after it by legal steps,
and it is terminal only where the last entry has been reached.
-/

set_option autoImplicit false

namespace RegistryTokens

open RegistryTokens.Time

theorem takeWhile_prefix_of_imp {α : Type} {p q : α → Bool} (h : ∀ a, p a = true → q a = true)
    (items : List α) : items.takeWhile p <+: items.takeWhile q := by
  induction items with
  | nil => exact List.prefix_refl []
  | cons a rest ih =>
    by_cases hp : p a = true
    · rw [List.takeWhile_cons_of_pos hp, List.takeWhile_cons_of_pos (h a hp)]
      exact List.cons_prefix_cons.2 ⟨rfl, ih⟩
    · rw [List.takeWhile_cons_of_neg hp]
      exact List.nil_prefix

namespace Timeline

variable {α : Type}

def reached (t : Timeline α) (ticks : Int) : List (Instant × α) :=
  t.entries.takeWhile fun e => decide ((e.1.ticks : Int) ≤ ticks)

def ahead (t : Timeline α) (ticks : Int) : List (Instant × α) :=
  t.entries.dropWhile fun e => decide ((e.1.ticks : Int) ≤ ticks)

theorem reached_append_ahead (t : Timeline α) (ticks : Int) :
    t.reached ticks ++ t.ahead ticks = t.entries :=
  List.takeWhile_append_dropWhile

theorem reached_prefix (t : Timeline α) {i j : Int} (le : i ≤ j) : t.reached i <+: t.reached j := by
  apply takeWhile_prefix_of_imp
  intro e early
  have early := of_decide_eq_true early
  exact decide_eq_true (by omega)

theorem valueAtTicks?_eq_some {t : Timeline α} {ticks : Int} {a : α}
    (h : t.valueAtTicks? ticks = some a) :
    ∃ front i, t.reached ticks = front ++ [(i, a)] := by
  obtain ⟨⟨i, b⟩, last, same⟩ := Option.map_eq_some_iff.1 h
  cases same
  obtain ⟨front, split⟩ := List.getLast?_eq_some_iff.1 last
  exact ⟨front, i, split⟩

theorem ticks_le_last {t : Timeline α} {e : Instant × α} (h : e ∈ t.entries) :
    e.1.ticks ≤ t.last.1.ticks := by
  have whole : t.entries.dropLast ++ [t.last] = t.entries :=
    List.dropLast_append_getLast t.nonempty
  have increasing := t.increasing
  rw [← whole] at h increasing
  rcases List.mem_append.1 h with before | isLast
  · exact Nat.le_of_lt ((List.pairwise_append.1 increasing).2.2 e before t.last (by simp))
  · rw [List.mem_singleton.1 isLast]

theorem ahead_eq_nil_iff {t : Timeline α} {ticks : Int} :
    t.ahead ticks = [] ↔ (t.last.1.ticks : Int) ≤ ticks := by
  unfold ahead
  rw [List.dropWhile_eq_nil_iff]
  constructor
  · intro all
    exact of_decide_eq_true (all t.last (List.getLast_mem t.nonempty))
  · intro past e he
    have before := ticks_le_last he
    exact decide_eq_true (by omega)

end Timeline

namespace Lifecycle

def Reaches : Status → Status → Prop := Relation.ReflTransGen Follows

theorem terminal_iff {a : Status} : terminal a = true ↔ ∀ b, ¬Follows a b := by
  constructor
  · intro done b step
    cases step <;> cases done
  · intro none
    cases a with
    | notStarted => exact absurd .starts (none .valid)
    | valid => exact absurd .isCancelled (none .cancelled)
    | cancelled => rfl
    | ended => rfl

theorem eq_of_reaches {a b : Status} (done : terminal a = true) (h : Reaches a b) : b = a := by
  rcases Relation.ReflTransGen.cases_head h with same | ⟨c, step, -⟩
  · exact same.symm
  · exact absurd step (terminal_iff.1 done c)

theorem isChain_of_chained {statuses : List Status} (h : Chained statuses) :
    statuses.IsChain Follows := by
  induction statuses with
  | nil => exact .nil
  | cons a rest ih =>
    cases rest with
    | nil => exact .singleton a
    | cons b rest => exact .cons_cons (follows_of_legal h.1) (ih h.2)

theorem reaches_of_valueAtTicks? {t : Timeline Status} (h : Chained t.values) {i j : Int}
    (le : i ≤ j) {a b : Status} (first : t.valueAtTicks? i = some a)
    (second : t.valueAtTicks? j = some b) : Reaches a b := by
  obtain ⟨front, m, early⟩ := Timeline.valueAtTicks?_eq_some first
  obtain ⟨back, n, late⟩ := Timeline.valueAtTicks?_eq_some second
  obtain ⟨between, more⟩ := t.reached_prefix le
  rw [early] at more
  have values : t.values = front.map (·.2) ++ (a :: between.map (·.2)) ++ (t.ahead j).map (·.2) := by
    rw [Timeline.values, ← t.reached_append_ahead j, ← more]
    simp
  have whole := isChain_of_chained h
  rw [values, List.isChain_append, List.isChain_append] at whole
  have chain : (a :: between.map (·.2)).IsChain Follows := whole.1.2.1
  apply List.relationReflTransGen_of_exists_isChain_cons _ chain
  have last : (a :: between.map (·.2)).getLast? = some b := by
    have same := congrArg (fun entries => (entries.map (·.2)).getLast?) (more.trans late)
    simpa [List.getLast?_append, List.getLast?_cons] using same
  exact Option.some.inj (List.getLast?_eq_some_getLast _ ▸ last)

/-- The status of a moment is terminal just if the last entry was reached and is terminal. -/
theorem terminal_valueAtTicks?_iff {t : Timeline Status} (h : Chained t.values) {ticks : Int}
    {a : Status} (shown : t.valueAtTicks? ticks = some a) : terminal a = true ↔
      terminal t.final = true ∧ (t.last.1.ticks : Int) ≤ ticks := by
  obtain ⟨front, i, early⟩ := Timeline.valueAtTicks?_eq_some shown
  have whole := t.reached_append_ahead ticks
  rw [early] at whole
  cases ahead : t.ahead ticks with
  | nil =>
    have past := Timeline.ahead_eq_nil_iff.1 ahead
    have final : t.final = a := by
      unfold Timeline.final Timeline.last
      simp only [← whole, ahead, List.append_nil, List.getLast_append_singleton]
    rw [final]
    exact ⟨fun done => ⟨done, past⟩, fun both => both.1⟩
  | cons e rest =>
    have pending : ¬(t.last.1.ticks : Int) ≤ ticks := by
      intro past
      rw [Timeline.ahead_eq_nil_iff.2 past] at ahead
      cases ahead
    have pair : t.values = front.map (·.2) ++ a :: e.2 :: rest.map (·.2) := by
      rw [Timeline.values, ← whole, ahead]
      simp
    have step : Follows a e.2 := follows_of_chained h pair
    exact ⟨fun done => absurd step (terminal_iff.1 done _), fun both => absurd both.2 pending⟩

end Lifecycle

end RegistryTokens
