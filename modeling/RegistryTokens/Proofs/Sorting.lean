import RegistryTokens.Proofs.Sorting.Merge
import RegistryTokens.Sorting

/-!
# Sorting succeeds

Where the questions are answered by an order, sorting has an outcome: the items, in order. At each
moment the runs that wait are in order and hold, together with the items still to be cut, all items;
which neighbours are merged when, and with how much patience, is nothing to that.
-/

set_option autoImplicit false

namespace RegistryTokens.Sorting

variable {α ε : Type} {before : α → α → Except ε Bool} {among : α → Prop} {le : α → α → Prop}

def waitingItems (waiting : List (Pending α)) : List α := waiting.flatMap (·.run)

structure Holds (le : α → α → Prop) (items : List α) (waiting : List (Pending α)) : Prop where
  sorted : ∀ p ∈ waiting, p.run.Pairwise le
  all : (waitingItems waiting).Perm items

theorem Holds.merged {items : List α} {rest : List (Pending α)} {second first : Pending α}
    (front : List (Pending α)) (h : Holds le items (front ++ second :: first :: rest))
    {merged : List α × Nat}
    (between : Merged le first.run second.run merged) {p : Pending α} (run : p.run = merged.1) :
    Holds le items (front ++ p :: rest) := by
  constructor
  · intro q hq
    rcases List.mem_append.1 hq with inFront | behind
    · exact h.sorted q (List.mem_append_left _ inFront)
    · rcases List.mem_cons.1 behind with rfl | inRest
      · rw [run]
        exact between.sorted
      · exact h.sorted q (by simp [inRest])
  · have swapped := between.all.trans List.perm_append_comm
    have whole := (swapped.append_right (waitingItems rest)).append_left (waitingItems front)
    refine List.Perm.trans ?_ h.all
    simpa [waitingItems, run] using whole

theorem Holds.mem_of_waiting {items : List α} {waiting : List (Pending α)}
    (h : Holds le items waiting) {p : Pending α} (hp : p ∈ waiting) {a : α} (ha : a ∈ p.run) :
    a ∈ items :=
  h.all.mem_iff.1 (List.mem_flatMap.2 ⟨p, hp, ha⟩)

theorem Holds.merges (h : Orders before among le) {items : List α} (all : ∀ a ∈ items, among a)
    {waiting : List (Pending α)} (holds : Holds le items waiting) {first second : Pending α}
    (hf : first ∈ waiting) (hs : second ∈ waiting) (patience : Nat) :
    Yields (mergeRuns before first.run second.run patience) (Merged le first.run second.run) := by
  refine mergeRuns_yields h (fun a ha => ?_) (holds.sorted first hf) (holds.sorted second hs) patience
  rcases List.mem_append.1 ha with inFirst | inSecond
  · exact all a (holds.mem_of_waiting hf inFirst)
  · exact all a (holds.mem_of_waiting hs inSecond)

theorem mergeDeeper_yields (h : Orders before among le) {items : List α}
    (all : ∀ a ∈ items, among a) (depth : Nat) {waiting : List (Pending α)} (patience : Nat)
    (holds : Holds le items waiting) :
    Yields (mergeDeeper before depth waiting patience) fun left => Holds le items left.1 := by
  induction waiting, patience using mergeDeeper.induct depth with
  | case1 second first rest patience deeper ih =>
    unfold mergeDeeper
    rw [if_pos deeper]
    refine (holds.merges h all (by simp) (by simp) patience).bind ?_
    rintro ⟨run, patience⟩ between
    exact ih run patience (holds.merged [] between rfl)
  | case2 second first rest patience shallow =>
    unfold mergeDeeper
    rw [if_neg shallow]
    exact yields_ok holds
  | case3 waiting patience few =>
    unfold mergeDeeper
    split
    · exact absurd rfl (few _ _ _)
    · exact yields_ok holds

theorem addRun_yields (h : Orders before among le) {items run : List α}
    (all : ∀ a ∈ items, among a) (size : Nat) {waiting : List (Pending α)} (patience : Nat)
    (holds : Holds le items waiting) (sorted : run.Pairwise le) :
    Yields (addRun before size waiting run patience) fun left =>
      Holds le (items ++ run) left.1 := by
  have put {items : List α} (waiting : List (Pending α)) (start : Nat)
      (holds : Holds le items waiting) : Holds le (items ++ run) (⟨start, run, 0⟩ :: waiting) := by
    constructor
    · rintro p hp
      rcases List.mem_cons.1 hp with rfl | earlier
      · exact sorted
      · exact holds.sorted p earlier
    · have both := (holds.all.append_left run).trans List.perm_append_comm
      simpa [waitingItems] using both
  unfold addRun
  split
  · exact yields_ok (put [] 0 holds)
  · rename_i last rest
    refine (mergeDeeper_yields h all _ patience holds).bind ?_
    rintro ⟨waiting, patience⟩ holds
    apply yields_ok
    apply put
    cases waiting with
    | nil => exact holds
    | cons last rest =>
      constructor
      · intro p hp
        rcases List.mem_cons.1 hp with rfl | inRest
        · exact holds.sorted last List.mem_cons_self
        · exact holds.sorted p (List.mem_cons_of_mem _ inRest)
      · exact holds.all

theorem mergeAll_yields (h : Orders before among le) {items : List α}
    (all : ∀ a ∈ items, among a) {waiting : List (Pending α)} (patience : Nat)
    (holds : Holds le items waiting) : Yields (mergeAll before waiting patience) fun sorted =>
      sorted.Pairwise le ∧ sorted.Perm items := by
  induction waiting, patience using mergeAll.induct with
  | case1 third second first rest patience shorter ih =>
    unfold mergeAll
    rw [if_pos shorter]
    refine (holds.merges h all (by simp) (by simp) patience).bind ?_
    rintro ⟨run, patience⟩ between
    exact ih run patience (holds.merged [third] between rfl)
  | case2 third second first rest patience longer ih =>
    unfold mergeAll
    rw [if_neg longer]
    refine (holds.merges h all (by simp) (by simp) patience).bind ?_
    rintro ⟨run, patience⟩ between
    exact ih run patience (holds.merged [] between rfl)
  | case3 second first patience =>
    unfold mergeAll
    refine (holds.merges h all (by simp) (by simp) patience).bind ?_
    rintro ⟨run, patience⟩ between
    have one : Holds le items [{ first with run }] := holds.merged [] between rfl
    exact yields_ok ⟨between.sorted, by simpa [waitingItems] using one.all⟩
  | case4 only patience =>
    unfold mergeAll
    exact yields_ok ⟨holds.sorted only (by simp), by simpa [waitingItems] using holds.all⟩
  | case5 patience =>
    unfold mergeAll
    exact yields_ok ⟨List.Pairwise.nil, holds.all⟩

theorem sortFrom_yields (h : Orders before among le) (size : Nat) {rounds : Nat}
    {done items : List α} (all : ∀ a ∈ done ++ items, among a) {waiting : List (Pending α)}
    (patience : Nat) (holds : Holds le done waiting) (enough : items.length ≤ rounds) :
    Yields (sortFrom before size rounds waiting items patience) fun sorted =>
      sorted.Pairwise le ∧ sorted.Perm (done ++ items) := by
  induction rounds generalizing done items waiting patience with
  | zero =>
    obtain rfl := List.length_eq_zero_iff.1 (Nat.le_zero.1 enough)
    rw [List.append_nil] at all ⊢
    exact mergeAll_yields h all patience holds
  | succ rounds ih =>
    cases items with
    | nil =>
      rw [List.append_nil] at all ⊢
      exact mergeAll_yields h all patience holds
    | cons item items =>
      have allDone : ∀ a ∈ done, among a := fun a ha => all a (List.mem_append_left _ ha)
      have allItems : ∀ a ∈ item :: items, among a := fun a ha =>
        all a (List.mem_append_right _ ha)
      unfold sortFrom
      refine (nextRun_yields h (leastRun size) (by simp) allItems).bind ?_
      rintro ⟨run, rest⟩ ⟨nonempty, sorted, cuts⟩
      dsimp only at nonempty sorted cuts ⊢
      refine (addRun_yields h allDone size patience holds sorted).bind ?_
      rintro ⟨waiting, patience⟩ holds
      have whole : (done ++ run ++ rest).Perm (done ++ item :: items) := by
        rw [List.append_assoc]
        exact cuts.append_left done
      have fewer : rest.length ≤ rounds := by
        have count := cuts.length_eq
        have some := List.length_pos_iff.2 nonempty
        simp only [List.length_append, List.length_cons] at count enough
        omega
      refine (ih (fun a ha => all a (whole.mem_iff.1 ha)) patience holds fewer).imp ?_
      rintro out ⟨sorted, perm⟩
      exact ⟨sorted, perm.trans whole⟩

/-- A list is sorted into its items in order, however the order answers for items that are equal. -/
theorem sort_yields (h : Orders before among le) {items : List α} (all : ∀ a ∈ items, among a) :
    Yields (sort before items) fun sorted => sorted.Pairwise le ∧ sorted.Perm items := by
  have start : Holds le ([] : List α) [] := ⟨by simp, .refl _⟩
  rw [← List.nil_append items] at all
  exact sortFrom_yields h items.length all firstPatience start (Nat.le_refl _)

end RegistryTokens.Sorting
