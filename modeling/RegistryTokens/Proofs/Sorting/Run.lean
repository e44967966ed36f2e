import RegistryTokens.Sorting.Run

/-!
# Runs in order

Where the answers are those of an order every question is answered, and so each way of cutting and
completing a run has an outcome: a run in order that, with what follows it, is made up of the items
it was cut from.
-/

set_option autoImplicit false

namespace RegistryTokens.Sorting

variable {α ε β γ : Type}

/-- It succeeds, and what it gives is good. -/
def Yields (answer : Except ε β) (good : β → Prop) : Prop := ∃ b, answer = .ok b ∧ good b

section
variable {answer : Except ε β} {good better : β → Prop} {next : β → Except ε γ} {fine : γ → Prop}

theorem yields_ok {b : β} (h : good b) : Yields (.ok b : Except ε β) good := ⟨b, rfl, h⟩

theorem Yields.imp (h : Yields answer good) (imp : ∀ b, good b → better b) :
    Yields answer better := by
  obtain ⟨b, same, holds⟩ := h
  exact ⟨b, same, imp b holds⟩

theorem Yields.bind (h : Yields answer good) (hn : ∀ b, good b → Yields (next b) fine) :
    Yields (answer >>= next) fine := by
  obtain ⟨b, rfl, holds⟩ := h
  exact hn b holds

end

/-- Questions about items of a kind are answered, and by an order: an item that comes before another
one is no greater, and neither is one that the other does not come before. -/
structure Orders (before : α → α → Except ε Bool) (among : α → Prop) (le : α → α → Prop) :
    Prop where
  answers : ∀ {a b}, among a → among b →
    before a b = .ok true ∧ le a b ∨ before a b = .ok false ∧ le b a
  trans : ∀ {a b c}, le a b → le b c → le a c

variable {before : α → α → Except ε Bool} {among : α → Prop} {le : α → α → Prop}

theorem Orders.flip (h : Orders before among le) :
    Orders (fun b a => before a b) among fun a b => le b a := by
  constructor
  · intro a b ha hb
    exact h.answers hb ha
  · intro a b c hab hbc
    exact h.trans hbc hab

theorem Orders.ask (h : Orders before among le) {a b : α} (ha : among a) (hb : among b)
    {next : Bool → Except ε γ} {good : γ → Prop} (yes : le a b → Yields (next true) good)
    (no : le b a → Yields (next false) good) : Yields (before a b >>= next) good := by
  rcases h.answers ha hb with ⟨answer, first⟩ | ⟨answer, second⟩
  · rw [answer]
    exact yes first
  · rw [answer]
    exact no second

theorem Orders.pairwise_cons (h : Orders before among le) {a b : α} {items : List α} (hab : le a b)
    (sorted : (b :: items).Pairwise le) : (a :: b :: items).Pairwise le := by
  obtain ⟨first, -⟩ := List.pairwise_cons.1 sorted
  refine List.pairwise_cons.2 ⟨fun c hc => ?_, sorted⟩
  rcases List.mem_cons.1 hc with rfl | later
  · exact hab
  · exact h.trans hab (first c later)

theorem Orders.le_of_last (h : Orders before among le) {last a : α} {items : List α}
    (sorted : items.Pairwise le) (ends : items.getLast? = some last) (near : le last a) :
    ∀ x ∈ items, le x a := by
  obtain ⟨front, rfl⟩ := List.getLast?_eq_some_iff.1 ends
  intro x hx
  rcases List.mem_append.1 hx with inFront | isLast
  · exact h.trans ((List.pairwise_append.1 sorted).2.2 x inFront last (by simp)) near
  · rw [List.mem_singleton.1 isLast]
    exact near

theorem Orders.split (h : Orders before among le) {a : α} {items : List α} {k : Nat}
    (sorted : items.Pairwise le) (below : ∀ x ∈ (items.take k).getLast?, le x a)
    (above : ∀ x ∈ (items.drop k).head?, le a x) :
    (∀ x ∈ items.take k, le x a) ∧ ∀ x ∈ items.drop k, le a x := by
  constructor
  · intro x hx
    obtain ⟨last, ends⟩ := Option.isSome_iff_exists.1 (List.getLast?_isSome.2 (List.ne_nil_of_mem hx))
    exact h.le_of_last sorted.take ends (below last ends) x hx
  · intro x hx
    cases split : items.drop k with
    | nil => simp [split] at hx
    | cons first rest =>
      have near : le a first := above first (by simp [split])
      have behind := h.pairwise_cons near (split ▸ sorted.drop)
      exact (List.pairwise_cons.1 behind).1 x (split ▸ hx)

structure Cut (le : α → α → Prop) (items : List α) (cut : List α × List α) : Prop where
  nonempty : cut.1 ≠ []
  sorted : cut.1.Pairwise le
  all : (cut.1 ++ cut.2).Perm items

theorem falling_yields (h : Orders before among le) {last : α} {run items : List α}
    (sorted : (last :: run).Pairwise le) (all : ∀ a ∈ last :: run ++ items, among a) :
    Yields (falling before last (last :: run) items) (Cut le (last :: run ++ items)) := by
  induction items generalizing last run with
  | nil => exact yields_ok ⟨by simp, sorted, .refl _⟩
  | cons a rest ih =>
    have moved : (a :: last :: run ++ rest).Perm (last :: run ++ a :: rest) :=
      List.perm_middle.symm
    unfold falling
    refine h.ask (all a (by simp)) (all last (by simp)) (fun earlier => ?_) fun _ => ?_
    · refine (ih (h.pairwise_cons earlier sorted) fun x hx => all x (moved.mem_iff.1 hx)).imp ?_
      rintro cut ⟨nonempty, sorted, cuts⟩
      exact ⟨nonempty, sorted, cuts.trans moved⟩
    · exact yields_ok ⟨by simp, sorted, .refl _⟩

theorem rising_yields (h : Orders before among le) {last : α} {items : List α}
    (all : ∀ a ∈ last :: items, among a) : Yields (rising before last items) fun cut =>
      (∃ run, cut.1 = last :: run) ∧ cut.1.Pairwise le ∧ cut.1 ++ cut.2 = last :: items := by
  induction items generalizing last with
  | nil => exact yields_ok ⟨⟨[], rfl⟩, List.pairwise_singleton _ _, rfl⟩
  | cons a rest ih =>
    unfold rising
    refine h.ask (all a (by simp)) (all last (by simp)) (fun _ => ?_) fun later => ?_
    · exact yields_ok ⟨⟨[], rfl⟩, List.pairwise_singleton _ _, rfl⟩
    · refine (ih fun x hx => all x (List.mem_cons_of_mem _ hx)).bind ?_
      rintro ⟨run, rest⟩ ⟨⟨more, begins⟩, sorted, whole⟩
      dsimp only at begins sorted whole
      subst begins
      exact yields_ok ⟨⟨_, rfl⟩, h.pairwise_cons later sorted, by rw [← whole]; rfl⟩

theorem firstRun_yields (h : Orders before among le) {items : List α} (some : items ≠ [])
    (all : ∀ a ∈ items, among a) : Yields (firstRun before items) (Cut le items) := by
  match items, some with
  | [a], _ => exact yields_ok ⟨by simp, List.pairwise_singleton _ _, .refl _⟩
  | a :: b :: rest, _ =>
    unfold firstRun
    refine h.ask (all b (by simp)) (all a (by simp)) (fun earlier => ?_) fun later => ?_
    · have pair : [b, a].Pairwise le := by simpa using earlier
      have swapped : (b :: [a] ++ rest).Perm (a :: b :: rest) := .swap a b rest
      refine (falling_yields h pair fun x hx => all x (swapped.mem_iff.1 hx)).imp ?_
      rintro cut ⟨nonempty, sorted, cuts⟩
      exact ⟨nonempty, sorted, cuts.trans swapped⟩
    · refine (rising_yields h fun x hx => all x (List.mem_cons_of_mem _ hx)).bind ?_
      rintro ⟨run, rest⟩ ⟨⟨more, begins⟩, sorted, whole⟩
      dsimp only at begins sorted whole
      subst begins
      exact yields_ok ⟨by simp, h.pairwise_cons later sorted, by rw [← whole]; rfl⟩

theorem place_yields (h : Orders before among le) {sorted : List α} {a : α} (ha : among a)
    (all : ∀ x ∈ sorted, among x) {low high : Nat} (le_high : low ≤ high)
    (le_length : high ≤ sorted.length) (below : ∀ x ∈ (sorted.take low).getLast?, le x a)
    (above : ∀ x ∈ (sorted.drop high).head?, le a x) :
    Yields (place before sorted a low high) fun k =>
      (∀ x ∈ (sorted.take k).getLast?, le x a) ∧ ∀ x ∈ (sorted.drop k).head?, le a x := by
  induction low, high using place.induct sorted with
  | case1 low high open_ middle none =>
    have outside := List.getElem?_eq_none_iff.1 none
    omega
  | case2 low high open_ middle b found left right =>
    have inside : middle < sorted.length := by omega
    have same : sorted[middle] = b := by
      rw [List.getElem?_eq_getElem inside] at found
      exact Option.some.inj found
    unfold place
    rw [if_pos open_]
    dsimp only
    rw [found]
    refine h.ask ha (all b (same ▸ List.getElem_mem inside)) (fun earlier => ?_) fun later => ?_
    · apply left (by omega) (by omega) below
      simpa [List.head?_drop, found] using earlier
    · apply right (by omega) le_length _ above
      simpa [List.getLast?_take, found] using later
  | case3 low high closed =>
    have same : low = high := by omega
    unfold place
    rw [if_neg closed]
    exact yields_ok ⟨below, same ▸ above⟩

theorem insert_yields (h : Orders before among le) {sorted : List α} {a : α} (ha : among a)
    (all : ∀ x ∈ sorted, among x) (order : sorted.Pairwise le) :
    Yields (insert before sorted a) fun items => items.Pairwise le ∧ items.Perm (a :: sorted) := by
  refine (place_yields h ha all (Nat.zero_le _) (Nat.le_refl _) (by simp) (by simp)).bind ?_
  rintro k ⟨below, above⟩
  obtain ⟨below, above⟩ := h.split order below above
  refine yields_ok ⟨?_, ?_⟩
  · refine List.pairwise_append.2 ⟨order.take, List.pairwise_cons.2 ⟨above, order.drop⟩, ?_⟩
    intro x hx y hy
    rcases List.mem_cons.1 hy with rfl | later
    · exact below x hx
    · exact h.trans (below x hx) (above y later)
  · refine List.perm_middle.trans ?_
    rw [List.take_append_drop]

theorem inserts_yield (h : Orders before among le) {items run : List α}
    (all : ∀ x ∈ run ++ items, among x) (order : run.Pairwise le) :
    Yields (items.foldlM (insert before) run) fun longer =>
      longer.Pairwise le ∧ longer.Perm (run ++ items) := by
  induction items generalizing run with
  | nil => exact yields_ok ⟨order, by simp⟩
  | cons a rest ih =>
    rw [List.foldlM_cons]
    have insertion := insert_yields h (all a (by simp))
      (fun x hx => all x (List.mem_append_left _ hx)) order
    refine insertion.bind ?_
    rintro longer ⟨sorted, perm⟩
    have whole : (longer ++ rest).Perm (run ++ a :: rest) :=
      (perm.append_right rest).trans List.perm_middle.symm
    refine (ih (fun x hx => all x (whole.mem_iff.1 hx)) sorted).imp ?_
    rintro longest ⟨sorted, perm⟩
    exact ⟨sorted, perm.trans whole⟩

theorem nextRun_yields (h : Orders before among le) (least : Nat) {items : List α}
    (some : items ≠ []) (all : ∀ a ∈ items, among a) :
    Yields (nextRun before least items) (Cut le items) := by
  refine (firstRun_yields h some all).bind ?_
  rintro ⟨run, rest⟩ ⟨nonempty, sorted, cuts⟩
  dsimp only at nonempty sorted cuts ⊢
  have taken : ∀ x ∈ run ++ rest.take (least - run.length), among x := by
    intro x hx
    refine all x (cuts.mem_iff.1 ?_)
    rcases List.mem_append.1 hx with inRun | inRest
    · exact List.mem_append_left _ inRun
    · exact List.mem_append_right _ (List.mem_of_mem_take inRest)
  refine (inserts_yield h taken sorted).bind ?_
  rintro longer ⟨sorted, perm⟩
  refine yields_ok ⟨?_, sorted, ?_⟩
  · rintro rfl
    obtain ⟨none, -⟩ := List.append_eq_nil_iff.1 perm.symm.eq_nil
    exact nonempty none
  · refine ((perm.append_right _).trans ?_).trans cuts
    rw [List.append_assoc, List.take_append_drop]

end RegistryTokens.Sorting
