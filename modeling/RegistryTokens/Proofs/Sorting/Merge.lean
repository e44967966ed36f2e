import RegistryTokens.Proofs.Sorting.Search
import RegistryTokens.Sorting.Merge

/-!
# Merging in order

The place where a search in a run in order ends tells all its items apart. A merge keeps what was
taken no greater than what is left, and the last item of the shorter run no less than the longer one;
each step moves items from what is left to what was taken and keeps that, until nothing is left to
ask.
-/

set_option autoImplicit false

namespace RegistryTokens.Sorting

variable {α ε : Type}

theorem getLast?_of_drop {items : List α} {k : Nat} {last : α}
    (h : (items.drop k).getLast? = some last) : items.getLast? = some last := by
  rw [← List.take_append_drop k items, List.getLast?_append, h]
  rfl

variable {before : α → α → Except ε Bool} {among : α → Prop} {le : α → α → Prop}

structure Parts (le : α → α → Prop) (items : List α) (a : α) (k : Nat) : Prop where
  inside : k ≤ items.length
  below : ∀ x ∈ items.take k, le x a
  above : ∀ x ∈ items.drop k, le a x

theorem Orders.parts (h : Orders before among le) {items : List α} (sorted : items.Pairwise le)
    {a : α} {passes : Nat → Except ε Bool} (asked : ∀ i x, items[i]? = some x →
      passes i = .ok true ∧ le x a ∨ passes i = .ok false ∧ le a x) (early : Bool) :
    Yields (leading passes early items.length) (Parts le items a) := by
  have answered : ∀ i < items.length, ∃ b, passes i = .ok b := by
    intro i inside
    rcases asked i _ (List.getElem?_eq_getElem inside) with ⟨answer, -⟩ | ⟨answer, -⟩
    · exact ⟨true, answer⟩
    · exact ⟨false, answer⟩
  refine (leading_yields answered early).imp ?_
  rintro k ⟨inside, passed, failed⟩
  have below : ∀ x ∈ (items.take k).getLast?, le x a := by
    intro x last
    by_cases none : k = 0
    · simp [none] at last
    · have found : items[k - 1]? = some x := by
        rw [List.getLast?_take, if_neg none] at last
        cases found : items[k - 1]? with
        | none =>
          have outside := List.getElem?_eq_none_iff.1 found
          omega
        | some y => simpa [found] using last
      rcases asked _ _ found with ⟨-, first⟩ | ⟨answer, -⟩
      · exact first
      · cases (passed (by omega)).symm.trans answer
  have above : ∀ x ∈ (items.drop k).head?, le a x := by
    intro x first
    have found : items[k]? = some x := by simpa [List.head?_drop] using first
    obtain ⟨here, -⟩ := List.getElem?_eq_some_iff.1 found
    rcases asked _ _ found with ⟨answer, -⟩ | ⟨-, second⟩
    · cases (failed here).symm.trans answer
    · exact second
  obtain ⟨below, above⟩ := h.split sorted below above
  exact ⟨inside, below, above⟩

theorem stays_yields (h : Orders before among le) {items : List α} (sorted : items.Pairwise le)
    (all : ∀ x ∈ items, among x) {a : α} (ha : among a) (early : Bool) :
    Yields (leading (fun i => match items[i]? with
      | some x => (before a x).map (!·)
      | none => .ok false) early items.length) (Parts le items a) := by
  refine h.parts sorted (fun i x found => ?_) early
  rw [found]
  rcases h.answers ha (all x (List.mem_of_getElem? found)) with ⟨answer, le⟩ | ⟨answer, le⟩
  · exact .inr ⟨by simp only [answer, Except.map, Bool.not_true], le⟩
  · exact .inl ⟨by simp only [answer, Except.map, Bool.not_false], le⟩

theorem goes_yields (h : Orders before among le) {items : List α} (sorted : items.Pairwise le)
    (all : ∀ x ∈ items, among x) {a : α} (ha : among a) (early : Bool) :
    Yields (leading (fun i => match items[i]? with
      | some x => before x a
      | none => .ok false) early items.length) (Parts le items a) := by
  refine h.parts sorted (fun i x found => ?_) early
  rw [found]
  exact h.answers (all x (List.mem_of_getElem? found)) ha

namespace Merging

variable {m n : Merging α}

def items (m : Merging α) : List α := m.taken ++ (m.short ++ m.long)

def left (m : Merging α) : Nat := m.short.length + m.long.length

/-- What was taken is in order and no greater than what is left, and the last item of the shorter run
is no less than the longer one. -/
structure Sound (among : α → Prop) (le : α → α → Prop) (m : Merging α) : Prop where
  all : ∀ a ∈ m.short ++ m.long, among a
  short : m.short.Pairwise le
  long : m.long.Pairwise le
  taken : m.taken.Pairwise fun a b => le b a
  upTo : ∀ x ∈ m.taken, ∀ y ∈ m.short ++ m.long, le x y
  last : ∀ z ∈ m.short.getLast?, ∀ y ∈ m.long, le y z

structure Goes (among : α → Prop) (le : α → α → Prop) (m n : Merging α) : Prop where
  sound : n.Sound among le
  perm : n.items.Perm m.items
  less : n.left ≤ m.left

theorem Sound.refl (h : m.Sound among le) : Goes among le m m := ⟨h, .refl _, Nat.le_refl _⟩

theorem Goes.trans {o : Merging α} (h : Goes among le m n) (next : Goes among le n o) :
    Goes among le m o :=
  ⟨next.sound, next.perm.trans h.perm, Nat.le_trans next.less h.less⟩

theorem Sound.withPatience (h : m.Sound among le) (patience : Nat) :
    Goes among le m { m with patience } :=
  ⟨⟨h.all, h.short, h.long, h.taken, h.upTo, h.last⟩, .refl _, Nat.le_refl _⟩

theorem Sound.takeShort (h : m.Sound among le) {k : Nat}
    (first : ∀ x ∈ m.short.take k, ∀ y ∈ m.long, le x y) :
    Goes among le m (m.takeShort k) := by
  have split : m.short.take k ++ m.short.drop k = m.short := List.take_append_drop k m.short
  have order := h.short
  rw [← split] at order
  obtain ⟨front, back, across⟩ := List.pairwise_append.1 order
  have within (y : α) (hy : y ∈ m.short.drop k ++ m.long) : y ∈ m.short ++ m.long := by
    rcases List.mem_append.1 hy with inShort | inLong
    · exact List.mem_append_left _ (List.mem_of_mem_drop inShort)
    · exact List.mem_append_right _ inLong
  refine ⟨⟨fun a ha => h.all a (within a ha), back, h.long, ?_, ?_, ?_⟩, ?_, ?_⟩
  · refine List.pairwise_append.2 ⟨List.pairwise_reverse.2 front, h.taken, ?_⟩
    intro x hx t ht
    exact h.upTo t ht x (List.mem_append_left _ (List.mem_of_mem_take (List.mem_reverse.1 hx)))
  · intro x hx y hy
    rcases List.mem_append.1 hx with now | earlier
    · rcases List.mem_append.1 hy with inShort | inLong
      · exact across x (List.mem_reverse.1 now) y inShort
      · exact first x (List.mem_reverse.1 now) y inLong
    · exact h.upTo x earlier y (within y hy)
  · intro z hz
    exact h.last z (getLast?_of_drop hz)
  · have turned := (List.reverse_perm (m.short.take k)).append_right (m.taken ++ m.short.drop k)
    have moved := (List.perm_append_comm_assoc (m.short.take k) m.taken (m.short.drop k))
    rw [split] at moved
    simpa [items, Merging.takeShort] using (turned.trans moved).append_right m.long
  · simp only [left, Merging.takeShort, List.length_drop]
    omega

theorem Sound.takeLong (h : m.Sound among le) {k : Nat}
    (first : ∀ x ∈ m.long.take k, ∀ y ∈ m.short, le x y) :
    Goes among le m (m.takeLong k) := by
  have split : m.long.take k ++ m.long.drop k = m.long := List.take_append_drop k m.long
  have order := h.long
  rw [← split] at order
  obtain ⟨front, back, across⟩ := List.pairwise_append.1 order
  have within (y : α) (hy : y ∈ m.short ++ m.long.drop k) : y ∈ m.short ++ m.long := by
    rcases List.mem_append.1 hy with inShort | inLong
    · exact List.mem_append_left _ inShort
    · exact List.mem_append_right _ (List.mem_of_mem_drop inLong)
  refine ⟨⟨fun a ha => h.all a (within a ha), h.short, back, ?_, ?_, ?_⟩, ?_, ?_⟩
  · refine List.pairwise_append.2 ⟨List.pairwise_reverse.2 front, h.taken, ?_⟩
    intro x hx t ht
    exact h.upTo t ht x (List.mem_append_right _ (List.mem_of_mem_take (List.mem_reverse.1 hx)))
  · intro x hx y hy
    rcases List.mem_append.1 hx with now | earlier
    · rcases List.mem_append.1 hy with inShort | inLong
      · exact first x (List.mem_reverse.1 now) y inShort
      · exact across x (List.mem_reverse.1 now) y inLong
    · exact h.upTo x earlier y (within y hy)
  · intro z hz y hy
    exact h.last z hz y (List.mem_of_mem_drop hy)
  · have turned := (List.reverse_perm (m.long.take k)).append_right
      (m.taken ++ m.short ++ m.long.drop k)
    have moved := List.perm_append_comm_assoc (m.long.take k) (m.taken ++ m.short) (m.long.drop k)
    rw [split] at moved
    simpa [items, Merging.takeLong] using turned.trans moved
  · simp only [left, Merging.takeLong, List.length_drop]
    omega

theorem Sound.merged (h : m.Sound among le) (settled : m.settled = true) :
    m.merged.Pairwise le ∧ m.merged.Perm m.items := by
  have across : ∀ x ∈ m.taken.reverse, ∀ y ∈ m.long ++ m.short, le x y := by
    intro x hx y hy
    exact h.upTo x (List.mem_reverse.1 hx) y (List.perm_append_comm.mem_iff.1 hy)
  have rest : (m.long ++ m.short).Pairwise le := by
    refine List.pairwise_append.2 ⟨h.long, h.short, fun y hy x hx => ?_⟩
    unfold Merging.settled at settled
    cases hl : m.long with
    | nil => simp [hl] at hy
    | cons b long =>
      match hs : m.short with
      | [] => simp [hs] at hx
      | [last] =>
        rw [hs, List.mem_singleton] at hx
        exact hx ▸ h.last last (by simp [hs]) y hy
      | a :: c :: short => simp [hl, hs] at settled
  constructor
  · rw [Merging.merged, List.append_assoc]
    exact List.pairwise_append.2 ⟨List.pairwise_reverse.2 h.taken, rest, across⟩
  · rw [Merging.merged, items, List.append_assoc]
    exact (List.reverse_perm _).append List.perm_append_comm

end Merging

namespace Side

open Merging

variable {s : Side α ε} {m : Merging α}

theorem single_yields (h : Orders s.goesFirst among le) (sound : m.Sound among le)
    (shortWins longWins : Nat) : Yields (s.single m shortWins longWins) fun n =>
      Goes among le m n ∧ (n.settled = false → n.left < m.left) := by
  induction m, shortWins, longWins using single.induct with
  | case1 m shortWins longWins settled =>
    unfold single
    rw [if_pos settled]
    exact yields_ok ⟨sound.refl, fun open_ => by simp [settled] at open_⟩
  | case2 m shortWins longWins open_ a short b long hs hl long_next short_next =>
    have first := List.pairwise_cons.1 (hs ▸ sound.short)
    have second := List.pairwise_cons.1 (hl ▸ sound.long)
    unfold single
    rw [if_neg open_]
    split
    · rename_i a' short' b' long' hs' hl'
      cases hs.symm.trans hs'
      cases hl.symm.trans hl'
      refine h.ask (sound.all b (by simp [hl])) (sound.all a (by simp [hs])) (fun earlier => ?_)
        fun later => ?_
      · have goes : Goes among le m (m.takeLong 1) := by
          refine sound.takeLong fun x hx y hy => ?_
          simp only [hl, List.take_succ_cons, List.take_zero, List.mem_singleton] at hx
          subst hx
          rcases List.mem_cons.1 (hs ▸ hy) with rfl | behind
          · exact earlier
          · exact h.trans earlier (first.1 y behind)
        have less : (m.takeLong 1).left < m.left := by
          simp [left, Merging.takeLong, hs, hl]
        dsimp only
        rw [if_pos rfl]
        split
        · exact yields_ok ⟨goes, fun _ => less⟩
        · refine (long_next goes.sound).imp ?_
          rintro n ⟨further, _⟩
          exact ⟨goes.trans further, fun _ => Nat.lt_of_le_of_lt further.less less⟩
      · have goes : Goes among le m (m.takeShort 1) := by
          refine sound.takeShort fun x hx y hy => ?_
          simp only [hs, List.take_succ_cons, List.take_zero, List.mem_singleton] at hx
          subst hx
          rcases List.mem_cons.1 (hl ▸ hy) with rfl | behind
          · exact later
          · exact h.trans later (second.1 y behind)
        have less : (m.takeShort 1).left < m.left := by
          simp [left, Merging.takeShort, hs, hl]
        dsimp only
        rw [if_neg Bool.false_ne_true]
        split
        · exact yields_ok ⟨goes, fun _ => less⟩
        · refine (short_next goes.sound).imp ?_
          rintro n ⟨further, _⟩
          exact ⟨goes.trans further, fun _ => Nat.lt_of_le_of_lt further.less less⟩
    · rename_i none
      exact absurd hl (none a short b long hs)
  | case3 m shortWins longWins open_ none =>
    exfalso
    unfold Merging.settled at open_
    cases hs : m.short with
    | nil => simp [hs] at open_
    | cons a short =>
      cases hl : m.long with
      | nil => simp [hl] at open_
      | cons b long => exact none a short b long hs hl

theorem stretchShort_yields (h : Orders s.goesFirst among le) (sound : m.Sound among le) :
    Yields (s.stretchShort m) fun n => Goes among le m n.2 := by
  unfold stretchShort
  split
  · rename_i b long _ hl
    obtain ⟨first, -⟩ := List.pairwise_cons.1 (hl ▸ sound.long)
    have all : ∀ x ∈ m.short, among x := fun x hx => sound.all x (List.mem_append_left _ hx)
    refine (stays_yields h sound.short all (sound.all b (by simp [hl])) s.fromEnd).bind ?_
    rintro k ⟨-, below, above⟩
    have goes : Goes among le m (m.takeShort k) := by
      refine sound.takeShort fun x hx y hy => ?_
      rcases List.mem_cons.1 (hl ▸ hy) with rfl | behind
      · exact below x hx
      · exact h.trans (below x hx) (first y behind)
    refine yields_ok ?_
    dsimp only
    split
    · exact goes
    · refine goes.trans (goes.sound.takeLong fun x hx y hy => ?_)
      simp only [Merging.takeShort, hl, List.take_succ_cons, List.take_zero,
        List.mem_singleton] at hx
      exact hx ▸ above y hy
  · exact yields_ok sound.refl

theorem stretchLong_yields (h : Orders s.goesFirst among le) (sound : m.Sound among le) :
    Yields (s.stretchLong m) fun n => Goes among le m n.2 := by
  unfold stretchLong
  split
  · rename_i a short _ hs
    obtain ⟨first, -⟩ := List.pairwise_cons.1 (hs ▸ sound.short)
    have all : ∀ x ∈ m.long, among x := fun x hx => sound.all x (List.mem_append_right _ hx)
    refine (goes_yields h sound.long all (sound.all a (by simp [hs])) s.fromEnd).bind ?_
    rintro k ⟨-, below, above⟩
    have goes : Goes among le m (m.takeLong k) := by
      refine sound.takeLong fun x hx y hy => ?_
      rcases List.mem_cons.1 (hs ▸ hy) with rfl | behind
      · exact below x hx
      · exact h.trans (below x hx) (first y behind)
    refine yields_ok ?_
    dsimp only
    split
    · exact goes
    · refine goes.trans (goes.sound.takeShort fun x hx y hy => ?_)
      simp only [Merging.takeLong, hs, List.take_succ_cons, List.take_zero,
        List.mem_singleton] at hx
      exact hx ▸ above y hy
  · exact yields_ok sound.refl

theorem stretches_yields (h : Orders s.goesFirst among le) (rounds : Nat) {m : Merging α}
    (sound : m.Sound among le) : Yields (s.stretches rounds m) fun n => Goes among le m n := by
  induction rounds generalizing m with
  | zero => exact yields_ok sound.refl
  | succ rounds ih =>
    have eager := sound.withPatience (max 1 (m.patience - 1))
    have rest (first second : Nat) {n : Merging α} (goes : Goes among le m n) :
        Yields (if n.settled then (pure n : Except ε (Merging α))
          else if worthwhile ≤ first ∨ worthwhile ≤ second then s.stretches rounds n
          else pure { n with patience := n.patience + 1 }) fun o => Goes among le m o := by
      split
      · exact yields_ok goes
      · split
        · exact (ih goes.sound).imp fun _ further => goes.trans further
        · exact yields_ok (goes.trans (goes.sound.withPatience _))
    unfold stretches
    dsimp only
    cases s.fromEnd with
    | true =>
      refine (stretchLong_yields h eager.sound).bind ?_
      rintro ⟨first, n⟩ one
      refine (stretchShort_yields h one.sound).bind ?_
      rintro ⟨second, o⟩ two
      exact rest first second (eager.trans (one.trans two))
    | false =>
      refine (stretchShort_yields h eager.sound).bind ?_
      rintro ⟨first, n⟩ one
      refine (stretchLong_yields h one.sound).bind ?_
      rintro ⟨second, o⟩ two
      exact rest first second (eager.trans (one.trans two))

theorem finish_yields (h : Orders s.goesFirst among le) {rounds : Nat} {m : Merging α}
    (sound : m.Sound among le) (enough : m.left ≤ rounds) :
    Yields (s.finish rounds m) fun n => Goes among le m n ∧ n.settled = true := by
  induction rounds generalizing m with
  | zero =>
    have none : m.long = [] := by
      unfold left at enough
      exact List.length_eq_zero_iff.1 (by omega)
    exact yields_ok ⟨sound.refl, by simp [Merging.settled, none]⟩
  | succ rounds ih =>
    unfold finish
    refine (single_yields h sound 0 0).bind ?_
    rintro n ⟨goes, less⟩
    split
    · rename_i settled
      exact yields_ok ⟨goes, settled⟩
    · rename_i open_
      have less := less (by simpa using open_)
      have patient := goes.trans (goes.sound.withPatience (n.patience + 1))
      refine (stretches_yields h _ patient.sound).bind ?_
      intro o further
      have goes := patient.trans further
      have few : o.left ≤ rounds := by
        have still : o.left ≤ n.left := further.less
        omega
      split
      · rename_i settled
        exact yields_ok ⟨goes, settled⟩
      · refine (ih goes.sound few).imp ?_
        rintro p ⟨further, settled⟩
        exact ⟨goes.trans further, settled⟩

theorem merge_yields (h : Orders s.goesFirst among le) {short long : List α}
    (all : ∀ a ∈ short ++ long, among a) (hs : short.Pairwise le) (hl : long.Pairwise le)
    (first : ∀ x ∈ long.head?, ∀ y ∈ short, le x y)
    (last : ∀ z ∈ short.getLast?, ∀ y ∈ long, le y z) (patience : Nat) :
    Yields (s.merge short long patience) fun merged =>
      merged.1.Pairwise le ∧ merged.1.Perm (short ++ long) := by
  have start : Sound among le ⟨short, long, [], patience⟩ :=
    ⟨all, hs, hl, List.Pairwise.nil, by simp, last⟩
  have begun : Goes among le ⟨short, long, [], patience⟩
      (Merging.takeLong 1 ⟨short, long, [], patience⟩) := by
    refine start.takeLong fun x hx y hy => first x ?_ y hy
    cases long with
    | nil => simp at hx
    | cons b long =>
      have same : x = b := List.mem_singleton.1 hx
      rw [same]
      rfl
  refine (finish_yields h begun.sound begun.less).bind ?_
  rintro n ⟨goes, settled⟩
  obtain ⟨sorted, perm⟩ := goes.sound.merged settled
  exact yields_ok ⟨sorted, perm.trans (begun.trans goes).perm⟩

end Side

structure Merged (le : α → α → Prop) (first second : List α) (merged : List α × Nat) : Prop where
  sorted : merged.1.Pairwise le
  all : merged.1.Perm (first ++ second)

theorem Merged.append {first second : List α} (hf : first.Pairwise le) (hs : second.Pairwise le)
    (across : ∀ x ∈ first, ∀ y ∈ second, le x y) (patience : Nat) :
    Merged le first second (first ++ second, patience) :=
  ⟨List.pairwise_append.2 ⟨hf, hs, across⟩, .refl _⟩

/-- Two runs that follow each other and where they overlap: what is before the overlap and what comes
after it stands where it belongs, and the overlap begins with the second run and ends with the first. -/
structure Overlap (le : α → α → Prop) (first second : List α) (kept tail : Nat) : Prop where
  front : ∀ x ∈ first.take kept, ∀ y ∈ second, le x y
  back : ∀ x ∈ first, ∀ y ∈ second.drop tail, le x y
  begins : ∀ x ∈ (second.take tail).head?, ∀ y ∈ first.drop kept, le x y
  ends : ∀ z ∈ (first.drop kept).getLast?, ∀ y ∈ second.take tail, le y z

section
variable {first second : List α} {kept tail : Nat}

theorem Overlap.merged (h : Overlap le first second kept tail) (hf : first.Pairwise le)
    (hs : second.Pairwise le) {between : List α} (sorted : between.Pairwise le)
    (perm : between.Perm (first.drop kept ++ second.take tail)) (patience : Nat) :
    Merged le first second (first.take kept ++ between ++ second.drop tail, patience) := by
  have split := List.take_append_drop kept first
  have splitBack := List.take_append_drop tail second
  obtain ⟨hfront, -, frontLeft⟩ := List.pairwise_append.1 (split.symm ▸ hf)
  obtain ⟨-, hback, rightBack⟩ := List.pairwise_append.1 (splitBack.symm ▸ hs)
  constructor
  · dsimp only
    rw [List.append_assoc]
    refine List.pairwise_append.2 ⟨hfront, List.pairwise_append.2 ⟨sorted, hback, ?_⟩, ?_⟩
    · intro x hx y hy
      rcases List.mem_append.1 (perm.mem_iff.1 hx) with inLeft | inRight
      · exact h.back x (List.mem_of_mem_drop inLeft) y hy
      · exact rightBack x inRight y hy
    · intro x hx y hy
      rcases List.mem_append.1 hy with inBetween | inBack
      · rcases List.mem_append.1 (perm.mem_iff.1 inBetween) with inLeft | inRight
        · exact frontLeft x hx y inLeft
        · exact h.front x hx y (List.mem_of_mem_take inRight)
      · exact h.front x hx y (List.mem_of_mem_drop inBack)
  · have whole := (perm.append_left (first.take kept)).append_right (second.drop tail)
    calc first.take kept ++ between ++ second.drop tail
      _ |>.Perm (first.take kept ++ (first.drop kept ++ second.take tail) ++ second.drop tail) :=
        whole
      _ = first ++ second := by rw [← List.append_assoc, split, List.append_assoc, splitBack]

theorem Overlap.append (h : Overlap le first second kept tail) (hf : first.Pairwise le)
    (hs : second.Pairwise le) (none : second.take tail = []) (patience : Nat) :
    Merged le first second (first ++ second, patience) := by
  have whole : second.drop tail = second := by
    have split := List.take_append_drop tail second
    rwa [none, List.nil_append] at split
  exact Merged.append hf hs (whole ▸ h.back) patience

end

theorem keptEnd_yields (h : Orders before among le) {run : List α} (sorted : run.Pairwise le)
    (all : ∀ x ∈ run, among x) {last : α} (hl : among last) :
    Yields (keptEnd before run last) fun k =>
      (∀ x ∈ run.take (run.length - k), le x last) ∧
        ∀ x ∈ run.drop (run.length - k), le last x := by
  have turned : run.reverse.Pairwise fun a b => le b a := List.pairwise_reverse.2 sorted
  have yields := stays_yields h.flip turned (fun x hx => all x (List.mem_reverse.1 hx)) hl true
  rw [List.length_reverse] at yields
  refine yields.imp ?_
  rintro k ⟨inside, below, above⟩
  constructor
  · intro x hx
    apply above x
    rw [List.drop_reverse]
    exact List.mem_reverse.2 hx
  · intro x hx
    apply below x
    rw [List.take_reverse]
    exact List.mem_reverse.2 hx

/-- From the end, both runs and the order are turned round. -/
theorem mergeBack_yields (h : Orders before among le) {left right : List α}
    (all : ∀ a ∈ left ++ right, among a) (hl : left.Pairwise le) (hr : right.Pairwise le)
    (first : ∀ x ∈ right.head?, ∀ y ∈ left, le x y)
    (last : ∀ z ∈ left.getLast?, ∀ y ∈ right, le y z) (patience : Nat) :
    Yields ((⟨true, fun b a => before a b⟩ : Side α ε).merge right.reverse left.reverse patience)
      fun merged => merged.1.reverse.Pairwise le ∧ merged.1.reverse.Perm (left ++ right) := by
  have turned : ∀ a ∈ right.reverse ++ left.reverse, among a := by
    intro a ha
    exact all a (by simpa [or_comm] using ha)
  have begins : ∀ x ∈ left.reverse.head?, ∀ y ∈ right.reverse, le y x := by
    intro x hx y hy
    rw [List.head?_reverse] at hx
    exact last x hx y (List.mem_reverse.1 hy)
  have ends : ∀ z ∈ right.reverse.getLast?, ∀ y ∈ left.reverse, le z y := by
    intro z hz y hy
    rw [List.getLast?_reverse] at hz
    exact first z hz y (List.mem_reverse.1 hy)
  refine (Side.merge_yields (s := ⟨true, fun b a => before a b⟩) h.flip turned
    (List.pairwise_reverse.2 hr) (List.pairwise_reverse.2 hl) begins ends patience).imp ?_
  rintro merged ⟨sorted, perm⟩
  have both := perm.trans ((List.reverse_perm right).append (List.reverse_perm left))
  exact ⟨List.pairwise_reverse.2 sorted,
    (List.reverse_perm _).trans (both.trans List.perm_append_comm)⟩

theorem mergeRuns_yields (h : Orders before among le) {first second : List α}
    (all : ∀ a ∈ first ++ second, among a) (hf : first.Pairwise le) (hs : second.Pairwise le)
    (patience : Nat) :
    Yields (mergeRuns before first second patience) (Merged le first second) := by
  cases second with
  | nil => exact yields_ok ⟨hf, by simp⟩
  | cons next rest =>
    have allFirst : ∀ x ∈ first, among x := fun x hx => all x (List.mem_append_left _ hx)
    have allSecond : ∀ x ∈ next :: rest, among x := fun x hx => all x (List.mem_append_right _ hx)
    unfold mergeRuns
    dsimp only
    refine (stays_yields h hf allFirst (allSecond next (by simp)) false).bind ?_
    rintro kept ⟨-, below, above⟩
    have front : ∀ x ∈ first.take kept, ∀ y ∈ next :: rest, le x y := fun x hx =>
      (List.pairwise_cons.1 (h.pairwise_cons (below x hx) hs)).1
    cases hl : (first.drop kept).getLast? with
    | none =>
      have whole : first.take kept = first := by
        have split := List.take_append_drop kept first
        rwa [List.getLast?_eq_none_iff.1 hl, List.append_nil] at split
      exact yields_ok (Merged.append hf hs (whole ▸ front) patience)
    | some last =>
      have lastIn : last ∈ first := List.mem_of_mem_drop (List.mem_of_getLast? hl)
      refine (keptEnd_yields h hs allSecond (allFirst last lastIn)).bind ?_
      rintro keptBack ⟨inside, behind⟩
      generalize (next :: rest).length - keptBack = tail at inside behind ⊢
      have overlap : Overlap le first (next :: rest) kept tail := by
        constructor
        · exact front
        · intro x hx y hy
          exact h.le_of_last hf (getLast?_of_drop hl) (behind y hy) x hx
        · intro x hx
          have same : x = next := by
            cases tail with
            | zero => simp at hx
            | succ n => simpa using hx.symm
          exact same ▸ above
        · intro z hz
          cases hl.symm.trans hz
          exact inside
      have between : ∀ a ∈ first.drop kept ++ (next :: rest).take tail, among a := by
        intro a ha
        rcases List.mem_append.1 ha with inLeft | inRight
        · exact allFirst a (List.mem_of_mem_drop inLeft)
        · exact allSecond a (List.mem_of_mem_take inRight)
      split
      · rename_i none
        exact yields_ok (overlap.append hf hs (List.isEmpty_iff.1 none) patience)
      · split
        · refine (Side.merge_yields (s := ⟨false, before⟩) h between hf.drop hs.take overlap.begins
            overlap.ends patience).bind ?_
          rintro m ⟨sorted, perm⟩
          exact yields_ok (overlap.merged hf hs sorted perm m.2)
        · refine (mergeBack_yields h between hf.drop hs.take overlap.begins overlap.ends
            patience).bind ?_
          rintro ⟨merged, later⟩ ⟨sorted, perm⟩
          exact yields_ok (overlap.merged hf hs sorted perm later)

end RegistryTokens.Sorting
