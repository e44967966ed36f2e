import RegistryTokens.Proofs.Drafting
import RegistryTokens.Proofs.Sorting.Search

/-!
# Building and looking up

Stamps are put down in universal time whatever their offsets, so what makes a timeline is that their
moments increase. A look-up halves the entries, and as these increase the place where it ends is the
number of those that are not after the moment: it answers as going through all of them would, and
as picking the last of all that are not after it.
-/

set_option autoImplicit false

namespace RegistryTokens.Timeline

open RegistryTokens.Time

variable {α : Type}

def moments (entries : List (Stamp × α)) : List (Int × α) :=
  entries.map fun e => (e.1.utcTicks, e.2)

def latest? (moments : List (Int × α)) (ticks : Int) : Option α :=
  (moments.filter fun m => decide (m.1 ≤ ticks)).getLast?.map (·.2)

theorem hasReached_eq (t : Timeline α) (ticks : Int) {i : Nat} (inside : i < t.entries.length) :
    t.hasReached ticks i = .ok (decide ((t.entries[i].1.ticks : Int) ≤ ticks)) := by
  rw [hasReached, List.getElem?_eq_getElem inside]
  rfl

theorem halve_hasReached (t : Timeline α) (ticks : Int) :
    ∃ k, Sorting.halve (t.hasReached ticks) false 0 t.entries.length = .ok k ∧
      (∀ e ∈ t.entries.take k, (e.1.ticks : Int) ≤ ticks) ∧
      ∀ e ∈ t.entries.drop k, ticks < e.1.ticks := by
  have answered : ∀ i < t.entries.length, ∃ b, t.hasReached ticks i = .ok b := by
    intro i _
    exact ⟨_, rfl⟩
  obtain ⟨k, found, inside, passed, failed⟩ := Sorting.halve_yields answered false (Nat.zero_le _)
    (Nat.le_refl _) (by simp) (by simp)
  have increasing {i j : Nat} (order : i < j) (hj : j < t.entries.length) :
      t.entries[i].1.ticks < t.entries[j].1.ticks :=
    List.pairwise_iff_getElem.1 t.increasing i j (by omega) hj order
  refine ⟨k, found, fun e he => ?_, fun e he => ?_⟩
  · obtain ⟨i, before, rfl⟩ := List.mem_take_iff_getElem.1 he
    have last := passed (by omega)
    rw [hasReached_eq t ticks (by omega)] at last
    have last := of_decide_eq_true (Except.ok.inj last)
    rcases Nat.lt_or_ge i (k - 1) with earlier | same
    · have step := increasing earlier (by omega)
      omega
    · have same : i = k - 1 := by omega
      subst same
      exact last
  · obtain ⟨i, after, rfl⟩ := List.mem_drop_iff_getElem.1 he
    have first := failed (by omega)
    rw [hasReached_eq t ticks (by omega)] at first
    have first := of_decide_eq_false (Except.ok.inj first)
    rcases Nat.eq_zero_or_pos i with rfl | later
    · simpa using first
    · have step := increasing (i := k) (j := k + i) (by omega) (by omega)
      omega

theorem valueAt_eq (t : Timeline α) (s : Stamp) :
    t.valueAt s = match t.valueAtTicks? s.utcTicks with
      | some a => .ok a
      | none => .error ⟨s.assumingUtc, t.firstInstant⟩ := by
  obtain ⟨k, found, reached, ahead⟩ := t.halve_hasReached s.utcTicks
  have front : t.entries.takeWhile (fun e => decide ((e.1.ticks : Int) ≤ s.utcTicks)) =
      t.entries.take k := by
    conv => lhs; rw [← List.take_append_drop k t.entries]
    rw [List.takeWhile_append_of_pos (by simpa using reached)]
    cases later : t.entries.drop k with
    | nil => rw [List.takeWhile_nil, List.append_nil]
    | cons e rest =>
      have early : s.utcTicks < e.1.ticks := ahead e (by rw [later]; exact List.mem_cons_self)
      rw [List.takeWhile_cons_of_neg (by simpa using early), List.append_nil]
  rw [valueAt, found, valueAtTicks?, front]
  simp only [bind, Except.bind]
  cases (t.entries.take k).getLast? <;> rfl

theorem valueAt_eq_error_iff {t : Timeline α} {s : Stamp} {fault : BeforeFirst} :
    t.valueAt s = .error fault ↔
      fault = ⟨s.assumingUtc, t.firstInstant⟩ ∧ s.utcTicks < t.firstInstant.ticks := by
  rw [valueAt_eq, ← valueAtTicks?_eq_none_iff]
  cases t.valueAtTicks? s.utcTicks <;> simp [eq_comm]

theorem takeWhile_eq_filter {entries : List (Instant × α)}
    (increasing : entries.Pairwise fun a b => a.1 < b.1) (ticks : Int) :
    entries.takeWhile (fun e => decide ((e.1.ticks : Int) ≤ ticks)) =
      entries.filter fun e => decide ((e.1.ticks : Int) ≤ ticks) := by
  induction entries with
  | nil => rfl
  | cons e rest ih =>
    obtain ⟨before, increasing⟩ := List.pairwise_cons.1 increasing
    by_cases reached : (e.1.ticks : Int) ≤ ticks
    · rw [List.filter_cons_of_pos (by simpa using reached),
        List.takeWhile_cons_of_pos (by simpa using reached), ih increasing]
    · have late : rest.filter (fun e => decide ((e.1.ticks : Int) ≤ ticks)) = [] := by
        refine List.filter_eq_nil_iff.2 fun later member passed => ?_
        have order : e.1.ticks < later.1.ticks := before later member
        have early := of_decide_eq_true passed
        omega
      rw [List.filter_cons_of_neg (by simpa using reached),
        List.takeWhile_cons_of_neg (by simpa using reached), late]

theorem valueAtTicks?_eq_latest? (t : Timeline α) (ticks : Int) :
    t.valueAtTicks? ticks = latest? (t.entries.map fun e => ((e.1.ticks : Int), e.2)) ticks := by
  rw [valueAtTicks?, takeWhile_eq_filter t.increasing, latest?, List.filter_map, List.getLast?_map,
    Option.map_map]
  rfl

theorem moments_of_told {entries : List (Stamp × α)} {told : List (Instant × α)}
    (h : Told entries told) : moments entries = told.map fun e => ((e.1.ticks : Int), e.2) := by
  induction entries generalizing told with
  | nil =>
    obtain rfl := List.map_eq_nil_iff.1 h.symm
    rfl
  | cons e rest ih =>
    cases told with
    | nil => cases h
    | cons f told =>
      obtain ⟨head, tail⟩ := List.cons.inj h
      obtain ⟨moment, value⟩ := Prod.mk.inj head
      rw [List.map_cons, ← ih tail, Stamp.ticks_of_toInstant moment, ← value]
      rfl

theorem exists_told {entries : List (Stamp × α)} (aware : ∀ e ∈ entries,
    e.1.isNaive = false ∧ 0 ≤ e.1.utcTicks ∧ e.1.utcTicks < calendarTicks) :
    ∃ told, Told entries told := by
  induction entries with
  | nil => exact ⟨[], rfl⟩
  | cons e rest ih =>
    obtain ⟨offset, begun, inside⟩ := aware e List.mem_cons_self
    obtain ⟨i, moment, -⟩ := Stamp.toInstant_of_aware offset begun inside
    obtain ⟨told, same⟩ := ih fun f member => aware f (List.mem_cons_of_mem _ member)
    refine ⟨(i, e.2) :: told, ?_⟩
    unfold Told at same ⊢
    rw [List.map_cons, List.map_cons, moment, same]

/-- Stamps with offsets make a timeline just if there are any and their moments increase. It has
their values in order at their moments, and its value at a stamp is that of the last moment which is
not after it. -/
theorem build_looks_up (entries : List (Stamp × α)) (aware : ∀ e ∈ entries,
    e.1.isNaive = false ∧ 0 ≤ e.1.utcTicks ∧ e.1.utcTicks < calendarTicks) :
    ((∃ t, build entries = .ok t) ↔
      entries ≠ [] ∧ (moments entries).Pairwise fun a b => a.1 < b.1) ∧
    ∀ t, build entries = .ok t →
      t.entries.map (fun e => ((e.1.ticks : Int), e.2)) = moments entries ∧
      ∀ s : Stamp,
        (∀ a, t.valueAt s = .ok a ↔ latest? (moments entries) s.utcTicks = some a) ∧
        ∀ fault, t.valueAt s = .error fault ↔
          fault = ⟨s.assumingUtc, t.firstInstant⟩ ∧ s.utcTicks < t.firstInstant.ticks := by
  refine ⟨⟨?_, ?_⟩, fun t built => ?_⟩
  · rintro ⟨t, built⟩
    have told := build_eq_ok_iff.1 built
    refine ⟨?_, ?_⟩
    · rintro rfl
      exact t.nonempty (List.map_eq_nil_iff.1 told.symm)
    · rw [moments_of_told told, List.pairwise_map]
      refine t.increasing.imp fun {a b} order => ?_
      exact Int.ofNat_lt.2 order
  · rintro ⟨some, increasing⟩
    obtain ⟨told, same⟩ := exists_told aware
    rw [moments_of_told same, List.pairwise_map] at increasing
    have nonempty : told ≠ [] := by
      rintro rfl
      exact some (List.map_eq_nil_iff.1 same)
    refine ⟨⟨told, nonempty, increasing.imp fun {a b} order => ?_⟩, build_eq_ok_iff.2 same⟩
    exact Int.ofNat_lt.1 order
  · have same := moments_of_told (build_eq_ok_iff.1 built)
    refine ⟨same.symm, fun s => ⟨fun a => ?_, fun fault => valueAt_eq_error_iff⟩⟩
    rw [same, ← valueAtTicks?_eq_latest?, valueAt_eq]
    cases t.valueAtTicks? s.utcTicks <;> simp

def offsetEntries : List (Stamp × Bool) :=
  [(⟨Instant.epoch, some ⟨3600000000, by decide⟩⟩, false),
    (⟨⟨Instant.epoch.ticks - 3600000000, by decide⟩, some ⟨-3600000000, by decide⟩⟩, true)]

theorem found_across_offsets : ∃ t, build offsetEntries = .ok t ∧
    t.valueAt ⟨⟨Instant.epoch.ticks - 1, by decide⟩, none⟩ = .ok false ∧
    t.valueAt ⟨Instant.epoch, none⟩ = .ok true := by
  obtain ⟨made, found⟩ := build_looks_up offsetEntries (by decide)
  obtain ⟨t, built⟩ := made.2 (by decide)
  obtain ⟨-, looked⟩ := found t built
  exact ⟨t, built, ((looked _).1 false).2 (by decide), ((looked _).1 true).2 (by decide)⟩

end RegistryTokens.Timeline
