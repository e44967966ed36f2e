import RegistryTokens.Proofs.Answer
import RegistryTokens.Timeline

/-!
# Which entries make a timeline

A timeline is built of its own entries, as they are told in universal time, and of no others. One
that leaves the calendar does so with the first entry that cannot be put down, after entries that
increase.
-/

set_option autoImplicit false

namespace RegistryTokens.Timeline

open RegistryTokens.Time

variable {α : Type}

/-- The moments of entries are these in universal time. -/
def Told (entries : List (Stamp × α)) (told : List (Instant × α)) : Prop :=
  entries.map (fun e => (e.1.toInstant, e.2)) = told.map fun e => (.ok e.1, e.2)

namespace Draft

theorem ext_entries {d e : Draft α} (h : d.entries = e.entries) : d = e := by
  cases d
  cases e
  cases h
  rfl

theorem add_eq_ok_iff {d next : Draft α} {i : Instant} {a : α} :
    d.add i a = .ok next ↔ next.entries = d.entries ++ [(i, a)] := by
  unfold add
  split
  · constructor
    · rintro ⟨⟩
      rfl
    · intro h
      exact congrArg Except.ok (ext_entries h.symm)
  · rename_i last found
    split
    · constructor
      · rintro ⟨⟩
        rfl
      · intro h
        exact congrArg Except.ok (ext_entries h.symm)
    · rename_i late
      refine ⟨nofun, fun h => absurd ?_ late⟩
      have apart := next.increasing
      rw [h] at apart
      exact (List.pairwise_append.1 apart).2.2 last (List.mem_of_getLast? found) (i, a) (by simp)

theorem addStamp_eq_ok_iff {d next : Draft α} {s : Stamp} {a : α} : d.addStamp s a = .ok next ↔
    ∃ i, s.toInstant = .ok i ∧ next.entries = d.entries ++ [(i, a)] := by
  unfold addStamp
  cases s.toInstant with
  | ok i => simp [add_eq_ok_iff]
  | error fault => cases fault <;> simp

theorem addStamp_eq_outsideCalendar_iff {d : Draft α} {s : Stamp} {a : α} :
    d.addStamp s a = .error .outsideCalendar ↔ s.toInstant = .error .outsideCalendar := by
  unfold addStamp
  cases s.toInstant with
  | error fault => cases fault <;> simp
  | ok i =>
    unfold add
    dsimp only
    split
    · simp
    · split <;> simp

theorem foldlM_addStamp_eq_ok_iff {entries : List (Stamp × α)} {d next : Draft α} :
    entries.foldlM (fun d entry => d.addStamp entry.1 entry.2) d = .ok next ↔
      ∃ told, Told entries told ∧ next.entries = d.entries ++ told := by
  induction entries generalizing d with
  | nil =>
    constructor
    · rintro ⟨⟩
      exact ⟨[], rfl, (List.append_nil _).symm⟩
    · rintro ⟨told, same, split⟩
      obtain rfl := List.map_eq_nil_iff.1 same.symm
      rw [List.append_nil] at split
      exact congrArg Except.ok (ext_entries split.symm)
  | cons e rest ih =>
    rw [List.foldlM_cons, Answer.bind_eq_ok]
    constructor
    · rintro ⟨first, put, passed⟩
      obtain ⟨i, moment, first⟩ := addStamp_eq_ok_iff.1 put
      obtain ⟨told, same, split⟩ := ih.1 passed
      refine ⟨(i, e.2) :: told, ?_, ?_⟩
      · unfold Told at same ⊢
        rw [List.map_cons, List.map_cons, moment, same]
      · rw [split, first, List.append_assoc]
        rfl
    · rintro ⟨told, same, split⟩
      cases told with
      | nil => cases same
      | cons f told =>
        obtain ⟨head, tail⟩ := List.cons.inj same
        obtain ⟨moment, value⟩ := Prod.mk.inj head
        have increasing := next.increasing
        rw [split, ← List.singleton_append, ← List.append_assoc] at increasing
        have front := (List.pairwise_append.1 increasing).1
        refine ⟨⟨d.entries ++ [f], front⟩, addStamp_eq_ok_iff.2 ⟨f.1, moment, ?_⟩, ih.2 ⟨told, tail, ?_⟩⟩
        · rw [value]
        · rw [split, List.append_assoc]
          rfl

end Draft

theorem build_eq_ok_iff {entries : List (Stamp × α)} {t : Timeline α} :
    build entries = .ok t ↔ Told entries t.entries := by
  rw [build, Answer.bind_eq_ok]
  constructor
  · rintro ⟨d, put, finished⟩
    obtain ⟨told, same, split⟩ := Draft.foldlM_addStamp_eq_ok_iff.1 put
    unfold Draft.finish at finished
    split at finished
    · cases finished
    · cases finished
      change Told entries d.entries
      rw [split]
      exact same
  · intro same
    refine ⟨⟨t.entries, t.increasing⟩, ?_, dif_neg t.nonempty⟩
    exact Draft.foldlM_addStamp_eq_ok_iff.2 ⟨t.entries, same, rfl⟩

theorem build_eq_outsideCalendar_iff {entries : List (Stamp × α)} :
    build entries = .error .outsideCalendar ↔ ∃ front late back, ∃ d : Draft α,
      entries = front ++ late :: back ∧ Told front d.entries ∧
      late.1.toInstant = .error .outsideCalendar := by
  have finished (d : Draft α) : d.finish ≠ .error .outsideCalendar := by
    unfold Draft.finish
    split <;> exact nofun
  rw [build, Answer.bind_eq_error, Answer.foldlM_eq_error_iff]
  constructor
  · rintro (⟨front, late, back, d, split, put, outside⟩ | ⟨d, -, outside⟩)
    · obtain ⟨told, same, entries⟩ := Draft.foldlM_addStamp_eq_ok_iff.1 put
      rw [← List.nil_append told] at same
      exact ⟨front, late, back, d, split, entries ▸ same,
        Draft.addStamp_eq_outsideCalendar_iff.1 outside⟩
    · exact absurd outside (finished d)
  · rintro ⟨front, late, back, d, split, same, outside⟩
    exact .inl ⟨front, late, back, d, split, Draft.foldlM_addStamp_eq_ok_iff.2 ⟨_, same, rfl⟩,
      Draft.addStamp_eq_outsideCalendar_iff.2 outside⟩

end RegistryTokens.Timeline
