import RegistryTokens.Proofs.Drafting
import RegistryTokens.Proofs.SortedSet
import RegistryTokens.Proofs.Time.Iso
import RegistryTokens.Store.Row

/-!
# Columns read back

What a set or a timeline writes into its column is read back as the same set or timeline: a sorted
list is rebuilt item by item, and a timeline entry by entry, each entry after the ones before it.
-/

set_option autoImplicit false

namespace RegistryTokens

open RegistryTokens.Time RegistryTokens.Store

namespace Store.Column

theorem readTexts_writeTexts (s : TextSet) : readTexts (writeTexts s) = s :=
  SortedSet.ofList_items s

theorem readActions_writeActions (s : ActionSet) : readActions (writeActions s) = .ok s := by
  have each : (writeActions s).mapM readAction = .ok s.items := by
    apply Answer.mapM_eq_ok.2
    rw [writeActions, List.map_map]
    apply List.map_congr_left
    intro a _
    simp [readAction, find?_word_action, Answer.ofOption]
  rw [readActions, each]
  exact congrArg Except.ok (SortedSet.ofList_items s)

theorem readTransition_written (e : Instant × Status) :
    readTransition (e.1.iso, word e.2) = .ok (Stamp.ofInstant e.1, e.2) := by
  unfold readTransition
  rw [Stamp.ofIso?_iso, find?_word_status]
  rfl

theorem readEntries_eq_ok_iff {κ : Type} {read : κ → Answer (Stamp × Status)} {cells : List κ}
    {t : Timeline Status} : readEntries read cells = .ok t ↔
      ∃ entries, cells.mapM read = .ok entries ∧ Timeline.build entries = .ok t := by
  have each (cells : List κ) (d next : Timeline.Draft Status) :
      cells.foldlM (fun (d : Timeline.Draft Status) cell => do
        let entry ← read cell
        (d.addStamp entry.1 entry.2).mapError Failure.ofTimeline) d = .ok next ↔
      ∃ entries, cells.mapM read = .ok entries ∧
        entries.foldlM (fun d entry => d.addStamp entry.1 entry.2) d = .ok next := by
    induction cells generalizing d with
    | nil =>
      rw [List.mapM_nil]
      constructor
      · intro done
        cases done
        exact ⟨[], rfl, rfl⟩
      · rintro ⟨_, ⟨⟩, done⟩
        cases done
        rfl
    | cons cell rest ih =>
      rw [List.foldlM_cons, List.mapM_cons]
      constructor
      · intro passed
        obtain ⟨after, put, passed⟩ := Answer.bind_eq_ok.1 passed
        obtain ⟨e, this, put⟩ := Answer.bind_eq_ok.1 put
        obtain ⟨entries, others, passed⟩ := (ih after).1 passed
        refine ⟨e :: entries, ?_, ?_⟩
        · rw [this, others]
          rfl
        · exact Answer.bind_eq_ok.2 ⟨after, Answer.mapError_eq_ok.1 put, passed⟩
      · rintro ⟨_, all, passed⟩
        obtain ⟨e, this, all⟩ := Answer.bind_eq_ok.1 all
        obtain ⟨entries, others, all⟩ := Answer.bind_eq_ok.1 all
        cases all
        obtain ⟨after, put, passed⟩ := Answer.bind_eq_ok.1 passed
        refine Answer.bind_eq_ok.2 ⟨after, ?_, (ih after).2 ⟨entries, others, passed⟩⟩
        exact Answer.bind_eq_ok.2 ⟨e, this, Answer.mapError_eq_ok.2 put⟩
  unfold readEntries Timeline.build
  rw [Answer.bind_eq_ok]
  constructor
  · rintro ⟨d, put, finished⟩
    obtain ⟨entries, all, put⟩ := (each cells _ d).1 put
    exact ⟨entries, all, Answer.bind_eq_ok.2 ⟨d, put, Answer.mapError_eq_ok.1 finished⟩⟩
  · rintro ⟨entries, all, built⟩
    obtain ⟨d, put, finished⟩ := Answer.bind_eq_ok.1 built
    exact ⟨d, (each cells _ d).2 ⟨entries, all, put⟩, Answer.mapError_eq_ok.2 finished⟩

theorem readEntries_of_written {κ : Type} {read : κ → Answer (Stamp × Status)}
    {cell : Instant × Status → κ} (each : ∀ e, read (cell e) = .ok (Stamp.ofInstant e.1, e.2))
    (t : Timeline Status) : readEntries read (t.entries.map cell) = .ok t := by
  refine readEntries_eq_ok_iff.2 ⟨t.entries.map fun e => (Stamp.ofInstant e.1, e.2), ?_, ?_⟩
  · rw [Answer.mapM_eq_ok, List.map_map, List.map_map]
    exact List.map_congr_left fun e _ => each e
  · rw [Timeline.build_eq_ok_iff, Timeline.Told, List.map_map]
    exact List.map_congr_left fun e _ => by simp

theorem readTransitions_writeTransitions (t : Timeline Status) :
    readTransitions (writeTransitions t) = .ok t :=
  readEntries_of_written readTransition_written t

end Store.Column

end RegistryTokens
