import Mathlib.Data.List.Perm.Basic
import RegistryTokens.Proofs.Store.Column
import RegistryTokens.Proofs.Value
import RegistryTokens.Store.Cell

/-!
# Cells read back

What a column makes of a value is read back as a value that means the same. A set is written as the
sorted list of its texts, so sets that mean the same are written alike; a timeline as its entries in
universal time; a stamp as its instant, with or without a zone. Whatever can be read as a timeline at
all is one, and is read again once it is written.
-/

set_option autoImplicit false

namespace RegistryTokens

open RegistryTokens.Time

namespace Store

namespace Column

def entry? (cell : String × String) : Option (Instant × Status) := do
  let stamp ← Stamp.ofIso? cell.1
  let instant ← stamp.toInstant.toOption
  let status ← Vocabulary.find? cell.2
  some (instant, status)

theorem readTransition_eq_ok_iff {cell : String × String} {e : Stamp × Status} :
    readTransition cell = .ok e ↔
      Stamp.ofIso? cell.1 = some e.1 ∧ Vocabulary.find? cell.2 = some e.2 := by
  unfold readTransition
  cases Stamp.ofIso? cell.1 with
  | none => exact ⟨nofun, nofun⟩
  | some stamp =>
    cases (Vocabulary.find? cell.2 : Option Status) with
    | none => exact ⟨nofun, nofun⟩
    | some status =>
      constructor
      · intro same
        cases same
        exact ⟨rfl, rfl⟩
      · rintro ⟨⟨⟩, ⟨⟩⟩
        rfl

theorem entry?_eq_some_iff {cell : String × String} {i : Instant} {status : Status} :
    entry? cell = some (i, status) ↔
      ∃ stamp, readTransition cell = .ok (stamp, status) ∧ stamp.toInstant = .ok i := by
  unfold entry?
  constructor
  · intro shown
    obtain ⟨stamp, read, shown⟩ := Option.bind_eq_some_iff.1 shown
    obtain ⟨instant, moment, shown⟩ := Option.bind_eq_some_iff.1 shown
    obtain ⟨known, found, shown⟩ := Option.bind_eq_some_iff.1 shown
    cases shown
    refine ⟨stamp, readTransition_eq_ok_iff.2 ⟨read, found⟩, ?_⟩
    cases instant : stamp.toInstant with
    | error _ =>
      rw [instant] at moment
      cases moment
    | ok _ =>
      rw [instant] at moment
      exact congrArg Except.ok (Option.some.inj moment)
  · rintro ⟨stamp, read, moment⟩
    obtain ⟨read, found⟩ := readTransition_eq_ok_iff.1 read
    dsimp only at read found
    rw [read, found]
    simp [moment, Except.toOption]

theorem told_of_cells_iff {cells : List (String × String)} {told : List (Instant × Status)} :
    (∃ entries, cells.mapM readTransition = .ok entries ∧ Timeline.Told entries told) ↔
      cells.map entry? = told.map some := by
  induction cells generalizing told with
  | nil =>
    constructor
    · rintro ⟨_, ⟨⟩, none⟩
      obtain rfl := List.map_eq_nil_iff.1 none.symm
      rfl
    · intro none
      obtain rfl := List.map_eq_nil_iff.1 none.symm
      exact ⟨[], rfl, rfl⟩
  | cons cell rest ih =>
    simp only [Answer.mapM_eq_ok, Timeline.Told] at ih ⊢
    constructor
    · rintro ⟨entries, all, moments⟩
      cases entries with
      | nil => cases all
      | cons e entries =>
        cases told with
        | nil => cases moments
        | cons first told =>
          obtain ⟨read, all⟩ := List.cons.inj all
          obtain ⟨moment, moments⟩ := List.cons.inj moments
          obtain ⟨instant, status⟩ := Prod.mk.inj moment
          have shown : entry? cell = some first :=
            entry?_eq_some_iff.2 ⟨e.1, by rw [read, ← status], instant⟩
          rw [List.map_cons, List.map_cons, shown, ih.1 ⟨entries, all, moments⟩]
    · intro shown
      cases told with
      | nil => cases shown
      | cons first told =>
        obtain ⟨here, shown⟩ := List.cons.inj shown
        obtain ⟨stamp, read, moment⟩ := entry?_eq_some_iff.1 here
        obtain ⟨entries, all, moments⟩ := ih.2 shown
        refine ⟨(stamp, first.2) :: entries, ?_, ?_⟩
        · rw [List.map_cons, List.map_cons, read, all]
        · rw [List.map_cons, List.map_cons, moment, moments]

theorem readTransitions_eq_ok_iff {cells : List (String × String)} {t : Timeline Status} :
    readTransitions cells = .ok t ↔ cells.map entry? = t.entries.map some := by
  unfold readTransitions
  rw [readEntries_eq_ok_iff, ← told_of_cells_iff]
  simp only [Timeline.build_eq_ok_iff]

end Column

namespace Cell

def texts (cells : List String) : Value := .list (cells.map .text)

def pairs (cells : List (String × String)) : Value :=
  .list (cells.map fun cell => .list [.text cell.1, .text cell.2])

theorem itemsOrNone_texts (cells : List String) : itemsOrNone (texts cells) = .ok (cells.map .text) := by
  cases cells <;> rfl

/-- Sets are written as the increasing list of their texts and read back as sets that mean the same,
and sets that mean the same are written alike. -/
structure KeepsSets {α : Type} (kind : CellKind) (zones : Bool) (value : α → Value)
    (word : α → String) : Prop where
  kept : ∀ items : List α, items.Nodup → ∃ cells : List String, cells.Pairwise (· < ·) ∧
    cells.Perm (items.map word) ∧ write kind zones (.set (items.map value)) = .ok (texts cells) ∧
    ∃ seen, read kind (texts cells) = .ok seen ∧ seen.same (.set (items.map value)) = true
  alike : ∀ items others : List α, items.Nodup → others.Nodup →
    Value.same (.set (items.map value)) (.set (others.map value)) = true →
    write kind zones (.set (items.map value)) = write kind zones (.set (others.map value))

theorem KeepsSets.of_worded {α : Type} {kind : CellKind} {zones : Bool} {value : α → Value}
    {word : α → String} (worded : Value.Worded value word)
    (writes : ∀ items : List α, write kind zones (.set (items.map value)) =
      .ok (texts (Value.sortTexts (items.map word))))
    (reads : ∀ items : List α, items.Nodup →
      read kind (texts (items.map word)) = .ok (.set (items.map value))) :
    KeepsSets kind zones value word := by
  constructor
  · intro items nodup
    have words : (items.map word).Nodup :=
      List.pairwise_map.2 (nodup.imp fun differ same => differ (worded.apart same))
    have sorted := Value.sortTexts_perm (items.map word)
    have backward : Relation.Comp (· = List.map word ·) List.Perm
        (Value.sortTexts (items.map word)) items := by
      rw [List.eq_map_comp_perm]
      exact sorted
    obtain ⟨listed, same, perm⟩ := backward
    have apart : listed.Nodup := perm.nodup_iff.2 nodup
    refine ⟨_, Value.sortTexts_increasing words, sorted, writes items, .set (listed.map value), ?_,
      (worded.same_set_iff apart).2 perm⟩
    rw [same]
    exact reads listed apart
  · intro items others nodup _ same
    have perm := (worded.same_set_iff nodup).1 same
    rw [writes, writes, Value.sortTexts_of_perm (perm.map word)]

theorem keepsSets_texts (zones : Bool) : KeepsSets .texts zones .text id := by
  refine .of_worded Value.worded_text (fun items => ?_) fun items apart => ?_
  · have listed : write .texts zones (.set (items.map .text)) =
        Value.inOrder (items.map .text) >>= fun sorted => .ok (.list sorted) := rfl
    rw [listed, Value.inOrder_texts, List.map_id]
    rfl
  · have read : read .texts (texts (items.map id)) =
        itemsOrNone (texts (items.map id)) >>= setOf := rfl
    rw [read, itemsOrNone_texts, List.map_id]
    change setOf (items.map .text) = _
    rw [setOf, Value.worded_text.setOf? apart]
    rfl

theorem keepsSets_actions (zones : Bool) :
    KeepsSets .actions zones (fun a : EppAction => .ofMember a) fun a => word a := by
  refine .of_worded Value.worded_action (fun items => ?_) fun items apart => ?_
  · have each : (items.map fun a : EppAction => Value.ofMember a).mapM writeAction =
        .ok (items.map fun a => word a) := by
      rw [Answer.mapM_eq_ok, List.map_map, List.map_map]
      refine List.map_congr_left fun a _ => ?_
      cases a <;> rfl
    have listed : write .actions zones (.set (items.map fun a : EppAction => .ofMember a)) =
        (items.map fun a : EppAction => Value.ofMember a).mapM writeAction >>= fun words =>
          .ok (texts (Value.sortTexts words)) := rfl
    rw [listed, each]
    rfl
  · have each : ((items.map fun a => word a).map Value.text).mapM readAction =
        .ok (items.map fun a : EppAction => Value.ofMember a) := by
      rw [Answer.mapM_eq_ok, List.map_map, List.map_map, List.map_map]
      refine List.map_congr_left fun a _ => ?_
      cases a <;> rfl
    have read : read .actions (texts (items.map fun a => word a)) =
        itemsOrNone (texts (items.map fun a => word a)) >>= fun cells =>
          cells.mapM readAction >>= setOf := rfl
    rw [read, itemsOrNone_texts]
    change ((items.map fun a => word a).map Value.text).mapM readAction >>= setOf = _
    rw [each]
    change setOf (items.map fun a : EppAction => Value.ofMember a) = _
    rw [setOf, Value.worded_action.setOf? apart]
    rfl

theorem readTransition_pair (cell : String × String) :
    readTransition (.list [.text cell.1, .text cell.2]) = Column.readTransition cell := by
  have keyed : (Value.text cell.2).isKey = true := Value.isKey_of_asText rfl
  have two : items (.list [.text cell.1, .text cell.2]) = .ok [.text cell.1, .text cell.2] := rfl
  unfold readTransition Column.readTransition
  rw [two]
  simp only [bind, Except.bind, Value.asText?, Answer.ofOption, keyed]
  cases Stamp.ofIso? cell.1 <;> rfl

theorem read_pairs (cells : List (String × String)) :
    read .transitions (pairs cells) = (Column.readTransitions cells).map .timeline := by
  have entries : read .transitions (pairs cells) =
      Column.readEntries readTransition (cells.map fun cell => .list [.text cell.1, .text cell.2]) >>=
        fun t => .ok (.timeline t) := rfl
  rw [entries]
  unfold Column.readTransitions Column.readEntries
  simp only [List.foldlM_map, readTransition_pair]
  rfl

theorem transitions_kept (zones : Bool) (t : Timeline Status) :
    write .transitions zones (.timeline t) = .ok (pairs (Column.writeTransitions t)) ∧
      read .transitions (pairs (Column.writeTransitions t)) = .ok (.timeline t) := by
  refine ⟨rfl, ?_⟩
  rw [read_pairs, Column.readTransitions_writeTransitions]
  rfl

theorem transitions_alike (zones : Bool) {t u : Timeline Status}
    (same : Value.same (.timeline t) (.timeline u) = true) :
    write .transitions zones (.timeline t) = write .transitions zones (.timeline u) := by
  have entries : t.entries = u.entries := by simpa [Value.same, Value.same?] using same
  have equal : Column.writeTransitions t = Column.writeTransitions u := by
    rw [Column.writeTransitions, Column.writeTransitions, entries]
  rw [(transitions_kept zones t).1, (transitions_kept zones u).1, equal]

theorem write_naive (zones : Bool) {s : Stamp} (naive : s.isNaive = true) :
    write .stamp zones (.stamp s) =
      .error (.broke (.badValue ("Naive datetime not allowed: " ++ s.literal))) := by
  have fault : s.toInstant = .error .naive := if_pos naive
  have step : write .stamp zones (.stamp s) = utc s >>= fun i =>
    .ok (.stamp ⟨i, if zones then some Offset.utc else none⟩) := rfl
  rw [step, utc, fault]
  rfl

theorem stamp_kept (zones : Bool) {s : Stamp} {i : Instant} (moment : s.toInstant = .ok i) :
    ∃ cell, write .stamp zones (.stamp s) = .ok cell ∧
      read .stamp cell = .ok (.stamp (Stamp.ofInstant i)) := by
  refine ⟨.stamp ⟨i, if zones then some Offset.utc else none⟩, ?_, ?_⟩
  · have step : write .stamp zones (.stamp s) = utc s >>= fun i =>
      .ok (.stamp ⟨i, if zones then some Offset.utc else none⟩) := rfl
    rw [step, utc, moment]
    rfl
  · have tagged : Stamp.assumingUtc ⟨i, if zones then some Offset.utc else none⟩ =
        Stamp.ofInstant i := by
      cases zones <;> rfl
    have step : read .stamp (.stamp ⟨i, if zones then some Offset.utc else none⟩) =
        utc (Stamp.assumingUtc ⟨i, if zones then some Offset.utc else none⟩) >>= fun i =>
          .ok (.stamp (.ofInstant i)) := rfl
    rw [step, tagged, utc, Stamp.toInstant_ofInstant]
    rfl

/-- No column loses anything. Timelines are read back as they were, sets and stamps as what means the
same, and stamps without an offset are rejected. Whatever a list of pairs is read as is a timeline of
the entries that the pairs show, and is kept when it is written. -/
theorem columns_lose_nothing (zones : Bool) :
    (∀ t : Timeline Status,
      write .transitions zones (.timeline t) = .ok (pairs (Column.writeTransitions t)) ∧
      read .transitions (pairs (Column.writeTransitions t)) = .ok (.timeline t)) ∧
    (∀ t u : Timeline Status, Value.same (.timeline t) (.timeline u) = true →
      write .transitions zones (.timeline t) = write .transitions zones (.timeline u)) ∧
    KeepsSets .texts zones .text id ∧
    KeepsSets .actions zones (fun a : EppAction => .ofMember a) (fun a => word a) ∧
    (∀ s : Stamp, s.isNaive = true → write .stamp zones (.stamp s) =
      .error (.broke (.badValue ("Naive datetime not allowed: " ++ s.literal)))) ∧
    (∀ s : Stamp, s.isNaive = false → 0 ≤ s.utcTicks → s.utcTicks < calendarTicks →
      ∃ cell i, write .stamp zones (.stamp s) = .ok cell ∧
        read .stamp cell = .ok (.stamp (Stamp.ofInstant i)) ∧ (i.ticks : Int) = s.utcTicks) ∧
    ∀ cells v, read .transitions (pairs cells) = .ok v → ∃ (t : Timeline Status) (again : Value),
      v = .timeline t ∧ cells.map Column.entry? = t.entries.map some ∧ t.entries ≠ [] ∧
      t.entries.Pairwise (fun a b => a.1 < b.1) ∧ write .transitions zones v = .ok again ∧
      read .transitions again = .ok v := by
  refine ⟨transitions_kept zones, fun t u => transitions_alike zones, keepsSets_texts zones,
    keepsSets_actions zones, fun s => write_naive zones, fun s aware begun inside => ?_,
    fun cells v loaded => ?_⟩
  · obtain ⟨i, moment, ticks⟩ := Stamp.toInstant_of_aware aware begun inside
    obtain ⟨cell, written, back⟩ := stamp_kept zones moment
    exact ⟨cell, i, written, back, ticks⟩
  · rw [read_pairs] at loaded
    obtain ⟨t, read, rfl⟩ := Answer.map_eq_ok.1 loaded
    obtain ⟨written, back⟩ := transitions_kept zones t
    exact ⟨t, _, rfl, Column.readTransitions_eq_ok_iff.1 read, t.nonempty, t.increasing, written,
      back⟩

theorem columns_lose_nothing_of_examples : ∃ cells seen cell i t again,
    cells.Pairwise (· < ·) ∧ write .texts false (.set [.text "b", .text "a"]) = .ok (texts cells) ∧
    read .texts (texts cells) = .ok seen ∧ seen.same (.set [.text "b", .text "a"]) = true ∧
    write .stamp false (.stamp ⟨Instant.epoch, none⟩) = .error (.broke (.badValue
      ("Naive datetime not allowed: " ++ Stamp.literal ⟨Instant.epoch, none⟩))) ∧
    write .stamp false (.stamp (Stamp.ofInstant Instant.epoch)) = .ok cell ∧
    read .stamp cell = .ok (.stamp (Stamp.ofInstant i)) ∧
    read .transitions (pairs [(Instant.epoch.iso, "VALID")]) = .ok (.timeline t) ∧
    write .transitions false (.timeline t) = .ok again ∧
    read .transitions again = .ok (.timeline t) := by
  obtain ⟨timelines, -, sets, -, naive, aware, loads⟩ := columns_lose_nothing false
  obtain ⟨cells, increasing, -, written, seen, back, same⟩ := sets.kept ["b", "a"] (by decide)
  obtain ⟨cell, i, stamped, shown, -⟩ :=
    aware (Stamp.ofInstant Instant.epoch) rfl (by decide) (by decide)
  have loaded := (timelines (Timeline.constant .valid)).2
  obtain ⟨t, again, timeline, -, -, -, rewritten, reread⟩ :=
    loads [(Instant.epoch.iso, "VALID")] _ loaded
  rw [timeline] at loaded rewritten reread
  exact ⟨cells, seen, cell, i, t, again, increasing, written, back, same,
    naive ⟨Instant.epoch, none⟩ rfl, stamped, shown, loaded, rewritten, reread⟩

end Cell

end Store

end RegistryTokens
