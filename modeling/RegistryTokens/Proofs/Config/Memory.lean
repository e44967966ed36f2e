import Mathlib.Data.List.Infix
import RegistryTokens.Proofs.Config.Override

/-!
# Overridden documents in memory

In memory a document refers to its sections, and several documents may refer to one section. To
override a document, a new document is made that refers to the same sections, and a section that is
amended is made anew. It comes to the same as overriding what the document holds, and every
document and section that was there before is as it was.
-/

set_option autoImplicit false

namespace RegistryTokens.Config

inductive Slot where
  | value (v : Value)
  | reference (place : Nat)

structure Memory where
  documents : List (Keyed Value Slot)
  sections : List Document

namespace Memory

def valueOf (m : Memory) : Slot → Value
  | .value v => v
  | .reference place => .map ((m.sections[place]?).getD [])

def slotsAt (m : Memory) (place : Nat) : Keyed Value Slot := (m.documents[place]?).getD []

def view (m : Memory) (place : Nat) : Document :=
  (m.slotsAt place).map fun entry => (entry.1, m.valueOf entry.2)

/-- Makes a document with the entries of another one, which then share their sections. -/
def copy (m : Memory) (place : Nat) : Memory :=
  { m with documents := m.documents ++ [m.slotsAt place] }

def assign (m : Memory) (place : Nat) (key : Value) (fields : Document) : Memory where
  documents := m.documents.modify place (Keyed.put key (.reference m.sections.length))
  sections := m.sections ++ [fields]

def overrideField (m : Memory) (given copy : Nat) (e : Environment)
    (variableName name field : String) : Answer Memory :=
  match setting e variableName with
  | none => .ok m
  | some value => do
    let fields ← sectionOf (m.view given) name
    pure (m.assign copy (.text name) (Keyed.put (.text field) (.text value) fields))

def override (m : Memory) (given : Nat) (e : Environment) : Answer Memory := do
  let place := m.documents.length
  let amended ← (m.copy given).overrideField given place e urlVariable "database" "url"
  amended.overrideField given place e levelVariable "logging" "level"

def Inside (m : Memory) (slots : Keyed Value Slot) : Prop :=
  ∀ entry ∈ slots, ∀ place, entry.2 = .reference place → place < m.sections.length

def Whole (m : Memory) : Prop := ∀ slots ∈ m.documents, m.Inside slots

/-- A memory in which one document was made, with all that was there before. -/
structure Draft (before after : Memory) (d : Document) : Prop where
  documents : ∃ slots, after.documents = before.documents ++ [slots]
  sections : before.sections <+: after.sections
  whole : after.Whole
  reads : after.view before.documents.length = d

variable {before m m' : Memory} {given place : Nat} {d : Document} {slots : Keyed Value Slot}

theorem Inside.of_kept (h : m.Inside slots) (kept : m.sections <+: m'.sections) :
    m'.Inside slots := by
  intro entry there place refers
  exact Nat.lt_of_lt_of_le (h entry there place refers) kept.length_le

theorem Inside.put (h : m.Inside slots) (key : Value) (inside : place < m.sections.length) :
    m.Inside (Keyed.put key (.reference place) slots) := by
  intro entry there other refers
  rcases Keyed.mem_or_of_mem_put there with fresh | old
  · cases fresh.symm.trans refers
    exact inside
  · exact h entry old other refers

theorem valueOf_of_kept (kept : m.sections <+: m'.sections) {s : Slot}
    (inside : ∀ place, s = .reference place → place < m.sections.length) :
    m'.valueOf s = m.valueOf s := by
  cases s with
  | value v => rfl
  | reference place =>
    show Value.map ((m'.sections[place]?).getD []) = .map ((m.sections[place]?).getD [])
    rw [List.prefix_iff_getElem?.1 kept place (inside place rfl)]
    simp [inside place rfl]

theorem Inside.map_valueOf (h : m.Inside slots) (kept : m.sections <+: m'.sections) :
    slots.map (fun entry => (entry.1, m'.valueOf entry.2)) =
      slots.map fun entry => (entry.1, m.valueOf entry.2) := by
  apply List.map_congr_left
  intro entry there
  rw [valueOf_of_kept kept (h entry there)]

theorem slotsAt_mem (inside : place < m.documents.length) : m.slotsAt place ∈ m.documents := by
  unfold slotsAt
  rw [List.getElem?_eq_getElem inside]
  exact List.getElem_mem inside

theorem view_before (draft : Draft before m d) (whole : before.Whole)
    (inside : place < before.documents.length) : m.view place = before.view place := by
  obtain ⟨slots, documents⟩ := draft.documents
  have same : m.slotsAt place = before.slotsAt place := by
    unfold slotsAt
    rw [documents, List.getElem?_append_left inside]
  unfold view
  rw [same]
  exact (whole _ (slotsAt_mem inside)).map_valueOf draft.sections

theorem draft_copy (whole : before.Whole) (inside : given < before.documents.length) :
    Draft before (before.copy given) (before.view given) := by
  have held : (before.copy given).slotsAt before.documents.length = before.slotsAt given := by
    simp [slotsAt, copy]
  constructor
  · exact ⟨_, rfl⟩
  · exact List.prefix_refl _
  · intro slots there
    rcases List.mem_append.1 there with old | new
    · exact whole slots old
    · rw [List.mem_singleton.1 new]
      exact whole _ (slotsAt_mem inside)
  · show ((before.copy given).slotsAt before.documents.length).map _ = _
    rw [held]
    rfl

theorem modify_concat {α : Type} (front : List α) (a : α) (f : α → α) :
    (front ++ [a]).modify front.length f = front ++ [f a] := by
  induction front with
  | nil => rfl
  | cons first rest ih => exact congrArg (first :: ·) ih

theorem draft_assign (draft : Draft before m d) (key : Value) (fields : Document) :
    Draft before (m.assign before.documents.length key fields)
      (Keyed.put key (.map fields) d) := by
  obtain ⟨slots, documents⟩ := draft.documents
  have within : m.Inside slots := draft.whole slots (by simp [documents])
  have made : (m.assign before.documents.length key fields).documents =
      before.documents ++ [Keyed.put key (.reference m.sections.length) slots] := by
    show m.documents.modify _ _ = _
    rw [documents, modify_concat]
  have grown : m.sections <+: (m.assign before.documents.length key fields).sections :=
    List.prefix_append _ _
  constructor
  · exact ⟨_, made⟩
  · exact draft.sections.trans grown
  · rw [Whole, made]
    intro others there
    rcases List.mem_append.1 there with old | new
    · exact (draft.whole others (by simp [documents, old])).of_kept grown
    · rw [List.mem_singleton.1 new]
      exact (within.of_kept grown).put key (by simp [assign])
  · have unchanged : slots.map (fun entry => (entry.1, m.valueOf entry.2)) = d := by
      rw [← draft.reads]
      simp [view, slotsAt, documents]
    have held : (m.assign before.documents.length key fields).slotsAt before.documents.length =
        Keyed.put key (.reference m.sections.length) slots := by
      simp [slotsAt, made]
    have fresh : (m.assign before.documents.length key fields).valueOf
        (.reference m.sections.length) = .map fields := by
      simp [valueOf, assign]
    rw [view, held, Keyed.map_put, fresh, within.map_valueOf grown, unchanged]

/-- What is done in memory answers as it does on documents, with a draft of the document. -/
inductive Follows (before : Memory) : Answer Memory → Answer Document → Prop
  | failed (failure : Failure) : Follows before (.error failure) (.error failure)
  | drafted {m : Memory} {d : Document} (draft : Draft before m d) : Follows before (.ok m) (.ok d)

theorem Follows.bind {inMemory : Answer Memory} {answer : Answer Document}
    {next : Memory → Answer Memory} {next' : Document → Answer Document}
    (first : Follows before inMemory answer)
    (later : ∀ m d, Draft before m d → Follows before (next m) (next' d)) :
    Follows before (inMemory >>= next) (answer >>= next') := by
  cases first with
  | failed failure => exact .failed failure
  | drafted draft => exact later _ _ draft

theorem Follows.exists_draft {inMemory : Answer Memory} (h : Follows before inMemory (.ok d)) :
    ∃ m, inMemory = .ok m ∧ Draft before m d := by
  cases h with
  | drafted draft => exact ⟨_, rfl, draft⟩

theorem follows_overrideField (whole : before.Whole) (inside : given < before.documents.length)
    (draft : Draft before m d) (e : Environment) (variableName name field : String) :
    Follows before (m.overrideField given before.documents.length e variableName name field)
      (Config.overrideField (before.view given) e variableName name field d) := by
  unfold overrideField Config.overrideField
  rw [view_before draft whole inside]
  show Follows before (match setting e variableName with | none => _ | some value => _)
    (match setting e variableName with | none => _ | some value => _)
  cases setting e variableName with
  | none => exact .drafted draft
  | some value =>
    cases sectionOf (before.view given) name with
    | error failure => exact .failed failure
    | ok fields => exact .drafted (draft_assign draft _ _)

/-- To override in memory makes a new document that reads as the overridden one. -/
theorem follows_override (whole : m.Whole) (inside : given < m.documents.length) (e : Environment) :
    Follows m (m.override given e) (Config.override (m.view given) e) := by
  apply Follows.bind
  · exact follows_overrideField whole inside (draft_copy whole inside) e _ _ _
  · intro first d draft
    exact follows_overrideField whole inside draft e _ _ _

end Memory

end RegistryTokens.Config
