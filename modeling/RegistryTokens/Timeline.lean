import RegistryTokens.Sorting.Search
import RegistryTokens.Time.StampText

/-!
# Timelines

A timeline says which value is in effect from which instant on: a nonempty list of entries whose
instants strictly increase. It is built entry by entry from time stamps, each of which must carry
an offset, fall into the calendar and lie after the one before. A look-up answers with the last
entry that is not after the stamp; it finds out by halving how many entries are not.
-/

set_option autoImplicit false

namespace RegistryTokens

open RegistryTokens.Time

structure Timeline (α : Type) where
  entries : List (Instant × α)
  nonempty : entries ≠ []
  increasing : entries.Pairwise fun a b => a.1 < b.1
  deriving Repr

inductive TimelineFault where
  | noStamp (shown : String)
  | naive (stamp : Stamp)
  | outsideCalendar
  | unordered (next last : Instant)
  | empty
  deriving DecidableEq, Repr

structure BeforeFirst where
  sought : Stamp
  first : Instant
  deriving DecidableEq, Repr

namespace Timeline

variable {α : Type}

instance [DecidableEq α] : DecidableEq (Timeline α) := fun a b =>
  if h : a.entries = b.entries then isTrue (by cases a; cases b; simp_all)
  else isFalse fun same => h (by rw [same])

structure Draft (α : Type) where
  entries : List (Instant × α)
  increasing : entries.Pairwise fun a b => a.1 < b.1

namespace Draft

def blank : Draft α := ⟨[], List.Pairwise.nil⟩

theorem increasing_append {entries : List (Instant × α)}
    (h : entries.Pairwise fun a b => a.1 < b.1) {i : Instant} (a : α)
    (after : ∀ last ∈ entries.getLast?, last.1 < i) :
    (entries ++ [(i, a)]).Pairwise fun a b => a.1 < b.1 := by
  refine List.pairwise_append.2 ⟨h, List.pairwise_singleton _ _, fun e he last hlast => ?_⟩
  simp only [List.mem_singleton] at hlast
  subst hlast
  obtain ⟨front, last, rfl⟩ : ∃ front last, entries = front ++ [last] :=
    ⟨_, _, (List.dropLast_concat_getLast (List.ne_nil_of_mem he)).symm⟩
  have lastBefore : last.1 < i := after last (by simp)
  rcases List.mem_append.1 he with inFront | isLast
  · have step : e.1 < last.1 := (List.pairwise_append.1 h).2.2 e inFront last (by simp)
    exact Nat.lt_trans (m := last.1.ticks) step lastBefore
  · rw [List.mem_singleton.1 isLast]
    exact lastBefore

def add (d : Draft α) (i : Instant) (a : α) : Except TimelineFault (Draft α) :=
  match h : d.entries.getLast? with
  | none => .ok ⟨d.entries ++ [(i, a)], increasing_append d.increasing a (by simp [h])⟩
  | some last =>
    if later : last.1 < i then
      .ok ⟨d.entries ++ [(i, a)], increasing_append d.increasing a (by simp [h, later])⟩
    else .error (.unordered i last.1)

def addStamp (d : Draft α) (s : Stamp) (a : α) : Except TimelineFault (Draft α) :=
  match s.toInstant with
  | .ok i => d.add i a
  | .error .naive => .error (.naive s)
  | .error .outsideCalendar => .error .outsideCalendar

def finish (d : Draft α) : Except TimelineFault (Timeline α) :=
  if h : d.entries = [] then .error .empty else .ok ⟨d.entries, h, d.increasing⟩

end Draft

def build (entries : List (Stamp × α)) : Except TimelineFault (Timeline α) := do
  let draft ← entries.foldlM (fun d entry => d.addStamp entry.1 entry.2) Draft.blank
  draft.finish

def ofInstant (i : Instant) (a : α) : Timeline α :=
  ⟨[(i, a)], by simp, List.pairwise_singleton _ _⟩

def constant (a : α) : Timeline α := ofInstant Instant.epoch a

def first (t : Timeline α) : Instant × α := t.entries.head t.nonempty

def last (t : Timeline α) : Instant × α := t.entries.getLast t.nonempty

def firstInstant (t : Timeline α) : Instant := t.first.1

def initial (t : Timeline α) : α := t.first.2

def final (t : Timeline α) : α := t.last.2

def values (t : Timeline α) : List α := t.entries.map (·.2)

/-- The value of the last entry that is not after a moment in universal time. -/
def valueAtTicks? (t : Timeline α) (ticks : Int) : Option α :=
  (t.entries.takeWhile fun e => decide ((e.1.ticks : Int) ≤ ticks)).getLast?.map (·.2)

def hasReached (t : Timeline α) (ticks : Int) (place : Nat) : Except BeforeFirst Bool :=
  .ok (t.entries[place]?.any fun e => decide ((e.1.ticks : Int) ≤ ticks))

/-- The value in effect at a stamp; one without an offset is read as universal time. -/
def valueAt (t : Timeline α) (s : Stamp) : Except BeforeFirst α := do
  let count ← Sorting.halve (t.hasReached s.utcTicks) false 0 t.entries.length
  match (t.entries.take count).getLast? with
  | some e => pure e.2
  | none => throw ⟨s.assumingUtc, t.firstInstant⟩

theorem valueAtTicks?_eq_none_iff (t : Timeline α) (ticks : Int) :
    t.valueAtTicks? ticks = none ↔ ticks < t.firstInstant.ticks := by
  obtain ⟨entries, nonempty, increasing⟩ := t
  cases entries with
  | nil => exact absurd rfl nonempty
  | cons e rest =>
    simp only [valueAtTicks?, Option.map_eq_none_iff, List.getLast?_eq_none_iff, firstInstant,
      first, List.head_cons, List.takeWhile_cons]
    split
    · next reached => simp at reached; simp; omega
    · next early => simp at early; simpa using early

end Timeline

namespace TimelineFault

def reason : TimelineFault → String
  | .noStamp shown => "Timeline keys must be datetimes, got " ++ shown
  | .naive s => "Timeline instant " ++ s.iso ++ " has no timezone"
  | .outsideCalendar => ""
  | .unordered next last =>
    "Timeline instants must be strictly increasing: " ++ next.iso ++ " follows " ++ last.iso
  | .empty => "Timeline must contain at least one entry"

end TimelineFault

end RegistryTokens
