import RegistryTokens.Time.Calendar
import RegistryTokens.Number.Digits

/-!
# Instants and time stamps

An instant is a moment of the years 1 to 9999 in universal time, counted in microseconds. A stamp
is what a caller writes: the reading of a local clock with the offset of that clock from universal
time, or without any. Two stamps with offsets are ordered by the moment they stand for, which may
lie outside the calendar; becoming an instant is refused there.
-/

set_option autoImplicit false

namespace RegistryTokens.Time

def ticksPerSecond : Nat := 1000000

def ticksPerDay : Nat := 86400 * ticksPerSecond

def calendarTicks : Nat := dayCount * ticksPerDay

structure Instant where
  ticks : Nat
  inCalendar : ticks < calendarTicks
  deriving DecidableEq, Repr

theorem calendarTicks_pos : 0 < calendarTicks := by decide

namespace Instant

instance : Inhabited Instant := ⟨⟨0, calendarTicks_pos⟩⟩

instance : LT Instant := ⟨fun a b => a.ticks < b.ticks⟩

instance : LE Instant := ⟨fun a b => a.ticks ≤ b.ticks⟩

instance (a b : Instant) : Decidable (a < b) := inferInstanceAs (Decidable (a.ticks < b.ticks))

instance (a b : Instant) : Decidable (a ≤ b) := inferInstanceAs (Decidable (a.ticks ≤ b.ticks))

def ofTicks? (t : Int) : Option Instant :=
  if h : t.toNat < calendarTicks then
    if 0 ≤ t then some ⟨t.toNat, h⟩ else none
  else none

/-- The start of time of every token: the first of January 1970. -/
def epoch : Instant := ⟨719162 * ticksPerDay, by decide⟩

def date (i : Instant) : Date := Date.ofNumber (i.ticks / ticksPerDay)

def secondOfDay (i : Instant) : Nat := i.ticks % ticksPerDay / ticksPerSecond

def hour (i : Instant) : Nat := i.secondOfDay / 3600

def minute (i : Instant) : Nat := i.secondOfDay / 60 % 60

def second (i : Instant) : Nat := i.secondOfDay % 60

def micro (i : Instant) : Nat := i.ticks % ticksPerSecond

theorem ticks_of_ofTicks? {t : Int} {i : Instant} (h : ofTicks? t = some i) :
    (i.ticks : Int) = t := by
  unfold ofTicks? at h
  split at h
  · split at h
    · cases h
      simp
      omega
    · simp at h
  · simp at h

theorem ofTicks?_ticks (i : Instant) : ofTicks? i.ticks = some i := by
  simp [ofTicks?, i.inCalendar]

end Instant

/-- A distance of less than a day from universal time, in microseconds. -/
structure Offset where
  ticks : Int
  withinDay : ticks.natAbs < ticksPerDay
  deriving DecidableEq, Repr

namespace Offset

def utc : Offset := ⟨0, by decide⟩

def ofTicks? (t : Int) : Option Offset :=
  if h : t.natAbs < ticksPerDay then some ⟨t, h⟩ else none

end Offset

structure Stamp where
  /-- The reading of the local clock, taken as if it showed universal time. -/
  reading : Instant
  offset : Option Offset
  deriving DecidableEq, Repr

inductive StampFault where
  | naive
  | outsideCalendar
  deriving DecidableEq, Repr

namespace Stamp

def ofInstant (i : Instant) : Stamp := ⟨i, some Offset.utc⟩

instance : Coe Instant Stamp := ⟨ofInstant⟩

def isNaive (s : Stamp) : Bool := s.offset.isNone

/-- The microseconds in universal time, a stamp without an offset being read as universal. -/
def utcTicks (s : Stamp) : Int :=
  s.reading.ticks - match s.offset with
    | some o => o.ticks
    | none => 0

/-- The day, its second and the microsecond of that in universal time; days are counted from one. -/
def utcParts (s : Stamp) : List Int :=
  let t := s.utcTicks
  [t / ticksPerDay + 1, t % ticksPerDay / ticksPerSecond, t % ticksPerSecond]

def toInstant (s : Stamp) : Except StampFault Instant :=
  if s.isNaive then .error .naive
  else match Instant.ofTicks? s.utcTicks with
    | some i => .ok i
    | none => .error .outsideCalendar

def assumingUtc (s : Stamp) : Stamp := ⟨s.reading, some (s.offset.getD Offset.utc)⟩

/-- Two stamps are the same if both have offsets and stand for one moment, or neither has one and
the clocks show the same. -/
def same (a b : Stamp) : Bool := a.isNaive == b.isNaive && a.utcTicks == b.utcTicks

theorem ticks_of_toInstant {s : Stamp} {i : Instant} (h : s.toInstant = .ok i) :
    (i.ticks : Int) = s.utcTicks := by
  unfold toInstant at h
  split at h
  · cases h
  · split at h
    · rename_i found
      cases h
      exact Instant.ticks_of_ofTicks? found
    · cases h

theorem toInstant_of_aware {s : Stamp} (aware : s.isNaive = false) (begun : 0 ≤ s.utcTicks)
    (inside : s.utcTicks < calendarTicks) :
    ∃ i, s.toInstant = .ok i ∧ (i.ticks : Int) = s.utcTicks := by
  have natural : ((s.utcTicks.toNat : Nat) : Int) = s.utcTicks := Int.toNat_of_nonneg begun
  have held : s.utcTicks.toNat < calendarTicks := by omega
  refine ⟨⟨s.utcTicks.toNat, held⟩, ?_, natural⟩
  unfold toInstant Instant.ofTicks?
  rw [if_neg (by simp [aware]), dif_pos held, if_pos begun]

@[simp] theorem utcTicks_ofInstant (i : Instant) : (ofInstant i).utcTicks = i.ticks := by
  simp [ofInstant, utcTicks, Offset.utc]

@[simp] theorem toInstant_ofInstant (i : Instant) : (ofInstant i).toInstant = .ok i := by
  have naive : (ofInstant i).isNaive = false := rfl
  simp [toInstant, naive, Instant.ofTicks?_ticks]

end Stamp

end RegistryTokens.Time
