import RegistryTokens.Time.Instant

/-!
# A clock that is told the time

A clock starts at a stamp and is advanced by whole seconds. Advancing always succeeds; it is the
reading that fails while the hands stand outside the calendar, so a clock can be brought back.
-/

set_option autoImplicit false

namespace RegistryTokens.Time

inductive ClockFault where
  | outsideCalendar
  /-- A reading without an offset on the first day of the calendar is not placed in time. -/
  | unplaced
  deriving DecidableEq, Repr

structure Clock where
  start : Stamp
  advanced : Int := 0
  deriving DecidableEq, Repr

namespace Clock

def defaultStart : Instant := ⟨Instant.epoch.ticks + 1704110400 * ticksPerSecond, by decide⟩

instance : Inhabited Clock := ⟨⟨defaultStart, 0⟩⟩

def now (c : Clock) : Except ClockFault Stamp :=
  match Instant.ofTicks? (c.start.reading.ticks + c.advanced * ticksPerSecond) with
  | some reading => .ok ⟨reading, c.start.offset⟩
  | none => .error .outsideCalendar

def nowUtc (c : Clock) : Except ClockFault Instant := do
  let stamp ← c.now
  if stamp.isNaive && stamp.reading.ticks < ticksPerDay then throw .unplaced
  match Instant.ofTicks? stamp.utcTicks with
  | some i => pure i
  | none => throw .outsideCalendar

def advance (c : Clock) (seconds : Int) : Clock := { c with advanced := c.advanced + seconds }

def advanceDays (c : Clock) (days : Int) : Clock := c.advance (days * 86400)

def tick (c : Clock) : Clock := c.advance 1

def set? (c : Clock) (s : Stamp) : Option Clock :=
  if s.isNaive then none else some { c with start := s, advanced := 0 }

def naiveMessage : String := "DeterministicClock requires a timezone-aware datetime"

theorem now_start (s : Stamp) : Clock.now ⟨s, 0⟩ = .ok s := by
  simp [now, Instant.ofTicks?_ticks]

end Clock

end RegistryTokens.Time
