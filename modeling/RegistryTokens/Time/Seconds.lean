import RegistryTokens.Number.Binary64
import RegistryTokens.Time.Instant

/-!
# Moments counted in seconds

A log record keeps its moment as a binary64 count of seconds since the start of time, so far dates
lose their last microseconds. Read back, the count stands for the nearest microsecond, a half going
to the even one. A count may lie outside the calendar, outside the years that a clock can show, or
outside the seconds that it can count.
-/

set_option autoImplicit false

namespace RegistryTokens.Time.Seconds

open RegistryTokens.Number

inductive Fault where
  | outsideCalendar
  | outsideYears
  | uncountable
  deriving DecidableEq, Repr

def ofRational (n : Int) (d : Nat) : Binary64 := Binary64.ofRatio (n < 0) n.natAbs d

def scaled (negative : Bool) (m : Nat) (shift : Int) : Int :=
  let size : Nat := m * 2 ^ shift.toNat
  if negative then -size else size

def sum : Binary64 → Binary64 → Binary64
  | .finite p m e, .finite q n f =>
    let unit := min e f
    let total := scaled p m (e - unit) + scaled q n (f - unit)
    ofRational (total * (2 ^ unit.toNat : Nat)) (2 ^ (-unit).toNat)
  | .finite .., y => y
  | x, _ => x

/-- Seconds and microseconds as one number. Both are rounded first, and then the sum. -/
def ofParts (seconds micros : Int) : Binary64 :=
  sum (ofRational seconds 1) (ofRational micros ticksPerSecond)

def endOfCount : Int := 9223372036854775808

/-- The whole seconds that a clock can show: those of years that fit 32 bits. -/
def isShown (seconds : Int) : Bool :=
  -67768040609740800 ≤ seconds && seconds < 67768036191676800

def instant : Binary64 → Except Fault Instant
  | .finite negative m e =>
    let ticks : Int := roundHalfEven (m * 2 ^ e.toNat * ticksPerSecond) (2 ^ (-e).toNat)
    let moment := if negative then -ticks else ticks
    let seconds := Int.fdiv moment ticksPerSecond
    if seconds < -endOfCount ∨ endOfCount ≤ seconds then .error .uncountable
    else if !isShown seconds then .error .outsideYears
    else match Instant.ofTicks? (Instant.epoch.ticks + moment) with
      | some i => .ok i
      | none => .error .outsideCalendar
  | .infinite _ => .error .uncountable
  | .nan => .error .outsideCalendar

end RegistryTokens.Time.Seconds
