import RegistryTokens.Failure
import RegistryTokens.Log.Template.Mark
import RegistryTokens.Number.Significant

/-!
# What a mark makes of its argument

The letter of a mark says which values it takes and how it shows them: as their display or literal,
as a whole number, as an integer in another base, as a number with a fixed count of places or of
significant digits, or as one character. The flags and measures say how the outcome is signed, cut
and padded. Zeros that fill a width stand between the sign or base mark and the digits; they also
fill the names of what is no finite number.
-/

set_option autoImplicit false

namespace RegistryTokens.Log.Template

open RegistryTokens.Number

structure Layout where
  flags : Flags
  width : Nat
  precision : Option Nat
  deriving Repr

namespace Layout

def pad (m : Layout) (cs : List Char) : List Char :=
  let fill := List.replicate (m.width - cs.length) ' '
  if m.flags.left then cs ++ fill else fill ++ cs

def sign (m : Layout) (negative : Bool) : List Char :=
  if negative then ['-'] else if m.flags.plus then ['+'] else if m.flags.blank then [' '] else []

def padNumber (m : Layout) (negative : Bool) (base digits : List Char) : List Char :=
  let front := m.sign negative ++ base
  if m.flags.zero && !m.flags.left then
    front ++ List.replicate (m.width - front.length - digits.length) '0' ++ digits
  else m.pad (front ++ digits)

def cut (m : Layout) (cs : List Char) : List Char :=
  match m.precision with
  | some n => cs.take n
  | none => cs

end Layout

def badValue : Failure := .broke (.badValue none)

/-! ## Whole numbers -/

def asWhole? : Value → Option Decimal
  | .uuid u => some (Decimal.ofNat u.value)
  | v => v.asNumber?

def wholePart (c : Nat) (e : Int) : Nat :=
  if Decimal.leading c e < 0 then 0 else c * 10 ^ e.toNat / 10 ^ (-e).toNat

def maxFilled : Nat := 2147483644

def filledDigits (m : Layout) (ds : List Char) : Answer (List Char) :=
  let count := m.precision.getD 0
  if maxFilled < count then .error .overflow
  else .ok (List.replicate (count - ds.length) '0' ++ ds)

/-- The whole part of a number, the fraction being cut off. Too long a number is not shown. -/
def whole (m : Layout) (v : Value) : Answer (List Char) := do
  match ← Answer.ofOption .wrongType (asWhole? v) with
  | .nan .. => throw badValue
  | .infinite _ => throw .overflow
  | .finite negative c e =>
    let tooLong := c ≠ 0 ∧ maxIntDigits ≤ Decimal.leading c e
    let part := if c = 0 ∨ tooLong then 0 else wholePart c e
    let ds ← filledDigits m (digits part)
    if tooLong then throw badValue
    pure (m.padNumber (negative && part != 0) [] ds)

def inBase (m : Layout) (base : Nat) (front : List Char) (v : Value) : Answer (List Char) := do
  let n ← Answer.ofOption .wrongType v.asInt?
  let ds ← filledDigits m (Nat.toDigits base n.natAbs)
  pure (m.padNumber (n < 0) (if m.flags.alternate then front else []) ds)

/-! ## Numbers with a point -/

def asFloat (v : Value) : Answer Binary64 :=
  match v with
  | .decimal (.nan _ true _) => .error badValue
  | v =>
    match v.asNumber?.map Binary64.ofDecimal, v.asInt? with
    | none, _ => .error .wrongType
    | some (.infinite _), some _ => .error .overflow
    | some x, _ => .ok x

def withPoint (m : Layout) (whole fraction : List Char) : List Char :=
  if fraction.isEmpty && !m.flags.alternate then whole else whole ++ '.' :: fraction

def powerChars (n : Int) : List Char :=
  'e' :: (if n < 0 then '-' else '+') :: Binary64.wideDigits 2 n.natAbs

def placesChars (m : Layout) (mantissa : Nat) (e : Int) : List Char :=
  let (whole, fraction) := Binary64.placeDigits (m.precision.getD 6) mantissa e
  withPoint m whole fraction

def scientificChars (m : Layout) (mantissa : Nat) (e : Int) : List Char :=
  let (ds, power) := Binary64.significant (m.precision.getD 6 + 1) mantissa e
  withPoint m (ds.take 1) (ds.drop 1) ++ powerChars power

/-- Significant digits without the zeros that end them; powers of ten are written for small numbers
and for those with more digits before the point than are significant. -/
def generalChars (m : Layout) (mantissa : Nat) (e : Int) : List Char :=
  let count := max 1 (m.precision.getD 6)
  let asked := if m.flags.alternate then count else min count Binary64.maxSignificant
  let (ds, power) := Binary64.significant asked mantissa e
  let shown (whole fraction : List Char) : List Char :=
    let kept := (fraction.reverse.dropWhile (· == '0')).reverse
    withPoint m whole (if m.flags.alternate then fraction else kept)
  if power < -4 ∨ count ≤ power then shown (ds.take 1) (ds.drop 1) ++ powerChars power
  else if power < 0 then shown ['0'] (Binary64.zeroDigits (-power - 1).toNat ++ ds)
  else shown (ds.take (power.toNat + 1)) (ds.drop (power.toNat + 1))

def pointed (m : Layout) (sized : Layout → Nat → Int → List Char) (v : Value) :
    Answer (List Char) := do
  match ← asFloat v with
  | .nan => pure (m.padNumber false [] "nan".toList)
  | .infinite negative => pure (m.padNumber negative [] "inf".toList)
  | .finite negative mantissa e => pure (m.padNumber negative [] (sized m mantissa e))

/-! ## Text -/

def character (m : Layout) (v : Value) : Answer (List Char) :=
  match v.asText?, v.asInt? with
  | some s, _ => if s.length = 1 then .ok (m.pad s.toList) else .error .wrongType
  | none, some n =>
    if 0 ≤ n ∧ n < 0x110000 then .ok (m.pad [Char.ofNat n.toNat]) else .error .overflow
  | none, none => .error .wrongType

def capital (cs : List Char) : List Char := cs.map Char.toUpper

def converted (m : Layout) (letter : Char) (v : Value) : Answer (List Char) :=
  match letter with
  | 's' => .ok (m.pad (m.cut v.display.toList))
  | 'r' => .ok (m.pad (m.cut v.literal.toList))
  | 'a' => .ok (m.pad (m.cut (Text.asciiChars v.literal.toList)))
  | 'd' | 'i' | 'u' => whole m v
  | 'x' => inBase m 16 ['0', 'x'] v
  | 'X' => (inBase m 16 ['0', 'x'] v).map capital
  | 'o' => inBase m 8 ['0', 'o'] v
  | 'f' => pointed m placesChars v
  | 'F' => (pointed m placesChars v).map capital
  | 'e' => pointed m scientificChars v
  | 'E' => (pointed m scientificChars v).map capital
  | 'g' => pointed m generalChars v
  | 'G' => (pointed m generalChars v).map capital
  | 'c' => character m v
  | _ => .error badValue

def unattainable : Nat := 10000000000

def fill (m : Layout) (letter : Char) (v : Value) : Answer (List Char) := do
  if unattainable ≤ m.width then
    let _ ← converted { m with width := 0 } letter v
    throw (.broke .exhausted)
  converted m letter v

end RegistryTokens.Log.Template
