import RegistryTokens.Number.Binary64

/-!
# The shortest decimal that reads back

Between a binary64 number and its neighbours lie the decimals that round to it. Among them the
text of the number has the fewest digits, and of those it is the nearest one. For each count of
digits only the two decimals next to the number can lie that close, so the search tests two
candidates for every count from one to seventeen.
-/

set_option autoImplicit false

namespace RegistryTokens.Number

namespace Shortest

/-- The bounds of the decimals that round to `m · 2^e`, over the common unit `2^(e-2)`. -/
structure Reach where
  below : Nat
  value : Nat
  above : Nat
  closed : Bool

def reach (m : Nat) (e : Int) : Reach where
  below :=
    if m = Binary64.leastMantissa ∧ Binary64.minPower < e then 4 * m - 1 else 4 * m - 2
  value := 4 * m
  above := 4 * m + 2
  closed := m % 2 == 0

/-- The unit `2^(e-2)` as a quotient, scaled down by `10^p`. -/
def scaledUnit (e p : Int) : Nat × Nat :=
  (2 ^ (e - 2).toNat * 10 ^ (-p).toNat, 2 ^ (2 - e).toNat * 10 ^ p.toNat)

def Reach.holds (r : Reach) (num den q : Nat) : Bool :=
  let point := q * den
  if r.closed then r.below * num ≤ point && point ≤ r.above * num
  else r.below * num < point && point < r.above * num

/-- The nearer of the two grid points next to the value that lies within reach. -/
def candidate? (r : Reach) (num den : Nat) : Option Nat :=
  let low := r.value * num / den
  let left := r.value * num - low * den
  let right := (low + 1) * den - r.value * num
  match r.holds num den low, r.holds num den (low + 1) with
  | true, true => some (if left < right ∨ (left = right ∧ low % 2 = 0) then low else low + 1)
  | true, false => some low
  | false, true => some (low + 1)
  | false, false => none

def leadingPower (m : Nat) (e : Int) : Int :=
  let n := m * 2 ^ e.toNat
  let d := 2 ^ (-e).toNat
  let guess : Int := size10 n - size10 d
  if d * 10 ^ guess.toNat ≤ n * 10 ^ (-guess).toNat then guess else guess - 1

/-- The shortest coefficient with its power of ten, for a positive mantissa. -/
def decimal (m : Nat) (e : Int) : Nat × Int :=
  let r := reach m e
  let top := leadingPower m e
  let attempt (count : Nat) : Option (Nat × Int) :=
    let p := top - count
    let (num, den) := scaledUnit e p
    (candidate? r num den).map fun q => (q, p)
  ((List.range 17).findSome? attempt).getD (0, 0)

def stripped : Nat → Nat → Int → Nat × Int
  | 0, c, p => (c, p)
  | fuel + 1, c, p => if c ≠ 0 ∧ c % 10 = 0 then stripped fuel (c / 10) (p + 1) else (c, p)

end Shortest

/-- Positional notation reaches from `0.0001` to below `10^16`; a whole number keeps `.0`, and an
exponent has at least two digits. -/
def floatChars (negative : Bool) (coefficient : Nat) (power : Int) : List Char :=
  let ds := digits coefficient
  let place := power + ds.length
  Decimal.signChars negative ++
    if -4 < place ∧ place ≤ 16 then
      if 0 ≤ power then ds ++ List.replicate power.toNat '0' ++ ['.', '0']
      else Decimal.pointed ds place
    else
      let exponent := place - 1
      let magnitude := digits exponent.natAbs
      (if ds.length = 1 then ds else ds.take 1 ++ '.' :: ds.drop 1) ++
        'e' :: (if exponent < 0 then '-' else '+') ::
          (if magnitude.length < 2 then '0' :: magnitude else magnitude)

/-- The shortest text that reads back as the number. -/
def Binary64.text : Binary64 → String
  | .nan => "nan"
  | .infinite negative => if negative then "-inf" else "inf"
  | .finite negative m e =>
    if m = 0 then (if negative then "-0.0" else "0.0")
    else
      let (c, p) := Shortest.decimal m e
      let (c, p) := Shortest.stripped 17 c p
      String.ofList (floatChars negative c p)

end RegistryTokens.Number
