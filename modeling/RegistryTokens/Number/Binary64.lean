import RegistryTokens.Number.DecimalText

/-!
# Binary floating-point numbers

A finite number of the binary64 format is a signed mantissa below `2^53` with a power of two from
`2^-1074` to `2^971`. Every rational is brought to the nearest one, a half going to the even
mantissa; what exceeds the range becomes an infinity. The value of a finite number is again an
exact decimal.
-/

set_option autoImplicit false

namespace RegistryTokens.Number

inductive Binary64 where
  | nan
  | infinite (negative : Bool)
  | finite (negative : Bool) (mantissa : Nat) (exponent : Int)
  deriving DecidableEq, Repr, Inhabited

namespace Binary64

def minPower : Int := -1074

/-- The least mantissa, `2^52`, of a number that is not among the smallest. -/
def leastMantissa : Nat := 4503599627370496

def maxPower : Int := 971

def zero : Binary64 := .finite false 0 minPower

def shifted (n d : Nat) (e : Int) : Nat × Nat :=
  (n * 2 ^ (-e).toNat, d * 2 ^ e.toNat)

/-- The exponent of the leading binary digit of `n / d`, both positive. -/
def leadingPower (n d : Nat) : Int :=
  let guess : Int := n.log2 - d.log2
  let (num, den) := shifted n d guess
  if den ≤ num then guess else guess - 1

/-- A rounded mantissa of `2^53` moves to the next power; beyond the largest power lies infinity. -/
def settle (negative : Bool) (mantissa : Nat) (power : Int) : Binary64 :=
  let (m, e) :=
    if mantissa = 2 * leastMantissa then (leastMantissa, power + 1) else (mantissa, power)
  if maxPower < e then .infinite negative else .finite negative m e

def ofRatio (negative : Bool) (n d : Nat) : Binary64 :=
  if n = 0 then .finite negative 0 minPower
  else
    let power := max (leadingPower n d - 52) minPower
    let (num, den) := shifted n d power
    settle negative (roundHalfEven num den) power

/-- The binary64 number nearest to a decimal. A leading digit beyond `10^400` or before `10^-400`
decides without forming the power of ten. -/
def ofDecimal : Decimal → Binary64
  | .nan .. => .nan
  | .infinite negative => .infinite negative
  | .finite negative c e =>
    if c = 0 then .finite negative 0 minPower
    else if 400 < Decimal.leading c e then .infinite negative
    else if Decimal.leading c e < -400 then .finite negative 0 minPower
    else ofRatio negative (c * 10 ^ e.toNat) (10 ^ (-e).toNat)

def toDecimal : Binary64 → Decimal
  | .nan => .nan false false 0
  | .infinite negative => .infinite negative
  | .finite negative m e =>
    if 0 ≤ e then .finite negative (m * 2 ^ e.toNat) 0
    else .finite negative (m * 5 ^ (-e).toNat) e

/-- The value rounded to a fixed count of decimal places, a half going to the even digit. -/
def fixedPlaces (places : Nat) : Binary64 → Decimal
  | .nan => .nan false false 0
  | .infinite negative => .infinite negative
  | .finite negative m e =>
    .finite negative (roundHalfEven (m * 2 ^ e.toNat * 10 ^ places) (2 ^ (-e).toNat)) (-places)

def isZero : Binary64 → Bool
  | .finite _ m _ => m == 0
  | _ => false

end Binary64

end RegistryTokens.Number
