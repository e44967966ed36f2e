import RegistryTokens.Number.Rounding

/-!
# Decimal numbers

A decimal is a signed coefficient with a power of ten, an infinity, or a number that is none. The
exponent is part of the value as written (`0.50` and `0.5` are different decimals) but not of the
number it stands for. Exponents may be astronomically large, so an order is decided by the
position of the leading digit before any power of ten is formed.
-/

set_option autoImplicit false

namespace RegistryTokens.Number

inductive Decimal where
  | finite (negative : Bool) (coefficient : Nat) (exponent : Int)
  | infinite (negative : Bool)
  | nan (negative signaling : Bool) (payload : Nat)
  deriving DecidableEq, Repr, Inhabited

namespace Decimal

def ofNat (n : Nat) : Decimal := .finite false n 0

def ofInt (n : Int) : Decimal := .finite (n < 0) n.natAbs 0

def zero : Decimal := ofNat 0

def isFinite : Decimal → Bool
  | .finite .. => true
  | _ => false

def isNaN : Decimal → Bool
  | .nan .. => true
  | _ => false

def isSignal : Decimal → Bool
  | .nan _ signaling _ => signaling
  | _ => false

def leading (coefficient : Nat) (exponent : Int) : Int := exponent + size10 coefficient - 1

/-- The order of `a · 10^e` and `b · 10^f`. -/
def orderMagnitudes (a : Nat) (e : Int) (b : Nat) (f : Int) : Ordering :=
  if a = 0 ∨ b = 0 then compare a b
  else match compare (leading a e) (leading b f) with
    | .eq => compare (a * 10 ^ (e - f).toNat) (b * 10 ^ (f - e).toNat)
    | order => order

/-- The order of two numbers, undecided when one of them is none. -/
def order? : Decimal → Decimal → Option Ordering
  | .nan .., _ | _, .nan .. => none
  | .infinite p, .infinite q => some (compare q p)
  | .infinite p, .finite .. => some (if p then .lt else .gt)
  | .finite .., .infinite q => some (if q then .gt else .lt)
  | .finite p a e, .finite q b f =>
    some <|
      if a = 0 ∧ b = 0 then .eq
      else if p && a ≠ 0 then
        if q && b ≠ 0 then orderMagnitudes b f a e else .lt
      else
        if q && b ≠ 0 then .gt else orderMagnitudes a e b f

/-- Whether two decimals stand for the same number, however they are written. -/
def sameNumber (a b : Decimal) : Bool := a.order? b == some .eq

/-- Whether the number is at most zero; undecided for what is no number. -/
def nonpositive? (a : Decimal) : Option Bool := (a.order? zero).map (· != .gt)

def isFraction (a : Decimal) : Bool :=
  a.isFinite && (a.order? zero).any (· != .lt) && (a.order? (ofNat 1)).any (· != .gt)

def isZero : Decimal → Bool
  | .finite _ c _ => c == 0
  | _ => false

end Decimal

end RegistryTokens.Number
