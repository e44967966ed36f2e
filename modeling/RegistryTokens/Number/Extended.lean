import RegistryTokens.Number.Binary64

/-!
# Arithmetic with 64 binary digits

A positive number kept to 64 significant binary digits. After every operation the exact outcome goes
to the nearest such number, a half to the even one. The range of exponents has no limits.
-/

set_option autoImplicit false

namespace RegistryTokens.Number

structure Extended where
  mantissa : Nat
  exponent : Int
  deriving DecidableEq, Repr

namespace Extended

def zero : Extended := ⟨0, 0⟩

def nearest (n d : Nat) (e : Int) : Extended :=
  if n = 0 then zero
  else
    let power := Binary64.leadingPower n d - 63
    let (num, den) := Binary64.shifted n d power
    ⟨roundHalfEven num den, power + e⟩

def ofNat (n : Nat) : Extended := nearest n 1 0

def ofBinary64 : Binary64 → Extended
  | .finite _ m e => ⟨m, e⟩
  | _ => zero

def mul (a b : Extended) : Extended :=
  nearest (a.mantissa * b.mantissa) 1 (a.exponent + b.exponent)

def div (a b : Extended) : Extended := nearest a.mantissa b.mantissa (a.exponent - b.exponent)

def aligned (a b : Extended) : Nat × Nat :=
  (a.mantissa * 2 ^ (a.exponent - b.exponent).toNat,
    b.mantissa * 2 ^ (b.exponent - a.exponent).toNat)

def add (a b : Extended) : Extended :=
  let (m, n) := aligned a b
  nearest (m + n) 1 (min a.exponent b.exponent)

def less (a b : Extended) : Bool :=
  let (m, n) := aligned a b
  m < n

def split (a : Extended) : Nat × Extended :=
  let unit := 2 ^ (-a.exponent).toNat
  (a.mantissa * 2 ^ a.exponent.toNat / unit, ⟨a.mantissa % unit, min a.exponent 0⟩)

end Extended

end RegistryTokens.Number
