import RegistryTokens.Number.Shortest

/-!
# Fixed counts of digits

A binary64 number shown with a given count of decimal places or of significant digits is rounded
once, from its exact value, a half going to the even digit. Counts beyond what any finite number
needs are met with zeros, so no power of ten is formed for them.
-/

set_option autoImplicit false

namespace RegistryTokens.Number

namespace Binary64

def maxSignificant : Nat := 767

def maxPlaces : Nat := 1074

def zeroDigits (count : Nat) : List Char := List.replicate count '0'

def wideDigits (width n : Nat) : List Char :=
  let ds := digits n
  zeroDigits (width - ds.length) ++ ds

/-- The digits of `m · 2^e` before and after the point, with `places` of the latter. -/
def placeDigits (places m : Nat) (e : Int) : List Char × List Char :=
  let kept := min places maxPlaces
  let rounded := roundHalfEven (m * 2 ^ e.toNat * 10 ^ kept) (2 ^ (-e).toNat)
  let ds := wideDigits (kept + 1) rounded
  let point := ds.length - kept
  (ds.take point, ds.drop point ++ zeroDigits (places - kept))

def significant (count m : Nat) (e : Int) : List Char × Int :=
  if m = 0 then (zeroDigits count, 0)
  else
    let kept := min count maxSignificant
    let top := Shortest.leadingPower m e
    let (num, den) := Shortest.scaledUnit e (top + 1 - kept)
    let rounded := roundHalfEven (4 * m * num) den
    let carried := rounded = 10 ^ kept
    let shown := if carried then rounded / 10 else rounded
    (digits shown ++ zeroDigits (count - kept), if carried then top + 1 else top)

end Binary64

end RegistryTokens.Number
