import RegistryTokens.Number.Extended
import RegistryTokens.Number.Significant

/-!
# Texts of binary numbers

A binary64 number that is kept as text is written with fifteen significant digits, always with a
point and without further zeros at the end. The digits are taken off one by one by arithmetic with
64 binary digits, after the number was brought between one and ten and half a unit of the last digit
was added. So the text can miss the nearest one by a unit of its last digit.
-/

set_option autoImplicit false

namespace RegistryTokens.Store.RealText

open RegistryTokens.Number

def digitCount : Nat := 15

def tenTo (power : Nat) : Nat := 10 ^ power

def constant (n d : Nat) : Extended := .ofBinary64 (.ofRatio false n d)

def one : Extended := .ofNat 1

def ten : Extended := .ofNat 10

/-- Half a unit of the last digit, and the least bit more. -/
def half : Extended := constant 5000000000000001 (tenTo 30)

def maxSteps : Nat := 40

def raise (value factor : Extended) (power : Int) : Nat → Extended × Int → Extended × Int
  | 0, scale => scale
  | steps + 1, (scale, exponent) =>
    let next := factor.mul scale
    if value.less next then (scale, exponent)
    else raise value factor power steps (next, exponent + power)

def lift (bound factor : Extended) (power : Int) : Nat → Extended × Int → Extended × Int
  | 0, value => value
  | steps + 1, (value, exponent) =>
    if value.less bound then
      lift bound factor power steps (factor.mul value, exponent - power)
    else (value, exponent)

def scaled (value : Extended) : Extended × Int :=
  let raised := raise value (constant (tenTo 100) 1) 100 maxSteps (one, 0)
  let raised := raise value (.ofNat (tenTo 10)) 10 maxSteps raised
  let (scale, exponent) := raise value ten 1 maxSteps raised
  let lifted :=
    lift (constant 1 (tenTo 8)) (.ofNat (tenTo 8)) 8 maxSteps (value.div scale, exponent)
  lift one ten 1 maxSteps lifted

def rounded (value : Extended) : Extended × Int :=
  let (v, exponent) := scaled value
  let v := v.add half
  if v.less ten then (v, exponent) else (v.div ten, exponent + 1)

def digitsOf : Nat → Extended → List Char
  | 0, _ => []
  | count + 1, value =>
    let (digit, rest) := value.split
    Nat.digitChar digit :: digitsOf count (ten.mul rest)

def significant (m : Nat) (e : Int) : List Char × Int :=
  if m = 0 then (Binary64.zeroDigits digitCount, 0)
  else
    let (value, exponent) := rounded ⟨m, e⟩
    (digitsOf digitCount value, exponent)

def fractionChars (ds : List Char) : List Char :=
  match (ds.reverse.dropWhile (· == '0')).reverse with
  | [] => ['0']
  | kept => kept

/-- Powers of ten are written for small numbers and for those with more digits before the point than
are kept. -/
def chars (m : Nat) (e : Int) : List Char :=
  let (ds, power) := significant m e
  if power < -4 ∨ digitCount ≤ power then
    ds.take 1 ++ '.' :: fractionChars (ds.drop 1) ++ 'e' :: (if power < 0 then '-' else '+') ::
      Binary64.wideDigits 2 power.natAbs
  else if power < 0 then
    '0' :: '.' :: fractionChars (Binary64.zeroDigits (-power - 1).toNat ++ ds)
  else
    let place := power.toNat + 1
    ds.take place ++ '.' :: fractionChars (ds.drop place)

/-- Zero has no sign, and what is no number has no text. -/
def text? : Binary64 → Option String
  | .nan => none
  | .infinite negative => some (if negative then "-Inf" else "Inf")
  | .finite negative m e =>
    some (String.ofList (Decimal.signChars (negative && m != 0) ++ chars m e))

end RegistryTokens.Store.RealText
