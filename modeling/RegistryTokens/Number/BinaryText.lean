import RegistryTokens.Number.Binary64

/-!
# Reading binary64 numbers

The text of a number, in digits of any script, is brought to the nearest binary64 number, however
large its exponent is. Underscores may stand between two digits, and white space around the text
carries nothing.
-/

set_option autoImplicit false

namespace RegistryTokens.Number

namespace Binary64

def grouped (after : Bool) : List Char → Bool
  | [] => true
  | '_' :: c :: cs => after && isDigit c && grouped true cs
  | '_' :: [] => false
  | c :: cs => grouped (isDigit c) cs

def readChars? (cs : List Char) : Option Binary64 :=
  let (negative, body) := Decimal.splitSign cs
  match body.map Char.toLower with
  | ['i', 'n', 'f'] | ['i', 'n', 'f', 'i', 'n', 'i', 't', 'y'] => some (.infinite negative)
  | ['n', 'a', 'n'] => some .nan
  | _ => (Decimal.readParts? body).map fun (coefficient, exponent) =>
    ofDecimal (.finite negative coefficient exponent)

def ofText? (s : String) : Option Binary64 :=
  let cs := Decimal.asciiDigits (Text.unspaced s.toList)
  if grouped false cs then readChars? (cs.filter (· ≠ '_')) else none

end Binary64

end RegistryTokens.Number
