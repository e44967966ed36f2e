import RegistryTokens.Number.Decimal
import RegistryTokens.Number.Digits
import RegistryTokens.Text.Blank

/-!
# Reading and writing numbers

A decimal is written positionally when its exponent is not positive and fewer than six zeros
follow the point, otherwise with a letter `E` and a signed power of ten. Reading accepts a sign,
digits of any script, a point, an exponent, and the names of the infinities and of what is no
number; underscores carry nothing. What is read is exact: exponents beyond eighteen digits are
refused and never rounded.
-/

set_option autoImplicit false

namespace RegistryTokens.Number

namespace Decimal

def signChars (negative : Bool) : List Char := if negative then ['-'] else []

def pointed (ds : List Char) (place : Int) : List Char :=
  if place ≤ 0 then '0' :: '.' :: List.replicate (-place).toNat '0' ++ ds
  else if place.toNat < ds.length then ds.take place.toNat ++ '.' :: ds.drop place.toNat
  else ds ++ List.replicate (place.toNat - ds.length) '0'

def powerChars (n : Int) : List Char :=
  'E' :: (if n < 0 then '-' else '+') :: digits n.natAbs

def finiteChars (coefficient : Nat) (exponent : Int) : List Char :=
  let ds := digits coefficient
  let place := exponent + ds.length
  if exponent ≤ 0 ∧ -6 < place then pointed ds place
  else pointed ds 1 ++ (if place = 1 then [] else powerChars (place - 1))

def textChars : Decimal → List Char
  | .finite negative c e => signChars negative ++ finiteChars c e
  | .infinite negative => signChars negative ++ "Infinity".toList
  | .nan negative signaling payload =>
    signChars negative ++ (if signaling then ['s'] else []) ++ "NaN".toList ++
      (if payload = 0 then [] else digits payload)

def text (d : Decimal) : String := String.ofList d.textChars

def maxLeading : Int := 999999999999999999

def minExponent : Int := -1999999999999999997

def unrounded? (negative : Bool) (coefficient : Nat) (exponent : Int) : Option Decimal :=
  let top := if coefficient = 0 then exponent else leading coefficient exponent
  if minExponent ≤ exponent ∧ top ≤ maxLeading then some (.finite negative coefficient exponent)
  else none

def asciiDigits (cs : List Char) : List Char :=
  cs.map fun c =>
    match Text.digitValue? c with
    | some d => Nat.digitChar d
    | none => c

def plainDigits (cs : List Char) : List Char := asciiDigits (cs.filter (· ≠ '_'))

def splitSign : List Char → Bool × List Char
  | '-' :: cs => (true, cs)
  | '+' :: cs => (false, cs)
  | cs => (false, cs)

def readPower? : List Char → Option Int
  | [] => some 0
  | c :: cs =>
    if c = 'e' ∨ c = 'E' then
      let (negative, ds) := splitSign cs
      if ds.isEmpty then none
      else (readDigits? ds).map fun n => if negative then -n else n
    else none

def readParts? (cs : List Char) : Option (Nat × Int) := do
  let whole := cs.takeWhile isDigit
  let rest := cs.dropWhile isDigit
  let (fraction, rest) :=
    match rest with
    | '.' :: tail => (tail.takeWhile isDigit, tail.dropWhile isDigit)
    | _ => ([], rest)
  if whole.isEmpty && fraction.isEmpty then none
  else do
    let coefficient ← readDigits? (whole ++ fraction)
    let power ← readPower? rest
    pure (coefficient, power - fraction.length)

def readFinite? (negative : Bool) (cs : List Char) : Option Decimal := do
  let (coefficient, exponent) ← readParts? cs
  unrounded? negative coefficient exponent

def readNaN? (negative signaling : Bool) (cs : List Char) : Option Decimal :=
  (readDigits? cs).map fun payload => .nan negative signaling payload

def readChars? (cs : List Char) : Option Decimal :=
  let (negative, body) := splitSign cs
  match body.map Char.toLower with
  | ['i', 'n', 'f'] | ['i', 'n', 'f', 'i', 'n', 'i', 't', 'y'] => some (.infinite negative)
  | 'n' :: 'a' :: 'n' :: payload => readNaN? negative false payload
  | 's' :: 'n' :: 'a' :: 'n' :: payload => readNaN? negative true payload
  | _ => readFinite? negative body

def ofText? (s : String) : Option Decimal :=
  readChars? (plainDigits (Text.trimChars s.toList))

end Decimal

def maxIntDigits : Nat := 4300

def readGrouped? : List Char → Option (List Nat)
  | [] => none
  | [c] => (Text.digitValue? c).map ([·])
  | c :: '_' :: cs => do
    let d ← Text.digitValue? c
    let ds ← readGrouped? cs
    pure (d :: ds)
  | c :: cs => do
    let d ← Text.digitValue? c
    let ds ← readGrouped? cs
    pure (d :: ds)

def readInt? (s : String) : Option Int := do
  let (negative, body) := Decimal.splitSign (Text.unspaced s.toList)
  let ds ← readGrouped? body
  if maxIntDigits < ds.length then none
  else pure (if negative then -(ofDigits ds) else ofDigits ds)

end RegistryTokens.Number
