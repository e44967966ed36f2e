import RegistryTokens.Number.Digits
import RegistryTokens.Text.Printable

/-!
# Quoted literals and escaped bytes

A text as it stands inside a message that shows values: between single quotes, or between double
quotes when it holds a single quote and no double one. A backslash and the quote in use are
escaped, tabs and line ends are written by letter, and every other character that cannot be
printed by its code in two, four or eight hexadecimal digits. A text can also be brought to ASCII
alone by giving all other characters by their codes. In the escaped text of an address a percent sign
with two hexadecimal digits stands for a byte, and a run of such bytes is text in the usual encoding
of Unicode.
-/

set_option autoImplicit false

namespace RegistryTokens.Text

def hexDigits (width n : Nat) : List Char :=
  (List.range width).reverse.map fun i => Nat.digitChar (n / 16 ^ i % 16)

namespace Quoted

def quoteFor (cs : List Char) : Char :=
  if cs.contains '\'' && !cs.contains '"' then '"' else '\''

def codeChars (c : Char) : List Char :=
  if c.toNat < 0x100 then '\\' :: 'x' :: hexDigits 2 c.toNat
  else if c.toNat < 0x10000 then '\\' :: 'u' :: hexDigits 4 c.toNat
  else '\\' :: 'U' :: hexDigits 8 c.toNat

def escaped (quote c : Char) : List Char :=
  if c = quote ∨ c = '\\' then ['\\', c]
  else if c = '\t' then ['\\', 't']
  else if c = '\n' then ['\\', 'n']
  else if c = '\r' then ['\\', 'r']
  else if isPrintable c then [c]
  else codeChars c

def literalChars (cs : List Char) : List Char :=
  let quote := quoteFor cs
  quote :: cs.flatMap (escaped quote) ++ [quote]

end Quoted

def asciiChars (cs : List Char) : List Char :=
  cs.flatMap fun c => if c.toNat < 0x80 then [c] else Quoted.codeChars c

def quoted (s : String) : String := String.ofList (Quoted.literalChars s.toList)

namespace Percent

/-- The text of a run of bytes; bytes that make none are replaced one by one. -/
def textOf (bytes : List UInt8) : List Char :=
  match String.fromUTF8? ⟨bytes.toArray⟩ with
  | some s => s.toList
  | none => bytes.map fun b => if b < 0x80 then Char.ofNat b.toNat else '\uFFFD'

/-- A text with its escaped bytes, those of the current run being at hand. -/
def decodeAfter (run : List UInt8) : List Char → List Char
  | '%' :: a :: b :: rest =>
    match Number.hexDigit? a, Number.hexDigit? b with
    | some high, some low => decodeAfter (run ++ [UInt8.ofNat (16 * high + low)]) rest
    | _, _ => textOf run ++ '%' :: decodeAfter [] (a :: b :: rest)
  | c :: rest => textOf run ++ c :: decodeAfter [] rest
  | [] => textOf run

def decode (cs : List Char) : List Char := decodeAfter [] cs

end Percent

end RegistryTokens.Text
