import RegistryTokens.Text.JsonReader
import RegistryTokens.Text.Blank

/-!
# Documents in flow style

A JSON text that is read as a document in flow style means almost the same. Tabs separate nothing,
controls cannot stand anywhere, and the colon after a name must follow soon, on the same line. A
number with an exponent is one only if it has a fraction and the exponent a sign; all else that
begins like a number is a text as it is written, and so are the names of what is no number.
-/

set_option autoImplicit false

namespace RegistryTokens.Text.Flow

open RegistryTokens.Number

def isBreak (c : Char) : Bool :=
  c == '\n' || c == '\r' || c == '\x85' || c == '\u2028' || c == '\u2029'

def isSpace (c : Char) : Bool := c == ' ' || isBreak c

def allowedSpans : Spans := [
  (0x09, 0x0A), (0x0D, 0x0D), (0x20, 0x7E), (0x85, 0x85), (0xA0, 0xD7FF), (0xE000, 0xFFFD),
  (0x10000, 0x10FFFF)]

def nameReach : Nat := 1024

def admitsName (written : List Char) : Bool :=
  written.length ≤ nameReach && !written.any isBreak

/-- Whether what is written as a number is one: an exponent needs a fraction and a sign. -/
def isNumber (written : List Char) : Bool :=
  match written.dropWhile fun c => c != 'e' && c != 'E' with
  | _ :: sign :: _ => written.contains '.' && (sign == '+' || sign == '-')
  | _ => !written.contains 'N' && !written.contains 'I'

def readPlain? (cs : List Char) : Option (Json × List Char) := do
  let (j, rest) ← Json.readPlain? cs
  let written := cs.take (cs.length - rest.length)
  match j with
  | .float _ => pure (if isNumber written then j else .text (String.ofList written), rest)
  | j => pure (j, rest)

def grammar : Json.Grammar := ⟨isSpace, readPlain?, admitsName⟩

def isEmpty (s : String) : Bool := s.toList.all isSpace

def read? (s : String) : Option Json :=
  if s.toList.all fun c => allowedSpans.mem c.toNat then grammar.read? s else none

mutual

def isReadable : Json → Bool
  | .int n => size10 n.natAbs ≤ maxIntDigits
  | .list items => areReadable items
  | .object fields => haveReadable fields
  | _ => true

def areReadable : List Json → Bool
  | [] => true
  | j :: rest => isReadable j && areReadable rest

def haveReadable : List (String × Json) → Bool
  | [] => true
  | (_, j) :: rest => isReadable j && haveReadable rest

end

end RegistryTokens.Text.Flow
