import RegistryTokens.Number.Shortest
import RegistryTokens.Text.Quoted

/-!
# JSON trees and their text

The text of a tree stands on one line of printable ASCII characters: every other character is
escaped by its code, in two halves beyond the basic plane. A blank follows each comma and each
colon. Numbers that are no numbers and infinities are written by name.
-/

set_option autoImplicit false

namespace RegistryTokens.Text

open RegistryTokens.Number

inductive Json where
  | null
  | bool (b : Bool)
  | int (n : Int)
  | float (x : Binary64)
  | text (s : String)
  | list (items : List Json)
  | object (fields : List (String × Json))
  deriving Inhabited

namespace Json

def unit16 (n : Nat) : List Char := '\\' :: 'u' :: hexDigits 4 n

def escaped (c : Char) : List Char :=
  if c = '"' ∨ c = '\\' then ['\\', c]
  else if ' ' ≤ c ∧ c ≤ '~' then [c]
  else if c = '\n' then ['\\', 'n']
  else if c = '\r' then ['\\', 'r']
  else if c = '\t' then ['\\', 't']
  else if c = '\x08' then ['\\', 'b']
  else if c = '\x0c' then ['\\', 'f']
  else if c.toNat < 0x10000 then unit16 c.toNat
  else
    let rest := c.toNat - 0x10000
    unit16 (0xD800 + rest / 0x400) ++ unit16 (0xDC00 + rest % 0x400)

def stringChars (s : String) : List Char := '"' :: s.toList.flatMap escaped ++ ['"']

def floatText (x : Binary64) : String :=
  match x with
  | .nan => "NaN"
  | .infinite negative => if negative then "-Infinity" else "Infinity"
  | x => x.text

mutual

def chars : Json → List Char
  | null => "null".toList
  | bool b => (if b then "true" else "false").toList
  | int n => intDigits n
  | float x => (floatText x).toList
  | text s => stringChars s
  | list [] => ['[', ']']
  | list (item :: rest) => '[' :: chars item ++ itemChars rest
  | object [] => ['\x7b', '\x7d']
  | object ((name, value) :: rest) =>
    '\x7b' :: stringChars name ++ ':' :: ' ' :: chars value ++ fieldChars rest

def itemChars : List Json → List Char
  | [] => [']']
  | item :: rest => ',' :: ' ' :: chars item ++ itemChars rest

def fieldChars : List (String × Json) → List Char
  | [] => ['\x7d']
  | (name, value) :: rest =>
    ',' :: ' ' :: stringChars name ++ ':' :: ' ' :: chars value ++ fieldChars rest

end

def line (j : Json) : String := String.ofList j.chars

/-- The field of an object; of several with one name the last counts. -/
def field? (name : String) : Json → Option Json
  | object fields => (fields.reverse.find? fun f => f.1 == name).map (·.2)
  | _ => none

end Json

end RegistryTokens.Text
