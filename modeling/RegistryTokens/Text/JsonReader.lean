import RegistryTokens.Number.BinaryText
import RegistryTokens.Text.Json

/-!
# Reading JSON

Reads the text of a tree: the names of the plain values, numbers, strings with their escapes, and
lists and objects of trees, with blanks between all of them. A whole number is an integer of any
size; one with a fraction or an exponent is a binary64 number. Two escaped halves of one character
beyond the basic plane are read as that character.
-/

set_option autoImplicit false

namespace RegistryTokens.Text.Json

open RegistryTokens.Number

/-- In what the texts of one kind may differ from those of another one. -/
structure Grammar where
  isSpace : Char → Bool
  readPlain? : List Char → Option (Json × List Char)
  /-- Whether the name of a field may stand as it is written, with all that comes before its
  colon. -/
  admitsName : List Char → Bool

def isSpace (c : Char) : Bool := c == ' ' || c == '\t' || c == '\n' || c == '\r'

def readUnit? : List Char → Option (Nat × List Char)
  | a :: b :: c :: d :: rest => do
    let a ← hexDigit? a
    let b ← hexDigit? b
    let c ← hexDigit? c
    let d ← hexDigit? d
    pure (((a * 16 + b) * 16 + c) * 16 + d, rest)
  | _ => none

/-- The character of an escape by code, together with a second half where the first one needs
it. -/
def readCode? (cs : List Char) : Option (Char × List Char) := do
  let (high, rest) ← readUnit? cs
  if 0xD800 ≤ high ∧ high < 0xDC00 then
    match rest with
    | '\\' :: 'u' :: rest => do
      let (low, rest) ← readUnit? rest
      if 0xDC00 ≤ low ∧ low < 0xE000 then
        pure (Char.ofNat (0x10000 + (high - 0xD800) * 0x400 + (low - 0xDC00)), rest)
      else none
    | _ => none
  else if 0xDC00 ≤ high ∧ high < 0xE000 then none
  else pure (Char.ofNat high, rest)

def plainEscape? : Char → Option Char
  | '"' => some '"'
  | '\\' => some '\\'
  | '/' => some '/'
  | 'b' => some '\x08'
  | 'f' => some '\x0c'
  | 'n' => some '\n'
  | 'r' => some '\r'
  | 't' => some '\t'
  | _ => none

def readString? : Nat → List Char → Option (List Char × List Char)
  | 0, _ => none
  | fuel + 1, cs =>
    match cs with
    | [] => none
    | '"' :: rest => some ([], rest)
    | '\\' :: 'u' :: rest => do
      let (c, rest) ← readCode? rest
      let (cs, rest) ← readString? fuel rest
      pure (c :: cs, rest)
    | '\\' :: e :: rest => do
      let c ← plainEscape? e
      let (cs, rest) ← readString? fuel rest
      pure (c :: cs, rest)
    | c :: rest =>
      if c = '\\' ∨ c.toNat < 0x20 then none
      else do
        let (cs, rest) ← readString? fuel rest
        pure (c :: cs, rest)

def readRun? (cs : List Char) : Option (List Char × List Char) :=
  let ds := cs.takeWhile isDigit
  if ds.isEmpty then none else some (ds, cs.dropWhile isDigit)

def readWhole? : List Char → Option (List Char × List Char)
  | '0' :: rest => some (['0'], rest)
  | cs => readRun? cs

def readFraction? : List Char → Option (List Char × List Char)
  | '.' :: rest => do
    let (ds, rest) ← readRun? rest
    pure ('.' :: ds, rest)
  | cs => some ([], cs)

def readExponent? : List Char → Option (List Char × List Char)
  | c :: rest =>
    if c = 'e' ∨ c = 'E' then
      match rest with
      | s :: tail =>
        if s = '+' ∨ s = '-' then do
          let (ds, tail) ← readRun? tail
          pure ('e' :: s :: ds, tail)
        else do
          let (ds, tail) ← readRun? rest
          pure ('e' :: ds, tail)
      | [] => none
    else some ([], c :: rest)
  | [] => some ([], [])

def readUnsigned? (negative : Bool) (cs : List Char) : Option (Json × List Char) := do
  let (whole, cs) ← readWhole? cs
  let (fraction, cs) ← readFraction? cs
  let (exponent, cs) ← readExponent? cs
  if fraction.isEmpty && exponent.isEmpty then do
    let n ← readDigits? whole
    pure (.int (if negative then -(n : Int) else n), cs)
  else do
    let x ← Binary64.readChars?
      (Decimal.signChars negative ++ whole ++ fraction ++ exponent)
    pure (.float x, cs)

def readNumber? : List Char → Option (Json × List Char)
  | '-' :: rest => readUnsigned? true rest
  | cs => readUnsigned? false cs

def readName? (name : List Char) (cs : List Char) : Option (List Char) :=
  if name.isPrefixOf cs then some (cs.drop name.length) else none

def readPlain? (cs : List Char) : Option (Json × List Char) :=
  let named (name : String) (j : Json) : Option (Json × List Char) :=
    (readName? name.toList cs).map (j, ·)
  named "null" .null <|> named "true" (.bool true) <|> named "false" (.bool false) <|>
    named "NaN" (.float .nan) <|> named "Infinity" (.float (.infinite false)) <|>
    named "-Infinity" (.float (.infinite true)) <|> readNumber? cs

namespace Grammar

variable (g : Grammar)

def skipSpaces (cs : List Char) : List Char := cs.dropWhile g.isSpace

mutual

def readValue? : Nat → List Char → Option (Json × List Char)
  | 0, _ => none
  | fuel + 1, cs =>
    match g.skipSpaces cs with
    | '"' :: rest => do
      let (cs, rest) ← readString? (rest.length + 1) rest
      pure (.text (String.ofList cs), rest)
    | '[' :: rest =>
      match g.skipSpaces rest with
      | ']' :: rest => some (.list [], rest)
      | rest => do
        let (items, rest) ← readItems? fuel rest
        pure (.list items, rest)
    | '\x7b' :: rest =>
      match g.skipSpaces rest with
      | '\x7d' :: rest => some (.object [], rest)
      | rest => do
        let (fields, rest) ← readFields? fuel rest
        pure (.object fields, rest)
    | cs => g.readPlain? cs

def readItems? : Nat → List Char → Option (List Json × List Char)
  | 0, _ => none
  | fuel + 1, cs => do
    let (item, rest) ← readValue? fuel cs
    match g.skipSpaces rest with
    | ']' :: rest => pure ([item], rest)
    | ',' :: rest => do
      let (items, rest) ← readItems? fuel rest
      pure (item :: items, rest)
    | _ => none

def readFields? : Nat → List Char → Option (List (String × Json) × List Char)
  | 0, _ => none
  | fuel + 1, cs =>
    let start := g.skipSpaces cs
    match start with
    | '"' :: rest => do
      let (name, rest) ← readString? (rest.length + 1) rest
      match g.skipSpaces rest with
      | ':' :: rest => do
        if !g.admitsName (start.take (start.length - rest.length - 1)) then failure
        let (value, rest) ← readValue? fuel rest
        match g.skipSpaces rest with
        | '\x7d' :: rest => pure ([(String.ofList name, value)], rest)
        | ',' :: rest => do
          let (fields, rest) ← readFields? fuel rest
          pure ((String.ofList name, value) :: fields, rest)
        | _ => none
      | _ => none
    | _ => none

end

def read? (s : String) : Option Json := do
  let cs := s.toList
  let (j, rest) ← g.readValue? (2 * cs.length + 2) cs
  if (g.skipSpaces rest).isEmpty then some j else none

end Grammar

def grammar : Grammar := ⟨isSpace, readPlain?, fun _ => true⟩

def read? (s : String) : Option Json := grammar.read? s

end RegistryTokens.Text.Json
