import RegistryTokens.Failure
import RegistryTokens.Text.Json

/-!
# Values in log lines

Text, truth values, numbers and collections keep their shape in a log line; a member of a
vocabulary becomes its word, a stamp its ISO form, a set the sorted list of the displays of its
items, and everything else its display. The keys of a map must be text or plain values.
-/

set_option autoImplicit false

namespace RegistryTokens.Log

open RegistryTokens.Number RegistryTokens.Text

def keyText? : Value → Option String
  | .text s => some s
  | .member m => some m.text
  | .null => some "null"
  | .bool b => some (if b then "true" else "false")
  | .int n => some (intText n)
  | .float x => some (Json.floatText x)
  | _ => none

def sortedTexts (items : List String) : List String := items.mergeSort fun a b => a ≤ b

mutual

def encode : Value → Answer Json
  | .null => .ok .null
  | .bool b => .ok (.bool b)
  | .int n => .ok (.int n)
  | .float x => .ok (.float x)
  | .text s => .ok (.text s)
  | .member m => .ok (.text m.text)
  | .stamp s => .ok (.text s.iso)
  | .list items | .tuple items => (encodeItems items).map .list
  | .set items => .ok (.list ((sortedTexts (items.map Value.display)).map .text))
  | .map entries => (encodeEntries entries).map .object
  | v => .ok (.text v.display)

def encodeItems : List Value → Answer (List Json)
  | [] => .ok []
  | v :: rest => do
    let j ← encode v
    let js ← encodeItems rest
    pure (j :: js)

def encodeEntries : List (Value × Value) → Answer (List (String × Json))
  | [] => .ok []
  | (k, v) :: rest => do
    let name ← Answer.ofOption .wrongType (keyText? k)
    let j ← encode v
    let js ← encodeEntries rest
    pure ((name, j) :: js)

end

end RegistryTokens.Log
