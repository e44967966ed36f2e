import RegistryTokens.Failure
import RegistryTokens.SortedSet
import RegistryTokens.Text.CommaList

/-!
# Plain fields

Readers for the fields of a token other than its timeline, and for prices. A field is given as option text or
already typed. Words are matched after trimming and upper-casing; sets are given as comma lists
or as collections of items. A price is given as an amount and a currency; a floating-point amount is
refused, since it does not say which decimal was meant.
-/

set_option autoImplicit false

namespace RegistryTokens.Field

open RegistryTokens.Number

/-- Text as words are compared: trimmed, then upper-cased. -/
def normal (s : String) : String := Text.upper (Text.trim s)

def displays (items : List Value) : List String :=
  (items.map fun v => Text.trim v.display).filter fun s => !s.isEmpty

/-- A set of texts from a comma list or from the items of a collection. -/
def readTexts (v : Value) : Answer TextSet :=
  match v.asText? with
  | some s => .ok (SortedSet.ofList (Text.CommaList.items s))
  | none =>
    match v.items? with
    | some items => .ok (SortedSet.ofList (displays items))
    | none => .error .wrongType

def readAction (v : Value) : Answer EppAction :=
  match v with
  | .member (.action a) => .ok a
  | v =>
    match Vocabulary.find? (normal v.display) with
    | some a => .ok a
    | none => Answer.refuse (Refusal.unknownAction v.display)

def readActionItems (items : List Value) : Answer ActionSet :=
  (items.mapM readAction).map SortedSet.ofList

def readActions (v : Value) : Answer ActionSet :=
  match v.asText? with
  | some s => readActionItems ((Text.CommaList.items s).map .text)
  | none =>
    match v.items? with
    | some items => readActionItems items
    | none => .error .wrongType

def readWord (α : Type) [Titled α] (parameter : String) (v : Value) : Answer α :=
  let unknown : Answer α := Answer.refuse (Refusal.invalidValue parameter v (Vocabulary.words α))
  let byWord : Answer α :=
    match Vocabulary.find? (normal v.display) with
    | some a => .ok a
    | none => unknown
  match v with
  | .null => unknown
  | .member m =>
    match Titled.unwrap? m with
    | some a => .ok a
    | none => byWord
  | _ => byWord

def readBool (parameter : String) (v : Value) : Answer Bool :=
  match v with
  | .bool b => .ok b
  | v =>
    let written := normal v.display
    if written = "TRUE" then .ok true
    else if written = "FALSE" then .ok false
    else Answer.refuse (Refusal.malformed parameter v "expected true or false")

/-- A floating-point number stands for the decimal that its text shows. -/
def fractionSource (v : Value) : Value :=
  match v with
  | .float x => .text x.text
  | v => v

def readFractionOf (v : Value) : Answer Decimal := do
  let parameter := "discount_fraction"
  let d ← match v with
    | .decimal d => pure d
    | v =>
      match Decimal.ofText? v.display with
      | some d => pure d
      | none => Answer.refuse (Refusal.malformed parameter v "expected a decimal number")
  if d.isFraction then pure d
  else Answer.refuse <|
    Refusal.outOfRange parameter v "Discount fraction must be between 0 and 1 inclusive"

def readFraction (v : Value) : Answer Decimal := readFractionOf (fractionSource v)

def readYears (v : Value) : Answer Int := do
  let parameter := "discount_years"
  let malformed : Answer Int :=
    Answer.refuse (Refusal.malformed parameter v "expected an integer")
  let n ← match v with
    | .bool _ => malformed
    | .int n => pure n
    | v =>
      match readInt? (Text.trim v.display) with
      | some n => pure n
      | none => malformed
  if n < 1 then
    Answer.refuse (Refusal.outOfRange parameter v "Discount years must be at least 1")
  else pure n

def readAmount (v : Value) : Answer Decimal :=
  match v with
  | .float _ =>
    .error (.broke (.badValue "Money amount must not be a float; pass a str or Decimal"))
  | .decimal d => .ok d
  | v => Answer.ofOption (.broke (.badValue ("Invalid money amount: " ++ v.literal)))
      (Decimal.ofText? v.display)

def readPrice (amount : Value) (currency : Option String) : Answer Money := do
  match Money.of (← readAmount amount) currency with
  | .ok m => pure m
  | .error fault => throw (Failure.ofMoney fault)

end RegistryTokens.Field
