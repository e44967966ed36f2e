import RegistryTokens.Keyed
import RegistryTokens.Money
import RegistryTokens.Number.Mixing
import RegistryTokens.Number.Residue
import RegistryTokens.Number.Shortest
import RegistryTokens.Placement
import RegistryTokens.Text.Quoted
import RegistryTokens.Timeline
import RegistryTokens.Uuid
import RegistryTokens.Vocabulary

/-!
# Values

Option values arrive as text or already typed, alone or in collections, and a rejected value is
shown in the message that rejects it. A value has two texts: its display, which for text is the
text itself, and its literal, which quotes text and names the type of what is no plain value.
Equality is by meaning: numbers of all types compare as numbers, and a member of a vocabulary
equals its word.
-/

set_option autoImplicit false

namespace RegistryTokens

open RegistryTokens.Number RegistryTokens.Time

inductive Value where
  | null
  | bool (b : Bool)
  | int (n : Int)
  | float (x : Binary64)
  | decimal (d : Decimal)
  | text (s : String)
  | member (m : Member)
  | stamp (s : Stamp)
  | uuid (u : Uuid)
  | money (m : Money)
  | list (items : List Value)
  | tuple (items : List Value)
  | set (items : List Value)
  | map (entries : List (Value × Value))
  | timeline (t : Timeline Status)
  | assigned (v : Value)
  | unassigned
  deriving Inhabited

namespace Value

instance : Coe String Value := ⟨text⟩

def optional (s : Option String) : Value := s.elim null text

/-- The items in brackets; a lone item of a tuple keeps its comma. -/
def bracketed (opening closing : String) (items : List String) : String :=
  opening ++ String.intercalate ", " items ++ closing

def tupled (items : List String) : String :=
  match items with
  | [item] => "(" ++ item ++ ",)"
  | _ => bracketed "(" ")" items

def boolText (b : Bool) : String := if b then "True" else "False"

def decimalLiteral (d : Decimal) : String := "Decimal('" ++ d.text ++ "')"

def moneyLiteral (m : Money) : String :=
  "Money(amount=" ++ decimalLiteral m.amount ++ ", currency=" ++ Text.quoted m.currency ++ ")"

def timelineLiteral (t : Timeline Status) : String :=
  "TimedStateMap(instants=" ++ tupled (t.entries.map fun e => (Stamp.ofInstant e.1).literal) ++
    ", values=" ++ tupled (t.entries.map fun e => (Member.status e.2).literal) ++ ")"

mutual

/-- The text of a value inside another one. -/
def literal : Value → String
  | null => "None"
  | bool b => boolText b
  | int n => intText n
  | float x => x.text
  | decimal d => decimalLiteral d
  | text s => Text.quoted s
  | member m => m.literal
  | stamp s => s.literal
  | uuid u => "UUID('" ++ u.text ++ "')"
  | money m => moneyLiteral m
  | list items => bracketed "[" "]" (literals items)
  | tuple items => tupled (literals items)
  | set items =>
    if items.isEmpty then "frozenset()"
    else bracketed "frozenset(\x7b" "\x7d)" (literals items)
  | map entries => bracketed "\x7b" "\x7d" (entryLiterals entries)
  | timeline t => timelineLiteral t
  | assigned v => "SetTo(value=" ++ literal v ++ ")"
  | unassigned => "UNSET"

def literals : List Value → List String
  | [] => []
  | v :: rest => literal v :: literals rest

def entryLiterals : List (Value × Value) → List String
  | [] => []
  | (k, v) :: rest => (literal k ++ ": " ++ literal v) :: entryLiterals rest

end

/-- The text of a value on its own. -/
def display : Value → String
  | text s => s
  | member m => m.display
  | stamp s => s.spaced
  | decimal d => d.text
  | uuid u => u.text
  | money m => m.display
  | v => v.literal

def asText? : Value → Option String
  | text s => some s
  | member m => some m.text
  | _ => none

def asNumber? : Value → Option Decimal
  | bool b => some (Decimal.ofNat b.toNat)
  | int n => some (Decimal.ofInt n)
  | float x => some x.toDecimal
  | decimal d => some d
  | _ => none

def asInt? : Value → Option Int
  | bool b => some b.toNat
  | int n => some n
  | _ => none

mutual

/-- Whether two values mean the same; undecided where a signal for what is no number would have to
be compared with a number. Collections are compared item by item up to the first difference. -/
def same? : Value → Value → Option Bool
  | null, null => some true
  | unassigned, unassigned => some true
  | stamp a, stamp b => some (a.same b)
  | uuid a, uuid b => some (a == b)
  | money a, money b => some (a.same b)
  | timeline a, timeline b => some (a.entries == b.entries)
  | assigned a, assigned b => same? a b
  | list a, list b => if a.length = b.length then sameItems? a b else some false
  | tuple a, tuple b => sameItems? a b
  | set a, set b => some (a.length == b.length && allWithin a b)
  | map a, map b => if a.length = b.length then sameEntries? a b else some false
  | a, b =>
    match a.asText?, b.asText?, a.asNumber?, b.asNumber? with
    | some s, some t, _, _ => some (s == t)
    | _, _, some x, some y =>
      if x.isSignal || y.isSignal then none else some (x.sameNumber y)
    | _, _, _, _ => some false

def sameItems? : List Value → List Value → Option Bool
  | [], [] => some true
  | a :: as, b :: bs => do if ← same? a b then sameItems? as bs else some false
  | _, _ => some false

def allWithin : List Value → List Value → Bool
  | [], _ => true
  | a :: as, bs => bs.any (fun b => same? a b == some true) && allWithin as bs

def sameEntries? : List (Value × Value) → List (Value × Value) → Option Bool
  | [], _ => some true
  | (k, v) :: rest, other =>
    match other.find? fun entry => same? k entry.1 == some true with
    | some entry => do if ← same? v entry.2 then sameEntries? rest other else some false
    | none => some false

end

def same (a b : Value) : Bool := same? a b == some true

instance : BEq Value := ⟨same⟩

mutual

/-- Whether a value can be a key or an item of a set: collections that can grow cannot, nor can a
signal for what is no number. -/
def isKey : Value → Bool
  | list _ | map _ => false
  | decimal d => !d.isSignal
  | tuple items => areKeys items
  | assigned v => isKey v
  | _ => true

def areKeys : List Value → Bool
  | [] => true
  | v :: rest => isKey v && areKeys rest

end

def residue? : Value → Option Int
  | uuid u => (Decimal.ofNat u.value).residue?
  | v => v.asNumber? >>= Decimal.residue?

mutual

/-- The number by which a value is placed. That of a stamp is made of its day, second and
microsecond in universal time. -/
def placeNumber? : Value → Option UInt64
  | stamp s => if s.isNaive then none else some (Mixing.ofSequence (s.utcParts.map Mixing.ofInt))
  | set items => (placeNumbers? items).map Mixing.ofSet
  | assigned v => (placeNumber? v).map fun n => Mixing.ofSequence [n]
  | v => v.residue?.map Mixing.ofInt

def placeNumbers? : List Value → Option (List UInt64)
  | [] => some []
  | v :: rest => do pure ((← placeNumber? v) :: (← placeNumbers? rest))

end

/-- Items that can all be placed stand in the order of their places, others as they come. -/
def placed (items : List Value) : List Value :=
  match placeNumbers? items with
  | some numbers => Placement.arrange ((numbers.map (·.toNat)).zip items)
  | none => items

def setOf? (items : List Value) : Option Value :=
  if areKeys items then some (set (placed (distinct items))) else none

def mapOf? (entries : List (Value × Value)) : Option Value :=
  if areKeys (entries.map (·.1)) then some (map (Keyed.ofList entries)) else none

def isAssigned : Value → Bool
  | assigned _ => true
  | _ => false

/-- What counts as false: nothing, zero, and what is empty. -/
def truthy : Value → Bool
  | null | unassigned => false
  | bool b => b
  | int n => n != 0
  | float x => !x.isZero
  | decimal d => !d.isZero
  | text s => !s.isEmpty
  | list items | tuple items | set items => !items.isEmpty
  | map entries => !entries.isEmpty
  | member _ | stamp _ | uuid _ | money _ | timeline _ | assigned _ => true

def ofMember {α : Type} [Titled α] (a : α) : Value := member (Titled.wrap a)

def items? : Value → Option (List Value)
  | list items | tuple items | set items => some items
  | map entries => some (entries.map (·.1))
  | text s => some (s.toList.map fun c => text (String.singleton c))
  | member m => some (m.text.toList.map fun c => text (String.singleton c))
  | timeline t => some (t.entries.map fun e => tuple [stamp e.1, ofMember e.2])
  | _ => none

end Value

end RegistryTokens
