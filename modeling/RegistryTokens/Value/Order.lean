import RegistryTokens.Failure
import RegistryTokens.Sorting

/-!
# The order of values

Texts are ordered by their characters, numbers by size, stamps by their moments, identifiers by
their numbers, and sets by inclusion; lists and tuples by the first items that differ. Values of
different kinds have no order, nor have stamps of which only one has an offset. A decimal that is no
number cannot be compared with any number, while a binary one comes before none and after none.
-/

set_option autoImplicit false

namespace RegistryTokens.Value

open RegistryTokens.Number RegistryTokens.Time

def compare (a b : Value) : Answer Bool := Answer.ofOption (.broke .incomparable) (same? a b)

def isDecimal : Value → Bool
  | decimal _ => true
  | _ => false

def beforeNumber (a b : Value) (x y : Decimal) : Answer Bool :=
  match x.order? y with
  | some order => .ok (order == .lt)
  | none => if a.isDecimal || b.isDecimal then .error (.broke .incomparable) else .ok false

def beforeStamp (a b : Stamp) : Answer Bool :=
  if a.isNaive = b.isNaive then .ok (a.utcTicks < b.utcTicks) else .error .wrongType

mutual

def before : Value → Value → Answer Bool
  | stamp a, stamp b => beforeStamp a b
  | uuid a, uuid b => .ok (a.value < b.value)
  | list a, list b => beforeItems a b
  | tuple a, tuple b => beforeItems a b
  | set a, set b => .ok (a.length < b.length && allWithin a b)
  | a, b =>
    match a.asText?, b.asText?, a.asNumber?, b.asNumber? with
    | some s, some t, _, _ => .ok (s < t)
    | _, _, some x, some y => beforeNumber a b x y
    | _, _, _, _ => .error .wrongType

def beforeItems : List Value → List Value → Answer Bool
  | a :: as, b :: bs => do
    if ← a.compare b then beforeItems as bs else before a b
  | [], _ :: _ => .ok true
  | _, _ => .ok false

end

def inOrder (values : List Value) : Answer (List Value) := Sorting.sort before values

end RegistryTokens.Value
