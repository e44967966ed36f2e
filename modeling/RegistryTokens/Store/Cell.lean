import RegistryTokens.Store.Column
import RegistryTokens.Value.Order

/-!
# Cells

What a column makes of a value of any kind: writing brings it into the form of a cell, or fails on
a value that does not belong there; reading brings a cell back. An absent set counts as empty. A
store without time zones holds stamps in universal time without an offset.
-/

set_option autoImplicit false

namespace RegistryTokens.Store

open RegistryTokens.Time

inductive CellKind where
  | stamp
  | texts
  | actions
  | transitions
  deriving DecidableEq, Repr

namespace CellKind

def name : CellKind → String
  | stamp => "UTCDateTime"
  | texts => "StringSet"
  | actions => "EppActionSet"
  | transitions => "StatusTransitionsType"

def ofName? (name : String) : Option CellKind :=
  [stamp, texts, actions, transitions].find? fun k => k.name == name

end CellKind

namespace Cell

def items (v : Value) : Answer (List Value) := Answer.ofOption .wrongType v.items?

def itemsOrNone (v : Value) : Answer (List Value) := if v.truthy then items v else .ok []

def utc (s : Stamp) : Answer Instant :=
  match s.toInstant with
  | .ok i => .ok i
  | .error .naive => .error <| .broke <| .badValue ("Naive datetime not allowed: " ++ s.literal)
  | .error .outsideCalendar => .error .overflow

def writeStamp (zones : Bool) (v : Value) : Answer Value :=
  match v with
  | .null => .ok .null
  | .stamp s => do
    let i ← utc s
    pure (.stamp ⟨i, if zones then some Offset.utc else none⟩)
  | _ => .error (.broke .missingAttribute)

def readStamp (v : Value) : Answer Value :=
  match v with
  | .null => .ok .null
  | .stamp s => do pure (.stamp (.ofInstant (← utc s.assumingUtc)))
  | _ => .error (.broke .missingAttribute)

def writeTexts (v : Value) : Answer Value :=
  match v with
  | .null => .ok (.list [])
  | v => do pure (.list (← Value.inOrder (← items v)))

def setOf (items : List Value) : Answer Value := Answer.ofOption .wrongType (Value.setOf? items)

def readTexts (v : Value) : Answer Value := do setOf (← itemsOrNone v)

def writeAction (v : Value) : Answer String :=
  match v.asText?.bind fun s => Vocabulary.find? s with
  | some (a : EppAction) => .ok (word a)
  | none => .error (.broke (.badValue none))

def writeActions (v : Value) : Answer Value :=
  match v with
  | .null => .ok (.list [])
  | v => do
    let words ← (← items v).mapM writeAction
    pure (.list ((words.mergeSort fun a b => a ≤ b).map .text))

def readAction (v : Value) : Answer Value :=
  if v.isKey then
    match v.asText? with
    | some s => (Column.readAction s).map .ofMember
    | none => .error (.broke .missingKey)
  else .error .wrongType

def readActions (v : Value) : Answer Value := do
  setOf (← (← itemsOrNone v).mapM readAction)

def writeTransitions (v : Value) : Answer Value :=
  match v with
  | .null => .ok .null
  | .timeline t =>
    .ok (.list ((Column.writeTransitions t).map fun cell => .list [.text cell.1, .text cell.2]))
  | _ => .error (.broke .missingAttribute)

def readTransition (v : Value) : Answer (Stamp × Status) := do
  match ← items v with
  | [instant, status] => do
    let text ← Answer.ofOption .wrongType instant.asText?
    let stamp ← Answer.ofOption (.broke (.badValue none)) (Stamp.ofIso? text)
    if !status.isKey then throw .wrongType
    let status ← Answer.ofOption (.broke .missingKey) (status.asText?.bind Vocabulary.find?)
    pure (stamp, status)
  | _ => throw (.broke (.badValue none))

def readTransitions (v : Value) : Answer Value :=
  match v with
  | .null => .ok .null
  | v => do pure (.timeline (← Column.readEntries readTransition (← items v)))

def write (kind : CellKind) (zones : Bool) (v : Value) : Answer Value :=
  match kind with
  | .stamp => writeStamp zones v
  | .texts => writeTexts v
  | .actions => writeActions v
  | .transitions => writeTransitions v

def read (kind : CellKind) (v : Value) : Answer Value :=
  match kind with
  | .stamp => readStamp v
  | .texts => readTexts v
  | .actions => readActions v
  | .transitions => readTransitions v

end Cell

end RegistryTokens.Store
