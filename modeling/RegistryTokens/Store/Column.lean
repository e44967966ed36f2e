import RegistryTokens.Field.Transitions
import RegistryTokens.Number.Shortest
import RegistryTokens.SortedSet
import RegistryTokens.Store.RealText

/-!
# Columns

How the values of a row are written and read back. Sets are written as sorted lists, a timeline as
the list of its instants and statuses, a stamp as its instant. A decimal is written as the nearest
binary64 number, whose zero has no sign, and read back with nine places. Sets, timelines and
instants lose nothing that way; a decimal may.

A text column keeps text. Numbers that are written to it become text: integers, which must fit the
store, by their digits, and binary64 numbers by at most fifteen significant digits; what is no
number leaves the cell empty. Stamps are written as they are displayed. Values of other kinds cannot
be written.
-/

set_option autoImplicit false

namespace RegistryTokens.Store.Column

open RegistryTokens.Number RegistryTokens.Time

def writeTexts (s : TextSet) : List String := s.items

def readTexts (cells : List String) : TextSet := SortedSet.ofList cells

def writeActions (s : ActionSet) : List String := s.items.map fun a => word a

def readAction (cell : String) : Answer EppAction :=
  Answer.ofOption (.broke .missingKey) (Vocabulary.find? cell)

def readActions (cells : List String) : Answer ActionSet :=
  (cells.mapM readAction).map SortedSet.ofList

def writeTransitions (t : Timeline Status) : List (String × String) :=
  t.entries.map fun e => (e.1.iso, word e.2)

def readTransition (cell : String × String) : Answer (Stamp × Status) := do
  let stamp ← Answer.ofOption (.broke (.badValue none)) (Stamp.ofIso? cell.1)
  let status ← Answer.ofOption (.broke .missingKey) (Vocabulary.find? cell.2)
  pure (stamp, status)

def readEntries {κ : Type} (read : κ → Answer (Stamp × Status)) (cells : List κ) :
    Answer (Timeline Status) := do
  let draft ← cells.foldlM (fun (d : Timeline.Draft Status) cell => do
    let (stamp, status) ← read cell
    (d.addStamp stamp status).mapError Failure.ofTimeline) Timeline.Draft.blank
  draft.finish.mapError Failure.ofTimeline

def readTransitions (cells : List (String × String)) : Answer (Timeline Status) :=
  readEntries readTransition cells

/-- A stamp without an offset, or outside the calendar in universal time, cannot be written. -/
def writeStamp (s : Stamp) : Answer Instant :=
  match s.toInstant with
  | .ok i => .ok i
  | .error _ => .error .unwritable

/-- The number that a decimal is written as. -/
def writeDecimal (d : Decimal) : Binary64 :=
  let x := Binary64.ofDecimal d
  if x.isZero then Binary64.zero else x

/-- What is no number leaves its column empty, which is refused; if it signals, it cannot even be
handed to the store. -/
def writable (d : Decimal) : Bool :=
  match d with
  | .nan _ signaling _ => !signaling
  | _ => true

def decimalPlaces : Nat := 9

def readDecimal (x : Binary64) : Decimal := x.fixedPlaces decimalPlaces

def fits (n : Int) : Bool := -9223372036854775808 ≤ n && n < 9223372036854775808

def requireFit (n : Int) : Answer Unit := if fits n then .ok () else .error .overflow

def writeText (v : Value) : Answer (Option String) :=
  match v with
  | .null => .ok none
  | .bool b => .ok (some (intText b.toNat))
  | .int n => do
    requireFit n
    pure (some (intText n))
  | .float x => .ok (RealText.text? x)
  | .text s => .ok (some s)
  | .member m => .ok (some m.text)
  | .stamp s => .ok (some s.spaced)
  | _ => .error (.broke (.store .unbindable))

end RegistryTokens.Store.Column
