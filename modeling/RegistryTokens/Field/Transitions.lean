import RegistryTokens.Field.Plain
import RegistryTokens.Time.Reader

/-!
# The timeline field

A status timeline is written as a comma list of entries `INSTANT=STATUS`, with or without double
quotes around it. The last equals sign of an entry separates the instant from the status. A
timeline may also be given as a collection of pairs or ready-made. The keys of a collection may be
values of any kind; one that is no stamp is a fault like the others, found when its turn comes.
-/

set_option autoImplicit false

namespace RegistryTokens.Field

open RegistryTokens.Time

section Entries

variable {α : Type}

def settled (built : Except TimelineFault (Timeline α)) : Answer (Timeline α) :=
  match built with
  | .ok t => .ok t
  | .error fault => .error (Failure.ofTimeline fault)

def build (entries : List (Stamp × α)) : Answer (Timeline α) := settled (Timeline.build entries)

def addKey (d : Timeline.Draft α) (entry : Value × α) : Except TimelineFault (Timeline.Draft α) :=
  match entry.1 with
  | .stamp s => d.addStamp s entry.2
  | v => .error (.noStamp v.literal)

def buildKeyed (entries : List (Value × α)) : Answer (Timeline α) :=
  settled do (← entries.foldlM addKey Timeline.Draft.blank).finish

end Entries

def transitionsName : String := "token_status_transitions"

def startOfTimeWord : String := "START_OF_TIME"

def readStamp (parameter text : String) : Answer Stamp :=
  let trimmed := Text.trim text
  if Text.upper trimmed = startOfTimeWord then .ok (.ofInstant Instant.epoch)
  else match Stamp.ofIso? trimmed with
    | none => Answer.refuse <|
        Refusal.malformed parameter text "expected an ISO 8601 instant or START_OF_TIME"
    | some s =>
      if s.isNaive then
        Answer.refuse (Refusal.malformed parameter text "instant must carry a UTC offset")
      else .ok s

def splitLast (cs : List Char) : Option (List Char × List Char) :=
  match cs.reverse.span (· != '=') with
  | (_, []) => none
  | (after, _ :: before) => some (before.reverse, after.reverse)

def unwrapped (cs : List Char) : List Char :=
  if 2 ≤ cs.length ∧ cs.head? = some '"' ∧ cs.getLast? = some '"' then cs.tail.dropLast else cs

/-- An entry as instant and status, both still unread; the whole text is shown when it is no
entry. -/
def splitEntry (whole : Value) (entry : List Char) : Answer (Value × Value) :=
  let refusal := Answer.refuse <| Refusal.malformed transitionsName whole <|
    "expected INSTANT=STATUS, got '" ++ String.ofList entry ++ "'"
  match splitLast entry with
  | none => refusal
  | some (instant, status) =>
    if instant.all Text.isBlank then refusal
    else .ok (.text (String.ofList instant), .text (String.ofList status))

def splitEntries (whole : Value) (s : String) : Answer (List (Value × Value)) :=
  (Text.CommaList.itemChars (unwrapped (Text.trimChars s.toList))).mapM (splitEntry whole)

def splitPair (v : Value) : Answer (Value × Value) :=
  match v.items? with
  | none => .error .wrongType
  | some [a, b] => .ok (a, b)
  | some _ => .error (.broke (.badValue none))

def readStatus (v : Value) : Answer Status :=
  match v with
  | .member (.status s) => .ok s
  | v =>
    match Vocabulary.find? (normal v.display) with
    | some s => .ok s
    | none => Answer.refuse (Refusal.invalidValue transitionsName v (Vocabulary.words Status))

def readEntry (pair : Value × Value) : Answer (Stamp × Status) := do
  let stamp ← match pair.1 with
    | .stamp s => pure s
    | v => readStamp transitionsName v.display
  let status ← readStatus pair.2
  pure (stamp, status)

/-- The entries of a timeline as they were given. The text form is split as a whole before any
entry is read; the pairs of a collection are split and read one by one. -/
def readEntries (v : Value) : Answer (List (Stamp × Status)) :=
  match v.asText?, v with
  | some s, _ => do (← splitEntries v s).mapM readEntry
  | none, .map entries => entries.mapM readEntry
  | none, v =>
    match v.items? with
    | none => .error .wrongType
    | some items => items.mapM fun item => do readEntry (← splitPair item)

def readTransitions (v : Value) : Answer (Timeline Status) :=
  match v with
  | .timeline t => .ok t
  | v => do build (← readEntries v)

def entryChars (entry : Instant × Status) : List Char :=
  entry.1.isoChars ++ '=' :: (word entry.2).toList

def transitionsChars (t : Timeline Status) : List Char :=
  List.intercalate [','] (t.entries.map entryChars)

def transitionsText (t : Timeline Status) : String := String.ofList (transitionsChars t)

end RegistryTokens.Field
