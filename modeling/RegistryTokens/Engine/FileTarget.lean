import RegistryTokens.Engine.FileAddress
import RegistryTokens.Engine.Path
import RegistryTokens.Engine.Url
import RegistryTokens.Number.BinaryText
import RegistryTokens.Value

/-!
# File-based databases

A file-based database is opened under a name. The query of its address holds settings for that,
which must be well formed; no host is named. One of the settings says that the name is meant as an
address itself, and then what is left of the query is added to it. A database without a file is kept
in memory. Whether a database can be opened shows only when it is used.
-/

set_option autoImplicit false

namespace RegistryTokens.Engine

open RegistryTokens.Number

inductive Setting where
  | switch
  | duration
  | count
  | anyText
  deriving DecidableEq, Repr

namespace Setting

def readSwitch? (s : String) : Option Bool :=
  let written := String.ofList ((Text.trimChars s.toList).map Char.toLower)
  if ["true", "yes", "on", "y", "t", "1"].contains written then some true
  else if ["false", "no", "off", "n", "f", "0"].contains written then some false
  else none

def admits : Setting → String → Bool
  | switch, s => (readSwitch? s).isSome
  | duration, s => (Binary64.ofText? s).isSome
  | count, s => (readInt? s).isSome
  | anyText, _ => true

def admitsSeveral : Setting → Bool
  | switch | anyText => true
  | duration | count => false

def check (k : Setting) : List String → Answer Unit
  | [] => .ok ()
  | [value] => if k.admits value then .ok () else .error (.broke (.badValue none))
  | _ => if k.admitsSeveral then .ok () else .error .wrongType

/-- A count must fit 32 bits when it is used. -/
def isUsable (k : Setting) : List String → Bool
  | [value] =>
    match k, readInt? value with
    | count, some n => -2147483648 ≤ n && n ≤ 2147483647
    | _, _ => true
  | _ => true

end Setting

structure Place where
  /-- The path of the file; without one they are kept in memory. -/
  file : Option Path
  readOnly : Bool
  deriving DecidableEq, Repr

namespace FileTarget

def settings : Keyed String Setting := [
  ("uri", .switch), ("timeout", .duration), ("isolation_level", .anyText),
  ("detect_types", .count), ("check_same_thread", .switch), ("cached_statements", .count)]

def values (q : Query) (name : String) : List String := (Keyed.get? q name).getD []

def isAddressed (q : Query) : Bool :=
  match values q "uri" with
  | [] => false
  | [value] => Setting.readSwitch? value == some true
  | _ => true

def others (q : Query) : Query := q.without (settings.map (·.1))

def check (u : Url) : Answer Unit := do
  if u.hasHost then throw (.broke .badUrl)
  settings.forM fun entry => entry.2.check (values u.query entry.1)
  if isAddressed u.query && u.database.isNone && !(others u.query).isEmpty then throw .wrongType

def valuesText : List String → String
  | [value] => value
  | several => (Value.tuple (several.map .text)).literal

def optionsText (q : Query) : String :=
  let sorted := q.mergeSort fun a b => a.1 ≤ b.1
  String.intercalate "&" (sorted.map fun entry => entry.1 ++ "=" ++ valuesText entry.2)

def inMemory : List Char := ":memory:".toList

def name? (u : Url) : Option (List Char) :=
  if isAddressed u.query then
    let left := others u.query
    u.database.map fun d => if left.isEmpty then d else d ++ '?' :: (optionsText left).toList
  else if u.database.getD [] = [] then some inMemory
  else u.database

def checkUse (q : Query) : Answer Unit := do
  if !Setting.count.isUsable (values q "detect_types") then throw .overflow
  if 1 < (values q "isolation_level").length then throw (.broke (.badValue none))
  if !Setting.count.isUsable (values q "cached_statements") then throw .overflow

def isOn (value : List Char) : Bool :=
  match readDigits? value with
  | some n => 0 < n
  | none => ["on", "yes", "true"].contains (String.ofList (value.map Char.toLower))

/-- Whether nobody is to change a file meanwhile, so that it is only read. -/
def isFixed (options : List (List Char × List Char)) : Bool :=
  match options.find? fun option => option.1 == "immutable".toList with
  | some option => isOn option.2
  | none => false

def placeOf (isThere : Path → Bool) (m : Manner) (fixed : Bool) (path : List Char) : Answer Place :=
  let readOnly := m.access = .readOnly
  if m.access = .memory ∨ path = [] ∨ path = inMemory then .ok ⟨none, readOnly⟩
  else if m.keeper = Manner.memoryKeeper then .ok ⟨none, readOnly || fixed⟩
  else
    let p := Path.read path
    if p.admitsFile && (m.access = .full || isThere p) then
      .ok ⟨some p, readOnly || fixed || !p.hasRoomForJournal⟩
    else .error unopened

def openNamed (isThere : Path → Bool) (u : Url) (name : List Char) : Answer Place := do
  match if isAddressed u.query then FileAddress.read? name else none with
  | none => placeOf isThere {} false name
  | some address => do
    let a ← address
    placeOf isThere (← Manner.ofOptions a.options) (isFixed a.options) a.path

def place (isThere : Path → Bool) (u : Url) : Answer Place := do
  checkUse u.query
  let name ← Answer.ofOption .wrongType (name? u)
  if name.contains '\x00' then throw (.broke (.badValue none))
  openNamed isThere u name

end FileTarget

end RegistryTokens.Engine
