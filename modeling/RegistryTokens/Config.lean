import RegistryTokens.Log.Record
import RegistryTokens.Text.Flow

/-!
# Configuration

A configuration is read from a document: a mapping with sections for the database and for logging.
Sections and fields may be missing. Two variables of the environment override one field each
before the document is read, unless they are empty. Pairs of names and values can take the place of
a mapping, but only where nothing is overridden.
-/

set_option autoImplicit false

namespace RegistryTokens

open RegistryTokens.Text

structure Config where
  identifier : String
  version : Int
  url : String
  echo : Bool
  poolSize : Int
  maxOverflow : Int
  level : Log.Level
  source : Option String
  deriving DecidableEq, Repr

namespace Config

abbrev Document := Keyed Value Value

abbrev Environment := Keyed String String

def bad {α : Type} (message : String) : Answer α := .error (.broke (.badConfig message))

def field? (d : Document) (name : String) : Option Value := Keyed.get? d (.text name)

def sectionOf (d : Document) (name : String) : Answer Document :=
  let v := (field? d name).getD .null
  if v.truthy then
    match v with
    | .map entries => .ok entries
    | _ => bad ("'" ++ name ++ "' must be a mapping")
  else .ok []

def readCount (part name : String) (v : Value) : Answer Int :=
  let refusal := bad <|
    part ++ "." ++ name ++ " must be a non-negative integer, got " ++ v.literal
  match v with
  | .int n => if n < 0 then refusal else .ok n
  | _ => refusal

def levels : List Log.Level := [.critical, .debug, .error, .info, .warning]

def readLevel (d : Document) : Answer Log.Level :=
  let written := Text.upper ((field? d "level").getD "INFO").display
  match levels.find? fun l => l.name == written with
  | some l => .ok l
  | none => bad <|
    "logging.level must be one of " ++ String.intercalate ", " (levels.map (·.name)) ++ ", got " ++
      Text.quoted written

def readUrl (d : Document) : Answer String :=
  match (field? d "url").bind Value.asText? with
  | some url => if url.isEmpty then bad "database.url is required" else .ok url
  | none => bad "database.url is required"

/-- Reads a document. The version is read first, then the database, then logging. -/
def read (source : Option String) (d : Document) : Answer Config := do
  let version ← readCount "root" "version" ((field? d "version").getD (.int 1))
  let database ← sectionOf d "database"
  let url ← readUrl database
  let poolSize ← readCount "database" "pool_size" ((field? database "pool_size").getD (.int 5))
  let maxOverflow ←
    readCount "database" "max_overflow" ((field? database "max_overflow").getD (.int 10))
  let level ← readLevel (← sectionOf d "logging")
  pure {
    identifier := ((field? d "config_id").getD "allocation-kernel").display
    version, url, echo := ((field? database "echo").getD (.bool false)).truthy
    poolSize, maxOverflow, level, source }

def urlVariable : String := "ALLOCATION_DATABASE_URL"

def levelVariable : String := "ALLOCATION_LOG_LEVEL"

/-- Puts a value into a field of a section, if a variable holds one. The other fields of the section
are those of the document as it was given. -/
def overrideField (given : Document) (e : Environment) (variableName name field : String)
    (d : Document) : Answer Document :=
  match (Keyed.get? e variableName).filter fun value => !value.isEmpty with
  | none => .ok d
  | some value => do
    let fields ← sectionOf given name
    pure (Keyed.put (.text name) (.map (Keyed.put (.text field) (.text value) fields)) d)

def putPair (d : Document) (pair : Value) : Answer Document := do
  match ← Answer.ofOption .wrongType pair.items? with
  | [name, v] => if name.isKey then pure (Keyed.put name v d) else throw .wrongType
  | _ => throw (.broke (.badValue none))

def entriesOf (v : Value) : Answer Document :=
  match v with
  | .map entries => .ok entries
  | v => do (← Answer.ofOption .wrongType v.items?).foldlM putPair []

def overrides (e : Environment) (variableName : String) : Bool :=
  (Keyed.get? e variableName).any fun value => !value.isEmpty

def override (d : Document) (e : Environment) : Answer Document := do
  let d' ← overrideField d e urlVariable "database" "url" d
  overrideField d e levelVariable "logging" "level" d'

def readValue (v : Value) (e : Environment) : Answer Config := do
  let d ← entriesOf v
  match v with
  | .map _ => read none (← override d e)
  | _ =>
    if overrides e urlVariable || overrides e levelVariable then
      throw (.broke .missingAttribute)
    read none d

mutual

def ofTree : Json → Value
  | .null => .null
  | .bool b => .bool b
  | .int n => .int n
  | .float x => .float x
  | .text s => .text s
  | .list items => .list (ofTrees items)
  | .object fields => .map (Keyed.ofList (ofFields fields))

def ofTrees : List Json → List Value
  | [] => []
  | j :: rest => ofTree j :: ofTrees rest

def ofFields : List (String × Json) → List (Value × Value)
  | [] => []
  | (name, j) :: rest => (.text name, ofTree j) :: ofFields rest

end

/-- The document of a file; an empty file counts as an empty document. -/
def documentOf (path text : String) : Answer Document :=
  if Flow.isEmpty text then .ok []
  else match Flow.read? text with
    | none => bad ("Invalid YAML in " ++ path)
    | some tree =>
      let v := ofTree tree
      if !Flow.isReadable tree then .error (.broke (.badValue none))
      else if v.truthy then
        match v with
        | .map entries => .ok entries
        | _ => bad ("Top level of " ++ path ++ " must be a mapping")
      else .ok []

def load (path : String) (text : Option String) (e : Environment) : Answer Config := do
  match text with
  | none => throw (.broke .missingFile)
  | some text => read (some path) (← override (← documentOf path text) e)

def standardDocument : Document := [
  ("config_id", "allocation-kernel-default"),
  ("version", .int 1),
  ("database", .map [
    ("url", "sqlite:///allocation_tokens.db"), ("echo", .bool false), ("pool_size", .int 5),
    ("max_overflow", .int 10)]),
  ("logging", .map [("level", "INFO")])]

def standard (path : String) (e : Environment) : Answer Config := do
  read (some path) (← override standardDocument e)

end Config

end RegistryTokens
