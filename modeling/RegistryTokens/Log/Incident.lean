import RegistryTokens.Failure

/-!
# Incidents

An incident is a failure as a log line tells it: its name, its message, possibly a code, named
attributes of which the private ones are kept back, and possibly its trace. Unless it is worded by
itself, its message follows from its values: a lone value is its own message. A failure of the
operating system is worded by the number and the reason with which it comes, and its number may give
it a narrower name.
-/

set_option autoImplicit false

namespace RegistryTokens.Log

structure Incident where
  name : String
  wording : Option String := none
  values : List Value := []
  code : Option Value := none
  attributes : Keyed String Value := []
  trace : Option String := none

namespace Incident

def ofRefusal (r : Refusal) : Incident where
  name := r.kind.name
  values := [.text r.message]
  code := some r.code
  attributes := r.attributes

def ofBreakdown (b : Breakdown) : Incident where
  name := b.name
  values := b.message?.toList.map .text

def ofFailure : Failure → Incident
  | .refused r => ofRefusal r
  | .broke b => ofBreakdown b

/-! ## Failures known by their name and values -/

def systemName : String := "OSError"

def systemAliases : List String := ["IOError", "EnvironmentError"]

def systemKinds : List (String × List Nat) := [
  ("BlockingIOError", [11, 114, 115]), ("BrokenPipeError", [32, 108]), ("ChildProcessError", [10]),
  ("ConnectionAbortedError", [103]), ("ConnectionRefusedError", [111]),
  ("ConnectionResetError", [104]), ("ConnectionError", []), ("FileExistsError", [17]),
  ("FileNotFoundError", [2]), ("InterruptedError", [4]), ("IsADirectoryError", [21]),
  ("NotADirectoryError", [20]), ("PermissionError", [1, 13]), ("ProcessLookupError", [3]),
  ("TimeoutError", [110])]

def isSystemName (name : String) : Bool :=
  name == systemName || systemKinds.any fun k => k.1 == name

def systemKind? (number : Value) : Option String := do
  let n ← number.asInt?
  let kind ← systemKinds.find? fun k => k.2.any fun m => (m : Int) = n
  pure kind.1

def systemFiles : List Value → String
  | [] | .null :: _ => ""
  | [file] | [file, _] | [file, _, .null] => ": " ++ file.literal
  | file :: _ :: second :: _ => ": " ++ file.literal ++ " -> " ++ second.literal

def ofSystem (name : String) (number reason : Value) (files : List Value) : Incident where
  name := if name = systemName then (systemKind? number).getD name else name
  wording := some ("[Errno " ++ number.display ++ "] " ++ reason.display ++ systemFiles files)
  values := number :: reason :: files

def exitName : String := "SystemExit"

def exitCode : List Value → Value
  | [] => .null
  | [v] => v
  | values => .tuple values

def ofOther (name : String) (values : List Value) : Incident :=
  let name := if systemAliases.contains name then systemName else name
  match values with
  | number :: reason :: files =>
    if isSystemName name ∧ files.length ≤ 3 then ofSystem name number reason files
    else { name, values, code := if name = exitName then some (exitCode values) else none }
  | _ => { name, values, code := if name = exitName then some (exitCode values) else none }

/-! ## Messages and attributes -/

/-- A lone value of a missing key is quoted. -/
def messageOf (name : String) : List Value → String
  | [] => ""
  | [v] => if name = Breakdown.missingKey.name then v.literal else v.display
  | values => (Value.tuple values).literal

def message (i : Incident) : String := i.wording.getD (messageOf i.name i.values)

/-- Sets an attribute. The values and the code are kept apart. -/
def setAttribute (i : Incident) (name : String) (v : Value) : Answer Incident :=
  if name = "args" then do
    pure { i with values := ← Answer.ofOption .wrongType v.items? }
  else if name = "code" then .ok { i with code := some v }
  else .ok { i with attributes := Keyed.put name v i.attributes }

def isPublic (name : String) : Bool :=
  !(name.toList.head? == some '_') && name != "args" && name != "code"

def traceName : String := "traceback"

def fields (i : Incident) : List (String × Value) :=
  ("exc_type", .text i.name) :: ("exc_message", .text i.message) ::
    (i.code.toList.map fun c => ("exc_code", c)) ++
    ((i.attributes.filter fun a => isPublic a.1).map fun a => ("exc_" ++ a.1, a.2)) ++
    i.trace.toList.map fun t => (traceName, .text t)

end Incident

end RegistryTokens.Log
