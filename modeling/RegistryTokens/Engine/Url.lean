import RegistryTokens.Engine.Query
import RegistryTokens.Failure
import RegistryTokens.Number.DecimalText
import RegistryTokens.Text.Numeral

/-!
# Database addresses

An address names a dialect, possibly with a driver, before `://`; then may follow a user with a
password before an at sign, a host, a port after a colon, the name of a database after a slash, and
a query after a question mark. What stands behind the part that was read last is ignored. A host in
brackets reaches to the last closing one and may hold colons. A port must be a number, and one of
zero counts as none. User, password and database are escaped texts.
-/

set_option autoImplicit false

namespace RegistryTokens.Engine

open RegistryTokens.Number

structure Url where
  /-- The dialect, possibly with a driver, as it is written. -/
  name : List Char
  user : List Char := []
  password : List Char := []
  host : List Char := []
  port : Int := 0
  database : Option (List Char) := none
  query : Query := []
  deriving DecidableEq, Repr

namespace Url

def isNameChar (c : Char) : Bool := Text.isWordChar c || c == '+'

def splitName? (cs : List Char) : Option (List Char × List Char) :=
  let name := cs.takeWhile isNameChar
  match cs.dropWhile isNameChar with
  | ':' :: '/' :: '/' :: rest => if name.isEmpty then none else some (name, rest)
  | _ => none

def splitAtLast? (mark : Char) (cs : List Char) : Option (List Char × List Char) :=
  match cs.reverse.span (· != mark) with
  | (_, []) => none
  | (after, _ :: before) => some (before.reverse, after.reverse)

def splitUser (cs : List Char) : List Char × List Char × List Char :=
  let isUser (c : Char) : Bool := c != ':' && c != '/'
  let run := cs.takeWhile isUser
  let rest := cs.dropWhile isUser
  let plain : List Char × List Char × List Char :=
    match splitAtLast? '@' run with
    | some (user, after) => (user, [], after ++ rest)
    | none => ([], [], cs)
  match rest with
  | ':' :: tail =>
    match tail.dropWhile (· != '@') with
    | '@' :: after => (run, tail.takeWhile (· != '@'), after)
    | _ => plain
  | _ => plain

def splitBrackets? (cs : List Char) : Option (List Char × List Char) :=
  let isInside (c : Char) : Bool := c != '/' && c != '?'
  match splitAtLast? ']' (cs.takeWhile isInside) with
  | some (c :: host, after) => some (c :: host, after ++ cs.dropWhile isInside)
  | _ => none

def splitHost (cs : List Char) : List Char × List Char :=
  let isHost (c : Char) : Bool := c != '/' && c != ':' && c != '?'
  let plain := cs.span isHost
  match cs with
  | '[' :: rest => (splitBrackets? rest).getD plain
  | _ => plain

def splitPort : List Char → Option (List Char) × List Char
  | ':' :: cs => let (port, rest) := cs.span fun c => c != '/' && c != '?'; (some port, rest)
  | cs => (none, cs)

def splitDatabase : List Char → Option (List Char) × List Char
  | '/' :: cs => let (database, rest) := cs.span (· != '?'); (some database, rest)
  | cs => (none, cs)

def readQuery : List Char → Query
  | '?' :: cs => Query.read (cs.takeWhile (· != '\n'))
  | _ => []

def readPort : Option (List Char) → Answer Int
  | none => .ok 0
  | some cs => Answer.ofOption (.broke (.badValue none)) (readInt? (String.ofList cs))

def read (s : String) : Answer Url := do
  let (name, rest) ← Answer.ofOption (.broke .badUrl) (splitName? s.toList)
  let (user, password, rest) := splitUser rest
  let (host, rest) := splitHost rest
  let (port, rest) := splitPort rest
  let (database, rest) := splitDatabase rest
  pure {
    name, user := Text.Percent.decode user, password := Text.Percent.decode password, host
    port := ← readPort port
    database := database.map Text.Percent.decode, query := readQuery rest }

def hasHost (u : Url) : Bool :=
  !(u.user.isEmpty && u.password.isEmpty && u.host.isEmpty && u.port == 0)

end Url

end RegistryTokens.Engine
