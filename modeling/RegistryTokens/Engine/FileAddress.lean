import RegistryTokens.Failure
import RegistryTokens.Text.CommaList
import RegistryTokens.Text.Quoted

/-!
# Addresses of files

A file can be named by an address: a scheme, possibly the local host after two slashes, a path, and
options after a question mark. What follows a number sign is ignored. Path and options are escaped
texts, of which an escaped end mark cuts off the rest. The options say how the file is opened.
-/

set_option autoImplicit false

namespace RegistryTokens.Engine

structure FileAddress where
  path : List Char
  options : List (List Char × List Char)

def unopened : Failure := .broke (.store .operational)

namespace FileAddress

def scheme : List Char := "file:".toList

def upToEnd : List Char → List Char
  | '%' :: '0' :: '0' :: _ => []
  | c :: rest => c :: upToEnd rest
  | [] => []

def decode (cs : List Char) : List Char := Text.Percent.decode (upToEnd cs)

def afterHost? : List Char → Option (List Char)
  | '/' :: '/' :: rest =>
    let host := rest.takeWhile (· != '/')
    if host.isEmpty || host == "localhost".toList then some (rest.dropWhile (· != '/')) else none
  | cs => some cs

def readOption? (cs : List Char) : Option (List Char × List Char) :=
  let name := decode (cs.takeWhile (· != '='))
  let value := (cs.dropWhile (· != '=')).drop 1
  if name.isEmpty then none else some (name, decode value)

def readAfterScheme (cs : List Char) : Answer FileAddress := do
  let here ← Answer.ofOption unopened (afterHost? cs)
  let text := here.takeWhile (· != '#')
  let options := (text.dropWhile (· != '?')).drop 1
  pure {
    path := decode (text.takeWhile (· != '?'))
    options := (Text.CommaList.cells '&' options).filterMap readOption? }

def read? (name : List Char) : Option (Answer FileAddress) :=
  if scheme.isPrefixOf name then some (readAfterScheme (name.drop scheme.length)) else none

end FileAddress

inductive Access where
  | readOnly
  | existing
  | full
  | memory
  deriving DecidableEq, Repr

namespace Access

def ofWord? (word : List Char) : Option Access :=
  if word = "ro".toList then some readOnly
  else if word = "rw".toList then some existing
  else if word = "rwc".toList then some full
  else if word = "memory".toList then some memory
  else none

def asked : Access → Nat
  | memory => 0
  | readOnly => 1
  | existing => 2
  | full => 3

def limit : Access → Nat
  | readOnly => 1
  | existing => 2
  | full => 3
  | memory => 4

end Access

structure Manner where
  access : Access := .full
  keeper : List Char := "unix".toList
  deriving DecidableEq

namespace Manner

def memoryKeeper : List Char := "memdb".toList

def keepers : List (List Char) :=
  memoryKeeper :: ["unix", "unix-none", "unix-dotfile", "unix-excl"].map String.toList

def sharings : List (List Char) := ["shared", "private"].map String.toList

/-- Takes an option into account. Access can be narrowed but not widened. -/
def add (m : Manner) (option : List Char × List Char) : Answer Manner := do
  let (name, value) := option
  if name = "vfs".toList then pure { m with keeper := value }
  else if name = "cache".toList then
    if sharings.contains value then pure m else throw unopened
  else if name = "mode".toList then
    let access ← Answer.ofOption unopened (Access.ofWord? value)
    if m.access.limit < access.asked then throw unopened else pure { m with access }
  else pure m

def ofOptions (options : List (List Char × List Char)) : Answer Manner := do
  let m ← options.foldlM add {}
  if keepers.contains m.keeper then pure m else throw unopened

end Manner

end RegistryTokens.Engine
