import RegistryTokens.Keyed
import RegistryTokens.Text.CommaList
import RegistryTokens.Text.Quoted

/-!
# Queries of addresses

A query is a list of named values between ampersands. A name may have several values; names without
a value count for nothing. Names and values are escaped texts in which a plus sign stands for a
blank.
-/

set_option autoImplicit false

namespace RegistryTokens.Engine

abbrev Query := Keyed String (List String)

namespace Query

def plain (cs : List Char) : String :=
  String.ofList (Text.Percent.decode (cs.map fun c => if c = '+' then ' ' else c))

def readPair? (cs : List Char) : Option (String × String) :=
  match cs.span (· != '=') with
  | (name, '=' :: c :: value) => some (plain name, plain (c :: value))
  | _ => none

def add (q : Query) (pair : String × String) : Query :=
  Keyed.put pair.1 ((Keyed.get? q pair.1).getD [] ++ [pair.2]) q

def read (cs : List Char) : Query :=
  ((Text.CommaList.cells '&' cs).filterMap readPair?).foldl add []

def without (q : Query) (names : List String) : Query :=
  q.filter fun entry => !names.contains entry.1

end Query

end RegistryTokens.Engine
