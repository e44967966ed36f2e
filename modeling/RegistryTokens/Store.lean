import RegistryTokens.Store.Row
import RegistryTokens.Store.Table

/-!
# The store

The store has a table of tokens, one of packages and one of registered domains. Its queries show
rows as they are read back; the order of the rows never decides an answer, since lists are given
in the order of the request or of the identifiers.
-/

set_option autoImplicit false

namespace RegistryTokens

open RegistryTokens.Time RegistryTokens.Store

structure Store where
  tokens : Table TokenRow
  packages : Table PackageRow
  domains : Table DomainRow
  deriving DecidableEq

namespace Store

def empty : Store := ⟨.empty, .empty, .empty⟩

def tableNames : List String := ["allocation_tokens", "bulk_pricing_packages", "domains"]

def token? (s : Store) (identifier : String) : Answer (Option Token) :=
  (s.tokens.get? identifier).mapM fun row => row.toToken identifier

/-- Whether an identifier starts with a text, character by character. No text that holds an end
mark starts anything. -/
def startsWith (start identifier : String) : Bool :=
  start.toList.isPrefixOf identifier.toList && !start.toList.contains '\x00'

def tokensFrom (s : Store) (start : String) : Answer (List Token) :=
  (s.tokens.sorted.filter fun row => startsWith start row.1).mapM fun row => row.2.toToken row.1

def allTokens (s : Store) : Answer (List Token) :=
  s.tokens.sorted.mapM fun row => row.2.toToken row.1

def countBound (s : Store) (token : String) (now : Instant) : Nat :=
  (s.domains.rows.filter fun row => row.2.countsFor token now).length

def boundCounts (s : Store) (tokens : List String) (now : Instant) : List (String × Nat) :=
  let bound := s.domains.rows.filterMap fun row =>
    if row.2.isLive now then row.2.bulkToken.filter tokens.contains else none
  (distinct bound).map fun token => (token, bound.count token)

def integrity {α : Type} : Answer α := .error (.broke (.store .integrity))

def insertToken (s : Store) (identifier : String) (row : TokenRow) : Answer Store :=
  match s.tokens.insert? identifier row with
  | some tokens => .ok { s with tokens }
  | none => integrity

def insertPackage (s : Store) (token : String) (row : PackageRow) : Answer Store :=
  match s.packages.insert? token row with
  | some packages => .ok { s with packages }
  | none => integrity

def insertDomain (s : Store) (name : String) (row : DomainRow) : Answer Store :=
  match s.domains.insert? name row with
  | some domains => .ok { s with domains }
  | none => integrity

end Store

end RegistryTokens
