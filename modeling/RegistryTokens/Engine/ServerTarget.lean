import RegistryTokens.Engine.Url

/-!
# Databases on servers

The query of an address may hold lists of hosts and ports in place of a single one: either each host
brings its own port, or both lists are given, of one length.
-/

set_option autoImplicit false

namespace RegistryTokens.Engine.ServerTarget

open RegistryTokens.Number

def badPorts : Failure := .broke .badUrl

def checkPort (port : String) : Answer Unit :=
  if port.isEmpty || (readInt? port).isSome then .ok () else .error badPorts

def cells (separator : Char) (s : String) : List String :=
  (Text.CommaList.cells separator s.toList).map String.ofList

def checkPaired (hosts : List String) (given : Bool) : Answer Unit := do
  let parts := hosts.map (cells ':')
  if parts.all (3 ≤ ·.length) then throw (.broke (.badValue none))
  if given then throw badPorts
  parts.forM fun p => checkPort (p.getD 1 "")

def listed : List String → List String
  | [value] => cells ',' value
  | values => values

def checkLists (hosts ports : List String) : Answer Unit := do
  ports.forM checkPort
  let several := 1 < hosts.length ∨ 1 < ports.length
  if ports ≠ [] ∧ hosts.length ≠ ports.length ∧ several then throw badPorts

def check (u : Url) : Answer Unit :=
  let ports := Keyed.get? u.query "port"
  match Keyed.get? u.query "host" with
  | some (a :: b :: rest) => checkPaired (a :: b :: rest) ports.isSome
  | hosts => checkLists ((hosts.map listed).getD []) ((ports.map listed).getD [])

end RegistryTokens.Engine.ServerTarget
