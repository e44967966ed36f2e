import RegistryTokens.Engine.Dialect
import RegistryTokens.Engine.FileTarget
import RegistryTokens.Engine.ServerTarget

/-!
# Targets of connections

A target is an address for which a connection could be set up. Extensions cannot be asked for; the
dialect and the driver must be there; and what the driver reads from the address must be well
formed. Whether the target can be reached shows only when it is used.
-/

set_option autoImplicit false

namespace RegistryTokens.Engine

structure Target where
  dialect : Dialect
  driver : Driver
  url : Url
  deriving DecidableEq, Repr

namespace Target

def extensionNames : List String := ["plugin", "plugins"]

def read (address : String) : Answer Target := do
  let u ← Url.read address
  if (Keyed.get? u.query "plugin").isSome then throw (.broke .unknownDialect)
  let url := { u with query := u.query.without extensionNames }
  let (dialect, driver) ← readDialect url.name
  if !driver.installed then throw (.broke .missingDriver)
  if dialect.isFileBased then FileTarget.check url else ServerTarget.check url
  pure ⟨dialect, driver, url⟩

/-- Reaches the database of a target, when it is known which files are there. No server is. -/
def place (isThere : Path → Bool) (t : Target) : Answer Place :=
  if t.dialect.isFileBased then FileTarget.place isThere t.url else .error unopened

end Target

end RegistryTokens.Engine
