import RegistryTokens.Money
import RegistryTokens.Time.Instant

/-!
# Bulk pricing packages

A package allots a number of domains to a bulk token at a fixed price. How many of them are in
use is not kept with it but counted when it is looked up.
-/

set_option autoImplicit false

namespace RegistryTokens

open RegistryTokens.Time

structure Package where
  token : String
  maxDomains : Int
  maxCreates : Int
  price : Money
  nextBilling : Stamp
  lastNotice : Option Stamp := none
  inUse : Int := 0
  deriving DecidableEq, Repr

namespace Package

def remaining (p : Package) : Int := max (p.maxDomains - p.inUse) 0

def hasCapacity (p : Package) : Bool := p.inUse < p.maxDomains

theorem remaining_pos_iff (p : Package) : 0 < p.remaining ↔ p.hasCapacity = true := by
  rw [remaining, hasCapacity, decide_eq_true_iff]
  omega

end Package

end RegistryTokens
