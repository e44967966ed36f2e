import RegistryTokens.Refusal
import RegistryTokens.Time.Clock
import RegistryTokens.Time.Seconds

/-!
# Failures

What is asked may be refused by a rule, or it may break down: a value of the wrong type, a moment
outside the calendar, a store that cannot take a row. A breakdown has a name, and a message when
this library finds the words itself.
-/

set_option autoImplicit false

namespace RegistryTokens

open RegistryTokens.Time

inductive StoreFault where
  | unwritable
  | unbindable
  | integrity
  | operational
  deriving DecidableEq, Repr

inductive Breakdown where
  | wrongType
  | badValue (message : Option String)
  | overflow
  | incomparable
  | missingKey
  | missingAttribute
  | store (fault : StoreFault)
  | notReady (message : String)
  | badConfig (message : String)
  | badUrl
  | unknownDialect
  | missingDriver
  | missingFile
  | system
  | abandoned
  | exhausted
  deriving DecidableEq, Repr

namespace Breakdown

def name : Breakdown → String
  | wrongType => "TypeError"
  | badValue _ => "ValueError"
  | overflow => "OverflowError"
  | incomparable => "InvalidOperation"
  | missingKey => "KeyError"
  | missingAttribute => "AttributeError"
  | store .unwritable => "StatementError"
  | store .unbindable => "ProgrammingError"
  | store .integrity => "IntegrityError"
  | store .operational => "OperationalError"
  | notReady _ => "RuntimeError"
  | badConfig _ => "ConfigError"
  | badUrl => "ArgumentError"
  | unknownDialect => "NoSuchModuleError"
  | missingDriver => "ModuleNotFoundError"
  | missingFile => "FileNotFoundError"
  | system => "OSError"
  | abandoned => "Abort"
  | exhausted => "MemoryError"

def message? : Breakdown → Option String
  | badValue message => message
  | notReady message | badConfig message => some message
  | _ => none

end Breakdown

inductive Failure where
  | refused (r : Refusal)
  | broke (b : Breakdown)

namespace Failure

instance : Inhabited Failure := ⟨.broke .wrongType⟩

def name : Failure → String
  | refused r => r.kind.name
  | broke b => b.name

/-- Puts a refusal down to a token; a breakdown concerns none. -/
def about (token : String) : Failure → Failure
  | refused r => refused (r.about token)
  | broke b => broke b

def wrongType : Failure := broke .wrongType

def overflow : Failure := broke .overflow

def unwritable : Failure := broke (.store .unwritable)

def ofMoney (fault : MoneyFault) : Failure := broke (.badValue (some fault.message))

def ofTimeline : TimelineFault → Failure
  | .outsideCalendar => overflow
  | fault => refused (Refusal.malformedTimeline fault.reason)

def ofClock : ClockFault → Failure
  | .outsideCalendar => overflow
  | .unplaced => broke (.badValue none)

def ofSeconds : Seconds.Fault → Failure
  | .outsideCalendar => broke (.badValue none)
  | .outsideYears => broke .system
  | .uncountable => overflow

end Failure

instance : Coe Refusal Failure := ⟨Failure.refused⟩

abbrev Answer := Except Failure

namespace Answer

variable {α : Type}

def refuse (r : Refusal) : Answer α := .error (.refused r)

def lift {m : Type → Type} [Monad m] (answer : Answer α) : ExceptT Failure m α :=
  ExceptT.mk (pure answer)

def ofOption (failure : Failure) : Option α → Answer α
  | some a => .ok a
  | none => .error failure

end Answer

end RegistryTokens
