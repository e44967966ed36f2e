import RegistryTokens.Failure

/-!
# Stating a refusal

A refusal may be stated by its kind and the values that belong to it, in order; trailing values
that default to nothing may be left out. Too few or too many values make no statement.
-/

set_option autoImplicit false

namespace RegistryTokens.Refusal

/-- The message that any number of values make: a lone value is its own message. -/
def messageOf : List Value → String
  | [] => ""
  | [v] => v.display
  | values => (Value.tuple values).literal

def checkAllowed (allowed : Value) : Answer Unit :=
  match allowed.items? with
  | none => .error .wrongType
  | some items => if items.all fun v => v.asText?.isSome then .ok () else .error .wrongType

def wording (v : Value) : Option String := if v.truthy then some v.display else none

def namedOrNot (cause : Cause) : List Value → Answer Refusal
  | [] => .ok ⟨cause, some .null⟩
  | [token] => .ok ⟨cause, some token⟩
  | _ => .error .wrongType

def stateField : List Value → Answer Refusal
  | [message] => .ok ⟨.field message .null .null, some .null⟩
  | [message, parameter] => .ok ⟨.field message parameter .null, some .null⟩
  | message :: parameter :: value :: token => namedOrNot (.field message parameter value) token
  | [] => .error .wrongType

def state (kind : Kind) (values : List Value) : Answer Refusal :=
  let general (group : Group) : Answer Refusal := .ok ⟨.general group (messageOf values), none⟩
  match kind, values with
  | .refusal, _ => general .any
  | .selector, _ => general .selector
  | .timeline, _ => general .timeline
  | .lifecycle, _ => general .lifecycle
  | .store, _ => general .store
  | .ambiguousSelector, [] => .ok ⟨.ambiguousSelector, none⟩
  | .invalidSelector, [given] => .ok ⟨.blankPrefix given, none⟩
  | .unknownToken, [token] => .ok ⟨.unknownToken token none, some token⟩
  | .unknownToken, [token, message] => .ok ⟨.unknownToken token (wording message), some token⟩
  | .unknownPackage, [token] => .ok ⟨.unknownPackage token, some token⟩
  | .field, values => stateField values
  | .unknownAction, raw :: token => namedOrNot (.unknownAction raw) token
  | .invalidValue, parameter :: value :: allowed :: token => do
    let refusal ← namedOrNot (.invalidValue parameter value allowed) token
    checkAllowed allowed
    pure refusal
  | .malformed, parameter :: value :: reason :: token =>
    namedOrNot (.malformed parameter value reason) token
  | .outOfRange, parameter :: value :: message :: token =>
    namedOrNot (.outOfRange parameter value message) token
  | .anchorTenant, token => namedOrNot .anchorTenant token
  | .constraint, message :: token => namedOrNot (.constraint message) token
  | .malformedTimeline, [reason] => .ok ⟨.malformedTimeline reason, none⟩
  | .noValue, [.stamp sought, .stamp first] => .ok ⟨.noValue sought first, none⟩
  | .noValue, [_, _] => .error (.broke .missingAttribute)
  | .illegalTransition, source :: target :: token =>
    namedOrNot (.illegalTransition source target) token
  | .promotionActive, [token, count] => .ok ⟨.promotionActive token count, some token⟩
  | .storeFailed, [operation, reason] => .ok ⟨.storeFailed operation reason, none⟩
  | .alreadyExists, [token] => .ok ⟨.alreadyExists token, some token⟩
  | _, _ => .error .wrongType

end RegistryTokens.Refusal
