import RegistryTokens.Value

/-!
# Refusals

A refusal says that a rule of the registry rejects what was asked. Its cause carries the offending
values, from which the wording and the attributes follow; its kind has a code and refines a
broader kind. A refusal may name the token that it concerns, and one that names none can be put
down to a token later, which leaves the wording as it is.
-/

set_option autoImplicit false

namespace RegistryTokens

open RegistryTokens.Time

namespace Refusal

inductive Kind where
  | refusal
  | selector
  | ambiguousSelector
  | invalidSelector
  | unknownToken
  | unknownPackage
  | field
  | unknownAction
  | invalidValue
  | malformed
  | outOfRange
  | anchorTenant
  | constraint
  | timeline
  | malformedTimeline
  | noValue
  | lifecycle
  | illegalTransition
  | promotionActive
  | store
  | storeFailed
  | alreadyExists
  deriving DecidableEq, Repr

namespace Kind

def all : List Kind := [
  .refusal, .selector, .ambiguousSelector, .invalidSelector, .unknownToken, .unknownPackage,
  .field, .unknownAction, .invalidValue, .malformed, .outOfRange, .anchorTenant, .constraint,
  .timeline, .malformedTimeline, .noValue, .lifecycle, .illegalTransition, .promotionActive,
  .store, .storeFailed, .alreadyExists]

def name : Kind → String
  | refusal => "AllocationKernelError"
  | selector => "SelectorError"
  | ambiguousSelector => "AmbiguousSelectorError"
  | invalidSelector => "InvalidSelectorError"
  | unknownToken => "UnknownTokenError"
  | unknownPackage => "UnknownBulkPricingPackageError"
  | field => "FieldValidationError"
  | unknownAction => "UnknownActionError"
  | invalidValue => "InvalidParameterValueError"
  | malformed => "MalformedParameterError"
  | outOfRange => "ValueOutOfRangeError"
  | anchorTenant => "AnchorTenantRequiresDomainError"
  | constraint => "TokenConstraintError"
  | timeline => "TimelineError"
  | malformedTimeline => "MalformedTimelineError"
  | noValue => "NoValueDefinedError"
  | lifecycle => "LifecycleError"
  | illegalTransition => "IllegalTransitionError"
  | promotionActive => "PromotionStillActiveError"
  | store => "StoreError"
  | storeFailed => "TokenStoreError"
  | alreadyExists => "TokenAlreadyExistsError"

def code : Kind → String
  | refusal => "ALLOCATION_KERNEL_ERROR"
  | selector => "SELECTOR_ERROR"
  | ambiguousSelector => "AMBIGUOUS_SELECTOR"
  | invalidSelector => "INVALID_SELECTOR"
  | unknownToken => "UNKNOWN_TOKEN"
  | unknownPackage => "UNKNOWN_BULK_PRICING_PACKAGE"
  | field => "FIELD_VALIDATION_ERROR"
  | unknownAction => "UNKNOWN_ACTION"
  | invalidValue => "INVALID_PARAMETER_VALUE"
  | malformed => "MALFORMED_PARAMETER"
  | outOfRange => "VALUE_OUT_OF_RANGE"
  | anchorTenant => "ANCHOR_TENANT_REQUIRES_DOMAIN"
  | constraint => "TOKEN_CONSTRAINT_VIOLATION"
  | timeline => "TIMELINE_ERROR"
  | malformedTimeline => "MALFORMED_TIMELINE"
  | noValue => "NO_VALUE_DEFINED"
  | lifecycle => "LIFECYCLE_ERROR"
  | illegalTransition => "ILLEGAL_TRANSITION"
  | promotionActive => "PROMOTION_STILL_ACTIVE"
  | store => "STORE_ERROR"
  | storeFailed => "TOKEN_STORE_FAILURE"
  | alreadyExists => "TOKEN_ALREADY_EXISTS"

def broader : Kind → List Kind
  | refusal => []
  | selector | field | timeline | lifecycle | store => [refusal]
  | ambiguousSelector | invalidSelector | unknownToken => [selector, refusal]
  | unknownPackage => [unknownToken, selector, refusal]
  | unknownAction | invalidValue | malformed | outOfRange | anchorTenant | constraint =>
    [field, refusal]
  | malformedTimeline | noValue => [timeline, refusal]
  | illegalTransition | promotionActive => [lifecycle, refusal]
  | storeFailed | alreadyExists => [store, refusal]

def lineage (k : Kind) : List Kind := k :: k.broader

def ofName? (name : String) : Option Kind := all.find? fun k => k.name == name

end Kind

inductive Group where
  | any
  | selector
  | timeline
  | lifecycle
  | store
  deriving DecidableEq, Repr

def Group.kind : Group → Kind
  | any => .refusal
  | selector => .selector
  | timeline => .timeline
  | lifecycle => .lifecycle
  | store => .store

inductive Cause where
  | general (group : Group) (message : String)
  | ambiguousSelector
  | blankPrefix (given : Value)
  | unknownToken (token : Value) (wording : Option String)
  | unknownPackage (token : Value)
  | field (message : Value) (parameter value : Value)
  | unknownAction (raw : Value)
  | invalidValue (parameter value allowed : Value)
  | malformed (parameter value reason : Value)
  | outOfRange (parameter value message : Value)
  | anchorTenant
  | constraint (message : Value)
  | malformedTimeline (reason : Value)
  | noValue (sought first : Stamp)
  | illegalTransition (source target : Value)
  | promotionActive (token count : Value)
  | storeFailed (operation reason : Value)
  | alreadyExists (token : Value)

namespace Cause

def kind : Cause → Kind
  | general group _ => group.kind
  | ambiguousSelector => .ambiguousSelector
  | blankPrefix _ => .invalidSelector
  | unknownToken .. => .unknownToken
  | unknownPackage _ => .unknownPackage
  | field .. => .field
  | unknownAction _ => .unknownAction
  | invalidValue .. => .invalidValue
  | malformed .. => .malformed
  | outOfRange .. => .outOfRange
  | anchorTenant => .anchorTenant
  | constraint _ => .constraint
  | malformedTimeline _ => .malformedTimeline
  | noValue .. => .noValue
  | illegalTransition .. => .illegalTransition
  | promotionActive .. => .promotionActive
  | storeFailed .. => .storeFailed
  | alreadyExists _ => .alreadyExists

def allowedWords (allowed : Value) : List String :=
  (allowed.items?.getD []).filterMap Value.asText?

def message : Cause → String
  | general _ message => message
  | ambiguousSelector => "Must provide one of --tokens or --prefix, not both / neither"
  | blankPrefix _ => "Provided prefix should not be blank"
  | unknownToken token wording =>
    wording.getD ("Token with id " ++ token.display ++ " does not exist")
  | unknownPackage token => "BulkPricingPackage with token " ++ token.display ++ " does not exist"
  | field message _ _ => message.display
  | unknownAction _ =>
    "Invalid EPP action name. Valid actions are CREATE, RENEW, TRANSFER, RESTORE, and UPDATE"
  | invalidValue parameter _ allowed =>
    "Invalid value for --" ++ parameter.display ++ " parameter. Allowed values:[" ++
      String.intercalate ", " (allowedWords allowed) ++ "]"
  | malformed parameter value reason =>
    "Invalid value '" ++ value.display ++ "' for --" ++ parameter.display ++ ": " ++ reason.display
  | outOfRange _ _ message => message.display
  | anchorTenant => "ANCHOR_TENANT tokens must be tied to a domain"
  | constraint message => message.display
  | malformedTimeline reason => reason.display
  | noValue sought first =>
    "No value defined at " ++ sought.iso ++ ": timeline starts at " ++ first.iso
  | illegalTransition source target =>
    "tokenStatusTransitions map cannot transition from " ++ source.display ++ " to " ++
      target.display ++ "."
  | promotionActive token count =>
    "Bulk token " ++ token.display ++ " can not end its promotion because it still has " ++
      count.display ++ " domains in the promotion"
  | storeFailed operation reason =>
    "Store transaction failed during " ++ operation.display ++ ": " ++ reason.display
  | alreadyExists token => "Token with id " ++ token.display ++ " already exists"

end Cause

end Refusal

structure Refusal where
  cause : Refusal.Cause
  token : Option Value

namespace Refusal

def kind (r : Refusal) : Kind := r.cause.kind

def code (r : Refusal) : String := r.kind.code

def message (r : Refusal) : String := r.cause.message

/-- The named values of a refusal. A refusal that comes to name a token names it last, and so do
the refusals of fields. -/
def attributes (r : Refusal) : List (String × Value) :=
  let token := r.token.toList.map fun t => ("token_identifier", t)
  let fields (parameter value : Value) := ("parameter", parameter) :: ("value", value) :: token
  match r.cause with
  | .general .. | .ambiguousSelector | .unknownToken .. | .unknownPackage _ | .alreadyExists _ =>
    token
  | .blankPrefix given => ("prefix", given) :: token
  | .field _ parameter value | .outOfRange parameter value _ => fields parameter value
  | .unknownAction raw => ("raw", raw) :: fields "allowed_epp_actions" raw
  | .invalidValue parameter value allowed => ("allowed_values", allowed) :: fields parameter value
  | .malformed parameter value reason => ("reason", reason) :: fields parameter value
  | .anchorTenant => fields "registration_behavior" "ANCHOR_TENANT"
  | .constraint _ => fields .null .null
  | .malformedTimeline reason => ("reason", reason) :: token
  | .noValue sought first =>
    ("instant", .stamp sought) :: ("first_instant", .stamp first) :: token
  | .illegalTransition source target => ("from_status", source) :: ("to_status", target) :: token
  | .promotionActive _ count => token ++ [("domain_count", count)]
  | .storeFailed operation reason => ("operation", operation) :: ("reason", reason) :: token

def unnamed (r : Refusal) : Bool :=
  match r.token with
  | none | some .null => true
  | some v => v == .text ""

def about (token : String) (r : Refusal) : Refusal :=
  if r.unnamed then { r with token := some (.text token) } else r

theorem cause_about (token : String) (r : Refusal) : (r.about token).cause = r.cause := by
  unfold about; split <;> rfl

theorem message_about (token : String) (r : Refusal) : (r.about token).message = r.message := by
  unfold message; rw [cause_about]

def ambiguousSelector : Refusal := ⟨.ambiguousSelector, none⟩

def blankPrefix (given : String) : Refusal := ⟨.blankPrefix given, none⟩

def unknownToken (token : String) : Refusal := ⟨.unknownToken token none, some token⟩

def unknownPackage (token : String) : Refusal := ⟨.unknownPackage token, some token⟩

def alreadyExists (token : String) : Refusal := ⟨.alreadyExists token, some token⟩

def unknownAction (raw : String) : Refusal := ⟨.unknownAction raw, some .null⟩

def invalidValue (parameter : String) (value : Value) (allowed : List String) : Refusal :=
  ⟨.invalidValue parameter value (.tuple (allowed.map .text)), some .null⟩

def malformed (parameter : String) (value : Value) (reason : String) : Refusal :=
  ⟨.malformed parameter value reason, some .null⟩

def outOfRange (parameter : String) (value : Value) (message : String) : Refusal :=
  ⟨.outOfRange parameter value message, some .null⟩

def anchorTenant (token : String) : Refusal := ⟨.anchorTenant, some token⟩

def constraint (message token : String) : Refusal := ⟨.constraint message, some token⟩

def malformedTimeline (reason : String) : Refusal := ⟨.malformedTimeline reason, none⟩

def noValue (fault : BeforeFirst) : Refusal := ⟨.noValue fault.sought fault.first, none⟩

def illegalTransition (source target : Status) (token : Option String) : Refusal :=
  ⟨.illegalTransition (word source) (word target), some (.optional token)⟩

def promotionActive (token : Option String) (count : Int) : Refusal :=
  ⟨.promotionActive (token.getD "") (.int count), some (token.getD "")⟩

def storeFailed (operation reason : String) : Refusal := ⟨.storeFailed operation reason, none⟩

end Refusal

end RegistryTokens
