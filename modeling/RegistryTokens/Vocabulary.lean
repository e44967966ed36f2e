/-!
# The vocabulary of tokens

Kinds of tokens, their statuses, pricing rules and protocol actions are closed lists of words.
Each list has a title and an order; a word stands for one member of its list.
-/

set_option autoImplicit false

namespace RegistryTokens

class Vocabulary (α : Type) where
  title : String
  members : List α
  word : α → String

namespace Vocabulary

def find? {α : Type} [Vocabulary α] (text : String) : Option α :=
  (members (α := α)).find? fun m => word m == text

def words (α : Type) [Vocabulary α] : List String := (members (α := α)).map word

end Vocabulary

inductive TokenKind where
  | singleUse
  | unlimitedUse
  | bulkPricing
  deriving DecidableEq, Repr, Inhabited

inductive Status where
  | notStarted
  | valid
  | cancelled
  | ended
  deriving DecidableEq, Repr, Inhabited

inductive RenewalPricing where
  | standard
  | nonpremium
  | specified
  deriving DecidableEq, Repr, Inhabited

inductive RegistrationRule where
  | standard
  | bypassTldState
  | anchorTenant
  | nonpremiumCreate
  deriving DecidableEq, Repr, Inhabited

inductive EppAction where
  | create
  | renew
  | transfer
  | restore
  | update
  deriving DecidableEq, Repr, Inhabited

instance : Vocabulary TokenKind where
  title := "TokenType"
  members := [.singleUse, .unlimitedUse, .bulkPricing]
  word
    | .singleUse => "SINGLE_USE"
    | .unlimitedUse => "UNLIMITED_USE"
    | .bulkPricing => "BULK_PRICING"

instance : Vocabulary Status where
  title := "TokenStatus"
  members := [.notStarted, .valid, .cancelled, .ended]
  word
    | .notStarted => "NOT_STARTED"
    | .valid => "VALID"
    | .cancelled => "CANCELLED"
    | .ended => "ENDED"

instance : Vocabulary RenewalPricing where
  title := "RenewalPriceBehavior"
  members := [.standard, .nonpremium, .specified]
  word
    | .standard => "DEFAULT"
    | .nonpremium => "NONPREMIUM"
    | .specified => "SPECIFIED"

instance : Vocabulary RegistrationRule where
  title := "RegistrationBehavior"
  members := [.standard, .bypassTldState, .anchorTenant, .nonpremiumCreate]
  word
    | .standard => "DEFAULT"
    | .bypassTldState => "BYPASS_TLD_STATE"
    | .anchorTenant => "ANCHOR_TENANT"
    | .nonpremiumCreate => "NONPREMIUM_CREATE"

instance : Vocabulary EppAction where
  title := "EppAction"
  members := [.create, .renew, .transfer, .restore, .update]
  word
    | .create => "CREATE"
    | .renew => "RENEW"
    | .transfer => "TRANSFER"
    | .restore => "RESTORE"
    | .update => "UPDATE"

export Vocabulary (word)

inductive Member where
  | kind (k : TokenKind)
  | status (s : Status)
  | renewal (r : RenewalPricing)
  | registration (r : RegistrationRule)
  | action (a : EppAction)
  deriving DecidableEq, Repr, Inhabited

namespace Member

def title : Member → String
  | .kind _ => Vocabulary.title TokenKind
  | .status _ => Vocabulary.title Status
  | .renewal _ => Vocabulary.title RenewalPricing
  | .registration _ => Vocabulary.title RegistrationRule
  | .action _ => Vocabulary.title EppAction

def text : Member → String
  | .kind k => word k
  | .status s => word s
  | .renewal r => word r
  | .registration r => word r
  | .action a => word a

def display (m : Member) : String := m.title ++ "." ++ m.text

def literal (m : Member) : String := "<" ++ m.display ++ ": '" ++ m.text ++ "'>"

def ofWords? (title word : String) : Option Member :=
  let within (α : Type) [Vocabulary α] (wrap : α → Member) : Option Member :=
    if title = Vocabulary.title α then (Vocabulary.find? word).map wrap else none
  within TokenKind .kind <|> within Status .status <|> within RenewalPricing .renewal <|>
    within RegistrationRule .registration <|> within EppAction .action

end Member

/-- A vocabulary whose members are shown and recognised among the members of all of them. -/
class Titled (α : Type) extends Vocabulary α where
  wrap : α → Member
  unwrap? : Member → Option α
  unwrap?_wrap : ∀ a : α, unwrap? (wrap a) = some a

instance : Titled TokenKind where
  wrap := .kind
  unwrap? | .kind k => some k | _ => none
  unwrap?_wrap _ := rfl

instance : Titled Status where
  wrap := .status
  unwrap? | .status s => some s | _ => none
  unwrap?_wrap _ := rfl

instance : Titled RenewalPricing where
  wrap := .renewal
  unwrap? | .renewal r => some r | _ => none
  unwrap?_wrap _ := rfl

instance : Titled RegistrationRule where
  wrap := .registration
  unwrap? | .registration r => some r | _ => none
  unwrap?_wrap _ := rfl

instance : Titled EppAction where
  wrap := .action
  unwrap? | .action a => some a | _ => none
  unwrap?_wrap _ := rfl

theorem find?_word_status (s : Status) : Vocabulary.find? (word s) = some s := by
  cases s <;> decide

theorem find?_word_action (a : EppAction) : Vocabulary.find? (word a) = some a := by
  cases a <;> decide

end RegistryTokens
