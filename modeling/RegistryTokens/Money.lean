import RegistryTokens.Number.DecimalText
import RegistryTokens.Text.Letter
import RegistryTokens.Text.Upper
import RegistryTokens.Text.Blank

/-!
# Money

An amount of money is a finite decimal with a currency: three letters, in upper case.
-/

set_option autoImplicit false

namespace RegistryTokens

open RegistryTokens.Number

def isCurrency (code : String) : Bool :=
  code.toList.length == 3 && code.toList.all Text.isLetter

structure Money where
  amount : Decimal
  currency : String
  finite : amount.isFinite = true
  threeLetters : isCurrency currency = true
  deriving DecidableEq, Repr

inductive MoneyFault where
  | notFinite (amount : Decimal)
  | badCurrency (code : Option String)
  deriving DecidableEq, Repr

namespace Money

def currencyCode (code : Option String) : String := Text.trim (Text.upper (code.getD ""))

def of (amount : Decimal) (code : Option String) : Except MoneyFault Money :=
  if hf : amount.isFinite then
    if hc : isCurrency (currencyCode code) then .ok ⟨amount, currencyCode code, hf, hc⟩
    else .error (.badCurrency code)
  else .error (.notFinite amount)

def same (a b : Money) : Bool := a.amount.sameNumber b.amount && a.currency == b.currency

def display (m : Money) : String := m.currency ++ " " ++ m.amount.text

end Money

namespace MoneyFault

def message : MoneyFault → String
  | .notFinite amount => "Money amount must be finite: " ++ amount.text
  | .badCurrency code => "Invalid ISO 4217 currency code: " ++ code.getD "None"

end MoneyFault

end RegistryTokens
