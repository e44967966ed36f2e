import RegistryTokens.Number.Digits
import RegistryTokens.Text.Blank
import RegistryTokens.Text.Quoted

/-!
# Universally unique identifiers

An identifier is a number below `2^128`, written with 32 hexadecimal digits in groups. Reading
drops the words that announce one, braces at the ends and all hyphens; what is left must have 32
characters and stand for a number in base sixteen, which may have a sign, a base mark and single
underscores and may use the digits of any script.
-/

set_option autoImplicit false

namespace RegistryTokens

open RegistryTokens.Text

structure Uuid where
  value : Nat
  deriving DecidableEq, Repr, Inhabited

namespace Uuid

def groups : List Nat := [8, 4, 4, 4, 12]

def grouped : List Nat → List Char → List (List Char)
  | [], _ => []
  | size :: sizes, cs => cs.take size :: grouped sizes (cs.drop size)

def text (u : Uuid) : String :=
  "-".intercalate ((grouped groups (hexDigits 32 u.value)).map String.ofList)

def without (word : List Char) (cs : List Char) : List Char :=
  match cs with
  | [] => []
  | c :: rest =>
    if word.isPrefixOf (c :: rest) then without word (rest.drop (word.length - 1))
    else c :: without word rest
termination_by cs.length
decreasing_by
  · simp only [List.length_drop, List.length_cons]; omega
  · simp

def isBrace (c : Char) : Bool := c == '\x7b' || c == '\x7d'

def bare (cs : List Char) : List Char :=
  let body := without "uuid:".toList (without "urn:".toList cs)
  let opened := (body.dropWhile isBrace).reverse
  (opened.dropWhile isBrace).reverse.filter (· != '-')

def hexValue? (c : Char) : Option Nat := Number.hexDigit? c <|> digitValue? c

def readHex? (n : Nat) : List Char → Option Nat
  | [] => none
  | [c] => (hexValue? c).map (16 * n + ·)
  | c :: '_' :: cs => do readHex? (16 * n + (← hexValue? c)) cs
  | c :: cs => do readHex? (16 * n + (← hexValue? c)) cs

def unmarked (cs : List Char) : List Char :=
  let body := match cs with
    | '+' :: rest => rest
    | _ => cs
  match body with
  | '0' :: 'x' :: '_' :: rest | '0' :: 'X' :: '_' :: rest => rest
  | '0' :: 'x' :: rest | '0' :: 'X' :: rest => rest
  | _ => body

def ofText? (s : String) : Option Uuid :=
  let cs := bare s.toList
  if cs.length = 32 then (readHex? 0 (unmarked (unspaced cs))).map Uuid.mk else none

end Uuid

end RegistryTokens
