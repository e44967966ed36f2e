import RegistryTokens.Number.Digits

/-!
# Marks

A mark of a template begins with a percent sign. After the sign may stand the name of an entry in
parentheses, flags, a width, a point with a precision, and a letter of size that carries nothing;
the letter that ends the mark says what it shows. A width or a precision is written out or left to
an argument by a star. What a mark lacks is for the reader of the template to judge: reading a mark
never fails, and it takes nothing beyond the mark.
-/

set_option autoImplicit false

namespace RegistryTokens.Log.Template

open RegistryTokens.Number

inductive Key where
  | absent
  | named (name : String)
  | unclosed
  deriving DecidableEq, Repr

inductive Measure where
  | written (n : Nat)
  | drawn
  deriving DecidableEq, Repr

structure Flags where
  left : Bool := false
  plus : Bool := false
  blank : Bool := false
  alternate : Bool := false
  zero : Bool := false
  deriving DecidableEq, Repr

structure Mark where
  key : Key
  flags : Flags
  width : Measure
  precision : Option Measure
  letter : Option Char
  deriving DecidableEq, Repr

namespace Mark

/-- The text up to the parenthesis that closes, `depth` of them being open inside, and the rest. -/
def closing? : Nat → List Char → Option (List Char × List Char)
  | _, [] => none
  | 0, ')' :: cs => some ([], cs)
  | depth + 1, ')' :: cs => (closing? depth cs).map fun (name, rest) => (')' :: name, rest)
  | depth, '(' :: cs => (closing? (depth + 1) cs).map fun (name, rest) => ('(' :: name, rest)
  | depth, c :: cs => (closing? depth cs).map fun (name, rest) => (c :: name, rest)

def readKey : List Char → Key × List Char
  | '(' :: cs =>
    match closing? 0 cs with
    | some (name, rest) => (.named (String.ofList name), rest)
    | none => (.unclosed, [])
  | cs => (.absent, cs)

def readFlags (f : Flags) : List Char → Flags × List Char
  | '-' :: cs => readFlags { f with left := true } cs
  | '+' :: cs => readFlags { f with plus := true } cs
  | ' ' :: cs => readFlags { f with blank := true } cs
  | '#' :: cs => readFlags { f with alternate := true } cs
  | '0' :: cs => readFlags { f with zero := true } cs
  | cs => (f, cs)

def readNumber (cs : List Char) : Nat × List Char :=
  ((readDigits? (cs.takeWhile isDigit)).getD 0, cs.dropWhile isDigit)

def readMeasure : List Char → Measure × List Char
  | '*' :: cs => (.drawn, cs)
  | cs => let (n, rest) := readNumber cs; (.written n, rest)

/-- A point without digits stands for a precision of none. -/
def readPrecision : List Char → Option Measure × List Char
  | '.' :: cs => let (m, rest) := readMeasure cs; (some m, rest)
  | cs => (none, cs)

def dropSize : List Char → List Char
  | 'h' :: cs | 'l' :: cs | 'L' :: cs => cs
  | cs => cs

def readLetter : List Char → Option Char × List Char
  | [] => (none, [])
  | c :: cs => (some c, cs)

def read (cs : List Char) : Mark × List Char :=
  let (key, cs) := readKey cs
  let (flags, cs) := readFlags {} cs
  let (width, cs) := readMeasure cs
  let (precision, cs) := readPrecision cs
  let (letter, cs) := readLetter (dropSize cs)
  (⟨key, flags, width, precision, letter⟩, cs)

theorem closing?_length {depth : Nat} {cs name rest : List Char}
    (h : closing? depth cs = some (name, rest)) : rest.length ≤ cs.length := by
  fun_induction closing? depth cs generalizing name <;> simp_all <;> grind

theorem readKey_length (cs : List Char) : (readKey cs).2.length ≤ cs.length := by
  unfold readKey
  split
  · split
    · next h => have := closing?_length h; simp only [List.length_cons]; omega
    · simp
  · exact Nat.le_refl _

theorem readFlags_length (f : Flags) (cs : List Char) :
    (readFlags f cs).2.length ≤ cs.length := by
  fun_induction readFlags f cs <;> simp_all <;> omega

theorem readNumber_length (cs : List Char) : (readNumber cs).2.length ≤ cs.length :=
  (List.dropWhile_sublist isDigit).length_le

theorem readMeasure_length (cs : List Char) : (readMeasure cs).2.length ≤ cs.length := by
  unfold readMeasure
  split
  · simp
  · exact readNumber_length _

theorem readPrecision_length (cs : List Char) : (readPrecision cs).2.length ≤ cs.length := by
  unfold readPrecision
  split
  · next rest => have := readMeasure_length rest; simp only [List.length_cons]; omega
  · exact Nat.le_refl _

theorem dropSize_length (cs : List Char) : (dropSize cs).length ≤ cs.length := by
  unfold dropSize
  split <;> simp

theorem readLetter_length (cs : List Char) : (readLetter cs).2.length ≤ cs.length := by
  cases cs <;> simp [readLetter]

theorem read_length (cs : List Char) : (read cs).2.length ≤ cs.length := by
  have h₁ := readKey_length cs
  have h₂ := readFlags_length {} (readKey cs).2
  have h₃ := readMeasure_length (readFlags {} (readKey cs).2).2
  have h₄ := readPrecision_length (readMeasure (readFlags {} (readKey cs).2).2).2
  have h₅ := dropSize_length (readPrecision (readMeasure (readFlags {} (readKey cs).2).2).2).2
  have h₆ := readLetter_length
    (dropSize (readPrecision (readMeasure (readFlags {} (readKey cs).2).2).2).2)
  simp only [read]
  omega

end Mark

end RegistryTokens.Log.Template
