/-!
# Code point spans, blank characters and trimming

A character class of the Unicode standard is a list of closed spans of code points, and membership
is a scan of that list. Blank characters are the Unicode white space together with the four information separators
U+001C to U+001F. Trimming removes them from both ends of a text and leaves the middle alone. Around
a number only the white space counts for nothing.
-/

set_option autoImplicit false

namespace RegistryTokens.Text

abbrev Spans := List (Nat × Nat)

def Spans.mem (spans : Spans) (code : Nat) : Bool :=
  spans.any fun span => span.1 ≤ code && code ≤ span.2

theorem Spans.mem_iff (spans : Spans) (code : Nat) :
    spans.mem code = true ↔ ∃ span ∈ spans, span.1 ≤ code ∧ code ≤ span.2 := by
  simp [Spans.mem]

def blankSpans : Spans := [
  (0x09, 0x0D), (0x1C, 0x20), (0x85, 0x85), (0xA0, 0xA0), (0x1680, 0x1680), (0x2000, 0x200A),
  (0x2028, 0x2029), (0x202F, 0x202F), (0x205F, 0x205F), (0x3000, 0x3000)]

def isBlank (c : Char) : Bool := blankSpans.mem c.toNat

def trimStart (cs : List Char) : List Char := cs.dropWhile isBlank

def trimEnd (cs : List Char) : List Char := (cs.reverse.dropWhile isBlank).reverse

def trimChars (cs : List Char) : List Char := trimEnd (trimStart cs)

def trim (s : String) : String := String.ofList (trimChars s.toList)

/-- White space without the information separators. -/
def isWhiteSpace (c : Char) : Bool := isBlank c && !(0x1C ≤ c.toNat && c.toNat ≤ 0x1F)

def unspaced (cs : List Char) : List Char :=
  ((cs.dropWhile isWhiteSpace).reverse.dropWhile isWhiteSpace).reverse

def blank (s : String) : Bool := s.toList.all isBlank

theorem trimStart_append_of_blank {a : List Char} (b : List Char) (h : ∀ c ∈ a, isBlank c = true) :
    trimStart (a ++ b) = trimStart b := by
  induction a with
  | nil => rfl
  | cons c a ih =>
    have hc : isBlank c = true := h c (by simp)
    simp only [trimStart, List.cons_append, List.dropWhile_cons, hc, if_true]
    exact ih fun d hd => h d (by simp [hd])

theorem trimEnd_append_of_blank (a : List Char) {b : List Char} (h : ∀ c ∈ b, isBlank c = true) :
    trimEnd (a ++ b) = trimEnd a := by
  have := trimStart_append_of_blank (a := b.reverse) a.reverse (by simpa using h)
  simp only [trimStart] at this
  simp [trimEnd, this]

end RegistryTokens.Text
