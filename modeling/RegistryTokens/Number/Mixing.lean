/-!
# Mixed numbers

One number of 64 bits that stands for several ones. Those of a sequence are taken in one after the
other, so their order counts; those of a set are scattered and joined in a way in which it does not.
The number whose bits are all set is kept free: others stand in its place.
-/

set_option autoImplicit false

namespace RegistryTokens.Number.Mixing

/-- The number that is kept free. -/
def reserved : UInt64 := 18446744073709551615

def ofInt (n : Int) : UInt64 :=
  let word := UInt64.ofNat (n % 18446744073709551616).toNat
  if word = reserved then word - 1 else word

def seed : UInt64 := 2870177450012600261

def taken (sum item : UInt64) : UInt64 :=
  let sum := sum + item * 14029467366897019727
  (sum <<< 31 ||| sum >>> 33) * 11400714785074694791

def ofSequence (items : List UInt64) : UInt64 :=
  let mixed := items.foldl taken seed + (UInt64.ofNat items.length ^^^ seed ^^^ 3527539)
  if mixed = reserved then 1546275796 else mixed

def scattered (item : UInt64) : UInt64 :=
  let shifted := item <<< 16
  (item ^^^ 89869747 ^^^ shifted) * 3644798167

def joined (items : List UInt64) : UInt64 :=
  items.foldr (fun item sum => scattered item ^^^ sum) 0

def ofSet (items : List UInt64) : UInt64 :=
  let sum := joined items ^^^ (UInt64.ofNat items.length + 1) * 1927868237
  let near := sum >>> 11
  let far := sum >>> 25
  let mixed := (sum ^^^ near ^^^ far) * 69069 + 907133923
  if mixed = reserved then 590923713 else mixed

theorem joined_perm {a b : List UInt64} (h : a.Perm b) : joined a = joined b := by
  induction h with
  | nil => rfl
  | cons item _ ih => exact congrArg (scattered item ^^^ ·) ih
  | swap x y rest => simp only [joined, List.foldr_cons, ← UInt64.xor_assoc, UInt64.xor_comm]
  | trans _ _ first second => exact first.trans second

theorem ofSet_perm {a b : List UInt64} (h : a.Perm b) : ofSet a = ofSet b := by
  simp [ofSet, joined_perm h, h.length_eq]

end RegistryTokens.Number.Mixing
