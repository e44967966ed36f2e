import RegistryTokens.Time.Instant

/-!
# Reading time stamps

A stamp is read from ISO 8601 text: a date by month or by week, with hyphens or without; then any
one character; then a time of day with colons or without, cut at the microsecond; then `Z` or a
signed offset written like a time. The place of the character between date and time follows from
the first characters alone, since every character may stand there.
-/

set_option autoImplicit false

namespace RegistryTokens.Time

open RegistryTokens.Number

namespace Reader

def number? (width : Nat) (cs : List Char) : Option (Nat × List Char) :=
  if (cs.take width).length = width then
    (readDigits? (cs.take width)).map (·, cs.drop width)
  else none

def hyphen? (due : Bool) : List Char → Option (List Char)
  | '-' :: cs => if due then some cs else none
  | cs => if due then none else some cs

def monthDay? (year : Nat) (hyphens : Bool) (cs : List Char) : Option Nat := do
  let (month, cs) ← number? 2 cs
  let cs ← hyphen? hyphens cs
  let (day, cs) ← number? 2 cs
  if cs.isEmpty then Date.ofFields? year month day else none

def weekDay? (year : Nat) (hyphens : Bool) (cs : List Char) : Option Nat := do
  let (week, cs) ← number? 2 cs
  if cs.isEmpty then Date.ofWeek? year week 1
  else do
    let cs ← hyphen? hyphens cs
    let (day, cs) ← number? 1 cs
    if cs.isEmpty then Date.ofWeek? year week day else none

def date? (cs : List Char) : Option Nat := do
  let (year, cs) ← number? 4 cs
  let (hyphens, cs) := match cs with
    | '-' :: rest => (true, rest)
    | _ => (false, cs)
  match cs with
  | 'W' :: rest => weekDay? year hyphens rest
  | _ => monthDay? year hyphens cs

/-- The length of the date in `YYYY-Www…`: a day follows the week unless two digits follow the
hyphen, which are then the hour. -/
def hyphenatedWeekLength? (cs : List Char) : Option Nat :=
  match cs.drop 8 with
  | ['-'] => none
  | '-' :: _ :: next :: _ => some (if isDigit next then 8 else 10)
  | '-' :: _ => some 10
  | _ => some 8

/-- The length of the date in `YYYYWww…`: a day follows the week unless the digits after the week
pair up to hours, minutes and seconds. -/
def plainWeekLength (cs : List Char) : Nat :=
  let stop := 7 + ((cs.drop 7).takeWhile isDigit).length
  if stop < 9 then stop else if stop % 2 = 0 then 7 else 8

def dateLength? (cs : List Char) : Option Nat :=
  if cs.length < 7 then none
  else if cs.length = 7 then some 7
  else match cs.drop 4 with
    | '-' :: 'W' :: _ => hyphenatedWeekLength? cs
    | '-' :: _ => some 10
    | 'W' :: _ => some (plainWeekLength cs)
    | _ => some 8

structure Fields where
  hour : Nat
  minute : Nat := 0
  second : Nat := 0
  micro : Nat := 0

abbrev Reading := Fields × Bool

def leftover : List Char → Bool
  | [] => false
  | c :: _ => c != '\x00'

def fraction? (cs : List Char) : Option (Nat × Bool) := do
  let shown := cs.take 6
  let n ← readDigits? shown
  pure (n * 10 ^ (6 - shown.length), leftover ((cs.drop 6).dropWhile isDigit))

inductive Next where
  | done (left : Bool)
  | field (rest : List Char)
  | fraction (rest : List Char)

/-- A single ASCII character at the end is left over; a colon leads to the next field if colons
are in use, any character does if they are not, and a point or a comma leads to the fraction. -/
def next? (colons : Bool) : List Char → Option Next
  | [] => some (.done false)
  | [c] => if c.toNat < 128 then some (.done (c != '\x00')) else none
  | c :: rest =>
    if colons && c == ':' then some (.field rest)
    else if c = '.' ∨ c = ',' then some (.fraction rest)
    else if colons then none
    else some (.field (c :: rest))

def seconds? (colons : Bool) (fields : Fields) (cs : List Char) : Option Reading := do
  let (second, cs) ← number? 2 cs
  let fields := { fields with second }
  match ← next? colons cs with
  | .done left => pure (fields, left)
  | .field rest | .fraction rest =>
    let (micro, left) ← fraction? rest
    pure ({ fields with micro }, left)

def minutes? (colons : Bool) (fields : Fields) (cs : List Char) : Option Reading := do
  let (minute, cs) ← number? 2 cs
  let fields := { fields with minute }
  match ← next? colons cs with
  | .done left => pure (fields, left)
  | .field rest => seconds? colons fields rest
  | .fraction rest =>
    let (micro, left) ← fraction? rest
    pure ({ fields with micro }, left)

def fields? (cs : List Char) : Option Reading := do
  let (hour, cs) ← number? 2 cs
  let fields : Fields := { hour }
  let colons := cs.head? == some ':'
  match ← next? colons cs with
  | .done left => pure (fields, left)
  | .field rest => minutes? colons fields rest
  | .fraction rest =>
    let (micro, left) ← fraction? rest
    pure ({ fields with micro }, left)

def Fields.offset? (f : Fields) (negative : Bool) : Option Offset :=
  let seconds := f.hour * 3600 + f.minute * 60 + f.second
  let size : Int := if seconds = 0 then 0 else seconds * ticksPerSecond + f.micro
  Offset.ofTicks? (if negative then -size else size)

def zone? : List Char → Option Offset
  | 'Z' :: rest => if leftover rest then none else some Offset.utc
  | sign :: rest => do
    let (fields, left) ← fields? rest
    if left then none else fields.offset? (sign == '-')
  | [] => none

def Fields.ofDay? (f : Fields) : Option Nat :=
  if f.hour < 24 ∧ f.minute < 60 ∧ f.second < 60 then
    some ((f.hour * 3600 + f.minute * 60 + f.second) * ticksPerSecond + f.micro)
  else none

def startsZone (c : Char) : Bool := c == '+' || c == '-' || c == 'Z'

def time? (cs : List Char) : Option (Nat × Option Offset) := do
  let clock := cs.takeWhile fun c => !startsZone c
  let zone := cs.dropWhile fun c => !startsZone c
  let (fields, left) ← fields? clock
  let ofDay ← fields.ofDay?
  if zone.isEmpty then
    if left then none else pure (ofDay, none)
  else do
    let offset ← zone? zone
    pure (ofDay, some offset)

def stamp? (cs : List Char) : Option Stamp := do
  let length ← dateLength? cs
  let day ← date? (cs.take length)
  let (ofDay, offset) ← match cs.drop length with
    | [] => some (0, none)
    | _ :: time => time? time
  let reading ← Instant.ofTicks? (day * ticksPerDay + ofDay : Nat)
  pure ⟨reading, offset⟩

end Reader

/-- Reads a stamp from ISO 8601 text. -/
def Stamp.ofIso? (s : String) : Option Stamp := Reader.stamp? s.toList

end RegistryTokens.Time
