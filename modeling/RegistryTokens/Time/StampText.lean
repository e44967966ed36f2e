import RegistryTokens.Time.Instant

/-!
# Writing time stamps

The ISO form has the date, a letter `T`, the time and the offset. Microseconds are shown when they
are not zero, and so are the seconds of an offset; universal time has the offset `+00:00`. The
spaced form puts a blank in place of the letter. The literal form lists the fields as a message
that shows values does.
-/

set_option autoImplicit false

namespace RegistryTokens.Time

open RegistryTokens.Number

def dateChars (d : Date) : List Char :=
  padded 4 d.year ++ '-' :: padded 2 d.month ++ '-' :: padded 2 d.day

def timeChars (i : Instant) : List Char :=
  padded 2 i.hour ++ ':' :: padded 2 i.minute ++ ':' :: padded 2 i.second ++
    if i.micro = 0 then [] else '.' :: padded 6 i.micro

namespace Offset

def isUtc (o : Offset) : Bool := o.ticks == 0

def chars (o : Offset) : List Char :=
  let size := o.ticks.natAbs
  let seconds := size / ticksPerSecond
  let micros := size % ticksPerSecond
  (if o.ticks < 0 then '-' else '+') :: padded 2 (seconds / 3600) ++
    ':' :: padded 2 (seconds / 60 % 60) ++
    (if seconds % 60 = 0 ∧ micros = 0 then [] else ':' :: padded 2 (seconds % 60)) ++
    if micros = 0 then [] else '.' :: padded 6 micros

/-- The fields of a nonzero offset that are not zero: whole days towards the past, then seconds
and microseconds towards the future. -/
def fieldsText (o : Offset) : String :=
  let days := o.ticks.fdiv ticksPerDay
  let rest := (o.ticks.fmod ticksPerDay).toNat
  let field (name : String) (n : Int) : List String :=
    if n = 0 then [] else [name ++ "=" ++ intText n]
  String.intercalate ", " <|
    field "days" days ++ field "seconds" (rest / ticksPerSecond : Nat) ++
      field "microseconds" (rest % ticksPerSecond : Nat)

def literal (o : Offset) : String :=
  if o.isUtc then "datetime.timezone.utc"
  else "datetime.timezone(datetime.timedelta(" ++ o.fieldsText ++ "))"

end Offset

namespace Stamp

def charsWith (separator : Char) (s : Stamp) : List Char :=
  dateChars s.reading.date ++ separator :: timeChars s.reading ++
    match s.offset with
    | some o => o.chars
    | none => []

def isoChars (s : Stamp) : List Char := s.charsWith 'T'

def iso (s : Stamp) : String := String.ofList s.isoChars

def spaced (s : Stamp) : String := String.ofList (s.charsWith ' ')

/-- Year, month, day, hour and minute always stand; seconds stand unless they and the microseconds
are zero. -/
def literal (s : Stamp) : String :=
  let d := s.reading.date
  let micro := s.reading.micro
  let second := s.reading.second
  let clock : List Nat :=
    [d.year, d.month, d.day, s.reading.hour, s.reading.minute] ++
      (if second = 0 ∧ micro = 0 then [] else [second]) ++ (if micro = 0 then [] else [micro])
  let fields := clock.map (fun n : Nat => intText n)
  let zone := match s.offset with
    | some o => ["tzinfo=" ++ o.literal]
    | none => []
  "datetime.datetime(" ++ String.intercalate ", " (fields ++ zone) ++ ")"

end Stamp

namespace Instant

def isoChars (i : Instant) : List Char := (Stamp.ofInstant i).isoChars

def iso (i : Instant) : String := (Stamp.ofInstant i).iso

end Instant

end RegistryTokens.Time
