/-!
# The calendar

Days are numbered from the first of January of year 1 in the proleptic Gregorian calendar. A
number is taken apart by cycles of 400, 100 and 4 years, since the leap rule repeats with them,
and then by the lengths of the months. The main statement is that numbering and taking apart are
inverse.
-/

set_option autoImplicit false

namespace RegistryTokens.Time

def isLeap (year : Nat) : Bool := year % 4 == 0 && (year % 100 != 0 || year % 400 == 0)

def monthLengths (leap : Bool) : List Nat :=
  [31, if leap then 29 else 28, 31, 30, 31, 30, 31, 31, 30, 31, 30, 31]

def totalDays : List Nat → Nat
  | [] => 0
  | length :: lengths => length + totalDays lengths

def daysBeforeYear (year : Nat) : Nat :=
  (year - 1) * 365 + (year - 1) / 4 - (year - 1) / 100 + (year - 1) / 400

def dayCount : Nat := 3652059

structure Date where
  year : Nat
  month : Nat
  day : Nat
  deriving DecidableEq, Repr

namespace Date

def valid (d : Date) : Bool :=
  1 ≤ d.year && d.year ≤ 9999 && 1 ≤ d.month && 1 ≤ d.day &&
    (monthLengths (isLeap d.year))[d.month - 1]?.any (d.day ≤ ·)

/-- The number of the day, the first of January of year 1 being day 0. -/
def number (d : Date) : Nat :=
  let months := (monthLengths (isLeap d.year)).take (d.month - 1)
  daysBeforeYear d.year + totalDays months + (d.day - 1)

def inMonths : List Nat → Nat → Nat × Nat
  | [], rest => (1, rest + 1)
  | length :: lengths, rest =>
    if rest < length then (1, rest + 1)
    else
      let (month, day) := inMonths lengths (rest - length)
      (month + 1, day)

/-- The year of a day and the day's place in it, both counting from zero. -/
def yearOfNumber (n : Nat) : Nat × Nat :=
  let inEra := n % 146097
  let century := min (inEra / 36524) 3
  let inCentury := inEra - century * 36524
  let inCycle := inCentury % 1461
  let year := min (inCycle / 365) 3
  (n / 146097 * 400 + century * 100 + inCentury / 1461 * 4 + year, inCycle - year * 365)

def ofNumber (n : Nat) : Date :=
  let (years, rest) := yearOfNumber n
  let (month, day) := inMonths (monthLengths (isLeap (years + 1))) rest
  ⟨years + 1, month, day⟩

def weekday (n : Nat) : Nat := n % 7

/-- The Monday with which the first week of a year begins: the week that holds its first
Thursday. -/
def firstMonday (year : Nat) : Int :=
  let first := daysBeforeYear year
  let monday : Int := first - weekday first
  if weekday first > 3 then monday + 7 else monday

def weeksIn (year : Nat) : Nat :=
  let first := weekday (daysBeforeYear year)
  if first = 3 ∨ (first = 2 ∧ isLeap year) then 53 else 52

def ofWeek? (year week day : Nat) : Option Nat :=
  if 1 ≤ year ∧ year ≤ 9999 ∧ 1 ≤ week ∧ week ≤ weeksIn year ∧ 1 ≤ day ∧ day ≤ 7 then
    let n := firstMonday year + (week - 1) * 7 + (day - 1)
    if 0 ≤ n ∧ n < dayCount then some n.toNat else none
  else none

def ofFields? (year month day : Nat) : Option Nat :=
  let d : Date := ⟨year, month, day⟩
  if d.valid && d.number < dayCount then some d.number else none

theorem daysBeforeYear_cycles (era century cycle year : Nat)
    (hc : century ≤ 3) (hq : cycle ≤ 24) (hy : year ≤ 3) :
    daysBeforeYear (era * 400 + century * 100 + cycle * 4 + year + 1) =
      era * 146097 + century * 36524 + cycle * 1461 + year * 365 := by
  unfold daysBeforeYear
  rw [Nat.add_sub_cancel]
  have by4 : (era * 400 + century * 100 + cycle * 4 + year) / 4 =
      era * 100 + century * 25 + cycle := by omega
  have by100 : (era * 400 + century * 100 + cycle * 4 + year) / 100 = era * 4 + century := by omega
  have by400 : (era * 400 + century * 100 + cycle * 4 + year) / 400 = era := by omega
  rw [by4, by100, by400]
  omega

/-- A day number is a count of whole cycles and a day within a year; the last day of a leap year
falls only in a fourth year, and in a hundredth only if it is a four-hundredth. -/
theorem yearOfNumber_cycles (n : Nat) : ∃ era century cycle year rest,
    yearOfNumber n = (era * 400 + century * 100 + cycle * 4 + year, rest) ∧
    n = era * 146097 + century * 36524 + cycle * 1461 + year * 365 + rest ∧
    century ≤ 3 ∧ cycle ≤ 24 ∧ year ≤ 3 ∧ rest ≤ 365 ∧
    (rest = 365 → year = 3 ∧ (cycle = 24 → century = 3)) := by
  refine ⟨_, _, _, _, _, rfl, ?_⟩
  have era := Nat.div_add_mod n 146097
  have eraRest := Nat.mod_lt n (by decide : 0 < 146097)
  generalize n / 146097 = a at *
  generalize n % 146097 = r at *
  have century : ∃ c s, min (r / 36524) 3 = c ∧ r - c * 36524 = s ∧ r = c * 36524 + s ∧ c ≤ 3 ∧
      s ≤ 36524 ∧ (s = 36524 → c = 3) := ⟨_, _, rfl, rfl, by omega, by omega, by omega, by omega⟩
  obtain ⟨c, s, hc, hs, hr, c3, sle, send⟩ := century
  rw [hc, hs]
  have cycle := Nat.div_add_mod s 1461
  have cycleRest := Nat.mod_lt s (by decide : 0 < 1461)
  generalize s / 1461 = q at *
  generalize s % 1461 = t at *
  have year : ∃ y u, min (t / 365) 3 = y ∧ t - y * 365 = u ∧ t = y * 365 + u ∧ y ≤ 3 ∧
      u ≤ 365 ∧ (u = 365 → y = 3) := ⟨_, _, rfl, rfl, by omega, by omega, by omega, by omega⟩
  obtain ⟨y, u, hy, hu, ht, y3, ule, uend⟩ := year
  rw [hy, hu]
  omega

theorem totalDays_inMonths (lengths : List Nat) (rest : Nat) (h : rest < totalDays lengths) :
    totalDays (lengths.take ((inMonths lengths rest).1 - 1)) + ((inMonths lengths rest).2 - 1) =
      rest := by
  induction lengths generalizing rest with
  | nil => simp [totalDays] at h
  | cons length lengths ih =>
    unfold inMonths
    split
    · simp [totalDays]
    · next large =>
      have step := ih (rest - length) (by simp only [totalDays] at h; omega)
      have positive : 0 < (inMonths lengths (rest - length)).1 := by
        cases lengths <;> simp [inMonths]; split <;> simp
      simp only [Nat.add_sub_cancel]
      obtain ⟨k, hk⟩ : ∃ k, (inMonths lengths (rest - length)).1 = k + 1 :=
        ⟨_, (Nat.sub_add_cancel positive).symm⟩
      rw [hk] at step ⊢
      simp only [Nat.add_sub_cancel, List.take_succ_cons, totalDays] at step ⊢
      omega

theorem number_in_year {n years rest : Nat} (hn : yearOfNumber n = (years, rest))
    (total : n = daysBeforeYear (years + 1) + rest)
    (inYear : rest < totalDays (monthLengths (isLeap (years + 1)))) : (ofNumber n).number = n := by
  have months := totalDays_inMonths _ rest inYear
  unfold ofNumber
  rw [hn]
  simp only [number]
  omega

theorem lt_totalDays_monthLengths {leap : Bool} {rest : Nat} (h : rest ≤ 365)
    (hl : rest = 365 → leap = true) : rest < totalDays (monthLengths leap) := by
  cases leap
  · have : rest ≠ 365 := fun full => by simp at hl; exact hl full
    simp [monthLengths, totalDays]
    omega
  · simp [monthLengths, totalDays]
    omega

/-- Taking a day number apart loses nothing. -/
theorem number_ofNumber (n : Nat) : (ofNumber n).number = n := by
  obtain ⟨era, century, cycle, year, rest, hn, total, hc, hq, hy, hrest, hlast⟩ :=
    yearOfNumber_cycles n
  have before := daysBeforeYear_cycles era century cycle year hc hq hy
  refine number_in_year hn (by omega) (lt_totalDays_monthLengths hrest fun full => ?_)
  have last := hlast full
  simp only [isLeap, Bool.and_eq_true, Bool.or_eq_true, beq_iff_eq, bne_iff_ne]
  omega

end Date

end RegistryTokens.Time
