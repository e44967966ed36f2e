import RegistryTokens.Time.Reader
import RegistryTokens.Time.StampText

/-!
# Stamps read back

The ISO form of an instant has fields of fixed width, so each reader finds its digits and the sign
after them. A date read back is the day it was made of, and the whole text stands for the instant.
-/

set_option autoImplicit false

namespace RegistryTokens

open RegistryTokens.Number

namespace Number

theorem isDigit_of_mem_padded {width n : Nat} {c : Char} (h : c ∈ padded width n) :
    isDigit c = true := by
  induction width generalizing n with
  | zero => cases h
  | succ width ih =>
    rcases List.mem_append.1 h with front | last
    · exact ih front
    · rw [List.mem_singleton.1 last, isDigit, digit?_digitChar (Nat.mod_lt n (by decide))]
      rfl

theorem padded_ne_nil (width n : Nat) : padded (width + 1) n ≠ [] := by
  simp [padded]

end Number

namespace Time

namespace Date

theorem inMonths_bounds {lengths : List Nat} {rest : Nat} (h : rest < totalDays lengths) :
    1 ≤ (inMonths lengths rest).1 ∧ 1 ≤ (inMonths lengths rest).2 ∧
      ∃ length, lengths[(inMonths lengths rest).1 - 1]? = some length ∧
        (inMonths lengths rest).2 ≤ length := by
  induction lengths generalizing rest with
  | nil => simp [totalDays] at h
  | cons length lengths ih =>
    unfold inMonths
    split
    · exact ⟨by simp, by simp, length, by simp, by simpa⟩
    · rename_i large
      have later : rest - length < totalDays lengths := by
        simp only [totalDays] at h
        omega
      obtain ⟨month, day, last, found, within⟩ := ih later
      refine ⟨by simp, day, last, ?_, within⟩
      rw [Nat.add_sub_cancel, ← found]
      obtain ⟨k, hk⟩ : ∃ k, (inMonths lengths (rest - length)).1 = k + 1 :=
        ⟨_, (Nat.sub_add_cancel month).symm⟩
      rw [hk, List.getElem?_cons_succ, Nat.add_sub_cancel]

theorem valid_ofNumber {n : Nat} (h : n < dayCount) : (ofNumber n).valid = true := by
  obtain ⟨era, century, cycle, year, rest, hn, total, hc, hq, hy, hrest, hlast⟩ :=
    yearOfNumber_cycles n
  have within : rest < totalDays (monthLengths (isLeap (era * 400 + century * 100 + cycle * 4 +
      year + 1))) := by
    apply lt_totalDays_monthLengths hrest
    intro full
    have last := hlast full
    simp only [isLeap, Bool.and_eq_true, Bool.or_eq_true, beq_iff_eq, bne_iff_ne]
    omega
  have inCalendar : era * 400 + century * 100 + cycle * 4 + year + 1 ≤ 9999 := by
    unfold dayCount at h
    omega
  obtain ⟨month, day, last, found, fits⟩ := inMonths_bounds within
  unfold ofNumber
  rw [hn]
  simp only [valid, found, Option.any_some, Bool.and_eq_true, decide_eq_true_eq]
  exact ⟨⟨⟨⟨Nat.le_add_left 1 _, inCalendar⟩, month⟩, day⟩, fits⟩

theorem ofFields?_fields {d : Date} (valid : d.valid = true) (within : d.number < dayCount) :
    ofFields? d.year d.month d.day = some d.number := by
  cases d
  rw [ofFields?, if_pos (by simp [valid, within])]

theorem ofFields?_ofNumber {n : Nat} (h : n < dayCount) :
    ofFields? (ofNumber n).year (ofNumber n).month (ofNumber n).day = some n := by
  have number := number_ofNumber n
  have fields := ofFields?_fields (valid_ofNumber h) (number.symm ▸ h)
  rw [number] at fields
  exact fields

end Date

namespace Reader

theorem number?_padded {width n : Nat} (h : n < 10 ^ width) (rest : List Char) :
    number? width (padded width n ++ rest) = some (n, rest) := by
  have front : (padded width n ++ rest).take width = padded width n := by
    simp
  have back : (padded width n ++ rest).drop width = rest := by
    simp
  rw [number?, front, back, padded_length, if_pos rfl, readDigits?_padded width n h]
  rfl

theorem widths_of_valid {d : Date} (h : d.valid = true) :
    d.year < 10 ^ (4 : Nat) ∧ d.month < 10 ^ (2 : Nat) ∧ d.day < 10 ^ (2 : Nat) := by
  simp only [Date.valid, Bool.and_eq_true, decide_eq_true_eq] at h
  obtain ⟨⟨⟨⟨-, year⟩, -⟩, -⟩, months⟩ := h
  cases found : (monthLengths (isLeap d.year))[d.month - 1]? with
  | none =>
    rw [found] at months
    cases months
  | some length =>
    have month : d.month - 1 < 12 := (List.getElem?_eq_some_iff.1 found).1
    have short : length ≤ 31 := by
      have each : ∀ leap, ∀ length ∈ monthLengths leap, length ≤ 31 := by decide
      exact each _ length (List.mem_of_getElem? found)
    rw [found] at months
    have day : d.day ≤ length := by simpa using months
    omega

theorem head_padded (n : Nat) (rest : List Char) : ∃ c cs, padded 2 n ++ rest = c :: cs ∧
    c ≠ 'W' := by
  have first : Nat.digitChar (n / 10 % 10) ∈ padded 2 n := by simp [padded]
  have digit := isDigit_of_mem_padded first
  refine ⟨Nat.digitChar (n / 10 % 10), _, by simp [padded]; rfl, fun same => ?_⟩
  rw [same] at digit
  cases digit

theorem date?_dateChars {n : Nat} (h : n < dayCount) :
    date? (dateChars (Date.ofNumber n)) = some n := by
  obtain ⟨year, month, day⟩ := widths_of_valid (Date.valid_ofNumber h)
  have whole : monthDay? (Date.ofNumber n).year true (padded 2 (Date.ofNumber n).month ++
      '-' :: padded 2 (Date.ofNumber n).day) = some n := by
    have last := number?_padded day []
    rw [List.append_nil] at last
    simp only [monthDay?, number?_padded month, hyphen?, last, Option.bind_eq_bind,
      Option.bind_some, List.isEmpty_nil, if_true, Date.ofFields?_ofNumber h]
  obtain ⟨c, cs, front, notWeek⟩ := head_padded (Date.ofNumber n).month
    ('-' :: padded 2 (Date.ofNumber n).day)
  rw [front] at whole
  have split : dateChars (Date.ofNumber n) =
      padded 4 (Date.ofNumber n).year ++ '-' :: c :: cs := by
    rw [← front]
    simp [dateChars]
  rw [split, date?, number?_padded year]
  simp only [Option.bind_eq_bind, Option.bind_some]
  split
  · rename_i week
    cases week
    exact absurd rfl notWeek
  · exact whole

theorem next?_colon {rest : List Char} (h : rest ≠ []) :
    next? true (':' :: rest) = some (.field rest) := by
  cases rest with
  | nil => exact absurd rfl h
  | cons c cs => rfl

theorem next?_point {rest : List Char} (h : rest ≠ []) :
    next? true ('.' :: rest) = some (.fraction rest) := by
  cases rest with
  | nil => exact absurd rfl h
  | cons c cs => rfl

def secondChars (i : Instant) : List Char :=
  padded 2 i.second ++ if i.micro = 0 then [] else '.' :: padded 6 i.micro

theorem timeChars_eq (i : Instant) : timeChars i =
    padded 2 i.hour ++ ':' :: (padded 2 i.minute ++ ':' :: secondChars i) := by
  simp [timeChars, secondChars]

theorem fields_lt (i : Instant) : i.hour < 24 ∧ i.minute < 60 ∧ i.second < 60 ∧
    i.micro < 1000000 := by
  have day : i.secondOfDay < 86400 := by
    unfold Instant.secondOfDay ticksPerSecond ticksPerDay ticksPerSecond
    omega
  refine ⟨?_, ?_, ?_, Nat.mod_lt _ (by decide)⟩
  · unfold Instant.hour
    omega
  · unfold Instant.minute
    omega
  · unfold Instant.second
    omega

theorem fraction?_padded {n : Nat} (h : n < 10 ^ (6 : Nat)) :
    fraction? (padded 6 n) = some (n, false) := by
  have shown : (padded 6 n).take 6 = padded 6 n := List.take_of_length_le (by simp)
  have rest : (padded 6 n).drop 6 = [] := List.drop_eq_nil_of_le (by simp)
  rw [fraction?, shown, rest, readDigits?_padded 6 n h, padded_length]
  simp [leftover]

theorem seconds?_secondChars (i : Instant) (hour minute : Nat) :
    seconds? true { hour, minute } (secondChars i) =
      some ({ hour, minute, second := i.second, micro := i.micro }, false) := by
  obtain ⟨-, -, second, micro⟩ := fields_lt i
  have second : i.second < 10 ^ 2 := by omega
  have read := number?_padded second
  unfold secondChars seconds?
  rw [read]
  by_cases whole : i.micro = 0
  · rw [if_pos whole, whole]
    rfl
  · rw [if_neg whole]
    simp only [Option.bind_eq_bind, Option.bind_some, next?_point (padded_ne_nil 5 i.micro),
      fraction?_padded micro]
    rfl

theorem fields?_timeChars (i : Instant) : fields? (timeChars i) = some
    ({ hour := i.hour, minute := i.minute, second := i.second, micro := i.micro }, false) := by
  obtain ⟨hour, minute, -, -⟩ := fields_lt i
  have hour : i.hour < 10 ^ 2 := by omega
  have minute : i.minute < 10 ^ 2 := by omega
  have later : padded 2 i.minute ++ ':' :: secondChars i ≠ [] := by simp
  have seconds : secondChars i ≠ [] := by
    simp [secondChars, padded_ne_nil 1]
  rw [timeChars_eq, fields?, number?_padded hour]
  simp only [Option.bind_eq_bind, Option.bind_some, List.head?_cons, beq_self_eq_true,
    next?_colon later, minutes?, number?_padded minute, next?_colon seconds, seconds?_secondChars]

theorem startsZone_of_isDigit {c : Char} (h : isDigit c = true) : startsZone c = false := by
  cases hz : startsZone c with
  | false => rfl
  | true =>
    simp only [startsZone, Bool.or_eq_true, beq_iff_eq] at hz
    rcases hz with (rfl | rfl) | rfl <;> cases h

theorem mem_timeChars {i : Instant} {c : Char} (h : c ∈ timeChars i) :
    isDigit c = true ∨ c = ':' ∨ c = '.' := by
  rw [timeChars_eq, secondChars] at h
  simp only [List.mem_append, List.mem_cons] at h
  rcases h with h | rfl | h | rfl | h | h
  · exact .inl (isDigit_of_mem_padded h)
  · exact .inr (.inl rfl)
  · exact .inl (isDigit_of_mem_padded h)
  · exact .inr (.inl rfl)
  · exact .inl (isDigit_of_mem_padded h)
  · split at h
    · cases h
    · rcases List.mem_cons.1 h with rfl | h
      · exact .inr (.inr rfl)
      · exact .inl (isDigit_of_mem_padded h)

theorem startsZone_of_mem_timeChars {i : Instant} {c : Char} (h : c ∈ timeChars i) :
    startsZone c = false := by
  rcases mem_timeChars h with digit | rfl | rfl
  · exact startsZone_of_isDigit digit
  · rfl
  · rfl

theorem ofDay_fields (i : Instant) :
    (i.hour * 3600 + i.minute * 60 + i.second) * ticksPerSecond + i.micro =
      i.ticks % ticksPerDay := by
  unfold Instant.hour Instant.minute Instant.second Instant.micro Instant.secondOfDay
  unfold ticksPerDay ticksPerSecond
  omega

theorem time?_timeChars (i : Instant) :
    time? (timeChars i ++ Offset.utc.chars) = some (i.ticks % ticksPerDay, some Offset.utc) := by
  obtain ⟨hour, minute, second, -⟩ := fields_lt i
  have plain : ∀ c ∈ timeChars i, (!startsZone c) = true := fun c hc => by
    rw [startsZone_of_mem_timeChars hc]
    rfl
  have zone : zone? Offset.utc.chars = some Offset.utc := by decide
  have clock : (timeChars i ++ Offset.utc.chars).takeWhile (fun c => !startsZone c) =
      timeChars i := by
    rw [List.takeWhile_append_of_pos plain]
    simp [Offset.chars, Offset.utc, startsZone]
  have rest : (timeChars i ++ Offset.utc.chars).dropWhile (fun c => !startsZone c) =
      Offset.utc.chars := by
    rw [List.dropWhile_append_of_pos plain]
    simp [Offset.chars, Offset.utc, startsZone]
  have ofDay : Fields.ofDay? ⟨i.hour, i.minute, i.second, i.micro⟩ =
      some (i.ticks % ticksPerDay) := by
    rw [Fields.ofDay?, if_pos ⟨hour, minute, second⟩, ofDay_fields]
  unfold time?
  simp only [clock, rest, fields?_timeChars, ofDay, zone, Option.bind_eq_bind, Option.bind_some]
  rfl

theorem dateLength?_dateChars (d : Date) (rest : List Char) :
    dateLength? (dateChars d ++ rest) = some 10 := by
  have length : (dateChars d).length = 10 := by simp [dateChars]
  obtain ⟨c, cs, front, notWeek⟩ := head_padded d.month ('-' :: padded 2 d.day ++ rest)
  have split : dateChars d ++ rest = padded 4 d.year ++ '-' :: c :: cs := by
    rw [← front]
    simp [dateChars]
  have behind : (dateChars d ++ rest).drop 4 = '-' :: c :: cs := by
    rw [split]
    simp
  have long : 10 ≤ (dateChars d ++ rest).length := by
    rw [List.length_append, length]
    omega
  rw [dateLength?, if_neg (by omega), if_neg (by omega), behind]
  split
  · rename_i week
    cases week
    exact absurd rfl notWeek
  all_goals simp_all

theorem day_lt (i : Instant) : i.ticks / ticksPerDay < dayCount :=
  (Nat.div_lt_iff_lt_mul (by decide)).2 i.inCalendar

/-- The steps of reading a stamp, one by one: evaluating them together would unfold the length of a
day. -/
theorem stamp?_eq_some {cs time : List Char} {c : Char} {length day ofDay : Nat}
    {offset : Option Offset} {reading : Instant} (sized : dateLength? cs = some length)
    (date : date? (cs.take length) = some day) (behind : cs.drop length = c :: time)
    (clock : time? time = some (ofDay, offset))
    (moment : Instant.ofTicks? (day * ticksPerDay + ofDay : Nat) = some reading) :
    stamp? cs = some ⟨reading, offset⟩ := by
  refine Option.bind_eq_some_iff.2 ⟨length, sized, Option.bind_eq_some_iff.2 ⟨day, date, ?_⟩⟩
  rw [behind]
  refine Option.bind_eq_some_iff.2 ⟨(ofDay, offset), clock, ?_⟩
  exact Option.bind_eq_some_iff.2 ⟨reading, moment, rfl⟩

theorem isoChars_eq (i : Instant) :
    i.isoChars = dateChars i.date ++ 'T' :: (timeChars i ++ Offset.utc.chars) := by
  simp [Instant.isoChars, Stamp.isoChars, Stamp.charsWith, Stamp.ofInstant]

theorem stamp?_isoChars (i : Instant) : stamp? i.isoChars = some (Stamp.ofInstant i) := by
  have length : (dateChars i.date).length = 10 := by simp [dateChars]
  have split := isoChars_eq i
  have front : i.isoChars.take 10 = dateChars i.date := by
    rw [split, ← length, List.take_left]
  have behind : i.isoChars.drop 10 = 'T' :: (timeChars i ++ Offset.utc.chars) := by
    rw [split, ← length, List.drop_left]
  have sized : dateLength? i.isoChars = some 10 := by
    rw [split]
    exact dateLength?_dateChars _ _
  have date : date? (i.isoChars.take 10) = some (i.ticks / ticksPerDay) := by
    rw [front]
    exact date?_dateChars (day_lt i)
  have moment : Instant.ofTicks? (i.ticks / ticksPerDay * ticksPerDay + i.ticks % ticksPerDay :
      Nat) = some i := by
    rw [Nat.mul_comm, Nat.div_add_mod, Instant.ofTicks?_ticks]
  exact stamp?_eq_some sized date behind (time?_timeChars i) moment

end Reader

/-- An instant that is written is read back. -/
theorem Stamp.ofIso?_iso (i : Instant) : ofIso? i.iso = some (ofInstant i) := by
  rw [ofIso?, Instant.iso, Stamp.iso, String.toList_ofList]
  exact Reader.stamp?_isoChars i

end Time

end RegistryTokens
