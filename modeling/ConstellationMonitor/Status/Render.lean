/-
  The projection time as the status page prints it (`render.rs`): `format_unix_ms` and
  the closed calendar formula `civil_from_days` behind it.

  Every `u64` operation is checked, so an overflow or a subtraction below zero gives
  `none`.  The meaning is day-by-day and second-by-second counting from the epoch over
  the Gregorian month lengths.  The formula counts years from March, in eras of 400
  years: `YearDay` says which year of the era and which day of it a day is, and the
  divisions of the source are shown to find that year.  What is printed is read back by
  `readMoment`, which knows the marks of the format and decimal digits only.
-/
import ConstellationMonitor.Foundation.Text

namespace ConstellationMonitor.Status

open Foundation

/-! ## The source -/

/-- `u64` addition. -/
def plus (left right : Nat) : Option Nat :=
  if left + right ≤ u64Max then some (left + right) else none

/-- `u64` multiplication. -/
def times (left right : Nat) : Option Nat :=
  if left * right ≤ u64Max then some (left * right) else none

/-- `u64` subtraction. -/
def minus (left right : Nat) : Option Nat :=
  if right ≤ left then some (left - right) else none

/-- A calendar day: year, month and day of the month. -/
structure CivilDate where
  year : Nat
  month : Nat
  day : Nat
  deriving DecidableEq

/-- `civil_from_days`. -/
def civilFromDays (days : Nat) : Option CivilDate := do
  let z ← plus days 719468
  let era := z / 146097
  let doe ← minus z (← times era 146097)
  let yoe := (← minus (← plus (← minus doe (doe / 1460)) (doe / 36524)) (doe / 146096)) / 365
  let doy ← minus doe (← minus (← plus (← times 365 yoe) (yoe / 4)) (yoe / 100))
  let mp := (← plus (← times 5 doy) 2) / 153
  let day ← plus (← minus doy ((← plus (← times 153 mp) 2) / 5)) 1
  let month ← if mp < 10 then plus mp 3 else minus mp 9
  let year ← plus (← plus yoe (← times era 400)) (if month ≤ 2 then 1 else 0)
  return ⟨year, month, day⟩

/-- A second of a calendar day. -/
structure Moment where
  date : CivilDate
  hour : Nat
  minute : Nat
  second : Nat
  deriving DecidableEq

/-- `{year:04}-{month:02}-{day:02}T{:02}:{:02}:{:02}Z`. -/
def Moment.text (moment : Moment) : Text :=
  let field (width value : Nat) : Text := .padded width (.decimal value)
  field 4 moment.date.year ++ "-" ++ field 2 moment.date.month ++ "-" ++
    field 2 moment.date.day ++ "T" ++ field 2 moment.hour ++ ":" ++ field 2 moment.minute ++
    ":" ++ field 2 moment.second ++ "Z"

/-- `format_unix_ms`. -/
def formatUnixMs (unixMs : Nat) : Option Text := do
  let seconds := unixMs / 1000
  let date ← civilFromDays (seconds / 86400)
  let remainder := seconds % 86400
  return Moment.text ⟨date, remainder / 3600, (remainder % 3600) / 60, remainder % 60⟩

/-! ## The calendar -/

/-- Divisible by 4, except the centuries not divisible by 400. -/
def leap (year : Nat) : Prop := year % 4 = 0 ∧ (year % 100 ≠ 0 ∨ year % 400 = 0)

instance (year : Nat) : Decidable (leap year) := inferInstanceAs (Decidable (_ ∧ _))

/-- The length of a month in a common year. -/
def monthLength (month : Nat) : Nat :=
  if month = 2 then 28 else if month ∈ [4, 6, 9, 11] then 30 else 31

/-- The length of a month. -/
def daysIn (year month : Nat) : Nat :=
  monthLength month + if month = 2 ∧ leap year then 1 else 0

/-- The day after. -/
def CivilDate.next (date : CivilDate) : CivilDate :=
  if date.day < daysIn date.year date.month then { date with day := date.day + 1 }
  else if date.month < 12 then { date with month := date.month + 1, day := 1 }
  else ⟨date.year + 1, 1, 1⟩

/-- The second after. -/
def Moment.next (moment : Moment) : Moment :=
  if moment.second < 59 then { moment with second := moment.second + 1 }
  else if moment.minute < 59 then { moment with minute := moment.minute + 1, second := 0 }
  else if moment.hour < 23 then { moment with hour := moment.hour + 1, minute := 0, second := 0 }
  else ⟨moment.date.next, 0, 0, 0⟩

/-- The day a number of days after 1970-01-01. -/
def dateAt : Nat → CivilDate
  | 0 => ⟨1970, 1, 1⟩
  | days + 1 => (dateAt days).next

/-- The moment a number of seconds after 1970-01-01T00:00:00Z. -/
def momentAt : Nat → Moment
  | 0 => ⟨⟨1970, 1, 1⟩, 0, 0, 0⟩
  | seconds + 1 => (momentAt seconds).next

/-- The fields of a moment, from the year down; moments are ordered as these lists. -/
def Moment.fields (moment : Moment) : List Nat :=
  [moment.date.year, moment.date.month, moment.date.day, moment.hour, moment.minute, moment.second]

theorem Moment.fields_lt_next (moment : Moment) : moment.fields < moment.next.fields := by
  unfold Moment.next CivilDate.next
  split_ifs <;> simp [Moment.fields, List.cons_lt_cons_iff]

/-- Counting further gives a later moment. -/
theorem fields_momentAt_strictMono : StrictMono fun seconds => (momentAt seconds).fields :=
  strictMono_nat_of_lt_succ fun seconds => (momentAt seconds).fields_lt_next

/-- Counting seconds is counting days and the seconds of the day. -/
theorem momentAt_eq (seconds : Nat) :
    momentAt seconds = ⟨dateAt (seconds / 86400), seconds % 86400 / 3600,
      seconds % 86400 % 3600 / 60, seconds % 86400 % 60⟩ := by
  induction seconds with
  | zero => rfl
  | succ seconds ih =>
    rw [momentAt, ih, Moment.next]
    dsimp only
    split_ifs with hsecond hminute hhour
    case neg =>
      have hday : (seconds + 1) / 86400 = seconds / 86400 + 1 := by omega
      rw [hday, dateAt]
      congr 1 <;> omega
    all_goals
      have hday : (seconds + 1) / 86400 = seconds / 86400 := by omega
      rw [hday]
      congr 1 <;> omega

/-! ## Eras, years from March and the month table -/

/-- Day `doe` of an era is day `doy` of year `yoe`, counted from the first of March; only
a year that ends in a leap February has a day 365. -/
structure YearDay (doe yoe doy : Nat) : Prop where
  year : yoe < 400
  day : doy ≤ 365
  leapDay : doy = 365 → leap (yoe + 1)
  position : doe = 365 * yoe + yoe / 4 - yoe / 100 + doy

section Years

variable {doe yoe doy : Nat}

theorem exists_yearDay (h : doe < 146097) : ∃ yoe doy, YearDay doe yoe doy := by
  -- The century, the four-year cycle in it and the year in that.
  let c := min 3 (doe / 36524)
  let q := (doe - 36524 * c) / 1461
  let r := min 3 ((doe - 36524 * c - 1461 * q) / 365)
  have hq : q ≤ 24 := by omega
  have hquarter : (100 * c + 4 * q + r) / 4 = 25 * c + q := by omega
  have hcentury : (100 * c + 4 * q + r) / 100 = c := by omega
  refine ⟨100 * c + 4 * q + r, doe - 36524 * c - 1461 * q - 365 * r, ?_, ?_, ?_, ?_⟩
  · omega
  · omega
  · intro hlast
    unfold leap
    omega
  · rw [hquarter, hcentury]
    omega

/-- The divisions of the source find the year of the era. -/
theorem YearDay.yearOfEra (h : YearDay doe yoe doy) :
    (doe - doe / 1460 + doe / 36524 - doe / 146096) / 365 = yoe := by
  obtain ⟨hyoe, hdoy, hleap, hdoe⟩ := h
  unfold leap at hleap
  by_cases hend : doe = 146096
  · have hlastYear : yoe = 399 := by omega
    subst hend hlastYear
    rfl
  · have hlow : 36524 * (yoe / 100) ≤ doe := by omega
    have hhigh : doe < 36524 * (yoe / 100 + 1) := by omega
    have hcentury : doe / 36524 = yoe / 100 := by omega
    have hera : doe / 146096 = 0 := by omega
    -- The leap days of the centuries pile up to at most one cycle too many.
    obtain ⟨extra, hextra, hone⟩ : ∃ extra, doe / 1460 = yoe / 4 + extra ∧ extra ≤ 1 :=
      ⟨doe / 1460 - yoe / 4, by omega, by omega⟩
    have hfirst : doy = 0 → extra = 0 := by omega
    have hlast : doy = 365 → extra = 1 := by omega
    rw [hcentury, hera, hextra]
    omega

/-- The last day of a year that starts in March. -/
def LastDay (yoe doy : Nat) : Prop := doy = 365 ∨ doy = 364 ∧ ¬ leap (yoe + 1)

theorem YearDay.next_day (h : YearDay doe yoe doy) (hmore : ¬ LastDay yoe doy) :
    YearDay (doe + 1) yoe (doy + 1) := by
  obtain ⟨hyoe, hdoy, hleap, hdoe⟩ := h
  unfold LastDay leap at hmore
  refine ⟨hyoe, by omega, ?_, by omega⟩
  intro hday
  unfold leap
  omega

theorem YearDay.next_year (h : YearDay doe yoe doy) (hlast : LastDay yoe doy)
    (hyoe : yoe < 399) : YearDay (doe + 1) (yoe + 1) 0 := by
  obtain ⟨-, hdoy, hleap, hdoe⟩ := h
  unfold LastDay leap at *
  exact ⟨by omega, by omega, by omega, by omega⟩

theorem YearDay.next_era (h : YearDay doe yoe doy) (hlast : LastDay yoe doy)
    (hyoe : ¬ yoe < 399) : doe + 1 = 146097 ∧ yoe = 399 := by
  obtain ⟨hyear, hdoy, hleap, hdoe⟩ := h
  unfold LastDay leap at *
  omega

end Years

/-- The month of a day counted from the first of March. -/
def monthOf (doy : Nat) : Nat :=
  let mp := (5 * doy + 2) / 153
  if mp < 10 then mp + 3 else mp - 9

/-- The day of its month of a day counted from the first of March. -/
def dayOf (doy : Nat) : Nat := doy - (153 * ((5 * doy + 2) / 153) + 2) / 5 + 1

/-- The date of a day of a year of an era. -/
def dateOf (era yoe doy : Nat) : CivilDate :=
  ⟨yoe + era * 400 + if monthOf doy ≤ 2 then 1 else 0, monthOf doy, dayOf doy⟩

/-- From one day to the next before the end of February: within a month, into the next
month, or from December into January. -/
theorem month_table : ∀ doy < 364,
    dayOf doy < monthLength (monthOf doy) ∧ monthOf (doy + 1) = monthOf doy ∧
        dayOf (doy + 1) = dayOf doy + 1 ∨
      dayOf doy = monthLength (monthOf doy) ∧ monthOf doy ≠ 2 ∧ dayOf (doy + 1) = 1 ∧
        (monthOf doy < 12 ∧ monthOf (doy + 1) = monthOf doy + 1 ∧
            (monthOf (doy + 1) ≤ 2 ↔ monthOf doy ≤ 2) ∨
          monthOf doy = 12 ∧ monthOf (doy + 1) = 1) := by
  decide +kernel

variable {era yoe doy : Nat}

theorem leap_era : leap (yoe + era * 400 + 1) ↔ leap (yoe + 1) := by
  unfold leap
  omega

theorem dateOf_next_day (hday : doy ≤ 365) (hmore : ¬ LastDay yoe doy) :
    (dateOf era yoe doy).next = dateOf era yoe (doy + 1) := by
  have hearlier : doy < 364 ∨ doy = 364 ∧ leap (yoe + 1) := by
    unfold LastDay at hmore
    by_cases hleap : leap (yoe + 1)
    · grind
    · grind
  rcases hearlier with hlt | ⟨rfl, hleap⟩
  · rcases month_table doy hlt with ⟨hin, hmonth, hnext⟩ | ⟨hend, hfeb, hnext, hinto⟩
    · have hroom : dayOf doy < daysIn (dateOf era yoe doy).year (monthOf doy) := by
        unfold daysIn
        omega
      have hnextDay : (dateOf era yoe doy).next =
          ⟨(dateOf era yoe doy).year, monthOf doy, dayOf doy + 1⟩ := if_pos hroom
      rw [hnextDay]
      simp [dateOf, hmonth, hnext]
    · have hfull : ¬ dayOf doy < daysIn (dateOf era yoe doy).year (monthOf doy) := by
        simp [daysIn, hfeb, hend]
      have hnextMonth : (dateOf era yoe doy).next =
          if monthOf doy < 12 then ⟨(dateOf era yoe doy).year, monthOf doy + 1, 1⟩
          else ⟨(dateOf era yoe doy).year + 1, 1, 1⟩ := if_neg hfull
      rw [hnextMonth]
      rcases hinto with ⟨hbefore, hmonth, hsame⟩ | ⟨hdecember, hmonth⟩
      · simp [dateOf, hbefore, hnext, hmonth, hmonth ▸ hsame]
      · simp [dateOf, hdecember, hmonth, hnext]
  · have hfebruary : dateOf era yoe 364 = ⟨yoe + era * 400 + 1, 2, 28⟩ := rfl
    have hlonger : daysIn (yoe + era * 400 + 1) 2 = 29 := by
      simp [daysIn, monthLength, leap_era.mpr hleap]
    rw [hfebruary, CivilDate.next, hlonger]
    rfl

theorem dateOf_next_year (hlast : LastDay yoe doy) :
    (dateOf era yoe doy).next = dateOf era (yoe + 1) 0 := by
  have hmarch : dateOf era (yoe + 1) 0 = ⟨yoe + era * 400 + 1, 3, 1⟩ := by
    simp [dateOf, monthOf, dayOf]
    omega
  rw [hmarch]
  rcases hlast with rfl | ⟨rfl, hleap⟩
  · have hfebruary : dateOf era yoe 365 = ⟨yoe + era * 400 + 1, 2, 29⟩ := rfl
    have hlength : ¬ 29 < daysIn (yoe + era * 400 + 1) 2 := by
      simp [daysIn, monthLength]
      split <;> omega
    simp [hfebruary, CivilDate.next, hlength]
  · have hfebruary : dateOf era yoe 364 = ⟨yoe + era * 400 + 1, 2, 28⟩ := rfl
    have hlength : daysIn (yoe + era * 400 + 1) 2 = 28 := by
      simp [daysIn, monthLength, leap_era, hleap]
    simp [hfebruary, CivilDate.next, hlength]

/-! ## The formula counts days -/

section Checked

variable {left right : Nat} {α : Type} {rest : Nat → Option α}

theorem plus_bind (h : left + right ≤ u64Max) :
    (plus left right >>= rest) = rest (left + right) := by
  rw [plus, if_pos h]
  rfl

theorem times_bind (h : left * right ≤ u64Max) :
    (times left right >>= rest) = rest (left * right) := by
  rw [times, if_pos h]
  rfl

theorem minus_bind (h : right ≤ left) : (minus left right >>= rest) = rest (left - right) := by
  rw [minus, if_pos h]
  rfl

end Checked

/-- Nothing overflows once the shifted day fits, and the result is the date of the day's
year and position. -/
theorem civilFromDays_eq_dateOf {days doe : Nat} (hfits : days + 719468 ≤ u64Max)
    (hdays : days + 719468 = era * 146097 + doe) (h : YearDay doe yoe doy) :
    civilFromDays days = some (dateOf era yoe doy) := by
  have hyear := h.yearOfEra
  obtain ⟨hyoe, hdoy, -, hdoe⟩ := h
  have hmax : u64Max = 18446744073709551615 := rfl
  have hera : (era * 146097 + doe) / 146097 = era := by omega
  have hrest : era * 146097 + doe - era * 146097 = doe := by omega
  have hday : doe - (365 * yoe + yoe / 4 - yoe / 100) = doy := by omega
  unfold civilFromDays
  rw [plus_bind hfits, hdays]
  dsimp only
  rw [hera, times_bind (by omega), minus_bind (by omega), hrest, minus_bind (by omega),
    plus_bind (by omega), minus_bind (by omega), hyear, times_bind (by omega),
    plus_bind (by omega), minus_bind (by omega), minus_bind (by omega), hday,
    times_bind (by omega), plus_bind (by omega), times_bind (by omega), plus_bind (by omega),
    minus_bind (by omega), plus_bind (by omega)]
  split_ifs with hmp
  · have hmonth : monthOf doy = (5 * doy + 2) / 153 + 3 := if_pos hmp
    rw [plus_bind (by omega), times_bind (by omega), plus_bind (by omega),
      plus_bind (by split <;> omega), ← hmonth]
    rfl
  · have hmonth : monthOf doy = (5 * doy + 2) / 153 - 9 := if_neg hmp
    rw [minus_bind (by omega), times_bind (by omega), plus_bind (by omega),
      plus_bind (by split <;> omega), ← hmonth]
    rfl

/-- The formula gives the day that counting reaches. -/
theorem civilFromDays_eq_dateAt {days : Nat} (hfits : days + 719468 ≤ u64Max) :
    civilFromDays days = some (dateAt days) := by
  induction days with
  | zero => rfl
  | succ days ih =>
    have hbefore : days + 719468 ≤ u64Max := by omega
    let era := (days + 719468) / 146097
    obtain ⟨doe, hdays, hdoe⟩ :
        ∃ doe, days + 719468 = era * 146097 + doe ∧ doe < 146097 :=
      ⟨(days + 719468) % 146097, by omega, by omega⟩
    obtain ⟨yoe, doy, hday⟩ := exists_yearDay hdoe
    have hdate : dateOf era yoe doy = dateAt days :=
      Option.some.inj ((civilFromDays_eq_dateOf hbefore hdays hday).symm.trans (ih hbefore))
    rw [dateAt, ← hdate]
    by_cases hlast : LastDay yoe doy
    · rw [dateOf_next_year hlast]
      by_cases hyoe : yoe < 399
      · exact civilFromDays_eq_dateOf hfits (by omega) (hday.next_year hlast hyoe)
      · obtain ⟨hend, rfl⟩ := hday.next_era hlast hyoe
        have hfirst : YearDay 0 0 0 := ⟨by omega, by omega, by omega, by omega⟩
        have hnewEra : dateOf era (399 + 1) 0 = dateOf (era + 1) 0 0 := by
          simp only [dateOf]
          congr 1
          omega
        rw [hnewEra]
        exact civilFromDays_eq_dateOf hfits (by omega) hfirst
    · rw [dateOf_next_day hday.day hlast]
      exact civilFromDays_eq_dateOf hfits (by omega) (hday.next_day hlast)

/-! ## Reading what is printed -/

/-- Decimal numbers, each closed by its mark. -/
def readNumbers : List UInt8 → List UInt8 → Nat → Option (List Nat)
  | [], [], _ => some []
  | mark :: marks, byte :: rest, value =>
    if 0x30 ≤ byte ∧ byte ≤ 0x39 then
      readNumbers (mark :: marks) rest (10 * value + (byte.toNat - 0x30))
    else if byte = mark then (readNumbers marks rest 0).map (value :: ·)
    else none
  | _, _, _ => none

/-- The fields of a printed time, from the year down. -/
def readMoment (text : Text) : Option (List Nat) :=
  readNumbers (Text.ofString "--T::Z").bytes text.bytes 0

section Reading

variable {mark : UInt8} {marks rest : List UInt8}

theorem readNumbers_digits {digits : List Char} (h : ∀ digit ∈ digits, digit.isDigit = true)
    (value : Nat) :
    readNumbers (mark :: marks) (digits.map (fun digit => digit.toNat.toUInt8) ++ rest) value =
      readNumbers (mark :: marks) rest (Nat.ofDigitChars 10 digits value) := by
  induction digits generalizing value with
  | nil => rfl
  | cons digit digits ih =>
    obtain ⟨hdigit, hdigits⟩ := List.forall_mem_cons.mp h
    have hrange : 0x30 ≤ digit.toNat ∧ digit.toNat ≤ 0x39 := by
      simpa [Char.isDigit, UInt32.le_iff_toNat_le] using hdigit
    have hbyte : digit.toNat.toUInt8.toNat = digit.toNat := by
      simp
      omega
    rw [List.map_cons, List.cons_append, readNumbers, if_pos, ih hdigits, hbyte,
      Nat.ofDigitChars_cons]
    · rfl
    · simpa [UInt8.le_iff_toNat_le, hbyte] using hrange

/-- A padded number is read up to its mark. -/
theorem readNumbers_field (width value : Nat) (hmark : ¬(0x30 ≤ mark ∧ mark ≤ 0x39)) :
    readNumbers (mark :: marks) ((Text.padded width (.decimal value)).bytes ++ mark :: rest) 0 =
      (readNumbers marks rest 0).map (value :: ·) := by
  have hzeros : ∀ count, List.replicate count (0x30 : UInt8) =
      (List.replicate count '0').map fun digit => digit.toNat.toUInt8 := by simp
  simp only [Text.padded, Text.decimal, Text.digits, hzeros, ← List.map_append]
  rw [readNumbers_digits, Nat.ofDigitChars_append, Nat.ofDigitChars_replicate_zero, mul_zero,
    Nat.ofDigitChars_ten_toDigits, readNumbers, if_neg hmark, if_pos rfl]
  intro digit hdigit
  rcases List.mem_append.mp hdigit with hzero | hdigit
  · rw [List.eq_of_mem_replicate hzero]
    rfl
  · exact Nat.isDigit_of_mem_toDigits (by omega) (by omega) hdigit

theorem readMoment_text (moment : Moment) : readMoment moment.text = some moment.fields := by
  have hmarks : (Text.ofString "--T::Z").bytes = [0x2d, 0x2d, 0x54, 0x3a, 0x3a, 0x5a] := by decide
  have hdash : (Text.ofString "-").bytes = [0x2d] := by decide
  have htee : (Text.ofString "T").bytes = [0x54] := by decide
  have hcolon : (Text.ofString ":").bytes = [0x3a] := by decide
  have hzulu : (Text.ofString "Z").bytes = [0x5a] := by decide
  simp only [readMoment, Moment.text, Text.bytes_append, hmarks, hdash, htee, hcolon, hzulu,
    List.append_assoc, List.cons_append, List.nil_append]
  simp [readNumbers_field, readNumbers, Moment.fields]

end Reading

/-- The printed time is the moment that counting seconds reaches. -/
theorem formatUnixMs_eq {unixMs : Nat} (hword : unixMs ≤ u64Max) :
    formatUnixMs unixMs = some (momentAt (unixMs / 1000)).text := by
  have hfits : unixMs / 1000 / 86400 + 719468 ≤ u64Max := by
    unfold u64Max at *
    omega
  rw [formatUnixMs, civilFromDays_eq_dateAt hfits, momentAt_eq]
  rfl

/-- `civil_from_days` starts at the epoch and goes from each day to its calendar
successor as long as its first sum fits a word; for every word of milliseconds
`format_unix_ms` returns a text that reads as the moment which counting calendar seconds
from the epoch reaches; and a later second prints another text, which reads as a later
moment. -/
theorem format_unix_ms_exact : civilFromDays 0 = some ⟨1970, 1, 1⟩ ∧
      (∀ n, n + 1 + 719468 ≤ u64Max → ∃ date, civilFromDays n = some date ∧
        civilFromDays (n + 1) = some date.next) ∧
      (∀ unixMs ≤ u64Max, unixMs / 1000 / 86400 + 1 + 719468 ≤ u64Max ∧
        ∃ text, formatUnixMs unixMs = some text ∧ text = (momentAt (unixMs / 1000)).text ∧
          readMoment text = some (momentAt (unixMs / 1000)).fields) ∧
      ∀ earlier later, later ≤ u64Max → earlier / 1000 < later / 1000 →
        ∃ text text' fields fields', formatUnixMs earlier = some text ∧
          formatUnixMs later = some text' ∧ text ≠ text' ∧ readMoment text = some fields ∧
          readMoment text' = some fields' ∧ fields < fields' := by
  refine ⟨rfl, ?_, ?_, ?_⟩
  · intro n hword
    exact ⟨dateAt n, civilFromDays_eq_dateAt (by omega), civilFromDays_eq_dateAt hword⟩
  · intro unixMs hword
    refine ⟨?_, _, formatUnixMs_eq hword, rfl, readMoment_text _⟩
    unfold u64Max at hword ⊢
    omega
  · intro earlier later hword hlt
    have hless := fields_momentAt_strictMono hlt
    refine ⟨_, _, _, _, formatUnixMs_eq (by omega), formatUnixMs_eq hword, fun heq => ?_,
      readMoment_text _, readMoment_text _, hless⟩
    have hread := congrArg readMoment heq
    rw [readMoment_text, readMoment_text, Option.some_inj] at hread
    exact absurd hread hless.ne

end ConstellationMonitor.Status
