import Mathlib.Algebra.BigOperators.Intervals
import Mathlib.Algebra.Order.BigOperators.Group.Finset
import Mathlib.Tactic.IntervalCases
import WatchLink.Calendar

/-!
# Local time counts back to its moment

The days of the Gregorian calendar can be counted without any formula: a year has the days of its
months, February one more in a leap year, and a date is as many days from the start of 1970 as the
years and months between have. Counted so, the date of a day is that day again, on either side of
1970, and is a date that exists. So a local time, with what it says of the time of day, names the
moment it was asked for, as long as its year fits the sixteen bits it is told in.

In between, days are counted by years that begin in March, in which the day a leap year adds is the
last. In an era of 400 such years the place of a day gives its year once the days that leap years
add are taken out (`evened`), and then the month, as months from March on take turns of 153 days
in five.
-/

namespace WatchLink

namespace Calendar

/-! ## The calendar -/

/-- Every fourth year is a leap year, of the hundreds only every fourth. -/
def IsLeap (year : Int) : Prop :=
  4 ∣ year ∧ (100 ∣ year → 400 ∣ year)

instance : DecidablePred IsLeap := fun _ => inferInstanceAs (Decidable (_ ∧ _))

def monthLength (year : Int) (month : Nat) : Nat :=
  if month = 2 then if IsLeap year then 29 else 28
  else if month ∈ [4, 6, 9, 11] then 30
  else 31

/-- The days of a year before a month of it. -/
def daysBefore (year : Int) (month : Nat) : Nat :=
  ∑ m ∈ Finset.Ico 1 month, monthLength year m

def yearLength (year : Int) : Nat := daysBefore year 13

/-- The day a year begins with, counted from the start of 1970: the days of the years since, less
those of the years before it. -/
def firstDay (year : Int) : Int :=
  (∑ n ∈ Finset.range (year - 1970).toNat, yearLength (1970 + n) : Nat) -
    (∑ n ∈ Finset.range (1970 - year).toNat, yearLength (1969 - n) : Nat)

namespace Date

/-- The calendar has the date. -/
structure Exists (d : Date) : Prop where
  month : 1 ≤ d.month ∧ d.month ≤ 12
  day : 1 ≤ d.day ∧ d.day ≤ monthLength d.year d.month

/-- The days from the start of 1970 to a date. -/
def dayCount (d : Date) : Int :=
  firstDay d.year + daysBefore d.year d.month + d.day - 1

end Date

/-- A year has one day more than 365 just where the number of leap years goes up. -/
theorem yearLength_eq (year : Int) :
    (yearLength year : Int) = 365 + (year / 4 - (year - 1) / 4) -
      (year / 100 - (year - 1) / 100) + (year / 400 - (year - 1) / 400) := by
  have hlength : yearLength year = if IsLeap year then 366 else 365 := by
    rw [yearLength, daysBefore]
    split <;> simp [Finset.sum_Ico_succ_top, monthLength, *]
  rw [hlength]
  split
  all_goals
    rename_i hleap
    unfold IsLeap at hleap
    omega

theorem daysBefore_add_one (year : Int) {month : Nat} (h : 1 ≤ month) :
    daysBefore year (month + 1) = daysBefore year month + monthLength year month :=
  Finset.sum_Ico_succ_top h _

theorem firstDay_add_one (year : Int) : firstDay (year + 1) = firstDay year + yearLength year := by
  rcases Int.lt_or_le year 1970 with hbefore | hafter
  · obtain ⟨n, hn⟩ := Int.eq_ofNat_of_zero_le (by omega : 0 ≤ 1969 - year)
    have hyear : 1969 - (n : Int) = year := by omega
    have hsince : (year + 1 - 1970).toNat = 0 ∧ (year - 1970).toNat = 0 := by omega
    have hto : (1970 - (year + 1)).toNat = n ∧ (1970 - year).toNat = n + 1 := by omega
    rw [firstDay, firstDay, hsince.1, hsince.2, hto.1, hto.2, Finset.sum_range_succ, hyear]
    omega
  · obtain ⟨n, hn⟩ := Int.eq_ofNat_of_zero_le (by omega : 0 ≤ year - 1970)
    have hyear : 1970 + (n : Int) = year := by omega
    have hsince : (year + 1 - 1970).toNat = n + 1 ∧ (year - 1970).toNat = n := by omega
    have hto : (1970 - (year + 1)).toNat = 0 ∧ (1970 - year).toNat = 0 := by omega
    rw [firstDay, firstDay, hsince.1, hsince.2, hto.1, hto.2, Finset.sum_range_succ, hyear]
    omega

/-- A year begins as many days after 1970 as 365 to a year make, and one more for each leap year. -/
theorem firstDay_eq (year : Int) :
    firstDay year =
      365 * (year - 1970) + (year - 1) / 4 - (year - 1) / 100 + (year - 1) / 400 - 477 := by
  induction year using Int.inductionOn' with
  | b => exact 1970
  | zero => rfl
  | succ year _ ih =>
      rw [firstDay_add_one, ih, yearLength_eq]
      omega
  | pred year _ ih =>
      have hnext := firstDay_add_one (year - 1)
      rw [sub_add_cancel, ih, yearLength_eq] at hnext
      omega

/-! ## Years that begin in March -/

/-- The first of March of a year, counted from the start of 1970. -/
def firstMarch (year : Int) : Int :=
  firstDay year + daysBefore year 3

/-- From March on, months take turns of 153 days in five. -/
theorem daysBefore_of_march (year : Int) {month : Nat} (h : 3 ≤ month ∧ month ≤ 13) :
    daysBefore year month = daysBefore year 3 + (153 * (month - 3) + 2) / 5 := by
  obtain ⟨hmarch, hend⟩ := h
  rw [daysBefore, daysBefore, ← Finset.sum_Ico_consecutive _ (by omega : 1 ≤ 3) hmarch]
  congr 1
  interval_cases month <;> simp [Finset.sum_Ico_succ_top, monthLength]

/-- The year after begins 306 days later. -/
theorem firstMarch_eq_sub (year : Int) : firstMarch year = firstDay (year + 1) - 306 := by
  have hyear : daysBefore year 13 = daysBefore year 3 + 306 :=
    daysBefore_of_march year (by decide)
  rw [firstMarch, firstDay_add_one, yearLength, hyear]
  omega

theorem firstMarch_eq (year : Int) :
    firstMarch year = 365 * year + year / 4 - year / 100 + year / 400 - epochDays := by
  rw [firstMarch_eq_sub, firstDay_eq, epochDays]
  omega

/-- The date of a day of a year that begins in March. -/
def ofMarch (year : Int) (dayOfYear : Nat) : Date :=
  let fromMarch := (5 * dayOfYear + 2) / 153
  let month := if fromMarch < 10 then fromMarch + 3 else fromMarch - 9
  { year := year + (if month ≤ 2 then 1 else 0)
    month := month
    day := dayOfYear - (153 * fromMarch + 2) / 5 + 1 }

/-- In a year from March on, the date of a day that is in it is the date of that day. -/
theorem ofMarch_exact {year : Int} {dayOfYear : Nat}
    (h : firstMarch year + dayOfYear < firstMarch (year + 1)) :
    (ofMarch year dayOfYear).Exists ∧
      (ofMarch year dayOfYear).dayCount = firstMarch year + dayOfYear := by
  have hmarch : firstMarch year = firstDay year + daysBefore year 3 := rfl
  by_cases hmonth : (5 * dayOfYear + 2) / 153 < 10
  · -- From March to December the month is as long as the turn of 153 days says.
    generalize hfrom : (5 * dayOfYear + 2) / 153 = fromMarch at hmonth
    have hdate : ofMarch year dayOfYear =
        ⟨year, fromMarch + 3, dayOfYear - (153 * fromMarch + 2) / 5 + 1⟩ := by
      simp [ofMarch, hfrom, hmonth]
    have hthis : daysBefore year (fromMarch + 3) =
        daysBefore year 3 + (153 * fromMarch + 2) / 5 := daysBefore_of_march year (by omega)
    have hnext : daysBefore year (fromMarch + 4) =
        daysBefore year 3 + (153 * (fromMarch + 1) + 2) / 5 := daysBefore_of_march year (by omega)
    rw [daysBefore_add_one year (by omega : 1 ≤ fromMarch + 3)] at hnext
    rw [hdate]
    refine ⟨⟨?_, ?_⟩, ?_⟩
    · dsimp only
      omega
    · dsimp only
      omega
    · dsimp only [Date.dayCount]
      omega
  · -- January and February are in the next year, and the last of them ends this one.
    have hlength : monthLength (year + 1) 2 ≤ 29 := by
      rw [monthLength, if_pos rfl]
      split <;> omega
    have hfirst := firstMarch_eq_sub year
    have hlast : firstMarch (year + 1) =
        firstDay (year + 1) + (31 + monthLength (year + 1) 2 : Nat) := rfl
    obtain hjanuary | hfebruary :
        (5 * dayOfYear + 2) / 153 = 10 ∨ (5 * dayOfYear + 2) / 153 = 11 := by omega
    · have hdate : ofMarch year dayOfYear = ⟨year + 1, 1, dayOfYear - 306 + 1⟩ := by
        simp [ofMarch, hjanuary]
      have hthis : daysBefore (year + 1) 1 = 0 := rfl
      have hmonth : monthLength (year + 1) 1 = 31 := rfl
      rw [hdate]
      refine ⟨⟨(by decide : 1 ≤ 1 ∧ 1 ≤ 12), ?_⟩, ?_⟩
      · dsimp only
        omega
      · dsimp only [Date.dayCount]
        omega
    · have hdate : ofMarch year dayOfYear = ⟨year + 1, 2, dayOfYear - 337 + 1⟩ := by
        simp [ofMarch, hfebruary]
      have hthis : daysBefore (year + 1) 2 = 31 := rfl
      rw [hdate]
      refine ⟨⟨(by decide : 1 ≤ 2 ∧ 2 ≤ 12), ?_⟩, ?_⟩
      · dsimp only
        omega
      · dsimp only [Date.dayCount]
        omega

/-! ## Eras -/

/-- The day of an era as if all its years had 365 days: the last day of a leap year counts as the
day before it. -/
def evened (dayOfEra : Nat) : Nat :=
  dayOfEra - dayOfEra / 1460 + dayOfEra / 36524 - dayOfEra / 146096

/-- The day of an era that a year of it begins with. -/
def startOfYear (yearOfEra : Nat) : Nat :=
  365 * yearOfEra + yearOfEra / 4 - yearOfEra / 100

theorem evened_mono {d e : Nat} (h : d ≤ e) : evened d ≤ evened e := by
  have hfour : d - d / 1460 ≤ e - e / 1460 := by omega
  have hcentury : d / 36524 - d / 146096 ≤ e / 36524 - e / 146096 := by omega
  unfold evened
  omega

theorem evened_startOfYear {year : Nat} (hyear : year < 400) :
    evened (startOfYear year) = 365 * year := by
  have hfour : startOfYear year / 1460 = year / 4 := by unfold startOfYear; omega
  have hcentury : startOfYear year / 36524 = year / 100 := by unfold startOfYear; omega
  have hera : startOfYear year / 146096 = 0 := by unfold startOfYear; omega
  rw [evened, hfour, hcentury, hera]
  unfold startOfYear
  omega

theorem evened_lt {year d : Nat} (hyear : year < 400) (h : d < startOfYear year) :
    evened d < 365 * year := by
  have hmono := evened_mono (Nat.le_sub_one_of_lt h)
  have hfour : (startOfYear year - 1) / 1460 = year / 4 := by unfold startOfYear at *; omega
  have hcentury : (startOfYear year - 1) / 36524 = (year - 1) / 100 := by
    unfold startOfYear
    omega
  have hera : (startOfYear year - 1) / 146096 = 0 := by unfold startOfYear; omega
  rw [evened.eq_def (startOfYear year - 1), hfour, hcentury, hera] at hmono
  unfold startOfYear at hmono h
  omega

theorem firstMarch_add_era (year era : Int) :
    firstMarch (year + era * 400) = firstMarch year + eraDays * era := by
  have hfour : (year + era * 400) / 4 = year / 4 + era * 100 := by omega
  have hcentury : (year + era * 400) / 100 = year / 100 + era * 4 := by omega
  have hera : (year + era * 400) / 400 = year / 400 + era := by omega
  rw [firstMarch_eq, firstMarch_eq, hfour, hcentury, hera, eraDays]
  omega

/-- The first of March of a year of the first era. -/
theorem firstMarch_eq_startOfYear {year : Nat} (h : year < 400) :
    firstMarch year = startOfYear year - epochDays := by
  rw [firstMarch_eq, startOfYear]
  omega

/-- A day of an era is in the year that evening its days out says. -/
theorem mem_year_evened {d : Nat} (h : d < 146097) :
    evened d / 365 < 400 ∧ startOfYear (evened d / 365) ≤ d ∧
      (evened d / 365 + 1 < 400 → d < startOfYear (evened d / 365 + 1)) := by
  have hera : evened d ≤ 145999 := evened_mono (Nat.le_sub_one_of_lt h)
  have hyear : evened d / 365 < 400 := by omega
  refine ⟨hyear, ?_, fun hnext => ?_⟩
  · by_contra hbefore
    have hlt := evened_lt hyear (Nat.lt_of_not_le hbefore)
    omega
  · by_contra hafter
    have hle := evened_mono (Nat.le_of_not_lt hafter)
    rw [evened_startOfYear hnext] at hle
    omega

/-! ## Dates -/

/-- A day lies in a year from March on, and its date is the one that it has there. -/
theorem dateOfDay_eq_ofMarch (days : Int) :
    ∃ year dayOfYear, days = firstMarch year + (dayOfYear : Nat) ∧
      days < firstMarch (year + 1) ∧ dateOfDay days = ofMarch year dayOfYear := by
  obtain ⟨dayOfEra, hday⟩ : ∃ d : Nat, (days + epochDays).fmod eraDays = d :=
    Int.eq_ofNat_of_zero_le (Int.fmod_nonneg_of_pos _ (by decide))
  have hlt : dayOfEra < 146097 := by
    have hlt := Int.fmod_lt_of_pos (days + epochDays) (by decide : 0 < eraDays)
    rw [hday] at hlt
    exact Int.ofNat_lt.1 hlt
  obtain ⟨hyear, hstart, hend⟩ := mem_year_evened hlt
  have hsplit := Int.mul_fdiv_add_fmod (days + epochDays) eraDays
  have hdate : dateOfDay days =
      ofMarch ((evened dayOfEra / 365 : Nat) + (days + epochDays).fdiv eraDays * 400)
        (dayOfEra - startOfYear (evened dayOfEra / 365)) := by
    simp only [dateOfDay, hday, Int.toNat_natCast]
    rfl
  generalize evened dayOfEra / 365 = yearOfEra at *
  generalize (days + epochDays).fdiv eraDays = era at *
  have hfirst : days =
      firstMarch (yearOfEra + era * 400) + (dayOfEra - startOfYear yearOfEra : Nat) := by
    rw [firstMarch_add_era, firstMarch_eq_startOfYear hyear]
    omega
  have hlast : days < firstMarch (yearOfEra + era * 400 + 1) := by
    rw [add_right_comm, firstMarch_add_era]
    rcases Nat.lt_or_ge (yearOfEra + 1) 400 with hnext | hlast
    · have hlt := hend hnext
      rw [← Nat.cast_add_one, firstMarch_eq_startOfYear hnext]
      omega
    · obtain rfl : yearOfEra = 399 := by omega
      have hnext : firstMarch ((399 : Nat) + 1) = eraDays - epochDays := by
        rw [firstMarch_eq]
        rfl
      rw [hnext]
      unfold eraDays at *
      omega
  exact ⟨_, _, hfirst, hlast, hdate⟩

/-- The date of a day exists, and is that day when counted from the start of 1970. -/
theorem dateOfDay_exact (days : Int) :
    (dateOfDay days).Exists ∧ (dateOfDay days).dayCount = days := by
  obtain ⟨year, dayOfYear, hdays, hlt, hdate⟩ := dateOfDay_eq_ofMarch days
  rw [hdays] at hlt
  rw [hdate, hdays]
  exact ofMarch_exact hlt

theorem firstDay_mono {year later : Int} (h : year ≤ later) : firstDay year ≤ firstDay later := by
  rw [firstDay_eq, firstDay_eq]
  omega

/-- A date that exists lies in its year. -/
theorem Date.Exists.mem_year {d : Date} (h : d.Exists) :
    firstDay d.year ≤ d.dayCount ∧ d.dayCount < firstDay (d.year + 1) := by
  have hmonth : daysBefore d.year (d.month + 1) ≤ daysBefore d.year 13 :=
    Finset.sum_le_sum_of_subset (Finset.Ico_subset_Ico_right (Nat.succ_le_succ h.month.2))
  have hday := h.day
  rw [daysBefore_add_one d.year h.month.1] at hmonth
  rw [firstDay_add_one, yearLength, Date.dayCount]
  omega

theorem monthLength_le (year : Int) (month : Nat) : monthLength year month ≤ 31 := by
  unfold monthLength
  split_ifs <;> decide

/-- The octets a date is told in hold it, if the year fits sixteen bits. -/
theorem Date.Exists.narrowed {d : Date} (h : d.Exists) (hyear : 0 ≤ d.year ∧ d.year ≤ 65535) :
    (⟨(UInt16.ofInt d.year).toNat, (UInt8.ofNat d.month).toNat, (UInt8.ofNat d.day).toNat⟩ : Date) =
      d := by
  obtain ⟨⟨-, hmonth⟩, -, hday⟩ := h
  have hday := hday.trans (monthLength_le _ _)
  obtain ⟨year, month, day⟩ := d
  dsimp only at *
  rw [Date.mk.injEq, UInt16.ofInt, UInt16.toNat_ofNat', UInt8.toNat_ofNat', UInt8.toNat_ofNat']
  omega

/-- The year of a day's date is the one the day is in. -/
theorem year_dateOfDay {days year : Int} (h : firstDay year ≤ days ∧ days < firstDay (year + 1)) :
    (dateOfDay days).year = year := by
  obtain ⟨hexists, hcount⟩ := dateOfDay_exact days
  have hin := hexists.mem_year
  rw [hcount] at hin
  rcases lt_trichotomy (dateOfDay days).year year with hearlier | hsame | hlater
  · exact absurd (hin.2.trans_le (firstDay_mono hearlier)) (Int.not_lt.2 h.1)
  · exact hsame
  · exact absurd (h.2.trans_le (firstDay_mono hlater)) (Int.not_lt.2 hin.1)

end Calendar

/-! ## Local time -/

namespace LocalTime

/-- The date a local time tells. -/
def date (t : LocalTime) : Calendar.Date :=
  ⟨t.year.toNat, t.month.toNat, t.day.toNat⟩

/-- The time of day a local time tells, in milliseconds since midnight. -/
def sinceMidnight (t : LocalTime) : Nat :=
  ((t.hour.toNat * 60 + t.minute.toNat) * 60 + t.second.toNat) * 1000 + t.millisecond.toNat

/-- A clock can show the local time. -/
structure Exists (t : LocalTime) : Prop where
  date : t.date.Exists
  hour : t.hour.toNat < 24
  minute : t.minute.toNat < 60
  second : t.second.toNat < 60
  millisecond : t.millisecond.toNat < 1000

end LocalTime

namespace Calendar

/-- The milliseconds since the start of 1970 that clocks in a zone show. -/
def shown (zone : Zone) (millis : Int) : Int :=
  millis + 1000 * (zone.offset + zone.dst)

theorem shown_split (zone : Zone) (millis : Int) :
    ∃ days : Int, ∃ ofDay : Nat, ofDay < 86400000 ∧
      shown zone millis = days * dayMillis + ofDay ∧
      (localTime zone millis).date =
        ⟨(UInt16.ofInt (dateOfDay days).year).toNat, (UInt8.ofNat (dateOfDay days).month).toNat,
          (UInt8.ofNat (dateOfDay days).day).toNat⟩ ∧
      (localTime zone millis).hour.toNat = ofDay / 3600000 ∧
      (localTime zone millis).minute.toNat = ofDay / 60000 % 60 ∧
      (localTime zone millis).second.toNat = ofDay / 1000 % 60 ∧
      (localTime zone millis).millisecond.toNat = ofDay % 1000 := by
  have hshown : millis + (zone.offset + zone.dst) * 1000 = shown zone millis := by
    rw [shown, mul_comm]
  obtain ⟨ofDay, hofDay⟩ : ∃ ofDay : Nat, (shown zone millis).fmod dayMillis = ofDay :=
    Int.eq_ofNat_of_zero_le (Int.fmod_nonneg_of_pos _ (by decide))
  have hlt := Int.fmod_lt_of_pos (shown zone millis) (by decide : 0 < dayMillis)
  have hsplit := Int.fdiv_mul_add_fmod (shown zone millis) dayMillis
  rw [hofDay] at hlt hsplit
  have hlt : ofDay < 86400000 := Int.ofNat_lt.1 hlt
  refine ⟨_, ofDay, hlt, hsplit.symm, ?_⟩
  simp only [localTime, hshown, hofDay, Int.toNat_natCast, LocalTime.date, UInt8.toNat_ofNat',
    UInt16.toNat_ofNat', true_and]
  omega

/-- A local time whose year fits is one that exists, and counted from the start of 1970 its date and
time of day are the moment it was asked for, moved by the offsets of the zone. -/
theorem localTime_exact (zone : Zone) {millis year : Int} (hyear : 0 ≤ year ∧ year ≤ 65535)
    (hin : firstDay year * dayMillis ≤ shown zone millis ∧
      shown zone millis < firstDay (year + 1) * dayMillis) :
    (localTime zone millis).Exists ∧ (localTime zone millis).date.year = year ∧
      (localTime zone millis).date.dayCount * dayMillis + (localTime zone millis).sinceMidnight =
        millis + 1000 * (zone.offset + zone.dst) := by
  obtain ⟨days, ofDay, hofDay, hsplit, hdate, hhour, hminute, hsecond, hmillisecond⟩ :=
    shown_split zone millis
  rw [hsplit] at hin
  have hyears : (dateOfDay days).year = year := by
    refine year_dateOfDay ?_
    unfold dayMillis at hin
    omega
  obtain ⟨hexists, hcount⟩ := dateOfDay_exact days
  have hkept : (localTime zone millis).date = dateOfDay days :=
    hdate.trans (hexists.narrowed (hyears ▸ hyear))
  refine ⟨?_, ?_, ?_⟩
  · exact
      { date := hkept ▸ hexists
        hour := by omega
        minute := by omega
        second := by omega
        millisecond := by omega }
  · rw [hkept, hyears]
  · have hmidnight : (localTime zone millis).sinceMidnight = ofDay := by
      rw [LocalTime.sinceMidnight]
      omega
    rw [hkept, hcount, hmidnight, ← hsplit, shown]

/-- Before 1970 too: the leap day of 1968, around half past twelve where clocks are two hours
ahead. -/
theorem localTime_leapDay :
    localTime ⟨"EET", 3600, 3600⟩ (-58022703211) =
      ⟨1968, 2, 29, 12, 34, 56, 789, 3600, 3600, "EET"⟩ ∧
    (firstDay 1968 * dayMillis ≤ shown ⟨"EET", 3600, 3600⟩ (-58022703211) ∧
      shown ⟨"EET", 3600, 3600⟩ (-58022703211) < firstDay 1969 * dayMillis) ∧
    (localTime ⟨"EET", 3600, 3600⟩ (-58022703211)).Exists ∧
    (localTime ⟨"EET", 3600, 3600⟩ (-58022703211)).date.year = 1968 ∧
    (localTime ⟨"EET", 3600, 3600⟩ (-58022703211)).date.dayCount * dayMillis +
        (localTime ⟨"EET", 3600, 3600⟩ (-58022703211)).sinceMidnight =
      -58022703211 + 1000 * (3600 + 3600) := by
  have hyear : (0 : Int) ≤ 1968 ∧ (1968 : Int) ≤ 65535 := by decide
  have hin : firstDay 1968 * dayMillis ≤ shown ⟨"EET", 3600, 3600⟩ (-58022703211) ∧
      shown ⟨"EET", 3600, 3600⟩ (-58022703211) < firstDay (1968 + 1) * dayMillis := by
    decide +kernel
  exact ⟨by decide +kernel, hin, localTime_exact ⟨"EET", 3600, 3600⟩ hyear hin⟩

end Calendar

end WatchLink
