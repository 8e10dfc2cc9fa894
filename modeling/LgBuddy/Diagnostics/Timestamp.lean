import LgBuddy.Machine.Gregorian
import LgBuddy.Text.Decimal
import Mathlib.Data.Int.ConditionallyCompleteOrder
import Mathlib.Data.Nat.Digits.Defs
import Mathlib.Order.Monotone.Basic
import Mathlib.Tactic.IntervalCases

/-!
# LgBuddy — UTC timestamps of the diagnostics report

`diagnostics/report.rs`: the conversion of seconds to a date and a time of day.

* `I128.checked` — a value of `i128`; none is an overflow;
* `civilFromDays`, `formatUtcTimestamp` — the conversion and the text;
* `yearOfEra_spec`, `monthOfYear_spec` — the two divisions, the year in its era and the day in a
  year that starts in March;
* `civilFromDays_spec` — the date of a day, without overflow;
* `utcTimestamps` — the text is that of the one time so far from 1970, and keeps the order.
-/

namespace LgBuddy

open Gregorian

/-! ## The conversion -/

def I128.checked (value : Int) : Option Int :=
  if -2 ^ 127 ≤ value ∧ value < 2 ^ 127 then some value else none

open I128 (checked)

def SECONDS_PER_DAY : Nat := 86400

/-- The year of a day in its era of 400 years, and the day of that year. -/
def yearAndDay (dayOfEra : Int) : Option (Int × Int) := do
  let withoutLeap ← checked (dayOfEra - (← checked (dayOfEra.tdiv 1460)))
  let withCentury ← checked (withoutLeap + (← checked (dayOfEra.tdiv 36524)))
  let withEra ← checked (withCentury - (← checked (dayOfEra.tdiv 146096)))
  let yearOfEra ← checked (withEra.tdiv 365)
  let yearDays ← checked ((← checked (365 * yearOfEra)) + (← checked (yearOfEra.tdiv 4)))
  let yearStart ← checked (yearDays - (← checked (yearOfEra.tdiv 100)))
  return (yearOfEra, ← checked (dayOfEra - yearStart))

/-- The month and the day of a day in a year that starts in March. -/
def monthAndDay (dayOfYear : Int) : Option (Int × Int) := do
  let monthPart ← checked (Int.tdiv (← checked ((← checked (5 * dayOfYear)) + 2)) 153)
  let monthStart ← checked (Int.tdiv (← checked ((← checked (153 * monthPart)) + 2)) 5)
  let day ← checked ((← checked (dayOfYear - monthStart)) + 1)
  let month ← checked (monthPart + if monthPart < 10 then 3 else -9)
  return (month, day)

/-- Gregorian civil date conversion, using only integer arithmetic: year, month and day. -/
def civilFromDays (days : Nat) : Option (Int × Int × Int) := do
  let z ← checked (days + 719468)
  let era ← checked (Int.tdiv (← if 0 ≤ z then some z else checked (z - 146096)) 146097)
  let dayOfEra ← checked (z - (← checked (era * 146097)))
  let (yearOfEra, dayOfYear) ← yearAndDay dayOfEra
  let year ← checked (yearOfEra + (← checked (era * 400)))
  let (month, day) ← monthAndDay dayOfYear
  let year ← checked (year + if month ≤ 2 then 1 else 0)
  return (year, month, day)

/-- An integer with leading zeros, as `{:0width}` writes it. -/
def padded (width : Nat) (value : Int) : Text :=
  let sign : Text := if value < 0 then ['-'] else []
  let digits := Nat.toDigits 10 value.natAbs
  sign ++ List.replicate (width - sign.length - digits.length) '0' ++ digits

/-- `{year:04}-{month:02}-{day:02}T{hour:02}:{minute:02}:{second:02}Z`. -/
def stampText (year month day hour minute second : Int) : Text :=
  padded 4 year ++ '-' :: (padded 2 month ++ '-' :: (padded 2 day ++ 'T' :: (padded 2 hour
    ++ ':' :: (padded 2 minute ++ ':' :: (padded 2 second ++ ['Z'])))))

def formatUtcTimestamp (seconds : UInt64) : Option Text := do
  let days := seconds.toNat / SECONDS_PER_DAY
  let daySeconds := seconds.toNat % SECONDS_PER_DAY
  let (year, month, day) ← civilFromDays days
  let hour := daySeconds / 3600
  let minute := daySeconds % 3600 / 60
  let second := daySeconds % 60
  return stampText year month day hour minute second

/-! ## The year in its era -/

/-- A day of an era less the leap days before it. -/
def withoutLeapDays (dayOfEra : Nat) : Int :=
  dayOfEra - dayOfEra / 1460 + dayOfEra / 36524 - dayOfEra / 146096

/-- The first day of a year that starts in March, in its era. -/
def yearStart (yearOfEra : Nat) : Nat := 365 * yearOfEra + yearOfEra / 4 - yearOfEra / 100

/-- A later day is no earlier without its leap days. -/
theorem withoutLeapDays_mono : Monotone withoutLeapDays := by
  apply monotone_nat_of_le_succ
  intro day
  -- four centuries end on the last day of the era
  have hera : ((day + 1 : Nat) : Int) / 146096 = ((day + 1 : Nat) : Int) / 36524 / 4 := by omega
  have hera' : (day : Int) / 146096 = (day : Int) / 36524 / 4 := by omega
  unfold withoutLeapDays
  omega

/-- The first and the last day of each year. -/
theorem withoutLeapDays_bounds : ∀ year : Nat, year < 400 →
    365 * (year : Int) ≤ withoutLeapDays (yearStart year)
      ∧ (year ≠ 0 → withoutLeapDays (yearStart year - 1) < 365 * year) := by
  decide +kernel

/-- The last day of the era is in its last year. -/
theorem withoutLeapDays_last : withoutLeapDays 146096 < 365 * 400 := by decide

/-- The year found is the one the day of the era falls in. -/
theorem yearOfEra_spec {dayOfEra yearOfEra : Nat} (h : dayOfEra < 146097)
    (hyear : (yearOfEra : Int) = withoutLeapDays dayOfEra / 365) :
    yearOfEra < 400 ∧ yearStart yearOfEra ≤ dayOfEra
      ∧ (yearOfEra ≠ 399 → dayOfEra < yearStart (yearOfEra + 1)) := by
  have hlast : withoutLeapDays dayOfEra ≤ withoutLeapDays 146096 :=
    withoutLeapDays_mono (by omega)
  have hbound := withoutLeapDays_last
  have hlt : yearOfEra < 400 := by omega
  refine ⟨hlt, ?_, fun hne => ?_⟩
  · by_contra hbefore
    have hpos : yearOfEra ≠ 0 := by
      rintro rfl
      exact hbefore (Nat.zero_le _)
    have hend := (withoutLeapDays_bounds yearOfEra hlt).2 hpos
    have hmono : withoutLeapDays dayOfEra ≤ withoutLeapDays (yearStart yearOfEra - 1) :=
      withoutLeapDays_mono (by omega)
    omega
  · by_contra hbehind
    have hstart := (withoutLeapDays_bounds (yearOfEra + 1) (by omega)).1
    have hmono : withoutLeapDays (yearStart (yearOfEra + 1)) ≤ withoutLeapDays dayOfEra :=
      withoutLeapDays_mono (by omega)
    omega

/-! ## The day in a year from March -/

/-- The date of a day of the year that starts in March of `year`. -/
def marchDate (year : Int) (dayOfYear : Nat) : Date :=
  let monthPart := (5 * dayOfYear + 2) / 153
  let month := if monthPart < 10 then monthPart + 3 else monthPart - 9
  { year := year + if month ≤ 2 then 1 else 0
    month
    day := dayOfYear - (153 * monthPart + 2) / 5 + 1 }

/-- The day of a March year is a valid date, and the day of the epoch it stands for. -/
theorem monthOfYear_spec {year : Int} {dayOfYear : Nat} (h : dayOfYear < 366)
    (hleap : dayOfYear = 365 → IsLeap (year + 1)) :
    (marchDate year dayOfYear).Valid
      ∧ (marchDate year dayOfYear).epochDay = daysBeforeYear (year + 1) - 306 + dayOfYear := by
  have hyear := daysBeforeYear_succ year
  obtain ⟨part, hpart⟩ : ∃ part, part = (5 * dayOfYear + 2) / 153 := ⟨_, rfl⟩
  have hle : part ≤ 11 := by omega
  constructor
  · rw [marchDate, ← hpart]
    have hlast : IsLeap (year + 1) ∨ ¬ IsLeap (year + 1) ∧ dayOfYear < 365 := by
      rcases Classical.em (IsLeap (year + 1)) with hnext | hnext
      · exact .inl hnext
      · have hshort : dayOfYear ≠ 365 := fun hday => hnext (hleap hday)
        exact .inr ⟨hnext, by omega⟩
    -- month by month: the day is below the length of the month
    rcases hlast with hnext | ⟨hnext, hday⟩
    all_goals
      interval_cases part
      all_goals
        refine ⟨by simp, by simp, by simp, ?_⟩
        simp [monthLength, hnext]
        omega
  · rw [marchDate, ← hpart]
    rcases yearLength_cases year with ⟨hthis, hlength⟩ | ⟨hthis, hlength⟩
    all_goals
      interval_cases part
      all_goals
        simp only [Date.epochDay, daysBeforeMonth_one, daysBeforeMonth_succ, monthLength, hthis,
          add_zero, Nat.one_le_ofNat, le_refl, Nat.reduceLT, Nat.reduceLeDiff, Nat.reduceAdd,
          Nat.reduceSub, Nat.reduceMul, Nat.reduceDiv, Nat.reduceEqDiff, if_true, if_false,
          or_true, or_false, or_self]
        omega

/-! ## The date of a day -/

/-- A natural number that is computed in `i128`. -/
theorem checked_eq {value : Int} (n : Nat) (hvalue : value = n) (hn : n < 2 ^ 127) :
    checked value = some (n : Int) := by
  rw [checked, hvalue]
  exact if_pos ⟨by omega, by omega⟩

/-- A division of natural numbers that is computed in `i128`. -/
theorem checked_tdiv (n k : Nat) (hn : n < 2 ^ 127) :
    checked ((n : Int).tdiv k) = some ((n / k : Nat) : Int) :=
  checked_eq (n / k) (Int.ofNat_tdiv n k).symm (Nat.lt_of_le_of_lt (Nat.div_le_self n k) hn)

/-- Four hundred years change nothing about leap years. -/
theorem isLeap_era (year era : Nat) :
    IsLeap ((year + era * 400 : Nat) + 1) ↔ IsLeap ((year : Int) + 1) := by
  unfold IsLeap
  omega

/-- The calendar of 400 years repeats. -/
theorem daysBeforeYear_era {yearOfEra : Nat} (h : yearOfEra < 400) (era : Nat) :
    daysBeforeYear ((yearOfEra + era * 400 : Nat) + 1)
      = 146097 * era + yearStart yearOfEra - 719162 := by
  have hleap : yearOfEra / 100 ≤ yearOfEra / 4 := Nat.div_le_div_left (by decide) (by decide)
  have hyear : ((yearOfEra + era * 400 : Nat) : Int) + 1 - 1 = yearOfEra + 400 * era := by omega
  have hfour : ((yearOfEra : Int) + 400 * era) / 4 = (yearOfEra / 4 : Nat) + 100 * era := by omega
  have hcentury : ((yearOfEra : Int) + 400 * era) / 100 = (yearOfEra / 100 : Nat) + 4 * era := by
    omega
  have hera : ((yearOfEra : Int) + 400 * era) / 400 = era := by omega
  rw [daysBeforeYear_eq, hyear, hfour, hcentury, hera, yearStart]
  omega

/-- A year of 366 days ends with a leap day. -/
theorem isLeap_of_long {yearOfEra : Nat} (h : yearStart yearOfEra + 365 < yearStart (yearOfEra + 1)) :
    IsLeap ((yearOfEra : Int) + 1) := by
  have hleap : yearOfEra / 100 ≤ yearOfEra / 4 := Nat.div_le_div_left (by decide) (by decide)
  have hleap' : (yearOfEra + 1) / 100 ≤ (yearOfEra + 1) / 4 :=
    Nat.div_le_div_left (by decide) (by decide)
  unfold yearStart at h
  unfold IsLeap
  omega

/-- A year has at most 366 days. -/
theorem yearStart_succ_le (yearOfEra : Nat) :
    yearStart (yearOfEra + 1) ≤ yearStart yearOfEra + 366 := by
  unfold yearStart
  omega

/-- The date of a day, by divisions. -/
def dateOfDay (days : Nat) : Date :=
  let z := days + 719468
  let dayOfEra := z % 146097
  let yearOfEra := (withoutLeapDays dayOfEra / 365).toNat
  marchDate (yearOfEra + z / 146097 * 400 : Nat) (dayOfEra - yearStart yearOfEra)

/-- **The date of a day.** -/
theorem dateOfDay_spec (days : Nat) :
    (dateOfDay days).Valid ∧ (dateOfDay days).epochDay = days := by
  obtain ⟨era, hera⟩ : ∃ era, era = (days + 719468) / 146097 := ⟨_, rfl⟩
  obtain ⟨dayOfEra, hday⟩ : ∃ day, day = (days + 719468) % 146097 := ⟨_, rfl⟩
  obtain ⟨yearOfEra, hyear⟩ : ∃ year, year = (withoutLeapDays dayOfEra / 365).toNat := ⟨_, rfl⟩
  have hnonneg : 0 ≤ withoutLeapDays dayOfEra := withoutLeapDays_mono (Nat.zero_le dayOfEra)
  have hcast : (yearOfEra : Int) = withoutLeapDays dayOfEra / 365 := by omega
  obtain ⟨hlt, hstart, hend⟩ := yearOfEra_spec (by omega) hcast
  have hlast : yearStart 399 = 145731 := rfl
  have hlong := yearStart_succ_le yearOfEra
  have hdoy : dayOfEra - yearStart yearOfEra < 366 := by
    rcases Nat.lt_or_eq_of_le (Nat.le_of_lt_succ hlt) with hbefore | rfl
    · have hnext := hend (by omega)
      omega
    · omega
  have hleap : dayOfEra - yearStart yearOfEra = 365 →
      IsLeap ((yearOfEra + era * 400 : Nat) + 1) := by
    intro hfull
    rw [isLeap_era]
    rcases Nat.lt_or_eq_of_le (Nat.le_of_lt_succ hlt) with hbefore | rfl
    · have hnext := hend (by omega)
      exact isLeap_of_long (by omega)
    · decide
  obtain ⟨hvalid, hepoch⟩ := monthOfYear_spec hdoy hleap
  rw [daysBeforeYear_era hlt era] at hepoch
  have hdate : dateOfDay days
      = marchDate (yearOfEra + era * 400 : Nat) (dayOfEra - yearStart yearOfEra) := by
    rw [hyear, hday, hera, dateOfDay]
  rw [hdate]
  exact ⟨hvalid, by omega⟩

/-- A sum below the bound is computed without overflow. -/
theorem checked_add (a b : Nat) (h : a + b < 2 ^ 127) :
    checked ((a : Int) + b) = some ((a + b : Nat) : Int) :=
  checked_eq _ (Int.natCast_add a b).symm h

/-- A difference of naturals below the bound is computed without overflow. -/
theorem checked_sub {a b : Nat} (hle : b ≤ a) (ha : a < 2 ^ 127) :
    checked ((a : Int) - b) = some ((a - b : Nat) : Int) :=
  checked_eq _ (Int.natCast_sub hle).symm (Nat.lt_of_le_of_lt (Nat.sub_le a b) ha)

/-- The year in the era, without overflow. -/
theorem yearAndDay_eq {dayOfEra yearOfEra : Nat} (h : dayOfEra < 146097)
    (hyear : (yearOfEra : Int) = withoutLeapDays dayOfEra / 365) :
    yearAndDay dayOfEra
      = some ((yearOfEra : Int), ((dayOfEra - yearStart yearOfEra : Nat) : Int)) := by
  obtain ⟨hlt, hstart, -⟩ := yearOfEra_spec h hyear
  have hcentury : yearOfEra / 100 ≤ yearOfEra / 4 := Nat.div_le_div_left (by decide) (by decide)
  have hleap : dayOfEra / 1460 ≤ dayOfEra := Nat.div_le_self _ _
  have hage : dayOfEra / 146096 ≤ dayOfEra / 36524 := Nat.div_le_div_left (by decide) (by decide)
  obtain ⟨flat, hflat⟩ : ∃ flat,
      flat = dayOfEra - dayOfEra / 1460 + dayOfEra / 36524 - dayOfEra / 146096 := ⟨_, rfl⟩
  have hflat' : withoutLeapDays dayOfEra = flat := by
    unfold withoutLeapDays
    omega
  have hfour : checked ((dayOfEra : Int).tdiv 1460) = some ((dayOfEra / 1460 : Nat) : Int) :=
    checked_tdiv dayOfEra 1460 (by omega)
  have hwithout := checked_sub hleap (by omega)
  have hhundred : checked ((dayOfEra : Int).tdiv 36524) = some ((dayOfEra / 36524 : Nat) : Int) :=
    checked_tdiv dayOfEra 36524 (by omega)
  have hwith := checked_add (dayOfEra - dayOfEra / 1460) (dayOfEra / 36524) (by omega)
  have hend : checked ((dayOfEra : Int).tdiv 146096) = some ((dayOfEra / 146096 : Nat) : Int) :=
    checked_tdiv dayOfEra 146096 (by omega)
  have hall : checked ((dayOfEra - dayOfEra / 1460 + dayOfEra / 36524 : Nat)
      - (dayOfEra / 146096 : Nat)) = some (flat : Int) := by
    rw [hflat]
    exact checked_sub (by omega) (by omega)
  have hyears : checked ((flat : Int).tdiv 365) = some (yearOfEra : Int) :=
    checked_eq _ ((Int.ofNat_tdiv flat 365).symm.trans (by omega)) (by omega)
  have hplain : checked (365 * (yearOfEra : Int)) = some ((365 * yearOfEra : Nat) : Int) :=
    checked_eq _ (by omega) (by omega)
  have hquarter : checked ((yearOfEra : Int).tdiv 4) = some ((yearOfEra / 4 : Nat) : Int) :=
    checked_tdiv yearOfEra 4 (by omega)
  have hsum := checked_add (365 * yearOfEra) (yearOfEra / 4) (by omega)
  have hcenturies : checked ((yearOfEra : Int).tdiv 100) = some ((yearOfEra / 100 : Nat) : Int) :=
    checked_tdiv yearOfEra 100 (by omega)
  have hfirst : checked ((365 * yearOfEra + yearOfEra / 4 : Nat) - (yearOfEra / 100 : Nat))
      = some (yearStart yearOfEra : Int) := checked_sub (by omega) (by omega)
  have hday := checked_sub hstart (by omega)
  simp only [yearAndDay, Option.bind_eq_bind]
  rw [hfour, Option.bind_some, hwithout, Option.bind_some, hhundred, Option.bind_some, hwith,
    Option.bind_some, hend, Option.bind_some, hall, Option.bind_some, hyears, Option.bind_some,
    hplain, Option.bind_some, hquarter, Option.bind_some, hsum, Option.bind_some, hcenturies,
    Option.bind_some, hfirst, Option.bind_some, hday, Option.bind_some, Option.pure_def]

/-- The month and the day, without overflow. -/
theorem monthAndDay_eq {dayOfYear : Nat} (year : Int) (h : dayOfYear < 366) :
    monthAndDay dayOfYear = some (((marchDate year dayOfYear).month : Int),
      ((marchDate year dayOfYear).day : Int)) := by
  obtain ⟨part, hpart⟩ : ∃ part, part = (5 * dayOfYear + 2) / 153 := ⟨_, rfl⟩
  have hstart : (153 * part + 2) / 5 ≤ dayOfYear := by omega
  have hfive : checked (5 * (dayOfYear : Int)) = some ((5 * dayOfYear : Nat) : Int) :=
    checked_eq _ (by omega) (by omega)
  have htwo : checked ((5 * dayOfYear : Nat) + 2) = some ((5 * dayOfYear + 2 : Nat) : Int) :=
    checked_eq _ (by omega) (by omega)
  have hpart' : checked (((5 * dayOfYear + 2 : Nat) : Int).tdiv 153) = some (part : Int) := by
    rw [hpart]
    exact checked_tdiv _ 153 (by omega)
  have hparts : checked (153 * (part : Int)) = some ((153 * part : Nat) : Int) :=
    checked_eq _ (by omega) (by omega)
  have hround : checked ((153 * part : Nat) + 2) = some ((153 * part + 2 : Nat) : Int) :=
    checked_eq _ (by omega) (by omega)
  have hfirst : checked (((153 * part + 2 : Nat) : Int).tdiv 5)
      = some (((153 * part + 2) / 5 : Nat) : Int) := checked_tdiv (153 * part + 2) 5 (by omega)
  have hsince := checked_sub hstart (by omega)
  have hday : checked ((dayOfYear - (153 * part + 2) / 5 : Nat) + 1)
      = some ((dayOfYear - (153 * part + 2) / 5 + 1 : Nat) : Int) :=
    checked_eq _ (by omega) (by omega)
  have hmonth : checked (part + if (part : Int) < 10 then 3 else -9)
      = some ((if part < 10 then part + 3 else part - 9 : Nat) : Int) := by
    apply checked_eq
    · split <;> split <;> omega
    · split <;> omega
  simp only [monthAndDay, marchDate, Option.bind_eq_bind, ← hpart]
  rw [hfive, Option.bind_some, htwo, Option.bind_some, hpart', Option.bind_some, hparts,
    Option.bind_some, hround, Option.bind_some, hfirst, Option.bind_some, hsince,
    Option.bind_some, hday, Option.bind_some, hmonth, Option.bind_some, Option.pure_def]

/-- No step of the conversion overflows. -/
theorem civilFromDays_eq {days : Nat} (h : days < 2 ^ 64) :
    civilFromDays days = some ((dateOfDay days).year, ((dateOfDay days).month : Int),
      ((dateOfDay days).day : Int)) := by
  -- the intermediate values of the code, by name
  obtain ⟨era, hera⟩ : ∃ era, era = (days + 719468) / 146097 := ⟨_, rfl⟩
  obtain ⟨dayOfEra, hday⟩ : ∃ day, day = (days + 719468) % 146097 := ⟨_, rfl⟩
  obtain ⟨yearOfEra, hyear⟩ : ∃ year, year = (withoutLeapDays dayOfEra / 365).toNat := ⟨_, rfl⟩
  obtain ⟨dayOfYear, hdoy⟩ : ∃ day, day = dayOfEra - yearStart yearOfEra := ⟨_, rfl⟩
  have hnonneg : 0 ≤ withoutLeapDays dayOfEra := withoutLeapDays_mono (Nat.zero_le dayOfEra)
  have hcast : (yearOfEra : Int) = withoutLeapDays dayOfEra / 365 := by omega
  obtain ⟨hlt, hstart, hend⟩ := yearOfEra_spec (by omega) hcast
  have hlast : yearStart 399 = 145731 := rfl
  have hlong := yearStart_succ_le yearOfEra
  have hshort : dayOfYear < 366 := by
    rcases Nat.lt_or_eq_of_le (Nat.le_of_lt_succ hlt) with hbefore | rfl
    · have hnext := hend (by omega)
      omega
    · omega
  have hdate : dateOfDay days = marchDate (yearOfEra + era * 400 : Nat) dayOfYear := by
    rw [hdoy, hyear, hday, hera, dateOfDay]
  -- each step of the code is within the bound
  have hz : checked (days + 719468) = some ((days + 719468 : Nat) : Int) :=
    checked_add days 719468 (by omega)
  have hpos : (0 : Int) ≤ (days + 719468 : Nat) := by omega
  have hera' : checked (((days + 719468 : Nat) : Int).tdiv 146097) = some (era : Int) := by
    rw [hera]
    exact checked_tdiv (days + 719468) 146097 (by omega)
  have hbefore : checked (era * 146097) = some ((era * 146097 : Nat) : Int) :=
    checked_eq _ (by omega) (by omega)
  have hday' : checked ((days + 719468 : Nat) - (era * 146097 : Nat)) = some (dayOfEra : Int) :=
    checked_eq _ (by omega) (by omega)
  have hyears := yearAndDay_eq (by omega) hcast
  rw [← hdoy] at hyears
  have heras : checked (era * 400) = some ((era * 400 : Nat) : Int) :=
    checked_eq _ (by omega) (by omega)
  have hmarch := checked_add yearOfEra (era * 400) (by omega)
  have hmonth := monthAndDay_eq (yearOfEra + era * 400 : Nat) hshort
  -- January and February belong to the next calendar year
  have hyear' : checked ((yearOfEra + era * 400 : Nat)
      + if ((marchDate (yearOfEra + era * 400 : Nat) dayOfYear).month : Int) ≤ 2 then 1 else 0)
      = some (marchDate (yearOfEra + era * 400 : Nat) dayOfYear).year := by
    generalize hdate' : marchDate (yearOfEra + era * 400 : Nat) dayOfYear = date
    have hcase : date.year
        = ((yearOfEra + era * 400 + if date.month ≤ 2 then 1 else 0 : Nat) : Int) := by
      rw [← hdate']
      unfold marchDate
      push_cast
      rfl
    rw [hcase]
    apply checked_eq
    · split <;> split <;> omega
    · split <;> omega
  rw [hdate]
  simp only [civilFromDays, Option.bind_eq_bind]
  rw [hz, Option.bind_some, if_pos hpos, Option.bind_some, hera', Option.bind_some, hbefore,
    Option.bind_some, hday', Option.bind_some, hyears, Option.bind_some, heras, Option.bind_some,
    hmarch, Option.bind_some, hmonth, Option.bind_some, hyear', Option.bind_some, Option.pure_def]

/-! ## The time of a second -/

def timeOfSecond (seconds : Nat) : CivilTime where
  toDate := dateOfDay (seconds / SECONDS_PER_DAY)
  hour := seconds % SECONDS_PER_DAY / 3600
  minute := seconds % SECONDS_PER_DAY % 3600 / 60
  second := seconds % SECONDS_PER_DAY % 60

/-- The time of a second is valid, and that second of the epoch. -/
theorem timeOfSecond_spec (seconds : Nat) :
    (timeOfSecond seconds).Valid ∧ (timeOfSecond seconds).epochSecond = seconds := by
  obtain ⟨hvalid, hday⟩ := dateOfDay_spec (seconds / SECONDS_PER_DAY)
  refine ⟨⟨hvalid, ?_, ?_, ?_⟩, ?_⟩
  · show seconds % SECONDS_PER_DAY / 3600 < 24
    unfold SECONDS_PER_DAY
    omega
  · show seconds % SECONDS_PER_DAY % 3600 / 60 < 60
    omega
  · show seconds % SECONDS_PER_DAY % 60 < 60
    omega
  · show 86400 * (dateOfDay (seconds / SECONDS_PER_DAY)).epochDay
      + (3600 * (seconds % SECONDS_PER_DAY / 3600 : Nat)
        + 60 * (seconds % SECONDS_PER_DAY % 3600 / 60 : Nat)
        + (seconds % SECONDS_PER_DAY % 60 : Nat) : Int) = seconds
    rw [hday]
    unfold SECONDS_PER_DAY
    omega

/-- A time as the report prints it. -/
def timeText (time : CivilTime) : Text :=
  stampText time.year time.month time.day time.hour time.minute time.second

/-- No step of the rendering overflows, and its text is that of the time of the second. -/
theorem formatUtcTimestamp_eq (seconds : UInt64) :
    formatUtcTimestamp seconds = some (timeText (timeOfSecond seconds.toNat)) := by
  have hlt : seconds.toNat < 2 ^ 64 := seconds.toNat_lt
  have hdays : seconds.toNat / SECONDS_PER_DAY < 2 ^ 64 :=
    Nat.lt_of_le_of_lt (Nat.div_le_self _ _) hlt
  simp only [formatUtcTimestamp, Option.bind_eq_bind]
  rw [civilFromDays_eq hdays, Option.bind_some, Option.pure_def]
  rfl

/-! ## Text order -/

/-- A natural is padded with zeros and has no sign. -/
theorem padded_natCast (width n : Nat) :
    padded width n = List.replicate (width - (Nat.toDigits 10 n).length) '0'
      ++ Nat.toDigits 10 n := by
  have hsign : ¬ (n : Int) < 0 := by omega
  simp [padded, hsign]

/-- A number that fits is printed with just so many digits. -/
structure PrintsAs (width n : Nat) (text : Text) : Prop where
  length : text.length = width
  digit : ∀ c ∈ text, c.isDigit = true
  value : Decimal.value text = n

/-- A number that fits the width is printed with the width's digits. -/
theorem printsAs_padded {width n : Nat} (hwidth : 0 < width) (h : n < 10 ^ width) :
    PrintsAs width n (padded width n) := by
  have hlength := Nat.toDigits_length 10 n width hwidth h
  rw [padded_natCast]
  refine ⟨?_, fun c hc => ?_, ?_⟩
  · rw [List.length_append, List.length_replicate]
    omega
  · rcases List.mem_append.1 hc with hzero | hdigit
    · rw [List.eq_of_mem_replicate hzero]
      rfl
    · exact (Decimal.canonical_toDigits n).digit c hdigit
  · rw [Decimal.value_zeros, Decimal.value_toDigits]

/-- A lower number comes first, whatever is printed behind. -/
theorem padded_append_lt {width n m : Nat} (hwidth : 0 < width) (hm : m < 10 ^ width)
    (h : n < m) (x y : Text) : padded width n ++ x < padded width m ++ y := by
  have hn := printsAs_padded hwidth (Nat.lt_trans h hm)
  have hm := printsAs_padded hwidth hm
  have hlength := hn.length.trans hm.length.symm
  apply Decimal.append_lt_append hlength
  apply Decimal.lt_of_value_lt hlength hn.digit hm.digit
  rw [hn.value, hm.value]
  exact h

/-- A number in the text that is the same is passed over. -/
theorem cons_append_lt {front x y : Text} (c : Char) (h : x < y) :
    front ++ c :: x < front ++ c :: y :=
  List.append_left_lt (List.cons_lt_cons_iff.2 (.inr ⟨rfl, h⟩))

/-- Of two valid times up to the year 9999 the earlier has the smaller text. -/
theorem timeText_lt {a b : CivilTime} (hb : b.Valid) (hpos : 0 ≤ a.year)
    (hyear : b.year ≤ 9999) (h : a.Before b) : timeText a < timeText b := by
  have hlength (date : Date) : monthLength date.year date.month ≤ 31 := by
    unfold monthLength
    split <;> split <;> omega
  have hmonth := hb.month_le
  have hday := hb.day_le.trans (hlength b.toDate)
  have hhour := hb.hour_lt
  have hminute := hb.minute_lt
  have hsecond := hb.second_lt
  obtain ⟨y, hy⟩ := Int.eq_ofNat_of_zero_le hpos
  have hnonneg : 0 ≤ b.year := by
    rcases h with (hlt | ⟨heq, -⟩) | ⟨heq, -⟩
    · omega
    · omega
    · rw [← heq]
      exact hpos
  obtain ⟨y', hy'⟩ := Int.eq_ofNat_of_zero_le hnonneg
  unfold timeText stampText
  -- the first field in which the times differ decides
  rcases h with (hlt | ⟨heq, hlt | ⟨hmonths, hlt⟩⟩) | ⟨heq, hlt | ⟨hhours, hlt | ⟨hminutes, hlt⟩⟩⟩
  · rw [hy, hy'] at hlt ⊢
    exact padded_append_lt (by decide) (by omega) (by omega) _ _
  · rw [heq]
    exact cons_append_lt _ (padded_append_lt (by decide) (by omega) hlt _ _)
  · rw [heq, hmonths]
    exact cons_append_lt _ (cons_append_lt _ (padded_append_lt (by decide) (by omega) hlt _ _))
  · rw [heq]
    exact cons_append_lt _ (cons_append_lt _ (cons_append_lt _
      (padded_append_lt (by decide) (by omega) hlt _ _)))
  · rw [heq, hhours]
    exact cons_append_lt _ (cons_append_lt _ (cons_append_lt _ (cons_append_lt _
      (padded_append_lt (by decide) (by omega) hlt _ _))))
  · rw [heq, hhours, hminutes]
    exact cons_append_lt _ (cons_append_lt _ (cons_append_lt _ (cons_append_lt _ (cons_append_lt _
      (padded_append_lt (by decide) (by omega) hlt _ _)))))

/-- From 1970 on. -/
theorem year_nonneg {time : CivilTime} {seconds : Nat} (h : time.Valid)
    (hsecond : time.epochSecond = seconds) : 0 ≤ time.year := by
  have hday := (h.toValid).epochDay_lt_year.2
  have hhour := h.hour_lt
  have hminute := h.minute_lt
  have hlast := h.second_lt
  rw [daysBeforeYear_eq] at hday
  unfold CivilTime.epochSecond at hsecond
  omega

/-- **UTC timestamps.** The text is that of the one valid time so far from 1970, no step
overflows, and up to the year 9999 the order of the texts is that of the seconds. -/
theorem utcTimestamps (seconds : UInt64) :
    ∃ time : CivilTime, time.Valid ∧ time.epochSecond = seconds.toNat
      ∧ (∀ other : CivilTime, other.Valid → other.epochSecond = seconds.toNat → other = time)
      ∧ formatUtcTimestamp seconds = some (timeText time)
      ∧ ∀ (later : UInt64) (time' : CivilTime), time'.Valid → time'.epochSecond = later.toNat →
          time.year ≤ 9999 → time'.year ≤ 9999 →
          ∃ text', formatUtcTimestamp later = some text' ∧
            (timeText time < text' ↔ seconds < later) := by
  obtain ⟨hvalid, hsecond⟩ := timeOfSecond_spec seconds.toNat
  refine ⟨timeOfSecond seconds.toNat, hvalid, hsecond, fun other hother hsame => ?_,
    formatUtcTimestamp_eq seconds, fun later time' hvalid' hlater hyear hyear' => ?_⟩
  · exact (CivilTime.epochSecond_inj hother hvalid).1 (hsame.trans hsecond.symm)
  · obtain ⟨htimeOf, hsecondOf⟩ := timeOfSecond_spec later.toNat
    have htime' : timeOfSecond later.toNat = time' :=
      (CivilTime.epochSecond_inj htimeOf hvalid').1 (hsecondOf.trans hlater.symm)
    refine ⟨_, formatUtcTimestamp_eq later, ?_⟩
    rw [htime', UInt64.lt_iff_toNat_lt]
    have hnonneg := year_nonneg hvalid hsecond
    have hnonneg' := year_nonneg hvalid' hlater
    rcases Nat.lt_trichotomy seconds.toNat later.toNat with hlt | heq | hgt
    · have hbefore := (CivilTime.epochSecond_lt_iff hvalid hvalid').1 (by omega)
      exact iff_of_true (timeText_lt hvalid' hnonneg hyear' hbefore) hlt
    · have hsame := (CivilTime.epochSecond_inj hvalid hvalid').1 (by omega)
      rw [hsame, heq]
      exact iff_of_false (List.lt_irrefl _) (Nat.lt_irrefl _)
    · have hbehind := (CivilTime.epochSecond_lt_iff hvalid' hvalid).1 (by omega)
      have htext := timeText_lt hvalid hnonneg' hyear hbehind
      exact iff_of_false (List.lt_asymm htext) (Nat.lt_asymm hgt)

example : (formatUtcTimestamp 951827696).map String.ofList = some "2000-02-29T12:34:56Z" := by
  decide +kernel

end LgBuddy
