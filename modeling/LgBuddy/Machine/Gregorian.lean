import Mathlib.Algebra.BigOperators.Intervals
import Mathlib.Algebra.Order.BigOperators.Group.Finset
import Mathlib.Algebra.Order.BigOperators.Group.LocallyFinite
import Mathlib.Data.Int.Interval
import Mathlib.Data.Int.SuccPred

/-!
# The proleptic Gregorian calendar

Dates of all years, before and after the first one, and how far they lie from 1970-01-01. The
distance counts the days of the years and the months between; nothing in its definition divides.

* `IsLeap`, `monthLength`, `yearLength` — the rules;
* `Date.epochDay` — the day of a date, 1970-01-01 being day zero;
* `daysBeforeYear_eq` — the days before a year in closed form;
* `Date.Before`, `epochDay_lt_iff`, `epochDay_inj` — days and dates have one order;
* `CivilTime.epochSecond`, `epochSecond_lt_iff`, `epochSecond_inj` — the same for times of day.
-/

namespace Gregorian

/-! ## The rules -/

def IsLeap (year : Int) : Prop := year % 4 = 0 ∧ (year % 100 ≠ 0 ∨ year % 400 = 0)

instance : DecidablePred IsLeap := fun year =>
  inferInstanceAs (Decidable (year % 4 = 0 ∧ (year % 100 ≠ 0 ∨ year % 400 = 0)))

def monthLength (year : Int) (month : Nat) : Nat :=
  if month = 2 then if IsLeap year then 29 else 28
  else if month = 4 ∨ month = 6 ∨ month = 9 ∨ month = 11 then 30
  else 31

/-- The days of a year before one of its months, of which 13 is past the last. -/
def daysBeforeMonth (year : Int) (month : Nat) : Nat :=
  ∑ k ∈ Finset.Ico 1 month, monthLength year k

def yearLength (year : Int) : Nat := daysBeforeMonth year 13

/-- The years from one to another; the order is the one that can be computed with. -/
abbrev years (first stop : Int) : Finset Int :=
  @Finset.Ico Int instLatticeInt.toSemilatticeInf.toPreorder _ first stop

/-- The days from the start of 1970 to the start of a year, negative before it. -/
def daysBeforeYear (year : Int) : Int :=
  ∑ k ∈ years 1970 year, (yearLength k : Int) - ∑ k ∈ years year 1970, (yearLength k : Int)

structure Date where
  year : Int
  month : Nat
  day : Nat
  deriving DecidableEq, Repr

structure Date.Valid (date : Date) : Prop where
  month_pos : 1 ≤ date.month
  month_le : date.month ≤ 12
  day_pos : 1 ≤ date.day
  day_le : date.day ≤ monthLength date.year date.month

/-- The distance of a date from 1970-01-01, in days. -/
def Date.epochDay (date : Date) : Int :=
  daysBeforeYear date.year + daysBeforeMonth date.year date.month + (date.day - 1)

/-! ## Counting -/

theorem daysBeforeMonth_one (year : Int) : daysBeforeMonth year 1 = 0 := rfl

theorem daysBeforeMonth_succ (year : Int) {month : Nat} (h : 1 ≤ month) :
    daysBeforeMonth year (month + 1) = daysBeforeMonth year month + monthLength year month :=
  Finset.sum_Ico_succ_top h _

theorem daysBeforeMonth_mono (year : Int) {month later : Nat} (h : month ≤ later) :
    daysBeforeMonth year month ≤ daysBeforeMonth year later :=
  Finset.sum_le_sum_of_subset (Finset.Ico_subset_Ico_right h)

theorem yearLength_cases (year : Int) :
    IsLeap year ∧ yearLength year = 366 ∨ ¬ IsLeap year ∧ yearLength year = 365 := by
  unfold yearLength daysBeforeMonth
  by_cases h : IsLeap year
  · exact .inl ⟨h, by simp [Finset.sum_Ico_succ_top, monthLength, h]⟩
  · exact .inr ⟨h, by simp [Finset.sum_Ico_succ_top, monthLength, h]⟩

theorem daysBeforeYear_succ (year : Int) :
    daysBeforeYear (year + 1) = daysBeforeYear year + yearLength year := by
  unfold daysBeforeYear years
  rcases le_or_gt 1970 year with h | h
  · have hempty {y : Int} (hy : 1970 ≤ y) : Finset.Ico y 1970 = ∅ := Finset.Ico_eq_empty (by omega)
    rw [← Finset.sum_Ico_add_eq_sum_Ico_add_one h, hempty h, hempty (by omega), Finset.sum_empty]
    omega
  · have hempty {y : Int} (hy : y ≤ 1970) : Finset.Ico 1970 y = ∅ := Finset.Ico_eq_empty (by omega)
    have hfirst : Finset.Ico year 1970 = insert year (Finset.Ico (year + 1) 1970) := by
      ext k
      simp only [Finset.mem_Ico, Finset.mem_insert]
      omega
    have hnotMem : year ∉ Finset.Ico (year + 1) 1970 := by
      rw [Finset.mem_Ico]
      omega
    rw [hempty (by omega), hempty (by omega), hfirst, Finset.sum_insert hnotMem, Finset.sum_empty]
    omega

/-- The leap days up to a year, counted by divisions. -/
theorem daysBeforeYear_eq (year : Int) :
    daysBeforeYear year = 365 * (year - 1) + (year - 1) / 4 - (year - 1) / 100
      + (year - 1) / 400 - 719162 := by
  -- one year more on both sides
  have hnext (y : Int) : 365 * y + y / 4 - y / 100 + y / 400
      = 365 * (y - 1) + (y - 1) / 4 - (y - 1) / 100 + (y - 1) / 400 + yearLength y := by
    have hlength := yearLength_cases y
    unfold IsLeap at hlength
    omega
  induction year using Int.inductionOn' (b := 1970) with
  | zero => simp [daysBeforeYear]
  | succ year _ ih =>
    rw [daysBeforeYear_succ, ih, Int.add_sub_cancel, hnext year]
    omega
  | pred year _ ih =>
    have hstep := daysBeforeYear_succ (year - 1)
    rw [Int.sub_add_cancel, ih, hnext (year - 1)] at hstep
    omega

theorem daysBeforeYear_mono {year later : Int} (h : year ≤ later) :
    daysBeforeYear year ≤ daysBeforeYear later := by
  rw [daysBeforeYear_eq, daysBeforeYear_eq]
  omega

/-! ## Order -/

/-- The order of dates. -/
def Date.Before (a b : Date) : Prop :=
  a.year < b.year ∨ a.year = b.year ∧ (a.month < b.month ∨ a.month = b.month ∧ a.day < b.day)

namespace Date

theorem Valid.epochDay_lt_year {date : Date} (h : date.Valid) :
    daysBeforeYear date.year ≤ date.epochDay
      ∧ date.epochDay < daysBeforeYear (date.year + 1) := by
  have hmonth := daysBeforeMonth_succ date.year h.month_pos
  have hyear : daysBeforeMonth date.year (date.month + 1) ≤ yearLength date.year :=
    daysBeforeMonth_mono _ (Nat.succ_le_succ h.month_le)
  have hday := h.day_le
  have hpos := h.day_pos
  rw [daysBeforeYear_succ, epochDay]
  omega

theorem epochDay_lt_of_before {a b : Date} (ha : a.Valid) (hb : b.Valid) (h : a.Before b) :
    a.epochDay < b.epochDay := by
  rcases h with hyear | ⟨hyear, hmonth | ⟨hmonth, hday⟩⟩
  · have hnext : daysBeforeYear (a.year + 1) ≤ daysBeforeYear b.year := daysBeforeYear_mono hyear
    have hlast := ha.epochDay_lt_year.2
    have hfirst := hb.epochDay_lt_year.1
    omega
  · have hnext := daysBeforeMonth_succ a.year ha.month_pos
    have hlater := daysBeforeMonth_mono a.year (show a.month + 1 ≤ b.month from hmonth)
    have hday := ha.day_le
    have hpos := hb.day_pos
    rw [epochDay, epochDay, ← hyear]
    omega
  · rw [epochDay, epochDay, ← hyear, ← hmonth]
    omega

theorem before_trichotomy (a b : Date) : a.Before b ∨ a = b ∨ b.Before a := by
  cases a
  cases b
  simp only [Before, Date.mk.injEq]
  omega

/-- Days and dates have one order. -/
theorem epochDay_lt_iff {a b : Date} (ha : a.Valid) (hb : b.Valid) :
    a.epochDay < b.epochDay ↔ a.Before b := by
  refine ⟨fun h => ?_, epochDay_lt_of_before ha hb⟩
  rcases before_trichotomy a b with hbefore | rfl | hbehind
  · exact hbefore
  · omega
  · have hgt := epochDay_lt_of_before hb ha hbehind
    omega

/-- There is one date at most for each day. -/
theorem epochDay_inj {a b : Date} (ha : a.Valid) (hb : b.Valid) :
    a.epochDay = b.epochDay ↔ a = b := by
  refine ⟨fun h => ?_, congrArg epochDay⟩
  rcases before_trichotomy a b with hbefore | heq | hbehind
  · have hlt := epochDay_lt_of_before ha hb hbefore
    omega
  · exact heq
  · have hlt := epochDay_lt_of_before hb ha hbehind
    omega

end Date

/-! ## Times of day -/

structure CivilTime extends Date where
  hour : Nat
  minute : Nat
  second : Nat
  deriving DecidableEq, Repr

structure CivilTime.Valid (time : CivilTime) : Prop extends Date.Valid time.toDate where
  hour_lt : time.hour < 24
  minute_lt : time.minute < 60
  second_lt : time.second < 60

/-- The distance from 1970-01-01T00:00:00Z, in seconds without leap seconds. -/
def CivilTime.epochSecond (time : CivilTime) : Int :=
  86400 * time.epochDay + (3600 * time.hour + 60 * time.minute + time.second)

/-- The order of times. -/
def CivilTime.Before (a b : CivilTime) : Prop :=
  a.toDate.Before b.toDate ∨ a.toDate = b.toDate ∧ (a.hour < b.hour ∨ a.hour = b.hour ∧
    (a.minute < b.minute ∨ a.minute = b.minute ∧ a.second < b.second))

namespace CivilTime

/-- Seconds and times have one order. -/
theorem epochSecond_lt_iff {a b : CivilTime} (ha : a.Valid) (hb : b.Valid) :
    a.epochSecond < b.epochSecond ↔ a.Before b := by
  have hdays := Date.epochDay_lt_iff ha.toValid hb.toValid
  have hsame := Date.epochDay_inj ha.toValid hb.toValid
  have hbounds := And.intro ha.hour_lt (And.intro ha.minute_lt ha.second_lt)
  have hbounds' := And.intro hb.hour_lt (And.intro hb.minute_lt hb.second_lt)
  rw [Before, ← hdays, ← hsame, epochSecond, epochSecond]
  omega

/-- There is one time at most for each second. -/
theorem epochSecond_inj {a b : CivilTime} (ha : a.Valid) (hb : b.Valid) :
    a.epochSecond = b.epochSecond ↔ a = b := by
  refine ⟨fun h => ?_, congrArg epochSecond⟩
  have hbounds := And.intro ha.hour_lt (And.intro ha.minute_lt ha.second_lt)
  have hbounds' := And.intro hb.hour_lt (And.intro hb.minute_lt hb.second_lt)
  unfold epochSecond at h
  have hday : a.epochDay = b.epochDay := by omega
  have hdate : a.toDate = b.toDate := (Date.epochDay_inj ha.toValid hb.toValid).1 hday
  have htime : a.hour = b.hour ∧ a.minute = b.minute ∧ a.second = b.second := by omega
  obtain ⟨hhour, hminute, hsecond⟩ := htime
  cases a
  cases b
  simp_all

end CivilTime

end Gregorian
