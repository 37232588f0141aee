import Mathlib

/-!
# The proleptic Gregorian calendar

Lengths of months and years, and the number of a day counted from the first day of a given
year. Counting has a closed form, and it orders the valid dates as year, month and day do.
-/

namespace QuipNet.Library.Gregorian

def IsLeap (year : ℤ) : Prop := 4 ∣ year ∧ (100 ∣ year → 400 ∣ year)

instance (year : ℤ) : Decidable (IsLeap year) := inferInstanceAs (Decidable (_ ∧ _))

def yearLength (year : ℤ) : ℕ := if IsLeap year then 366 else 365

def monthLength (year : ℤ) : ℕ → ℕ
  | 2 => if IsLeap year then 29 else 28
  | 4 | 6 | 9 | 11 => 30
  | _ => 31

def daysBeforeYear (first year : ℤ) : ℕ :=
  ∑ i ∈ Finset.range (year - first).toNat, yearLength (first + i)

def daysBeforeMonth (year : ℤ) (month : ℕ) : ℕ := ∑ m ∈ Finset.Ico 1 month, monthLength year m

/-- Days from the first day of `first` to the given one. -/
def dayNumber (first year : ℤ) (month day : ℕ) : ℕ :=
  daysBeforeYear first year + daysBeforeMonth year month + (day - 1)

structure ValidDate (year : ℤ) (month day : ℕ) : Prop where
  month_pos : 1 ≤ month
  month_le : month ≤ 12
  day_pos : 1 ≤ day
  day_le : day ≤ monthLength year month

/-! ## Counting -/

def leapsUpTo (year : ℤ) : ℤ := year / 4 - year / 100 + year / 400

theorem yearLength_eq (year : ℤ) :
    (yearLength year : ℤ) = 365 + leapsUpTo year - leapsUpTo (year - 1) := by
  unfold yearLength leapsUpTo
  split_ifs with hleap <;> unfold IsLeap at hleap <;> push_cast <;> omega

theorem daysBeforeYear_succ {first year : ℤ} (h : first ≤ year) :
    daysBeforeYear first (year + 1) = daysBeforeYear first year + yearLength year := by
  have hcount : (year + 1 - first).toNat = (year - first).toNat + 1 := by omega
  have hlast : first + ((year - first).toNat : ℤ) = year := by omega
  rw [daysBeforeYear, hcount, Finset.sum_range_succ, hlast, daysBeforeYear]

theorem daysBeforeYear_eq {first year : ℤ} (h : first ≤ year) :
    (daysBeforeYear first year : ℤ) =
      365 * (year - first) + leapsUpTo (year - 1) - leapsUpTo (first - 1) := by
  induction year, h using Int.leInduction with
  | base => simp [daysBeforeYear]
  | succ year hyear ih =>
    rw [daysBeforeYear_succ hyear, Nat.cast_add, ih, yearLength_eq, add_sub_cancel_right]
    ring

theorem daysBeforeYear_mono (first : ℤ) {year year' : ℤ} (h : year ≤ year') :
    daysBeforeYear first year ≤ daysBeforeYear first year' :=
  Finset.sum_le_sum_of_subset (Finset.range_mono (by omega))

theorem daysBeforeMonth_succ (year : ℤ) {month : ℕ} (h : 1 ≤ month) :
    daysBeforeMonth year (month + 1) = daysBeforeMonth year month + monthLength year month :=
  Finset.sum_Ico_succ_top h _

theorem daysBeforeMonth_mono (year : ℤ) {month month' : ℕ} (h : month ≤ month') :
    daysBeforeMonth year month ≤ daysBeforeMonth year month' :=
  Finset.sum_le_sum_of_subset (Finset.Ico_subset_Ico_right h)

theorem monthLength_le (year : ℤ) (month : ℕ) : monthLength year month ≤ 31 := by
  unfold monthLength
  split
  · split_ifs <;> decide
  all_goals decide

theorem daysBeforeMonth_thirteen (year : ℤ) : daysBeforeMonth year 13 = yearLength year := by
  unfold daysBeforeMonth yearLength
  simp only [Finset.sum_Ico_eq_sum_range, Finset.sum_range_succ, monthLength]
  split_ifs <;> rfl

/-! ## The order of the days -/

section Order
variable {first year year' : ℤ} {month month' day day' : ℕ}

theorem ValidDate.dayOfYear_lt (h : ValidDate year month day) :
    daysBeforeMonth year month + (day - 1) < yearLength year := by
  have hmonth := daysBeforeMonth_succ year h.month_pos
  have hyear := daysBeforeMonth_mono year (Nat.add_le_add_right h.month_le 1)
  rw [daysBeforeMonth_thirteen] at hyear
  have hday := h.day_pos
  have hlength := h.day_le
  omega

theorem dayNumber_lt_of_year_lt (h : ValidDate year month day) (hfirst : first ≤ year)
    (hyear : year < year') : dayNumber first year month day < daysBeforeYear first year' := by
  have hday := h.dayOfYear_lt
  have hnext := daysBeforeYear_succ hfirst
  have hlater := daysBeforeYear_mono first (Int.add_one_le_iff.2 hyear)
  unfold dayNumber
  omega

theorem dayNumber_lt_of_month_lt (h : ValidDate year month day) (hmonth : month < month') :
    dayNumber first year month day < dayNumber first year month' day' := by
  have hnext := daysBeforeMonth_succ year h.month_pos
  have hlater : daysBeforeMonth year (month + 1) ≤ daysBeforeMonth year month' :=
    daysBeforeMonth_mono year hmonth
  have hday := h.day_pos
  have hlength := h.day_le
  unfold dayNumber
  omega

theorem dayNumber_lt_of_lt (h : ValidDate year month day) (hfirst : first ≤ year)
    (hlt : toLex (year, toLex (month, day)) < toLex (year', toLex (month', day'))) :
    dayNumber first year month day < dayNumber first year' month' day' := by
  simp only [Prod.Lex.toLex_lt_toLex] at hlt
  rcases hlt with hyear | ⟨rfl, hmonth | ⟨rfl, hday⟩⟩
  · have hbefore := dayNumber_lt_of_year_lt h hfirst hyear
    unfold dayNumber at hbefore ⊢
    omega
  · exact dayNumber_lt_of_month_lt h hmonth
  · have hpos := h.day_pos
    unfold dayNumber
    omega

theorem lt_of_dayNumber_lt (h : ValidDate year month day) (h' : ValidDate year' month' day')
    (hfirst : first ≤ year') (hlt : dayNumber first year month day < dayNumber first year' month' day') :
    toLex (year, toLex (month, day)) < toLex (year', toLex (month', day')) := by
  by_contra hge
  rcases eq_or_lt_of_le (not_lt.1 hge) with heq | hgt
  · simp only [toLex_inj, Prod.mk.injEq] at heq
    obtain ⟨rfl, rfl, rfl⟩ := heq
    exact lt_irrefl _ hlt
  · exact lt_asymm hlt (dayNumber_lt_of_lt h' hfirst hgt)

end Order

/-! ## Years that begin in March -/

/-- The date of the day that comes `day` days after the first of March of `year`. -/
def ofMarchDay (year : ℤ) (day : ℕ) : ℤ × ℕ × ℕ :=
  let months := (5 * day + 2) / 153
  (if months < 10 then year else year + 1, if months < 10 then months + 3 else months - 9,
    day - (153 * months + 2) / 5 + 1)

theorem monthLength_march (year : ℤ) {months : ℕ} (h : months < 10) :
    (153 * months + 2) / 5 + monthLength year (months + 3) = (153 * (months + 1) + 2) / 5 := by
  interval_cases months <;> rfl

theorem daysBeforeMonth_march (year : ℤ) {months : ℕ} (h : months < 10) :
    daysBeforeMonth year (months + 3) + 306 = yearLength year + (153 * months + 2) / 5 := by
  induction months with
  | zero =>
    simp only [daysBeforeMonth, Finset.sum_Ico_eq_sum_range, Finset.sum_range_succ, monthLength,
      yearLength]
    split_ifs <;> rfl
  | succ months ih =>
    have hlength := monthLength_march year (Nat.lt_of_succ_lt h)
    have hnext : daysBeforeMonth year (months + 1 + 3) =
        daysBeforeMonth year (months + 3) + monthLength year (months + 3) :=
      daysBeforeMonth_succ year (Nat.le_add_left 1 (months + 2))
    have hbefore := ih (Nat.lt_of_succ_lt h)
    omega

theorem ofMarchDay_spec {first year : ℤ} {day : ℕ} (hday : day ≤ 365)
    (hleap : day = 365 → IsLeap (year + 1)) (hfirst : first ≤ (ofMarchDay year day).1) :
    ValidDate (ofMarchDay year day).1 (ofMarchDay year day).2.1 (ofMarchDay year day).2.2 ∧
      dayNumber first (ofMarchDay year day).1 (ofMarchDay year day).2.1 (ofMarchDay year day).2.2 + 306 =
        daysBeforeYear first (year + 1) + day := by
  unfold ofMarchDay at hfirst ⊢
  obtain ⟨months, hmonths⟩ : ∃ months, (5 * day + 2) / 153 = months := ⟨_, rfl⟩
  simp only [hmonths] at hfirst ⊢
  have hlow : (153 * months + 2) / 5 ≤ day := by omega
  have hhigh : day < (153 * (months + 1) + 2) / 5 := by omega
  by_cases hspring : months < 10
  · simp only [hspring, if_true] at hfirst ⊢
    have hlength := monthLength_march year hspring
    have hbefore := daysBeforeMonth_march year hspring
    have hyear := daysBeforeYear_succ hfirst
    refine ⟨⟨by omega, by omega, by omega, by omega⟩, ?_⟩
    unfold dayNumber
    omega
  · simp only [hspring, if_false] at hfirst ⊢
    have hwinter : months = 10 ∨ months = 11 := by omega
    rcases hwinter with rfl | rfl
    · refine ⟨⟨by decide, by decide, by omega, by change _ ≤ 31; omega⟩, ?_⟩
      have hjanuary : daysBeforeMonth (year + 1) 1 = 0 := rfl
      change _ + daysBeforeMonth (year + 1) 1 + _ + 306 = _
      omega
    · have hfebruary : daysBeforeMonth (year + 1) 2 = 31 := rfl
      refine ⟨⟨by decide, by decide, by omega, ?_⟩, ?_⟩
      · change _ ≤ if IsLeap (year + 1) then 29 else 28
        split_ifs with hyear
        · omega
        · have hshort : day ≠ 365 := fun h => hyear (hleap h)
          omega
      · change _ + daysBeforeMonth (year + 1) 2 + _ + 306 = _
        omega

/-- A day of the 400 years, in centuries, groups of four years and years; a group whose last year
is leap has one day more than four common years. -/
theorem exists_cycle_parts {cycleDay : ℤ} (hpos : 0 ≤ cycleDay) (hlt : cycleDay < 146097) :
    ∃ (centuries groups years : ℤ) (day : ℕ), 0 ≤ centuries ∧ centuries ≤ 3 ∧ 0 ≤ groups ∧
      groups ≤ 24 ∧ 0 ≤ years ∧ years ≤ 3 ∧ day ≤ 365 ∧
      (day = 365 → years = 3 ∧ (groups = 24 → centuries = 3)) ∧
      cycleDay = 36524 * centuries + 1461 * groups + 365 * years + day := by
  obtain ⟨centuries, inCentury, hcenturies⟩ : ∃ centuries inCentury : ℤ, 0 ≤ centuries ∧
      centuries ≤ 3 ∧ 0 ≤ inCentury ∧ inCentury ≤ 36524 ∧ (inCentury = 36524 → centuries = 3) ∧
      cycleDay = 36524 * centuries + inCentury := by
    by_cases hlast : cycleDay = 146096
    · exact ⟨3, 36524, by omega⟩
    · exact ⟨cycleDay / 36524, cycleDay % 36524, by omega⟩
  obtain ⟨groups, inGroup, hgroups⟩ : ∃ groups inGroup : ℤ, 0 ≤ groups ∧ groups ≤ 24 ∧
      0 ≤ inGroup ∧ inGroup ≤ 1460 ∧ (inGroup = 1460 → groups = 24 → centuries = 3) ∧
      inCentury = 1461 * groups + inGroup :=
    ⟨inCentury / 1461, inCentury % 1461, by omega⟩
  by_cases hlast : inGroup = 1460
  · exact ⟨centuries, groups, 3, 365, by omega⟩
  · exact ⟨centuries, groups, inGroup / 365, (inGroup % 365).toNat, by omega⟩

end QuipNet.Library.Gregorian
