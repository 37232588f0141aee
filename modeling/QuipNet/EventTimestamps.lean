import QuipNet.Calendar
import QuipNet.Library.Decimal
import QuipNet.Library.Gregorian

/-!
# The calendar time of an event

`civil_from_days` cuts the days into 400-year cycles that begin in March, finds the year of the
cycle by one rounded quotient, and the month and day by another. Its date is valid and counts back
to the days it was given; two times of four-digit years are ordered as their texts are.
-/

namespace QuipNet.Calendar
open QuipNet.Library QuipNet.Library.Gregorian

def secondsBeforeYear (year : ℤ) : ℕ := 86400 * daysBeforeYear 1970 year

theorem secondsBeforeYear_mono {year year' : ℤ} (h : year ≤ year') :
    secondsBeforeYear year ≤ secondsBeforeYear year' :=
  Nat.mul_le_mul_left 86400 (daysBeforeYear_mono 1970 h)

structure DateTime.Valid (datetime : DateTime) : Prop where
  date : ValidDate datetime.year datetime.month datetime.day
  hour : datetime.hour < 24
  minute : datetime.minute < 60
  second : datetime.second < 60

def DateTime.toUnix (datetime : DateTime) : ℕ :=
  86400 * dayNumber 1970 datetime.year datetime.month datetime.day +
    (3600 * datetime.hour + 60 * datetime.minute + datetime.second)

/-! ## From days to a date -/

theorem yearOfCycle_eq {centuries groups years : ℤ} {day : ℕ} {cycleDay : ℤ}
    (hparts : 0 ≤ centuries ∧ centuries ≤ 3 ∧ 0 ≤ groups ∧ groups ≤ 24 ∧ 0 ≤ years ∧ years ≤ 3 ∧
      day ≤ 365 ∧ (day = 365 → years = 3 ∧ (groups = 24 → centuries = 3)) ∧
      cycleDay = 36524 * centuries + 1461 * groups + 365 * years + day) :
    (cycleDay - cycleDay / 1460 + cycleDay / 36524 - cycleDay / 146096) / 365 =
      100 * centuries + 4 * groups + years := by
  have hcenturies : cycleDay / 36524 - cycleDay / 146096 = centuries := by
    by_cases hlast : cycleDay = 146096
    · omega
    · have hshort : cycleDay < 36524 * centuries + 36524 := by omega
      omega
  have hlow : 25 * centuries + groups ≤ cycleDay / 1460 := by omega
  have hday : cycleDay / 1460 ≤ 25 * centuries + groups + day := by omega
  have hhigh : 25 * centuries + groups + day < cycleDay / 1460 + 365 := by omega
  omega

theorem monthDay_eq (year : ℤ) {day : ℕ} (hday : day ≤ 365) :
    let mp := (5 * (day : ℤ) + 2).tdiv 153
    let month := mp + if mp < 10 then 3 else -9
    (year + if month ≤ 2 then 1 else 0, month.toNat,
      ((day : ℤ) - (153 * mp + 2).tdiv 5 + 1).toNat) = ofMarchDay year day := by
  obtain ⟨months, hmonths⟩ : ∃ months, (5 * day + 2) / 153 = months := ⟨_, rfl⟩
  have hmp : (5 * (day : ℤ) + 2).tdiv 153 = months := by
    rw [Int.tdiv_eq_ediv_of_nonneg (by omega)]
    omega
  have hstart : (153 * (months : ℤ) + 2).tdiv 5 = ((153 * months + 2) / 5 : ℕ) := by
    rw [Int.tdiv_eq_ediv_of_nonneg (by omega)]
    omega
  have hlow : (153 * months + 2) / 5 ≤ day := by omega
  simp only [ofMarchDay, hmonths, hmp, hstart]
  refine Prod.ext ?_ (Prod.ext ?_ ?_) <;> dsimp only
  · split_ifs <;> omega
  · split_ifs <;> omega
  · omega

/-- Day `cycleDay` of a cycle, as the source cuts it: the year of the cycle, and the day of that
year. -/
theorem exists_yearOfCycle {cycleDay : ℤ} (hpos : 0 ≤ cycleDay) (hlt : cycleDay < 146097) :
    ∃ (year : ℤ) (day : ℕ), 0 ≤ year ∧ year < 400 ∧ day ≤ 365 ∧ (day = 365 → IsLeap (year + 1)) ∧
      cycleDay = 365 * year + year / 4 - year / 100 + day ∧
      (cycleDay - cycleDay / 1460 + cycleDay / 36524 - cycleDay / 146096) / 365 = year := by
  obtain ⟨centuries, groups, years, day, hparts⟩ := exists_cycle_parts hpos hlt
  refine ⟨100 * centuries + 4 * groups + years, day, ?_, ?_, hparts.2.2.2.2.2.2.1, ?_, ?_,
    yearOfCycle_eq hparts⟩ <;> clear hpos hlt
  · omega
  · omega
  · unfold IsLeap
    omega
  · omega

theorem leapsUpTo_add_cycles (year cycles : ℤ) (hpos : 0 ≤ year) (hlt : year < 400) :
    leapsUpTo (year + cycles * 400) = 97 * cycles + year / 4 - year / 100 := by
  unfold leapsUpTo
  omega

theorem isLeap_add_cycles {year : ℤ} (h : IsLeap year) (cycles : ℤ) : IsLeap (year + cycles * 400) := by
  unfold IsLeap at h ⊢
  omega

theorem civilFromDays_eq (days : ℕ) : ∃ (year : ℤ) (day : ℕ), day ≤ 365 ∧
    (day = 365 → IsLeap (year + 1)) ∧ (days : ℤ) + 719468 = 365 * year + leapsUpTo year + day ∧
      civilFromDays days =
        (Int.bmod (ofMarchDay year day).1 (2 ^ 32), (ofMarchDay year day).2) := by
  obtain ⟨z, hz⟩ : ∃ z : ℤ, (days : ℤ) + 719468 = z := ⟨_, rfl⟩
  have hpos : 0 ≤ z := by omega
  obtain ⟨doe, hdoe⟩ : ∃ doe : ℤ, z - z / 146097 * 146097 = doe := ⟨_, rfl⟩
  have hcycle : 0 ≤ doe ∧ doe < 146097 := by omega
  obtain ⟨yoe, day, hyoe, hyoe', hday, hleap, hparts, hquotient⟩ :=
    exists_yearOfCycle hcycle.1 hcycle.2
  refine ⟨yoe + z / 146097 * 400, day, hday, ?_, ?_, ?_⟩
  · intro hlast
    rw [add_right_comm]
    exact isLeap_add_cycles (hleap hlast) _
  · rw [leapsUpTo_add_cycles _ _ hyoe hyoe', hz]
    linarith
  · have hdoy : doe - (365 * yoe + yoe / 4 - yoe / 100) = day := by linarith
    have hdividend : 0 ≤ doe - doe / 1460 + doe / 36524 - doe / 146096 := by omega
    rw [← monthDay_eq _ hday, civilFromDays, hz]
    simp only [ge_iff_le, if_pos hpos, Int.tdiv_eq_ediv_of_nonneg hpos, hdoe,
      Int.tdiv_eq_ediv_of_nonneg hcycle.1, Int.tdiv_eq_ediv_of_nonneg hdividend, hquotient,
      Int.tdiv_eq_ediv_of_nonneg hyoe, hdoy]

theorem bmod_of_lt_half (half : ℕ) {x : ℤ} (hpos : 0 ≤ x) (hlt : x < half) :
    Int.bmod x (2 * half) = x := by
  have hmod : x % ((2 * half : ℕ) : ℤ) = x := Int.emod_eq_of_lt hpos (by omega)
  rw [Int.bmod_eq_emod_of_lt (by omega), hmod]

section March
variable {year : ℤ} {day days : ℕ} (hday : day ≤ 365)
  (hdays : (days : ℤ) + 719468 = 365 * year + leapsUpTo year + day)
include hday hdays

theorem le_march_year : 1969 ≤ year := by
  unfold leapsUpTo at hdays
  omega

theorem le_ofMarchDay : 1970 ≤ (ofMarchDay year day).1 := by
  have hyear := le_march_year hday hdays
  unfold ofMarchDay
  dsimp only
  split_ifs with hspring
  · rcases hyear.eq_or_lt with rfl | hlater
    · have hleaps : leapsUpTo 1969 = 477 := by decide
      omega
    · exact hlater
  · omega

theorem march_day_eq : daysBeforeYear 1970 (year + 1) + day = days + 306 := by
  have hyear := le_march_year hday hdays
  have hbefore := daysBeforeYear_eq (Int.add_le_add_right hyear 1)
  have hleaps : leapsUpTo (1969 + 1 - 1) = 477 := by decide
  rw [hleaps, add_sub_cancel_right] at hbefore
  change ((daysBeforeYear 1970 (year + 1) : ℕ) : ℤ) = _ at hbefore
  omega

end March

theorem civilFromDays_spec {days : ℕ} {last : ℤ} (hlast : last ≤ 2 ^ 31)
    (h : days < daysBeforeYear 1970 last) :
    1970 ≤ (civilFromDays days).1 ∧ (civilFromDays days).1 < last ∧
      ValidDate (civilFromDays days).1 (civilFromDays days).2.1 (civilFromDays days).2.2 ∧
      dayNumber 1970 (civilFromDays days).1 (civilFromDays days).2.1 (civilFromDays days).2.2 =
        days := by
  obtain ⟨year, day, hday, hleap, hdays, hcivil⟩ := civilFromDays_eq days
  have hfirst : 1970 ≤ (ofMarchDay year day).1 := le_ofMarchDay hday hdays
  obtain ⟨hvalid, hnumber⟩ := ofMarchDay_spec hday hleap hfirst
  have hcount : dayNumber 1970 (ofMarchDay year day).1 (ofMarchDay year day).2.1
      (ofMarchDay year day).2.2 = days := by
    rw [march_day_eq hday hdays] at hnumber
    exact Nat.add_right_cancel hnumber
  have hyear : (ofMarchDay year day).1 < last := by
    by_contra hlate
    have hbefore := daysBeforeYear_mono 1970 (not_lt.1 hlate)
    unfold dayNumber at hcount
    omega
  have hcast : Int.bmod (ofMarchDay year day).1 (2 ^ 32) = (ofMarchDay year day).1 :=
    bmod_of_lt_half (2 ^ 31) (by omega) (hyear.trans_le hlast)
  rw [hcivil]
  simp only [hcast]
  exact ⟨hfirst, hyear, hvalid, hcount⟩

/-! ## From seconds to a time -/

theorem fromUnix_eq (t : ℕ) : DateTime.fromUnix t =
    ⟨(civilFromDays (t / 86400 : ℕ)).1, (civilFromDays (t / 86400 : ℕ)).2.1,
      (civilFromDays (t / 86400 : ℕ)).2.2, t % 86400 / 3600, t % 86400 % 3600 / 60, t % 86400 % 60⟩ := by
  have hseconds : ((t : ℤ) % 86400).toNat = t % 86400 := by omega
  rw [DateTime.fromUnix, hseconds]
  rfl

theorem fromUnix_spec {t : ℕ} {last : ℤ} (hlast : last ≤ 2 ^ 31) (h : t < secondsBeforeYear last) :
    1970 ≤ (DateTime.fromUnix t).year ∧ (DateTime.fromUnix t).year < last ∧
      (DateTime.fromUnix t).Valid ∧ (DateTime.fromUnix t).toUnix = t := by
  have hdays : t / 86400 < daysBeforeYear 1970 last := Nat.div_lt_of_lt_mul h
  obtain ⟨hfirst, hyear, hdate, hnumber⟩ := civilFromDays_spec hlast hdays
  rw [fromUnix_eq]
  refine ⟨hfirst, hyear, ⟨hdate, ?_, ?_, ?_⟩, ?_⟩
  · dsimp only
    omega
  · dsimp only
    omega
  · dsimp only
    omega
  · unfold DateTime.toUnix
    dsimp only
    omega

theorem DateTime.Valid.dayNumber_eq {datetime : DateTime} (h : datetime.Valid) :
    dayNumber 1970 datetime.year datetime.month datetime.day = datetime.toUnix / 86400 := by
  have hhour := h.hour
  have hminute := h.minute
  have hsecond := h.second
  unfold DateTime.toUnix
  omega

/-! ## The order of the texts -/

def dateChars (year : ℤ) (month day : ℕ) : List Char :=
  fixedDigits 4 year.toNat ++ '-' :: (fixedDigits 2 month ++ '-' :: fixedDigits 2 day)

def timeChars (seconds : ℕ) : List Char :=
  fixedDigits 2 (seconds / 3600) ++ ':' :: (fixedDigits 2 (seconds % 3600 / 60) ++
    ':' :: fixedDigits 2 (seconds % 60))

theorem zeroPadded_toList {width n : ℕ} (hwidth : 0 < width) (hn : n < 10 ^ width) :
    (zeroPadded width n).toList = fixedDigits width n := by
  rw [zeroPadded, String.toList_ofList, Nat.toList_repr, fixedDigits_eq_padded hwidth hn]

theorem dateChars_lt {year year' : ℤ} {month month' day day' : ℕ} (hpos : 0 ≤ year)
    (h' : ValidDate year' month' day') (hyear : year' < 10000)
    (hlt : toLex (year, toLex (month, day)) < toLex (year', toLex (month', day'))) :
    dateChars year month day < dateChars year' month' day' := by
  have hmonth := h'.month_le
  have hday : day' < 10 ^ 2 := (h'.day_le.trans (monthLength_le _ _)).trans_lt (by decide)
  simp only [Prod.Lex.toLex_lt_toLex] at hlt
  refine fixedDigits_append_lt (by omega) '-' (hlt.imp (by omega) ?_)
  rintro ⟨rfl, hrest⟩
  refine ⟨rfl, fixedDigits_append_lt (by omega) '-' (hrest.imp id ?_)⟩
  rintro ⟨rfl, hlast⟩
  exact ⟨rfl, fixedDigits_lt hlast hday⟩

theorem timeChars_lt {seconds seconds' : ℕ} (hlt : seconds < seconds') (h : seconds' < 86400) :
    timeChars seconds < timeChars seconds' := by
  have hhour : seconds / 3600 < seconds' / 3600 ∨ seconds / 3600 = seconds' / 3600 ∧
      (seconds % 3600 / 60 < seconds' % 3600 / 60 ∨ seconds % 3600 / 60 = seconds' % 3600 / 60 ∧
        seconds % 60 < seconds' % 60) := by
    omega
  refine fixedDigits_append_lt (by omega) ':' (hhour.imp id (And.imp id fun hminute => ?_))
  refine fixedDigits_append_lt (by omega) ':' (hminute.imp id (And.imp id fun hsecond => ?_))
  exact fixedDigits_lt hsecond (by omega)

theorem zeroPaddedInt_toList {width : ℕ} {n : ℤ} (hwidth : 0 < width) (hpos : 0 ≤ n)
    (hn : n.toNat < 10 ^ width) : (zeroPaddedInt width n).toList = fixedDigits width n.toNat := by
  have habs : n.natAbs = n.toNat := by omega
  rw [zeroPaddedInt, if_neg (not_lt.2 hpos), habs, zeroPadded_toList hwidth hn]

/-- The cast to `i64` does not wrap. -/
theorem secondsBeforeYear_lt {last : ℤ} (hfirst : 1970 ≤ last) (hlast : last ≤ 2 ^ 31) :
    secondsBeforeYear last < 2 ^ 63 := by
  have hdays := daysBeforeYear_eq hfirst
  unfold leapsUpTo at hdays
  unfold secondsBeforeYear
  omega

theorem iso8601Seconds_toList {t : ℕ} {last : ℤ} (hlast : last ≤ 10000)
    (h : t < secondsBeforeYear last) :
    (iso8601Seconds t).toList =
      dateChars (DateTime.fromUnix t).year (DateTime.fromUnix t).month (DateTime.fromUnix t).day ++
        'T' :: timeChars (t % 86400) := by
  have hbound : last ≤ 2 ^ 31 := hlast.trans (by decide)
  obtain ⟨hfirst, hyear, hvalid, -⟩ := fromUnix_spec hbound h
  have hpos : 0 ≤ (DateTime.fromUnix t).year := le_trans (by decide) hfirst
  have hfour : (DateTime.fromUnix t).year.toNat < 10 ^ 4 :=
    (Int.toNat_lt hpos).2 (hyear.trans_le hlast)
  have hcast : Int.bmod t (2 ^ 64) = t := by
    have hhalf := h.trans (secondsBeforeYear_lt (hfirst.trans hyear.le) hbound)
    have hwidth : 2 ^ 64 = 2 * 2 ^ 63 := by decide
    rw [hwidth]
    exact bmod_of_lt_half (2 ^ 63) (Int.natCast_nonneg t) (Int.ofNat_lt.2 hhalf)
  have hmonth : (DateTime.fromUnix t).month < 10 ^ 2 := hvalid.date.month_le.trans_lt (by decide)
  have hday : (DateTime.fromUnix t).day < 10 ^ 2 :=
    (hvalid.date.day_le.trans (monthLength_le _ _)).trans_lt (by decide)
  have hhour : (DateTime.fromUnix t).hour < 10 ^ 2 := hvalid.hour.trans (by decide)
  have hminute : (DateTime.fromUnix t).minute < 10 ^ 2 := hvalid.minute.trans (by decide)
  have hsecond : (DateTime.fromUnix t).second < 10 ^ 2 := hvalid.second.trans (by decide)
  have htime : timeChars (t % 86400) = fixedDigits 2 (DateTime.fromUnix t).hour ++ ':' ::
      (fixedDigits 2 (DateTime.fromUnix t).minute ++ ':' ::
        fixedDigits 2 (DateTime.fromUnix t).second) := by
    rw [fromUnix_eq, timeChars]
  have htwo : 0 < 2 := by decide
  unfold iso8601Seconds
  rw [hcast]
  simp only [String.toList_append]
  rw [zeroPaddedInt_toList (by decide) hpos hfour, zeroPadded_toList htwo hmonth,
    zeroPadded_toList htwo hday, zeroPadded_toList htwo hhour, zeroPadded_toList htwo hminute,
    zeroPadded_toList htwo hsecond, htime, dateChars]
  have hdash : "-".toList = ['-'] := rfl
  have hcolon : ":".toList = [':'] := rfl
  have htee : "T".toList = ['T'] := rfl
  simp only [hdash, hcolon, htee, List.append_assoc, List.cons_append, List.nil_append]

theorem iso8601Seconds_lt {t₁ t₂ : ℕ} {last : ℤ} (hlast : last ≤ 10000) (hlt : t₁ < t₂)
    (h : t₂ < secondsBeforeYear last) : iso8601Seconds t₁ < iso8601Seconds t₂ := by
  have hbound : last ≤ 2 ^ 31 := hlast.trans (by decide)
  obtain ⟨hfirst₁, -, hvalid₁, hcount₁⟩ := fromUnix_spec hbound (hlt.trans h)
  obtain ⟨hfirst₂, hyear₂, hvalid₂, hcount₂⟩ := fromUnix_spec hbound h
  rw [String.lt_iff, iso8601Seconds_toList hlast (hlt.trans h), iso8601Seconds_toList hlast h]
  rcases (Nat.div_le_div_right hlt.le : t₁ / 86400 ≤ t₂ / 86400).eq_or_lt with hsame | hday
  · have hseconds : t₁ % 86400 < t₂ % 86400 := by omega
    rw [fromUnix_eq t₁, fromUnix_eq t₂, hsame]
    apply List.append_left_lt
    exact List.cons_lt_cons_iff.2 (.inr ⟨rfl, timeChars_lt hseconds (Nat.mod_lt _ (by decide))⟩)
  · have hdays : dayNumber 1970 (DateTime.fromUnix t₁).year (DateTime.fromUnix t₁).month
        (DateTime.fromUnix t₁).day < dayNumber 1970 (DateTime.fromUnix t₂).year
          (DateTime.fromUnix t₂).month (DateTime.fromUnix t₂).day := by
      rwa [hvalid₁.dayNumber_eq, hvalid₂.dayNumber_eq, hcount₁, hcount₂]
    have hdate := lt_of_dayNumber_lt hvalid₁.date hvalid₂.date hfirst₂ hdays
    refine append_lt_append_of_lt (by simp [dateChars]) ?_
    exact dateChars_lt (by omega) hvalid₂.date (hyear₂.trans_le hlast) hdate

/-- Every time whose year fits an `i32` has a valid date and time of day that count back to it, and
the texts of the years up to 9999 are in the order of the times. -/
theorem event_timestamps :
    (∀ t : ℕ, t < secondsBeforeYear (2 ^ 31) →
      (DateTime.fromUnix t).Valid ∧ (DateTime.fromUnix t).toUnix = t) ∧
    ∀ t₁ t₂ : ℕ, t₁ < t₂ → t₂ < secondsBeforeYear 10000 → iso8601Seconds t₁ < iso8601Seconds t₂ :=
  ⟨fun _ ht => (fromUnix_spec le_rfl ht).2.2, fun _ _ hlt h => iso8601Seconds_lt le_rfl hlt h⟩

theorem leap_day_timestamp :
    (DateTime.fromUnix (951825600 : ℕ)).Valid ∧
      (DateTime.fromUnix (951825600 : ℕ)).toUnix = 951825600 ∧
      iso8601Seconds 951825600 < iso8601Seconds 951868800 := by
  have hbefore : 951868800 < secondsBeforeYear 2001 := by decide +kernel
  have hlast : 951868800 < secondsBeforeYear 10000 :=
    hbefore.trans_le (secondsBeforeYear_mono (by decide))
  have hbound : 951825600 < secondsBeforeYear (2 ^ 31) :=
    (by decide : 951825600 < 951868800).trans (hbefore.trans_le (secondsBeforeYear_mono (by decide)))
  obtain ⟨hvalid, hcount⟩ := event_timestamps.1 951825600 hbound
  exact ⟨hvalid, hcount, event_timestamps.2 951825600 951868800 (by decide) hlast⟩

example : iso8601Seconds 951825600 = "2000-02-29T12:00:00" := by decide +kernel

end QuipNet.Calendar
