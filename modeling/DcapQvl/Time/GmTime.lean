import DcapQvl.Lib.Gregorian
import DcapQvl.Lib.Outcome

/-!
# From seconds to `struct tm`

`timesub` of `AttestationCommons/src/Utils/GMTime.cpp`, loop by loop, with the
overflow checks of the source. An `int` or a `time_t` is an integer: where a
check of the source fails the function returns `NULL`, and what is left stays
within the type.

Results:
* `timesub_eq_ok`: the struct that `timesub` fills is the Gregorian date and time
  of the second, with the day of the week and of the year.
* `timesub_near`: `timesub` does not return `NULL` for a second that is not above
  `2 ^ 50` in absolute value.
-/

namespace DcapQvl

open Lib

/-! ## `struct tm` -/

/-- `struct tm`: `mon` counts from 0, `year` from 1900. -/
structure Tm where
  sec : ℤ
  min : ℤ
  hour : ℤ
  mday : ℤ
  mon : ℤ
  year : ℤ
  wday : ℤ
  yday : ℤ
  isdst : ℤ
deriving DecidableEq, Repr

/-- `struct tm{}`. -/
def Tm.zero : Tm := ⟨0, 0, 0, 0, 0, 0, 0, 0, 0⟩

/-- The date and time that the fields name. -/
def Tm.dateTime (tm : Tm) : DateTime where
  year := tm.year + 1900
  month := tm.mon
  day := tm.mday
  hour := tm.hour
  minute := tm.min
  second := tm.sec

/-- The day of the week of a day, from Sunday; the epoch is a Thursday. -/
def weekday (days : ℤ) : ℤ := (days + 4) % 7

/-- The struct of a second in the Gregorian calendar, without daylight saving. -/
def Tm.ofInstant (t : ℤ) : Tm :=
  let d := DateTime.ofInstant t
  { sec := d.second, min := d.minute, hour := d.hour, mday := d.day, mon := d.month,
    year := d.year - 1900, wday := weekday d.days, yday := d.days - daysBeforeYear d.year,
    isdst := 0 }

@[simp] theorem Tm.dateTime_ofInstant (t : ℤ) : (Tm.ofInstant t).dateTime = DateTime.ofInstant t := by
  unfold Tm.ofInstant Tm.dateTime
  ext <;> simp

/-! ## Leap years -/

/-- `isleap(y)`. -/
def isleap (y : ℤ) : Bool := y.tmod 4 == 0 && (y.tmod 100 != 0 || y.tmod 400 == 0)

/-- `year_lengths[isleap(y)]`. -/
def yearLengths (y : ℤ) : ℤ := if isleap y then 366 else 365

/-- `mon_lengths[isleap(y)]`. -/
def monLengths (y : ℤ) : List ℤ :=
  if isleap y then [31, 29, 31, 30, 31, 30, 31, 31, 30, 31, 30, 31]
  else [31, 28, 31, 30, 31, 30, 31, 31, 30, 31, 30, 31]

/-- `leaps_thru_end_of`. -/
def leapsThruEndOf (y : ℤ) : ℤ :=
  if 0 ≤ y then y.tdiv 4 - y.tdiv 100 + y.tdiv 400 else -(leapsThruEndOf (-(y + 1)) + 1)
termination_by (-y).toNat
decreasing_by omega

theorem tdiv_of_nonpos {a : ℤ} (b : ℤ) (h : a ≤ 0) : a.tdiv b = -(-a / b) := by
  rw [← Int.tdiv_eq_ediv_of_nonneg (by omega), Int.neg_tdiv, neg_neg]

theorem tmod_eq_zero_iff (y n : ℤ) : y.tmod n = 0 ↔ y % n = 0 := by
  rw [← Int.dvd_iff_tmod_eq_zero, Int.dvd_iff_emod_eq_zero]

theorem isleap_iff (y : ℤ) : isleap y = true ↔ IsLeap y := by
  simp [isleap, IsLeap, tmod_eq_zero_iff]

@[simp] theorem yearLengths_eq (y : ℤ) : yearLengths y = yearLength y := by
  unfold yearLengths yearLength
  simp only [isleap_iff]

@[simp] theorem monLengths_eq (y : ℤ) : monLengths y = monthLengths y := by
  unfold monLengths monthLengths
  simp only [isleap_iff]
  split_ifs <;> rfl

theorem leapsThruEndOf_of_nonneg {y : ℤ} (h : 0 ≤ y) : leapsThruEndOf y = leapsThrough y := by
  rw [leapsThruEndOf, if_pos h]
  simp only [Int.tdiv_eq_ediv_of_nonneg h, leapsThrough]

@[simp] theorem leapsThruEndOf_eq (y : ℤ) : leapsThruEndOf y = leapsThrough y := by
  rcases le_or_gt 0 y with h | h
  · exact leapsThruEndOf_of_nonneg h
  · rw [leapsThruEndOf, if_neg (by omega), leapsThruEndOf_of_nonneg (by omega)]
    unfold leapsThrough
    omega

/-! ## `increment_overflow` -/

/-- `INT_MAX`. -/
def intMax : ℤ := 0x7fffffff

/-- `INT_MIN`. -/
def intMin : ℤ := -0x7fffffff - 1

/-- `increment_overflow`: `none` is `TRUE`, else the new value of `*ip`. -/
def incrementOverflow (ip j : ℤ) : Option ℤ :=
  if (if 0 ≤ ip then j > intMax - ip else j < intMin - ip) then none else some (ip + j)

theorem incrementOverflow_eq_some {ip j k : ℤ} (h : incrementOverflow ip j = some k) :
    k = ip + j := by
  unfold incrementOverflow at h
  split_ifs at h <;> simp at h <;> exact h.symm

theorem incrementOverflow_of_bounds {ip j : ℤ} (hmin : intMin ≤ ip + j) (hmax : ip + j ≤ intMax) :
    incrementOverflow ip j = some (ip + j) := by
  unfold incrementOverflow
  split_ifs <;> first | rfl | omega

/-! ## The loop over the years -/

/-- `idelta` in the first loop of `timesub`, once `tdelta` fits. -/
def yearDelta (tdays : ℤ) : ℤ :=
  if tdays.tdiv 366 = 0 then if tdays < 0 then -1 else 1 else tdays.tdiv 366

theorem yearDelta_of_neg {tdays : ℤ} (h : tdays < 0) :
    yearDelta tdays ≤ -1 ∧ (tdays ≤ 366 * yearDelta tdays ∨ yearDelta tdays = -1) := by
  unfold yearDelta
  rw [tdiv_of_nonpos 366 h.le]
  split_ifs <;> omega

theorem yearDelta_of_pos {tdays : ℤ} (h : 0 < tdays) :
    1 ≤ yearDelta tdays ∧ (366 * yearDelta tdays ≤ tdays ∨ yearDelta tdays = 1) := by
  unfold yearDelta
  rw [Int.tdiv_eq_ediv_of_nonneg h.le]
  split_ifs <;> omega

/-- The days left over after moving from year `y` to year `newy`. -/
theorem year_step (y newy tdays : ℤ) :
    tdays - (newy - y) * 365 - (leapsThruEndOf (newy - 1) - leapsThruEndOf (y - 1)) =
      tdays - (daysBeforeYear newy - daysBeforeYear y) := by
  rw [leapsThruEndOf_eq, leapsThruEndOf_eq]
  unfold daysBeforeYear
  omega

/-- A step from a negative number of days goes up, to at most one year. -/
theorem year_step_of_neg {tdays : ℤ} (y : ℤ) (h : tdays < 0) :
    tdays < tdays - (daysBeforeYear (y + yearDelta tdays) - daysBeforeYear y) ∧
      tdays - (daysBeforeYear (y + yearDelta tdays) - daysBeforeYear y) ≤ 365 := by
  obtain ⟨hle, hd⟩ := yearDelta_of_neg h
  obtain ⟨h1, h2⟩ := daysBeforeYear_sub_bounds (show y + yearDelta tdays ≤ y by omega)
  omega

/-- A step from a whole year or more goes down, and not below 0. -/
theorem year_step_of_le {y tdays : ℤ} (h : yearLength y ≤ tdays) :
    0 ≤ tdays - (daysBeforeYear (y + yearDelta tdays) - daysBeforeYear y) ∧
      tdays - (daysBeforeYear (y + yearDelta tdays) - daysBeforeYear y) < tdays := by
  have hlen := (yearLength_bounds y).1
  obtain ⟨hle, hd⟩ := yearDelta_of_pos (show 0 < tdays by omega)
  obtain ⟨h1, h2⟩ := daysBeforeYear_sub_bounds (show y ≤ y + yearDelta tdays by omega)
  refine ⟨?_, by omega⟩
  rcases hd with hd | hd
  · omega
  · rw [hd, daysBeforeYear_succ]
    omega

/-- `while (tdays < 0 || tdays >= year_lengths[isleap(y)])`, on `y` and `tdays`;
    `none` is `return NULL`. -/
def yearLoop (y tdays : ℤ) : Option (ℤ × ℤ) :=
  if tdays < 0 ∨ tdays ≥ yearLengths y then
    if tdays.tdiv 366 > intMax ∨ tdays.tdiv 366 < intMin then none
    else
      match h : incrementOverflow y (yearDelta tdays) with
      | none => none
      | some newy =>
        yearLoop newy
          (tdays - (newy - y) * 365 - (leapsThruEndOf (newy - 1) - leapsThruEndOf (y - 1)))
  else some (y, tdays)
termination_by (if tdays < 0 then 366 - tdays else tdays).toNat
decreasing_by
  rename_i hloop _
  rw [year_step, incrementOverflow_eq_some h]
  rw [yearLengths_eq] at hloop
  rcases hloop with hneg | hle
  · obtain ⟨h1, h2⟩ := year_step_of_neg y hneg
    split_ifs <;> omega
  · obtain ⟨h1, h2⟩ := year_step_of_le hle
    have hlen := (yearLength_bounds y).1
    split_ifs <;> omega

/-- The loop ends in the year that the days lie in. -/
theorem yearLoop_eq_some {y tdays y' tdays' : ℤ} (h : yearLoop y tdays = some (y', tdays')) :
    daysBeforeYear y' + tdays' = daysBeforeYear y + tdays ∧ 0 ≤ tdays' ∧
      tdays' < yearLength y' := by
  fun_induction yearLoop y tdays with
  | case1 y tdays hloop hwide => cases h
  | case2 y tdays hloop hwide hnone => cases h
  | case3 y tdays hloop hwide newy hnewy ih =>
    obtain ⟨hsum, hnonneg, hlt⟩ := ih h
    rw [year_step] at hsum
    exact ⟨by omega, hnonneg, hlt⟩
  | case4 y tdays hloop =>
    cases h
    rw [yearLengths_eq] at hloop
    omega

/-- Days near the epoch lie in years near 1970. -/
theorem year_bounds {y : ℤ} (h : -2 ^ 35 ≤ daysBeforeYear y ∧ daysBeforeYear y ≤ 2 ^ 35) :
    -2 ^ 27 ≤ y ∧ y ≤ 2 ^ 27 := by
  have hepoch : daysBeforeYear 1970 = 0 := by decide
  rcases le_total 1970 y with hy | hy
  · have := (daysBeforeYear_sub_bounds hy).1
    omega
  · have := (daysBeforeYear_sub_bounds hy).1
    omega

/-- The loop does not leave the range of an `int` for days near the epoch. -/
theorem exists_yearLoop {y tdays : ℤ} (htdays : -2 ^ 34 ≤ tdays ∧ tdays ≤ 2 ^ 34)
    (hdays : -2 ^ 34 ≤ daysBeforeYear y + tdays ∧ daysBeforeYear y + tdays ≤ 2 ^ 34) :
    ∃ r, yearLoop y tdays = some r := by
  fun_induction yearLoop y tdays with
  | case1 y tdays hloop hwide =>
    exfalso
    unfold intMax intMin at hwide
    rcases le_total 0 tdays with h | h
    · rw [Int.tdiv_eq_ediv_of_nonneg h] at hwide
      omega
    · rw [tdiv_of_nonpos 366 h] at hwide
      omega
  | case2 y tdays hloop hwide hnone =>
    exfalso
    have hy := year_bounds (y := y) (by omega)
    have hdelta : -2 ^ 34 ≤ 366 * yearDelta tdays + 366 ∧ 366 * yearDelta tdays ≤ 2 ^ 34 + 366 := by
      rw [yearLengths_eq] at hloop
      rcases hloop with hneg | hle
      · have := yearDelta_of_neg hneg
        omega
      · have := yearDelta_of_pos (show 0 < tdays by linarith [(yearLength_bounds y).1])
        omega
    rw [incrementOverflow_of_bounds] at hnone
    · cases hnone
    · unfold intMin
      omega
    · unfold intMax
      omega
  | case3 y tdays hloop hwide newy hnewy ih =>
    rw [incrementOverflow_eq_some hnewy] at ih
    rw [year_step] at ih
    refine incrementOverflow_eq_some hnewy ▸ ?_
    rw [year_step]
    rw [yearLengths_eq] at hloop
    rcases hloop with hneg | hle
    · have := year_step_of_neg y hneg
      exact ih (by omega) (by omega)
    · have := year_step_of_le hle
      exact ih (by omega) (by omega)
  | case4 y tdays hloop => exact ⟨_, rfl⟩

/-! ## The loops over the days -/

/-- `while (rem < 0)`, on `rem` and `idays`. -/
def borrowDays (rem idays : ℤ) : ℤ × ℤ :=
  if rem < 0 then borrowDays (rem + 86400) (idays - 1) else (rem, idays)
termination_by (-rem).toNat
decreasing_by omega

/-- `while (rem >= SECSPERDAY)`. -/
def carryDays (rem idays : ℤ) : ℤ × ℤ :=
  if rem ≥ 86400 then carryDays (rem - 86400) (idays + 1) else (rem, idays)
termination_by rem.toNat
decreasing_by omega

theorem borrowDays_spec (rem idays : ℤ) :
    0 ≤ (borrowDays rem idays).1 ∧
      86400 * (borrowDays rem idays).2 + (borrowDays rem idays).1 = 86400 * idays + rem := by
  fun_induction borrowDays rem idays with
  | case1 rem idays h ih => exact ⟨ih.1, by omega⟩
  | case2 rem idays h => exact ⟨by omega, rfl⟩

theorem carryDays_spec {rem : ℤ} (idays : ℤ) (h : 0 ≤ rem) :
    (carryDays rem idays).2 = idays + rem / 86400 ∧ (carryDays rem idays).1 = rem % 86400 := by
  fun_induction carryDays rem idays with
  | case1 rem idays hge ih =>
    obtain ⟨h1, h2⟩ := ih (by omega)
    exact ⟨by omega, by omega⟩
  | case2 rem idays hlt => exact ⟨by dsimp only; omega, by dsimp only; omega⟩

/-- `while (idays < 0)`, on `y` and `idays`; `none` is `return NULL`. -/
def borrowYears (y idays : ℤ) : Option (ℤ × ℤ) :=
  if idays < 0 then
    match incrementOverflow y (-1) with
    | none => none
    | some y => borrowYears y (idays + yearLengths y)
  else some (y, idays)
termination_by (-idays).toNat
decreasing_by
  rw [yearLengths_eq]
  have := yearLength_bounds y
  omega

/-- `while (idays >= year_lengths[isleap(y)])`. -/
def carryYears (y idays : ℤ) : Option (ℤ × ℤ) :=
  if idays ≥ yearLengths y then
    match incrementOverflow y 1 with
    | none => none
    | some newy => carryYears newy (idays - yearLengths y)
  else some (y, idays)
termination_by idays.toNat
decreasing_by
  rw [yearLengths_eq] at *
  have := yearLength_bounds y
  omega

theorem borrowYears_eq_some {y idays y' idays' : ℤ} (h : borrowYears y idays = some (y', idays')) :
    daysBeforeYear y' + idays' = daysBeforeYear y + idays ∧ 0 ≤ idays' := by
  fun_induction borrowYears y idays with
  | case1 y idays hneg hnone => cases h
  | case2 y idays hneg newy hnewy ih =>
    obtain ⟨hsum, hnonneg⟩ := ih h
    have hy := daysBeforeYear_succ newy
    rw [incrementOverflow_eq_some hnewy, neg_add_cancel_right] at hy
    rw [yearLengths_eq, incrementOverflow_eq_some hnewy] at hsum
    exact ⟨by omega, hnonneg⟩
  | case3 y idays hneg =>
    cases h
    exact ⟨rfl, by omega⟩

theorem carryYears_eq_some {y idays y' idays' : ℤ} (h : carryYears y idays = some (y', idays'))
    (hnonneg : 0 ≤ idays) :
    daysBeforeYear y' + idays' = daysBeforeYear y + idays ∧ 0 ≤ idays' ∧
      idays' < yearLength y' := by
  fun_induction carryYears y idays with
  | case1 y idays hge hnone => cases h
  | case2 y idays hge newy hnewy ih =>
    rw [yearLengths_eq] at hge
    obtain ⟨hsum, hrest⟩ := ih h (by rw [yearLengths_eq]; omega)
    rw [yearLengths_eq, incrementOverflow_eq_some hnewy, daysBeforeYear_succ] at hsum
    exact ⟨by omega, hrest⟩
  | case3 y idays hge =>
    cases h
    rw [yearLengths_eq] at hge
    exact ⟨rfl, hnonneg, by omega⟩

/-- `for (tmp->tm_mon = 0; idays >= ip[tmp->tm_mon]; ++(tmp->tm_mon))`, on the entries
    of `ip` that are left; it ends before the last of them does. -/
def monthLoop : List ℤ → ℤ → ℤ → ℤ × ℤ
  | [], mon, idays => (mon, idays)
  | l :: ls, mon, idays =>
    if idays ≥ l then monthLoop ls (mon + 1) (idays - l) else (mon, idays)

theorem monthLoop_eq (ls : List ℤ) (mon idays : ℤ) :
    monthLoop ls mon idays = ((locate ls idays).1 + mon, (locate ls idays).2) := by
  induction ls generalizing mon idays with
  | nil => simp [monthLoop, locate]
  | cons l ls ih =>
    unfold monthLoop locate
    split_ifs with h
    · rw [ih]
      simp only [Prod.mk.injEq, and_true]
      omega
    · simp

/-! ## `timesub` -/

/-- The day of the week as `timesub` computes it. -/
def timesubWday (y idays : ℤ) : ℤ :=
  let wday := (4 + (y - 1970).tmod 7 * (365 : ℤ).tmod 7 + leapsThruEndOf (y - 1) -
    leapsThruEndOf (1970 - 1) + idays).tmod 7
  if wday < 0 then wday + 7 else wday

/-- `timesub(timep, offset, tmp)`; `error` is `NULL`, with what is left in `*tmp`. -/
def timesub (timep offset : ℤ) (tmp : Tm) : Except Tm Tm :=
  let tdays := timep.tdiv 86400
  let rem := timep - tdays * 86400
  match yearLoop 1970 tdays with
  | none => .error tmp
  | some (y, tdays) =>
    let seconds := tdays * 86400
    let tdays := seconds.tdiv 86400
    let rem := rem + (seconds - tdays * 86400)
    if tdays < intMin ∨ tdays > intMax then .error tmp
    else
      let (rem, idays) := borrowDays (rem + offset) tdays
      let (rem, idays) := carryDays rem idays
      match borrowYears y idays with
      | none => .error tmp
      | some (y, idays) =>
        match carryYears y idays with
        | none => .error tmp
        | some (y, idays) =>
          match incrementOverflow y (-1900) with
          | none => .error { tmp with year := y }
          | some year =>
            let (mon, mday) := monthLoop (monLengths y) 0 idays
            .ok { sec := (rem.tmod 3600).tmod 60, min := (rem.tmod 3600).tdiv 60,
                  hour := rem.tdiv 3600, mday := mday + 1, mon, year,
                  wday := timesubWday y idays, yday := idays, isdst := 0 }

theorem tmod_add_of_neg (x n : ℤ) (h : 0 < n) :
    (if x.tmod n < 0 then x.tmod n + n else x.tmod n) = x % n := by
  have hdvd : n ∣ x - x.tmod n := ⟨x.tdiv n, by rw [Int.tmod_def]; ring⟩
  have hlt := Int.tmod_lt_of_pos x h
  have hgt := Int.lt_tmod_of_pos x h
  obtain ⟨k, hk⟩ := hdvd
  rw [show x = x.tmod n + n * k by omega, Int.add_mul_emod_self_left,
    show x.tmod n + n * k = x by omega]
  split_ifs with hneg
  · rw [← Int.add_emod_right, Int.emod_eq_of_lt (by omega) (by omega)]
  · rw [Int.emod_eq_of_lt (by omega) hlt]

theorem timesubWday_eq (y idays : ℤ) :
    timesubWday y idays = weekday (daysBeforeYear y + idays) := by
  unfold timesubWday weekday
  dsimp only
  rw [tmod_add_of_neg _ 7 (by decide), leapsThruEndOf_eq, leapsThruEndOf_eq, Int.tmod_def]
  unfold daysBeforeYear
  rw [show (365 : ℤ).tmod 7 = 1 by decide, show (1970 : ℤ) - 1 = 1969 by decide]
  omega

/-- The year of a day is the one that it lies in. -/
theorem yearOfDay_eq {y d : ℤ} (h : daysBeforeYear y ≤ d) (h' : d < daysBeforeYear y + yearLength y) :
    yearOfDay d = y := by
  obtain ⟨h1, h2⟩ := yearOfDay_spec d
  rw [← daysBeforeYear_succ] at h'
  rcases lt_trichotomy (yearOfDay d) y with hlt | heq | hlt
  · have := (daysBeforeYear_sub_bounds (show yearOfDay d + 1 ≤ y from hlt)).1
    omega
  · exact heq
  · have := (daysBeforeYear_sub_bounds (show y + 1 ≤ yearOfDay d from hlt)).1
    omega

/-- The struct of a year, a day of the year and a second of the day. -/
theorem Tm.ofInstant_eq {t y idays rem : ℤ} (hdays : daysBeforeYear y + idays = t / 86400)
    (hnonneg : 0 ≤ idays) (hlt : idays < yearLength y) (hrem : rem = t % 86400) :
    Tm.ofInstant t =
      { sec := (rem.tmod 3600).tmod 60, min := (rem.tmod 3600).tdiv 60, hour := rem.tdiv 3600
        mday := (monthLoop (monLengths y) 0 idays).2 + 1
        mon := (monthLoop (monLengths y) 0 idays).1, year := y + -1900
        wday := timesubWday y idays, yday := idays, isdst := 0 } := by
  have hyear : yearOfDay (t / 86400) = y := yearOfDay_eq (by omega) (by omega)
  have hidays : t / 86400 - daysBeforeYear y = idays := by omega
  have hlocate := DateTime.ofInstant_locate t
  have hdays' : (DateTime.ofInstant t).days = daysBeforeYear y + idays := by
    rw [hlocate.2.2.2.2, hdays]
  have hpos : 0 ≤ rem := by omega
  have hmod : rem.tmod 3600 = rem % 3600 := Int.tmod_eq_emod_of_nonneg hpos
  have hmod' : (rem % 3600).tmod 60 = rem % 3600 % 60 := Int.tmod_eq_emod_of_nonneg (by omega)
  rw [hmod, hmod', Int.tdiv_eq_ediv_of_nonneg hpos, Int.tdiv_eq_ediv_of_nonneg (by omega),
    timesubWday_eq, monthLoop_eq, monLengths_eq, Tm.ofInstant, hdays']
  unfold DateTime.ofInstant
  simp only [hyear, hidays, Tm.mk.injEq, and_true, true_and, add_zero]
  omega

theorem timesub_eq_ok {timep offset : ℤ} {tmp tm : Tm} (h : timesub timep offset tmp = .ok tm) :
    tm = Tm.ofInstant (timep + offset) := by
  unfold timesub at h
  dsimp only at h
  cases hyear : yearLoop 1970 (timep.tdiv 86400) with
  | none => rw [hyear] at h; cases h
  | some r =>
    obtain ⟨y, tdays⟩ := r
    obtain ⟨hsum, hnonneg, hlt⟩ := yearLoop_eq_some hyear
    simp only [hyear] at h
    rw [Int.mul_tdiv_cancel _ (by decide), sub_self, add_zero] at h
    split_ifs at h
    have hborrow := borrowDays_spec (timep - timep.tdiv 86400 * 86400 + offset) tdays
    obtain ⟨hidays, hrem⟩ := carryDays_spec (borrowDays
      (timep - timep.tdiv 86400 * 86400 + offset) tdays).2 hborrow.1
    have hepoch : daysBeforeYear 1970 = 0 := by decide
    cases hb : borrowYears y (carryDays (borrowDays (timep - timep.tdiv 86400 * 86400 + offset)
        tdays).1 (borrowDays (timep - timep.tdiv 86400 * 86400 + offset) tdays).2).2 with
    | none => simp only [hb] at h; cases h
    | some r =>
      obtain ⟨y₁, idays₁⟩ := r
      obtain ⟨hsum₁, hnonneg₁⟩ := borrowYears_eq_some hb
      simp only [hb] at h
      cases hc : carryYears y₁ idays₁ with
      | none => simp only [hc] at h; cases h
      | some r =>
        obtain ⟨y₂, idays₂⟩ := r
        obtain ⟨hsum₂, hnonneg₂, hlt₂⟩ := carryYears_eq_some hc hnonneg₁
        simp only [hc] at h
        cases ho : incrementOverflow y₂ (-1900) with
        | none => simp only [ho] at h; cases h
        | some year =>
          simp only [ho] at h
          rw [incrementOverflow_eq_some ho] at h
          rw [Tm.ofInstant_eq (show daysBeforeYear y₂ + idays₂ = (timep + offset) / 86400 by omega) hnonneg₂ hlt₂
            (show _ = (timep + offset) % 86400 from hrem.trans (by omega))]
          cases h
          rfl

theorem borrowYears_of_nonneg (y : ℤ) {idays : ℤ} (h : 0 ≤ idays) :
    borrowYears y idays = some (y, idays) := by
  unfold borrowYears
  rw [if_neg (by omega)]

theorem borrowYears_neg_one {y : ℤ} (hmin : intMin < y) (hmax : y ≤ intMax) :
    borrowYears y (-1) = some (y - 1, yearLength (y - 1) - 1) := by
  have hlen := (yearLength_bounds (y - 1)).1
  unfold borrowYears
  rw [if_pos (by decide), incrementOverflow_of_bounds (by omega) (by omega)]
  dsimp only
  rw [yearLengths_eq, ← sub_eq_add_neg, borrowYears_of_nonneg _ (by omega)]
  congr 2
  omega

theorem carryYears_of_lt {y idays : ℤ} (h : idays < yearLength y) :
    carryYears y idays = some (y, idays) := by
  unfold carryYears
  rw [yearLengths_eq, if_neg (by omega)]

/-- The loops over the days and the years do not leave the range of an `int` for a day of a
    year near 1970, or the one before it. -/
theorem exists_borrowYears {y idays : ℤ} (hy : -2 ^ 27 ≤ y ∧ y ≤ 2 ^ 27)
    (hidays : -1 ≤ idays ∧ idays < yearLength y) :
    ∃ y' idays', borrowYears y idays = some (y', idays') ∧ idays' < yearLength y' ∧
      y - 1 ≤ y' ∧ y' ≤ y := by
  rcases le_or_gt 0 idays with hnonneg | hneg
  · exact ⟨y, idays, borrowYears_of_nonneg y hnonneg, hidays.2, by omega, le_rfl⟩
  · refine ⟨y - 1, yearLength (y - 1) - 1, ?_, by omega, le_rfl, by omega⟩
    rw [show idays = -1 by omega]
    apply borrowYears_neg_one
    · unfold intMin
      omega
    · unfold intMax
      omega

/-- Truncating division leaves a rest of less than a day, of either sign. -/
theorem tdiv_day_bounds {t : ℤ} (h : -2 ^ 50 ≤ t ∧ t ≤ 2 ^ 50) :
    -2 ^ 34 ≤ t.tdiv 86400 ∧ t.tdiv 86400 ≤ 2 ^ 34 ∧
      -86400 < t - t.tdiv 86400 * 86400 ∧ t - t.tdiv 86400 * 86400 < 86400 := by
  rcases le_total 0 t with ht | ht
  · rw [Int.tdiv_eq_ediv_of_nonneg ht]
    omega
  · rw [tdiv_of_nonpos 86400 ht]
    omega

/-- For a second near the epoch `timesub` does not return `NULL`. -/
theorem timesub_near {t : ℤ} (h : -2 ^ 50 ≤ t ∧ t ≤ 2 ^ 50) (tmp : Tm) :
    timesub t 0 tmp = .ok (Tm.ofInstant t) := by
  have hepoch : daysBeforeYear 1970 = 0 := by decide
  have hday := tdiv_day_bounds h
  obtain ⟨⟨y, tdays⟩, hyear⟩ :=
    exists_yearLoop (y := 1970) (show -2 ^ 34 ≤ t.tdiv 86400 ∧ t.tdiv 86400 ≤ 2 ^ 34 by omega)
      (by omega)
  obtain ⟨hsum, hnonneg, hlt⟩ := yearLoop_eq_some hyear
  have hlen := yearLength_bounds y
  have hy := year_bounds (y := y) (by omega)
  -- at most one day is borrowed, and none is carried
  have hborrow := borrowDays_spec (t - t.tdiv 86400 * 86400 + 0) tdays
  obtain ⟨hidays, -⟩ := carryDays_spec (borrowDays (t - t.tdiv 86400 * 86400 + 0) tdays).2
    hborrow.1
  obtain ⟨y₂, idays₂, hb, hlt₂, hy₂⟩ := exists_borrowYears (show -2 ^ 27 ≤ y ∧ y ≤ 2 ^ 27 from hy)
    (show -1 ≤ (carryDays (borrowDays (t - t.tdiv 86400 * 86400 + 0) tdays).1
      (borrowDays (t - t.tdiv 86400 * 86400 + 0) tdays).2).2 ∧ _ < yearLength y by omega)
  have hok : ∃ tm, timesub t 0 tmp = .ok tm := by
    unfold timesub
    dsimp only
    rw [hyear]
    dsimp only
    rw [Int.mul_tdiv_cancel _ (by decide), sub_self, add_zero,
      if_neg (by unfold intMin intMax; omega), hb]
    dsimp only
    rw [carryYears_of_lt hlt₂]
    dsimp only
    rw [incrementOverflow_of_bounds (by unfold intMin; omega) (by unfold intMax; omega)]
    exact ⟨_, rfl⟩
  obtain ⟨tm, htm⟩ := hok
  rw [htm, timesub_eq_ok htm, add_zero]

/-- `sgxssl__gmtime64(timep)`, which fills the global struct `tmGlobal`; `none` is a null
    pointer. -/
def sgxsslGmtime64 (timep : Option ℤ) (tmGlobal : Tm) : Except Tm Tm :=
  match timep with
  | none => .error tmGlobal
  | some timep => timesub timep 0 tmGlobal

end DcapQvl
