import Mathlib.Algebra.BigOperators.Group.List.Basic
import Mathlib.Algebra.Order.Group.Int
import Mathlib.Data.List.GetD
import Mathlib.Tactic.Linarith

/-!
# The proleptic Gregorian calendar

Days are counted from 1 January 1970 and seconds from its midnight, for every
year in `ℤ`; months from 0.

Results:
* `instant_lt_of_year_lt`, `instant_lt_of_month_lt`: an earlier year, or an earlier
  month of one year, is an earlier second.
* `ofInstant_valid`, `instant_ofInstant`: every second is the second of an existing
  date and time.
* `eq_of_instant_eq`: and of one only.
-/

namespace DcapQvl.Lib

/-! ## Years -/

/-- A year of 366 days. -/
def IsLeap (y : ℤ) : Prop := y % 4 = 0 ∧ (y % 100 ≠ 0 ∨ y % 400 = 0)

instance : DecidablePred IsLeap := fun y =>
  inferInstanceAs (Decidable (y % 4 = 0 ∧ (y % 100 ≠ 0 ∨ y % 400 = 0)))

/-- The number of leap years after year 0 up to `y`; negative for a negative `y`. -/
def leapsThrough (y : ℤ) : ℤ := y / 4 - y / 100 + y / 400

/-- The number of days of a year. -/
def yearLength (y : ℤ) : ℤ := if IsLeap y then 366 else 365

/-- The number of days from the epoch to the first day of a year. -/
def daysBeforeYear (y : ℤ) : ℤ :=
  365 * (y - 1970) + (leapsThrough (y - 1) - leapsThrough 1969)

theorem yearLength_bounds (y : ℤ) : 365 ≤ yearLength y ∧ yearLength y ≤ 366 := by
  unfold yearLength
  split_ifs <;> omega

theorem daysBeforeYear_succ (y : ℤ) : daysBeforeYear (y + 1) = daysBeforeYear y + yearLength y := by
  unfold daysBeforeYear yearLength leapsThrough IsLeap
  split_ifs <;> omega

theorem daysBeforeYear_sub_bounds {y z : ℤ} (h : y ≤ z) :
    365 * (z - y) ≤ daysBeforeYear z - daysBeforeYear y ∧
      daysBeforeYear z - daysBeforeYear y ≤ 366 * (z - y) := by
  induction z, h using Int.leInduction with
  | base => simp
  | succ z _ ih =>
    have := yearLength_bounds z
    rw [daysBeforeYear_succ]
    omega

/-- The year that a day lies in, from the mean length of a year. -/
def yearOfDay (days : ℤ) : ℤ :=
  let y := 1970 + 400 * days / 146097
  if days < daysBeforeYear y then y - 1
  else if daysBeforeYear (y + 1) ≤ days then y + 1 else y

theorem yearOfDay_spec (days : ℤ) :
    daysBeforeYear (yearOfDay days) ≤ days ∧ days < daysBeforeYear (yearOfDay days + 1) := by
  unfold yearOfDay
  dsimp only
  split_ifs with h h'
  · refine ⟨?_, by simpa using h⟩
    unfold daysBeforeYear leapsThrough
    omega
  · refine ⟨h', ?_⟩
    unfold daysBeforeYear leapsThrough
    omega
  · exact ⟨not_lt.mp h, not_le.mp h'⟩

/-! ## Months -/

/-- The numbers of days of the months of a year. -/
def monthLengths (y : ℤ) : List ℤ :=
  [31, if IsLeap y then 29 else 28, 31, 30, 31, 30, 31, 31, 30, 31, 30, 31]

/-- The number of days of a month; 0 outside the year. -/
def monthLength (y m : ℤ) : ℤ := (monthLengths y).getD m.toNat 0

/-- The number of days from the start of a year to that of a month. -/
def daysBeforeMonth (y m : ℤ) : ℤ := ((monthLengths y).take m.toNat).sum

theorem monthLengths_length (y : ℤ) : (monthLengths y).length = 12 := rfl

theorem monthLengths_sum (y : ℤ) : (monthLengths y).sum = yearLength y := by
  unfold monthLengths yearLength
  split_ifs <;> rfl

theorem pos_of_mem_monthLengths {y n : ℤ} (h : n ∈ monthLengths y) : 28 ≤ n ∧ n ≤ 31 := by
  unfold monthLengths at h
  split_ifs at h <;> simp at h <;> omega

theorem monthLength_eq {y m : ℤ} (h : m.toNat < 12) :
    monthLength y m = (monthLengths y).get ⟨m.toNat, h⟩ := by
  rw [monthLength, List.getD_eq_getElem _ _ h]
  rfl

theorem monthLength_bounds {y m : ℤ} (h : m < 12) : 28 ≤ monthLength y m ∧ monthLength y m ≤ 31 := by
  have hm : m.toNat < 12 := by omega
  rw [monthLength_eq hm]
  exact pos_of_mem_monthLengths (List.get_mem _ _)

@[simp] theorem daysBeforeMonth_zero (y : ℤ) : daysBeforeMonth y 0 = 0 := rfl

theorem daysBeforeMonth_succ {y m : ℤ} (h0 : 0 ≤ m) (h : m < 12) :
    daysBeforeMonth y (m + 1) = daysBeforeMonth y m + monthLength y m := by
  have hm : m.toNat < 12 := by omega
  rw [monthLength_eq hm]
  unfold daysBeforeMonth
  rw [show (m + 1).toNat = m.toNat + 1 by omega, List.sum_take_succ _ _ hm]
  rfl

theorem daysBeforeMonth_mono {y m n : ℤ} (h0 : 0 ≤ m) (h : m ≤ n) (hn : n ≤ 12) :
    daysBeforeMonth y m ≤ daysBeforeMonth y n := by
  induction n, h using Int.leInduction with
  | base => rfl
  | succ n hle ih =>
    have := monthLength_bounds (y := y) (show n < 12 by omega)
    rw [daysBeforeMonth_succ (by omega) (by omega)]
    have := ih (by omega)
    omega

theorem daysBeforeMonth_twelve (y : ℤ) : daysBeforeMonth y 12 = yearLength y :=
  monthLengths_sum y

/-- The first entry of a table that a number does not exceed by the entries before
    it: its index and what is left of the number. -/
def locate : List ℤ → ℤ → ℤ × ℤ
  | [], d => (0, d)
  | l :: ls, d => if l ≤ d then ((locate ls (d - l)).1 + 1, (locate ls (d - l)).2) else (0, d)

theorem locate_spec {ls : List ℤ} {d : ℤ} (h0 : 0 ≤ d) (h : d < ls.sum) :
    0 ≤ (locate ls d).1 ∧ (locate ls d).1 < ls.length ∧ 0 ≤ (locate ls d).2 ∧
      (locate ls d).2 < ls.getD (locate ls d).1.toNat 0 ∧
      d = (ls.take (locate ls d).1.toNat).sum + (locate ls d).2 := by
  induction ls generalizing d with
  | nil => simp at h; omega
  | cons l ls ih =>
    rw [List.sum_cons] at h
    unfold locate
    split_ifs with hl
    · obtain ⟨h1, h2, h3, h4, h5⟩ := ih (sub_nonneg.mpr hl) (by omega)
      have hs : ((locate ls (d - l)).1 + 1).toNat = (locate ls (d - l)).1.toNat + 1 := by omega
      rw [hs, List.getD_cons_succ, List.take_succ_cons, List.sum_cons, List.length_cons]
      exact ⟨by omega, by push_cast; omega, h3, h4, by omega⟩
    · simp
      omega

/-! ## Dates and times -/

/-- A date and a time of day, existing or not. -/
@[ext] structure DateTime where
  year : ℤ
  month : ℤ
  day : ℤ
  hour : ℤ
  minute : ℤ
  second : ℤ
deriving DecidableEq, Repr

namespace DateTime

/-- The month exists, the day exists in that month, and the time is from 00:00:00 to
    23:59:59. -/
structure Valid (d : DateTime) : Prop where
  month_nonneg : 0 ≤ d.month
  month_lt : d.month < 12
  day_pos : 1 ≤ d.day
  day_le : d.day ≤ monthLength d.year d.month
  hour_nonneg : 0 ≤ d.hour
  hour_lt : d.hour < 24
  minute_nonneg : 0 ≤ d.minute
  minute_lt : d.minute < 60
  second_nonneg : 0 ≤ d.second
  second_lt : d.second < 60

theorem valid_iff (d : DateTime) :
    d.Valid ↔ (0 ≤ d.month ∧ d.month < 12) ∧ (1 ≤ d.day ∧ d.day ≤ monthLength d.year d.month) ∧
      (0 ≤ d.hour ∧ d.hour < 24) ∧ (0 ≤ d.minute ∧ d.minute < 60) ∧
      (0 ≤ d.second ∧ d.second < 60) := by
  constructor
  · rintro ⟨h1, h2, h3, h4, h5, h6, h7, h8, h9, h10⟩
    exact ⟨⟨h1, h2⟩, ⟨h3, h4⟩, ⟨h5, h6⟩, ⟨h7, h8⟩, h9, h10⟩
  · rintro ⟨⟨h1, h2⟩, ⟨h3, h4⟩, ⟨h5, h6⟩, ⟨h7, h8⟩, h9, h10⟩
    exact ⟨h1, h2, h3, h4, h5, h6, h7, h8, h9, h10⟩

instance (d : DateTime) : Decidable d.Valid := decidable_of_iff' _ d.valid_iff

/-- The days from the epoch to a date; a day past the end of the month is counted
    into the months after it. -/
def days (d : DateTime) : ℤ :=
  daysBeforeYear d.year + daysBeforeMonth d.year d.month + (d.day - 1)

/-- The seconds from the epoch to a date and time. -/
def instant (d : DateTime) : ℤ := 86400 * d.days + 3600 * d.hour + 60 * d.minute + d.second

/-- The date and time of a second. -/
def ofInstant (t : ℤ) : DateTime :=
  let year := yearOfDay (t / 86400)
  let (month, rest) := locate (monthLengths year) (t / 86400 - daysBeforeYear year)
  { year, month, day := rest + 1,
    hour := t % 86400 / 3600, minute := t % 3600 / 60, second := t % 60 }

example : ofInstant 951782400 = ⟨2000, 1, 29, 0, 0, 0⟩ := by decide

theorem ofInstant_locate (t : ℤ) :
    (ofInstant t).day ≤ monthLength (ofInstant t).year (ofInstant t).month ∧
      1 ≤ (ofInstant t).day ∧ 0 ≤ (ofInstant t).month ∧ (ofInstant t).month < 12 ∧
      (ofInstant t).days = t / 86400 := by
  obtain ⟨hle, hlt⟩ := yearOfDay_spec (t / 86400)
  rw [daysBeforeYear_succ, ← monthLengths_sum] at hlt
  obtain ⟨h1, h2, h3, h4, h5⟩ := locate_spec (sub_nonneg.mpr hle) (sub_lt_iff_lt_add'.mpr hlt)
  rw [monthLengths_length] at h2
  refine ⟨?_, ?_, h1, by exact_mod_cast h2, ?_⟩
  · unfold ofInstant monthLength
    dsimp only
    omega
  · unfold ofInstant
    dsimp only
    omega
  · unfold ofInstant days daysBeforeMonth
    dsimp only
    omega

theorem ofInstant_valid (t : ℤ) : (ofInstant t).Valid := by
  obtain ⟨h1, h2, h3, h4, _⟩ := ofInstant_locate t
  refine ⟨h3, h4, h2, h1, ?_, ?_, ?_, ?_, ?_, ?_⟩ <;>
  · unfold ofInstant
    dsimp only
    omega

@[simp] theorem instant_ofInstant (t : ℤ) : (ofInstant t).instant = t := by
  obtain ⟨-, -, -, -, h⟩ := ofInstant_locate t
  unfold instant
  rw [h]
  unfold ofInstant
  dsimp only
  omega

/-! ## Order -/

/-- The day of the year of a valid date lies in its month. -/
theorem Valid.days_bounds {d : DateTime} (h : d.Valid) :
    daysBeforeYear d.year + daysBeforeMonth d.year d.month ≤ d.days ∧
      d.days < daysBeforeYear d.year + daysBeforeMonth d.year (d.month + 1) := by
  have := h.day_pos
  have := h.day_le
  rw [daysBeforeMonth_succ h.month_nonneg h.month_lt]
  unfold days
  omega

theorem Valid.days_year_bounds {d : DateTime} (h : d.Valid) :
    daysBeforeYear d.year ≤ d.days ∧ d.days < daysBeforeYear (d.year + 1) := by
  obtain ⟨hle, hlt⟩ := h.days_bounds
  have := daysBeforeMonth_mono (y := d.year) le_rfl h.month_nonneg h.month_lt.le
  have := daysBeforeMonth_mono (y := d.year) (m := d.month + 1) (n := 12)
    (by linarith [h.month_nonneg]) (by linarith [h.month_lt]) le_rfl
  rw [daysBeforeMonth_zero] at *
  rw [daysBeforeMonth_twelve] at this
  rw [daysBeforeYear_succ]
  omega

theorem Valid.instant_lt_of_days_lt {d e : DateTime} (hd : d.Valid) (he : e.Valid)
    (h : d.days < e.days) : d.instant < e.instant := by
  obtain ⟨-, -, -, -, -, _, -, _, -, _⟩ := hd
  obtain ⟨-, -, -, -, _, -, _, -, _, -⟩ := he
  unfold instant
  omega

theorem Valid.instant_lt_of_year_lt {d e : DateTime} (hd : d.Valid) (he : e.Valid)
    (h : d.year < e.year) : d.instant < e.instant := by
  apply hd.instant_lt_of_days_lt he
  have hle := (daysBeforeYear_sub_bounds (show d.year + 1 ≤ e.year from h)).1
  have := hd.days_year_bounds.2
  have := he.days_year_bounds.1
  omega

theorem Valid.instant_lt_of_month_lt {d e : DateTime} (hd : d.Valid) (he : e.Valid)
    (hy : d.year = e.year) (h : d.month < e.month) : d.instant < e.instant := by
  apply hd.instant_lt_of_days_lt he
  have hle := daysBeforeMonth_mono (y := e.year) (m := d.month + 1)
    (by linarith [hd.month_nonneg]) h he.month_lt.le
  have := hd.days_bounds.2
  have := he.days_bounds.1
  rw [hy] at *
  omega

/-- Within one month the fields below the month decide. -/
theorem instant_sub_of_month_eq {d e : DateTime} (hy : d.year = e.year) (hm : d.month = e.month) :
    d.instant - e.instant = 86400 * (d.day - e.day) + 3600 * (d.hour - e.hour) +
      60 * (d.minute - e.minute) + (d.second - e.second) := by
  unfold instant days
  rw [hy, hm]
  omega

theorem Valid.eq_of_instant_eq {d e : DateTime} (hd : d.Valid) (he : e.Valid)
    (h : d.instant = e.instant) : d = e := by
  have hy : d.year = e.year := by
    rcases lt_trichotomy d.year e.year with hlt | heq | hlt
    · exact absurd h (hd.instant_lt_of_year_lt he hlt).ne
    · exact heq
    · exact absurd h (he.instant_lt_of_year_lt hd hlt).ne'
  have hm : d.month = e.month := by
    rcases lt_trichotomy d.month e.month with hlt | heq | hlt
    · exact absurd h (hd.instant_lt_of_month_lt he hy hlt).ne
    · exact heq
    · exact absurd h (he.instant_lt_of_month_lt hd hy.symm hlt).ne'
  have hsub := instant_sub_of_month_eq hy hm
  obtain ⟨-, -, -, -, _, _, _, _, _, _⟩ := hd
  obtain ⟨-, -, -, -, _, _, _, _, _, _⟩ := he
  ext <;> omega

theorem Valid.ofInstant_instant {d : DateTime} (h : d.Valid) : ofInstant d.instant = d :=
  (ofInstant_valid _).eq_of_instant_eq h (instant_ofInstant _)

end DateTime

end DcapQvl.Lib
