import DcapQvl.Time.GmTime

/-!
# From `struct tm` to seconds

`sgxssl_mktime` of `AttestationCommons/src/Utils/GMTime.cpp` with the functions below
it. The second of a date is found by a binary search over the 64-bit seconds, with
`timesub` as the comparison; a search that does not end returns `none`.

Results:
* `searchLoop_eq_some`: a search whose comparison tells the side of a second ends at
  that second.
* `time2sub_eq`: for the fields of a date from 1900 on, a day past the end of its
  month included, the search ends at the second of that date.
* `sgxsslMktime_eq`: what `sgxssl_mktime` returns and leaves in the struct.
-/

namespace DcapQvl

open Lib

/-! ## Normalization -/

/-- `LONG_MAX`, as the file defines it. -/
def longMax : ℤ := 2147483647

/-- `LONG_MIN`. -/
def longMin : ℤ := -2147483647 - 1

/-- `long_increment_overflow`: `none` is `TRUE`, else the new value of `*lp`. -/
def longIncrementOverflow (lp m : ℤ) : Option ℤ :=
  if (if 0 ≤ lp then m > longMax - lp else m < longMin - lp) then none else some (lp + m)

/-- `tensdelta` of `normalize_overflow` and of `long_normalize_overflow`. -/
def tensDelta (units base : ℤ) : ℤ :=
  if units ≥ 0 then units.tdiv base else -1 - (-1 - units).tdiv base

/-- `normalize_overflow`: `none` is `TRUE`, else the new `*tensptr` and `*unitsptr`. -/
def normalizeOverflow (tens units base : ℤ) : Option (ℤ × ℤ) :=
  (incrementOverflow tens (tensDelta units base)).map
    fun tens => (tens, units - tensDelta units base * base)

/-- `long_normalize_overflow`. -/
def longNormalizeOverflow (tens units base : ℤ) : Option (ℤ × ℤ) :=
  (longIncrementOverflow tens (tensDelta units base)).map
    fun tens => (tens, units - tensDelta units base * base)

theorem longIncrementOverflow_of_bounds {lp m : ℤ} (hmin : longMin ≤ lp + m)
    (hmax : lp + m ≤ longMax) : longIncrementOverflow lp m = some (lp + m) := by
  unfold longIncrementOverflow
  split_ifs <;> first | rfl | omega

theorem tensDelta_of_lt {units base : ℤ} (h : 0 ≤ units) (hlt : units < base) :
    tensDelta units base = 0 := by
  unfold tensDelta
  rw [if_pos h, Int.tdiv_eq_ediv_of_nonneg h, Int.ediv_eq_zero_of_lt h hlt]

/-- Units below their base stay as they are. -/
theorem normalizeOverflow_of_lt {tens units base : ℤ} (htens : intMin ≤ tens ∧ tens ≤ intMax)
    (h : 0 ≤ units) (hlt : units < base) :
    normalizeOverflow tens units base = some (tens, units) := by
  unfold normalizeOverflow
  rw [tensDelta_of_lt h hlt, incrementOverflow_of_bounds (by omega) (by omega)]
  simp

theorem longNormalizeOverflow_of_lt {tens units base : ℤ}
    (htens : longMin ≤ tens ∧ tens ≤ longMax) (h : 0 ≤ units) (hlt : units < base) :
    longNormalizeOverflow tens units base = some (tens, units) := by
  unfold longNormalizeOverflow
  rw [tensDelta_of_lt h hlt, longIncrementOverflow_of_bounds (by omega) (by omega)]
  simp

/-! ## The day of the month -/

/-- `li` of the loops below: the year whose 29 February the next year of days holds. -/
def februaryYear (y mon : ℤ) : ℤ := y + if 1 < mon then 1 else 0

/-- `while (yourtm.tm_mday <= 0)`, on `y` and `tm_mday`; `none` is `return WRONG`. -/
def borrowMdays (mon y mday : ℤ) : Option (ℤ × ℤ) :=
  if mday ≤ 0 then
    match longIncrementOverflow y (-1) with
    | none => none
    | some y => borrowMdays mon y (mday + yearLengths (februaryYear y mon))
  else some (y, mday)
termination_by (1 - mday).toNat
decreasing_by
  rw [yearLengths_eq]
  have := yearLength_bounds (februaryYear y mon)
  omega

/-- `while (yourtm.tm_mday > DAYSPERLYEAR)`. -/
def carryMdays (mon y mday : ℤ) : Option (ℤ × ℤ) :=
  if mday > 366 then
    match longIncrementOverflow y 1 with
    | none => none
    | some newy => carryMdays mon newy (mday - yearLengths (februaryYear y mon))
  else some (y, mday)
termination_by mday.toNat
decreasing_by
  rw [yearLengths_eq]
  have := yearLength_bounds (februaryYear y mon)
  omega

/-- `mon_lengths[isleap(y)][yourtm.tm_mon]`; the month is from 0 to 11 there. -/
def monLength (y mon : ℤ) : ℤ := (monLengths y).getD mon.toNat 31

theorem monLength_pos (y mon : ℤ) : 0 < monLength y mon := by
  unfold monLength
  rw [monLengths_eq]
  rcases lt_or_ge mon.toNat (monthLengths y).length with h | h
  · rw [List.getD_eq_getElem _ _ h]
    linarith [(pos_of_mem_monthLengths (List.getElem_mem h)).1]
  · rw [List.getD_eq_default _ _ h]
    decide

/-- `for (;;)` over the months: `y`, `tm_mon` and `tm_mday`. -/
def carryMonths (y mon mday : ℤ) : Option (ℤ × ℤ × ℤ) :=
  if mday ≤ monLength y mon then some (y, mon, mday)
  else if mon + 1 ≥ 12 then
    match longIncrementOverflow y 1 with
    | none => none
    | some newy => carryMonths newy 0 (mday - monLength y mon)
  else carryMonths y (mon + 1) (mday - monLength y mon)
termination_by mday.toNat
decreasing_by
  all_goals
    have := monLength_pos y mon
    omega

theorem monLength_eq {y mon : ℤ} (h : mon < 12) : monLength y mon = monthLength y mon := by
  have hlt : mon.toNat < (monthLengths y).length := by
    rw [monthLengths_length]
    omega
  unfold monLength monthLength
  rw [monLengths_eq, List.getD_eq_getElem _ _ hlt, List.getD_eq_getElem _ _ hlt]

/-- A day of the month up to 31 is carried over one month at most. -/
theorem carryMonths_of_le {y mon mday : ℤ} (hy : longMin ≤ y ∧ y < longMax)
    (hmon : 0 ≤ mon ∧ mon < 12) (hmday : 1 ≤ mday ∧ mday ≤ 31) :
    ∃ y' mon' mday', carryMonths y mon mday = some (y', mon', mday') ∧
      (y' = y ∨ y' = y + 1) ∧ 0 ≤ mon' ∧ mon' < 12 ∧ 1 ≤ mday' ∧ mday' ≤ monthLength y' mon' ∧
      daysBeforeYear y' + daysBeforeMonth y' mon' + mday' =
        daysBeforeYear y + daysBeforeMonth y mon + mday := by
  have hlen := monthLength_bounds (y := y) hmon.2
  rw [carryMonths, monLength_eq hmon.2]
  split_ifs with hle hdec
  · exact ⟨y, mon, mday, rfl, .inl rfl, hmon.1, hmon.2, hmday.1, hle, rfl⟩
  · have hmon11 : mon + 1 = 12 := by omega
    have hjan := monthLength_bounds (y := y + 1) (show (0 : ℤ) < 12 by decide)
    have hsum := daysBeforeMonth_succ (y := y) hmon.1 hmon.2
    rw [hmon11, daysBeforeMonth_twelve] at hsum
    rw [longIncrementOverflow_of_bounds (by omega) (by omega)]
    dsimp only
    rw [carryMonths, monLength_eq (by decide), if_pos (by omega)]
    refine ⟨y + 1, 0, _, rfl, .inr rfl, le_rfl, by decide, by omega, by omega, ?_⟩
    rw [daysBeforeYear_succ, daysBeforeMonth_zero]
    omega
  · have hnext := monthLength_bounds (y := y) (show mon + 1 < 12 by omega)
    rw [carryMonths, monLength_eq (by omega), if_pos (by omega)]
    refine ⟨y, mon + 1, _, rfl, .inl rfl, by omega, by omega, by omega, by omega, ?_⟩
    rw [daysBeforeMonth_succ hmon.1 hmon.2]
    omega

/-! ## The comparison -/

/-- `tmcomp`: the first field that differs. -/
def tmcomp (atmp btmp : Tm) : ℤ :=
  if atmp.year - btmp.year ≠ 0 then atmp.year - btmp.year
  else if atmp.mon - btmp.mon ≠ 0 then atmp.mon - btmp.mon
  else if atmp.mday - btmp.mday ≠ 0 then atmp.mday - btmp.mday
  else if atmp.hour - btmp.hour ≠ 0 then atmp.hour - btmp.hour
  else if atmp.min - btmp.min ≠ 0 then atmp.min - btmp.min
  else atmp.sec - btmp.sec

/-- `dir` of the search; on `NULL` it is the side of the epoch that `t` is on. -/
def direction (r : Except Tm Tm) (t : ℤ) (yourtm : Tm) : ℤ :=
  match r with
  | .error _ => if t > 0 then 1 else -1
  | .ok mytm => tmcomp mytm yourtm

theorem sign_eq_sign {x y : ℤ} (hneg : x < 0 ↔ y < 0) (hpos : 0 < x ↔ 0 < y) :
    x.sign = y.sign := by
  rcases lt_trichotomy x 0 with h | h | h
  · rw [Int.sign_eq_neg_one_of_neg h, Int.sign_eq_neg_one_of_neg (hneg.mp h)]
  · rw [h, show y = 0 by omega]
  · rw [Int.sign_eq_one_of_pos h, Int.sign_eq_one_of_pos (hpos.mp h)]

/-- The fields of two existing dates compare as their seconds do. -/
theorem tmcomp_sign {a b : Tm} (ha : a.dateTime.Valid) (hb : b.dateTime.Valid) :
    (tmcomp a b).sign = (a.dateTime.instant - b.dateTime.instant).sign := by
  have hyear : a.dateTime.year - b.dateTime.year = a.year - b.year := by
    unfold Tm.dateTime
    dsimp only
    omega
  unfold tmcomp
  split_ifs with hy hm hd hh hmin
  · rcases lt_or_gt_of_ne (sub_ne_zero.mp hy) with hlt | hlt
    · have := ha.instant_lt_of_year_lt hb (by omega)
      rw [Int.sign_eq_neg_one_of_neg (by omega), Int.sign_eq_neg_one_of_neg (by omega)]
    · have := hb.instant_lt_of_year_lt ha (by omega)
      rw [Int.sign_eq_one_of_pos (by omega), Int.sign_eq_one_of_pos (by omega)]
  · rcases lt_or_gt_of_ne (sub_ne_zero.mp hm) with hlt | hlt
    · have := ha.instant_lt_of_month_lt hb (by omega) hlt
      rw [Int.sign_eq_neg_one_of_neg (by omega), Int.sign_eq_neg_one_of_neg (by omega)]
    · have := hb.instant_lt_of_month_lt ha (by omega) hlt
      rw [Int.sign_eq_one_of_pos (by omega), Int.sign_eq_one_of_pos (by omega)]
  all_goals
    have hsub := DateTime.instant_sub_of_month_eq (d := a.dateTime) (e := b.dateTime) (by omega)
      (show a.mon = b.mon by omega)
    obtain ⟨-, -, -, -, ha1, ha2, ha3, ha4, ha5, ha6⟩ := ha
    obtain ⟨-, -, -, -, hb1, hb2, hb3, hb4, hb5, hb6⟩ := hb
    unfold Tm.dateTime at *
    dsimp only at *
    rw [hsub]
    apply sign_eq_sign <;> omega

/-- For a date near the epoch the comparison tells the side of its second. -/
theorem direction_sign {yourtm : Tm} {T : ℤ} (hvalid : yourtm.dateTime.Valid)
    (hT : yourtm.dateTime.instant = T) (hnear : -2 ^ 50 ≤ T ∧ T ≤ 2 ^ 50) (t : ℤ) (mytm : Tm) :
    (direction (timesub t 0 mytm) t yourtm).sign = (t - T).sign := by
  unfold direction
  cases htimesub : timesub t 0 mytm with
  | error m =>
    have hfar : ¬(-2 ^ 50 ≤ t ∧ t ≤ 2 ^ 50) := by
      intro h
      rw [timesub_near h] at htimesub
      cases htimesub
    dsimp only
    split_ifs with hpos
    · rw [Int.sign_eq_one_of_pos (show 0 < t - T by omega)]
      rfl
    · rw [Int.sign_eq_neg_one_of_neg (show t - T < 0 by omega)]
      rfl
  | ok m =>
    dsimp only
    rw [timesub_eq_ok htimesub, add_zero, tmcomp_sign (by simp [DateTime.ofInstant_valid]) hvalid,
      Tm.dateTime_ofInstant, DateTime.instant_ofInstant, hT]

/-! ## The search -/

/-- A result of 64-bit arithmetic. -/
def wrap64 (x : ℤ) : ℤ := x.bmod (2 ^ 64)

theorem wrap64_of_bounds {x : ℤ} (hmin : -2 ^ 63 ≤ x) (hmax : x < 2 ^ 63) : wrap64 x = x := by
  unfold wrap64
  rw [Int.bmod_eq_of_le (by omega) (by omega)]

theorem wrap64_bounds (x : ℤ) : -2 ^ 63 ≤ wrap64 x ∧ wrap64 x < 2 ^ 63 := by
  unfold wrap64
  rw [Int.bmod_def]
  split_ifs <;> omega

/-- The second that the search tries next. -/
def probe (lo hi : ℤ) : ℤ :=
  let t := lo.tdiv 2 + hi.tdiv 2
  if t < lo then lo else if t > hi then hi else t

/-- The new `lo` and `hi` for a second on the wrong side; `none` is `return WRONG`. -/
def narrow (lo hi t dir : ℤ) : Option (ℤ × ℤ) :=
  if t = lo then
    if wrap64 (t + 1) ≤ lo then none
    else some (if dir > 0 then (wrap64 (lo + 1), wrap64 (t + 1)) else (wrap64 (t + 1), hi))
  else if t = hi then
    if wrap64 (t - 1) ≥ hi then none
    else some (if dir > 0 then (lo, wrap64 (t - 1)) else (wrap64 (t - 1), wrap64 (hi - 1)))
  else some (if dir > 0 then (lo, t) else (t, hi))

/-- `*tmp` after `timesub`, whether it returned `NULL` or not. -/
def structLeft : Except Tm Tm → Tm
  | .error tm => tm
  | .ok tm => tm

/-- More rounds than the bounds can come closer: a search that takes more does not end. -/
def searchRounds : ℕ := 2 ^ 64

/-- The `for (;;)` of `time2sub` for a number of rounds: the second found, or `some none`
    for `return WRONG`; `none` where the loop has not ended. -/
def searchLoop (funcp : ℤ → ℤ → Tm → Except Tm Tm) (offset : ℤ) (yourtm : Tm) :
    ℕ → ℤ → ℤ → Tm → Option (Option ℤ)
  | 0, _, _, _ => none
  | rounds + 1, lo, hi, mytm =>
    let t := probe lo hi
    let r := funcp t offset mytm
    let dir := direction r t yourtm
    let mytm := structLeft r
    if dir ≠ 0 then
      match narrow lo hi t dir with
      | none => some none
      | some (lo, hi) => searchLoop funcp offset yourtm rounds lo hi mytm
    else if yourtm.isdst < 0 ∨ mytm.isdst ≤ yourtm.isdst then some (some t)
    else searchLoop funcp offset yourtm rounds lo hi mytm

theorem probe_bounds {lo hi : ℤ} (h : lo ≤ hi) : lo ≤ probe lo hi ∧ probe lo hi ≤ hi := by
  unfold probe
  dsimp only
  split_ifs <;> omega

/-- A step of the search keeps the second that is searched for between the bounds, and
    brings them closer. -/
theorem narrow_of_side {lo hi t dir T : ℤ} (hlo : -2 ^ 63 ≤ lo ∧ lo ≤ T)
    (hhi : T ≤ hi ∧ hi < 2 ^ 63) (ht : lo ≤ t ∧ t ≤ hi) (hdir : dir.sign = (t - T).sign)
    (hne : dir ≠ 0) :
    ∃ lo' hi', narrow lo hi t dir = some (lo', hi') ∧ (-2 ^ 63 ≤ lo' ∧ lo' ≤ T) ∧
      (T ≤ hi' ∧ hi' < 2 ^ 63) ∧ hi' - lo' < hi - lo := by
  have hside : (dir > 0 ∧ T < t) ∨ (dir < 0 ∧ t < T) := by
    rcases lt_trichotomy t T with h | h | h
    · rw [Int.sign_eq_neg_one_of_neg (show t - T < 0 by omega)] at hdir
      exact .inr ⟨Int.sign_eq_neg_one_iff_neg.mp hdir, h⟩
    · rw [h, sub_self, Int.sign_zero] at hdir
      exact absurd (Int.sign_eq_zero_iff_zero.mp hdir) hne
    · rw [Int.sign_eq_one_of_pos (show 0 < t - T by omega)] at hdir
      exact .inl ⟨Int.sign_eq_one_iff_pos.mp hdir, h⟩
  unfold narrow
  rcases hside with ⟨hpos, hT⟩ | ⟨hneg, hT⟩
  · rw [if_neg (by omega)]
    simp only [if_pos hpos]
    split_ifs with hthi
    · rw [wrap64_of_bounds (by omega) (by omega)] at *
      omega
    · rw [wrap64_of_bounds (by omega) (by omega)]
      exact ⟨_, _, rfl, hlo, by omega, by omega⟩
    · exact ⟨_, _, rfl, hlo, by omega, by omega⟩
  · simp only [if_neg (show ¬dir > 0 by omega)]
    split_ifs with htlo hwrong hthi
    · rw [wrap64_of_bounds (by omega) (by omega)] at hwrong
      omega
    · rw [wrap64_of_bounds (by omega) (by omega)]
      exact ⟨_, _, rfl, by omega, hhi, by omega⟩
    · omega
    · omega
    · exact ⟨_, _, rfl, by omega, hhi, by omega⟩

/-- A search whose comparison tells the side of `T` ends at `T`. -/
theorem searchLoop_eq_some {funcp : ℤ → ℤ → Tm → Except Tm Tm} {offset : ℤ} {yourtm : Tm} {T : ℤ}
    (hdir : ∀ t mytm, (direction (funcp t offset mytm) t yourtm).sign = (t - T).sign)
    (hisdst : ∀ t mytm, direction (funcp t offset mytm) t yourtm = 0 →
      yourtm.isdst < 0 ∨ (structLeft (funcp t offset mytm)).isdst ≤ yourtm.isdst)
    {rounds : ℕ} {lo hi : ℤ} (hlo : -2 ^ 63 ≤ lo ∧ lo ≤ T) (hhi : T ≤ hi ∧ hi < 2 ^ 63)
    (hrounds : hi - lo < rounds) (mytm : Tm) :
    searchLoop funcp offset yourtm rounds lo hi mytm = some (some T) := by
  induction rounds generalizing lo hi mytm with
  | zero => omega
  | succ rounds ih =>
    have ht := probe_bounds (hlo.2.trans hhi.1)
    have hsign := hdir (probe lo hi) mytm
    rw [searchLoop]
    split_ifs with hne hstop
    · obtain ⟨lo', hi', heq, hlo', hhi', hlt⟩ := narrow_of_side hlo hhi ht hsign hne
      rw [heq]
      exact ih hlo' hhi' (by omega) _
    · rw [not_not.mp hne, Int.sign_zero] at hsign
      have := Int.sign_eq_zero_iff_zero.mp hsign.symm
      rw [show probe lo hi = T by omega]
    · exact absurd (hisdst _ _ (not_not.mp hne)) hstop

/-! ## `time2sub` -/

/-- `time2sub` up to `saved_seconds`: `yourtm` with normalised fields; `none` is
    `return WRONG`. -/
def normalizeFields (tmp : Tm) (doNormSecs : Bool) : Option Tm := do
  let (min, sec) ←
    if doNormSecs then normalizeOverflow tmp.min tmp.sec 60 else some (tmp.min, tmp.sec)
  let (hour, min) ← normalizeOverflow tmp.hour min 60
  let (mday, hour) ← normalizeOverflow tmp.mday hour 24
  let (y, mon) ← longNormalizeOverflow tmp.year tmp.mon 12
  let y ← longIncrementOverflow y 1900
  let (y, mday) ← borrowMdays mon y mday
  let (y, mday) ← carryMdays mon y mday
  let (y, mon, mday) ← carryMonths y mon mday
  let y ← longIncrementOverflow y (-1900)
  -- `yourtm.tm_year = (int) y`
  if y.bmod (2 ^ 32) ≠ y then none
  else some { tmp with sec, min, hour, mday, mon, year := y.bmod (2 ^ 32) }

/-- `saved_seconds`, and `yourtm` with the second that the search is for; `none` is
    `return WRONG`. -/
def saveSeconds (yourtm : Tm) : Option (ℤ × Tm) :=
  if yourtm.sec ≥ 0 ∧ yourtm.sec < 60 then some (0, yourtm)
  else if yourtm.year + 1900 < 1970 then
    (incrementOverflow yourtm.sec (1 - 60)).map fun sec => (sec, { yourtm with sec := 60 - 1 })
  else some (yourtm.sec, { yourtm with sec := 0 })

/-- `lo` before the search: 1, doubled 63 times. -/
def searchLo : ℤ := (fun lo => wrap64 (lo * 2))^[63] 1

/-- `hi` before the search. -/
def searchHi : ℤ := -wrap64 (searchLo + 1)

/-- `time2sub`: what it returns, `*okayp` and `*tmp`. `mytm` is not initialised in the
    source, and not read before `funcp` has filled it. -/
def time2sub (tmp : Tm) (funcp : ℤ → ℤ → Tm → Except Tm Tm) (offset : ℤ) (doNormSecs : Bool) :
    Option (ℤ × Bool × Tm) :=
  match (normalizeFields tmp doNormSecs).bind saveSeconds with
  | none => some (-1, false, tmp)
  | some (savedSeconds, yourtm) =>
    match searchLoop funcp offset yourtm searchRounds searchLo searchHi Tm.zero with
    | none => none
    | some none => some (-1, false, tmp)
    | some (some t) =>
      let newt := wrap64 (t + savedSeconds)
      if decide (newt < t) ≠ decide (savedSeconds < 0) then some (-1, false, tmp)
      else
        match funcp newt offset tmp with
        | .error tmp => some (newt, false, tmp)
        | .ok tmp => some (newt, true, tmp)

/-- The fields of a date from 1900 on; the day may be past the end of its month. -/
structure Tm.InRange (tm : Tm) : Prop where
  year : 0 ≤ tm.year ∧ tm.year ≤ 90000
  mon : 0 ≤ tm.mon ∧ tm.mon < 12
  mday : 1 ≤ tm.mday ∧ tm.mday ≤ 31
  hour : 0 ≤ tm.hour ∧ tm.hour < 24
  min : 0 ≤ tm.min ∧ tm.min < 60
  sec : 0 ≤ tm.sec ∧ tm.sec < 60

/-- The ranges concern the date and the time only. -/
theorem Tm.InRange.congr {a b : Tm} (h : a.InRange) (hdate : b.dateTime = a.dateTime) :
    b.InRange := by
  obtain ⟨hyear, hmon, hmday, hhour, hmin, hsec⟩ := h
  unfold Tm.dateTime at hdate
  simp only [DateTime.mk.injEq] at hdate
  constructor <;> omega

theorem searchLo_eq : searchLo = -2 ^ 63 := by decide +kernel

theorem searchHi_eq : searchHi = 2 ^ 63 - 1 := by decide +kernel

/-- Normalising carries an overlong day into the next month, and nothing else. -/
theorem normalizeFields_of_inRange {tm : Tm} (h : tm.InRange) :
    ∃ yourtm, normalizeFields tm false = some yourtm ∧ yourtm.dateTime.Valid ∧
      yourtm.dateTime.instant = tm.dateTime.instant ∧ yourtm.isdst = tm.isdst ∧
      yourtm.sec = tm.sec := by
  obtain ⟨hyear, hmon, hmday, hhour, hmin, hsec⟩ := h
  obtain ⟨y, mon, mday, hcarry, hy, hmon0, hmon12, hmday1, hmdayle, hdays⟩ :=
    carryMonths_of_le (y := tm.year + 1900)
      (by unfold longMin longMax; omega) hmon hmday
  have hwrap : (y + -1900).bmod (2 ^ 32) = y - 1900 := Int.bmod_eq_of_le (by omega) (by omega)
  refine ⟨{ tm with year := y - 1900, mon, mday }, ?_, ?_, ?_, rfl, rfl⟩
  · unfold normalizeFields
    rw [if_neg (by decide), Option.bind_eq_bind, Option.bind_some]
    dsimp only
    rw [normalizeOverflow_of_lt (by unfold intMin intMax; omega) hmin.1 hmin.2]
    simp only [Option.bind_eq_bind, Option.bind_some]
    rw [normalizeOverflow_of_lt (by unfold intMin intMax; omega) hhour.1 hhour.2]
    simp only [Option.bind_some]
    rw [longNormalizeOverflow_of_lt (by unfold longMin longMax; omega) hmon.1 hmon.2]
    simp only [Option.bind_some]
    rw [longIncrementOverflow_of_bounds (by unfold longMin; omega) (by unfold longMax; omega)]
    simp only [Option.bind_some]
    rw [borrowMdays, if_neg (by omega)]
    simp only [Option.bind_some]
    rw [carryMdays, if_neg (by omega)]
    simp only [Option.bind_some]
    rw [hcarry]
    simp only [Option.bind_some]
    rw [longIncrementOverflow_of_bounds (by unfold longMin; omega) (by unfold longMax; omega)]
    simp only [Option.bind_some]
    rw [hwrap, if_neg (by omega)]
  · refine ⟨hmon0, hmon12, hmday1, ?_, hhour.1, hhour.2, hmin.1, hmin.2, hsec.1, hsec.2⟩
    unfold Tm.dateTime
    dsimp only
    rw [sub_add_cancel]
    exact hmdayle
  · unfold Tm.dateTime DateTime.instant DateTime.days
    dsimp only
    rw [sub_add_cancel]
    omega

/-- The seconds of the dates of these years are near the epoch. -/
theorem Tm.InRange.instant_bounds {tm : Tm} (h : tm.InRange) :
    -2 ^ 50 ≤ tm.dateTime.instant ∧ tm.dateTime.instant ≤ 2 ^ 50 := by
  obtain ⟨hyear, hmon, hmday, hhour, hmin, hsec⟩ := h
  have hepoch : daysBeforeYear 1900 = -25567 := by decide
  have hyears := daysBeforeYear_sub_bounds (show 1900 ≤ tm.year + 1900 by omega)
  have hmonth := daysBeforeMonth_mono (y := tm.year + 1900) le_rfl hmon.1 hmon.2.le
  have hmonth' := daysBeforeMonth_mono (y := tm.year + 1900) hmon.1 hmon.2.le le_rfl
  have hlen := yearLength_bounds (tm.year + 1900)
  rw [daysBeforeMonth_zero] at hmonth
  rw [daysBeforeMonth_twelve] at hmonth'
  unfold Tm.dateTime DateTime.instant DateTime.days
  dsimp only
  omega

/-- The search ends at the second of the date. -/
theorem searchLoop_of_valid {yourtm : Tm} (hvalid : yourtm.dateTime.Valid)
    (hnear : -2 ^ 50 ≤ yourtm.dateTime.instant ∧ yourtm.dateTime.instant ≤ 2 ^ 50) :
    searchLoop timesub 0 yourtm searchRounds searchLo searchHi Tm.zero =
      some (some yourtm.dateTime.instant) := by
  rw [searchLo_eq, searchHi_eq]
  apply searchLoop_eq_some (direction_sign hvalid rfl hnear)
  · intro t mytm hdir
    have hsign := direction_sign hvalid rfl hnear t mytm
    rw [hdir, Int.sign_zero] at hsign
    have ht := Int.sign_eq_zero_iff_zero.mp hsign.symm
    rw [timesub_near (by omega)]
    -- `timesub` leaves 0 in `tm_isdst`, so the search stops for every `tm_isdst`
    unfold structLeft Tm.ofInstant
    dsimp only
    omega
  · omega
  · omega
  · unfold searchRounds
    omega

/-- For a date from 1900 on `time2sub` finds its second and normalises the struct. -/
theorem time2sub_eq {tm : Tm} (h : tm.InRange) :
    time2sub tm timesub 0 false =
      some (tm.dateTime.instant, true, Tm.ofInstant tm.dateTime.instant) := by
  obtain ⟨yourtm, hnormalize, hvalid, hinstant, -, hsec⟩ := normalizeFields_of_inRange h
  have hnear := h.instant_bounds
  have hsave : saveSeconds yourtm = some (0, yourtm) := by
    unfold saveSeconds
    rw [hsec, if_pos h.sec]
  rw [← hinstant] at hnear ⊢
  unfold time2sub
  rw [hnormalize, Option.bind_some, hsave]
  dsimp only
  rw [searchLoop_of_valid hvalid hnear]
  dsimp only
  rw [add_zero, wrap64_of_bounds (by omega) (by omega), if_neg (by simp), timesub_near hnear]

/-! ## `sgxssl_mktime` -/

/-- `time2`: a second try, with the seconds normalised, where the first one fails. -/
def time2 (tmp : Tm) (funcp : ℤ → ℤ → Tm → Except Tm Tm) (offset : ℤ) :
    Option (ℤ × Bool × Tm) :=
  match time2sub tmp funcp offset false with
  | none => none
  | some (t, okay, tmp) =>
    if okay then some (t, okay, tmp) else time2sub tmp funcp offset true

/-- `time1`, on a pointer that is not `NULL`: what it returns, and `*tmp`. -/
def time1 (tmp : Tm) (funcp : ℤ → ℤ → Tm → Except Tm Tm) (offset : ℤ) : Option (ℤ × Tm) :=
  match time2 (if tmp.isdst > 1 then { tmp with isdst := 1 } else tmp) funcp offset with
  | none => none
  | some (t, okay, tmp) => if okay then some (t, tmp) else some (-1, tmp)

/-- `localsub`; no code sets `lclptr`, so that it is `NULL`. -/
def localsub (timep offset : ℤ) (tmp : Tm) : Except Tm Tm := timesub timep offset tmp

/-- `sgxssl_mktime`. -/
def sgxsslMktime (tmp : Tm) : Option (ℤ × Tm) := time1 tmp localsub 0

theorem time2sub_bounds {tmp tm : Tm} {funcp : ℤ → ℤ → Tm → Except Tm Tm} {offset t : ℤ}
    {doNormSecs okay : Bool} (h : time2sub tmp funcp offset doNormSecs = some (t, okay, tm)) :
    -2 ^ 63 ≤ t ∧ t < 2 ^ 63 := by
  unfold time2sub at h
  dsimp only at h
  split at h
  · cases h
    decide
  · split at h
    · cases h
    · cases h
      decide
    · split_ifs at h
      · cases h
        decide
      · split at h
        · cases h
          exact wrap64_bounds _
        · cases h
          exact wrap64_bounds _

/-- What `sgxssl_mktime` returns fits a `time_t`, whatever the struct. -/
theorem sgxsslMktime_bounds {tmp tm : Tm} {t : ℤ} (h : sgxsslMktime tmp = some (t, tm)) :
    -2 ^ 63 ≤ t ∧ t < 2 ^ 63 := by
  unfold sgxsslMktime time1 time2 at h
  split at h
  · cases h
  · rename_i htime2
    split_ifs at h <;> cases h
    · split at htime2
      · cases htime2
      · rename_i hfirst
        split_ifs at htime2
        · cases htime2
          exact time2sub_bounds hfirst
        · exact time2sub_bounds htime2
    · decide

/-- `sgxssl_mktime` ends, returns the second of the date and leaves the normalised fields. -/
theorem sgxsslMktime_eq {tm : Tm} (h : tm.InRange) :
    sgxsslMktime tm = some (tm.dateTime.instant, Tm.ofInstant tm.dateTime.instant) := by
  have hdst : ∃ tm' : Tm, (if tm.isdst > 1 then { tm with isdst := 1 } else tm) = tm' ∧
      tm'.InRange ∧ tm'.dateTime = tm.dateTime := by
    refine ⟨_, rfl, ?_, ?_⟩ <;> split_ifs
    · exact ⟨h.year, h.mon, h.mday, h.hour, h.min, h.sec⟩
    · exact h
    · rfl
    · rfl
  obtain ⟨tm', htm', hrange, hdate⟩ := hdst
  have hlocalsub : localsub = timesub := rfl
  unfold sgxsslMktime time1 time2
  rw [htm', hlocalsub, time2sub_eq hrange, hdate]
  rfl

/-- The seconds from 1970 to 9999 have structs in the range of `sgxssl_mktime`. -/
theorem Tm.inRange_ofInstant {t : ℤ} (h : 0 ≤ t ∧ t ≤ 253402300799) : (Tm.ofInstant t).InRange := by
  have hyear : 1970 ≤ (DateTime.ofInstant t).year ∧ (DateTime.ofInstant t).year ≤ 91900 := by
    obtain ⟨hle, hlt⟩ := yearOfDay_spec (t / 86400)
    have hepoch : daysBeforeYear 1970 = 0 := by decide
    have hyear : (DateTime.ofInstant t).year = yearOfDay (t / 86400) := rfl
    rcases lt_or_ge (yearOfDay (t / 86400)) 1970 with hy | hy
    · have := (daysBeforeYear_sub_bounds (show yearOfDay (t / 86400) + 1 ≤ 1970 from hy)).1
      omega
    · have := (daysBeforeYear_sub_bounds hy).1
      omega
  obtain ⟨hmon, hmon', hday, hday', hhour, hhour', hmin', hmin'', hsec, hsec'⟩ :=
    DateTime.ofInstant_valid t
  have hlen := monthLength_bounds (y := (DateTime.ofInstant t).year) hmon'
  refine ⟨?_, ⟨hmon, hmon'⟩, ⟨hday, hday'.trans hlen.2⟩, ⟨hhour, hhour'⟩, ⟨hmin', hmin''⟩,
    hsec, hsec'⟩
  unfold Tm.ofInstant
  dsimp only
  omega

end DcapQvl
