import DcapQvl.Time.TimeUtils

/-!
# Dates outside the enclave

The functions of `namespace standard` in `AttestationCommons/src/Utils/TimeUtils.cpp`, over
`std::get_time` and `timegm`, against those of `namespace enclave`.

Results:
* `standardIsValidTimeString_eq_true`: the standard path accepts exactly the strings
  `YYYY-MM-DDTHH:MM:SSZ` that name an existing date.
* `enclaveIsValidTimeString_eq`: the enclave path asks for no digits, lets the string go
  on after the `Z`, and wants a year from 1900 on.
* `pathsAgree_iff`: the strings on which the two paths agree.
-/

namespace DcapQvl

open Lib

/-! ## The format -/

/-- `[0-9]`. -/
def IsDigit (c : UInt8) : Prop := 48 ≤ c ∧ c ≤ 57

instance : DecidablePred IsDigit := fun c => inferInstanceAs (Decidable (48 ≤ c ∧ c ≤ 57))

/-- The places of the digits in `YYYY-MM-DDTHH:MM:SSZ`. -/
def digitPlaces : List ℕ := [0, 1, 2, 3, 5, 6, 8, 9, 11, 12, 14, 15, 17, 18]

/-- `YYYY-MM-DDTHH:MM:SSZ` to its end, with a digit at every place of one. -/
def Plain (s : Bytes) : Prop := s.length = 20 ∧ ∀ i ∈ digitPlaces, IsDigit (charAt s i)

instance : DecidablePred Plain := fun s =>
  inferInstanceAs (Decidable (s.length = 20 ∧ ∀ i ∈ digitPlaces, IsDigit (charAt s i)))

/-- `regex_match` with `timeRegex`. -/
def TimeRegex (s : Bytes) : Prop := Plain s ∧ Separated s

instance : DecidablePred TimeRegex := fun s =>
  inferInstanceAs (Decidable (Plain s ∧ Separated s))

/-- The decimal number that characters write. -/
def decimal (s : Bytes) (offset count : ℕ) : ℕ :=
  ((s.drop offset).take count).foldl (fun n c => 10 * n + (c.toNat - 48)) 0

/-- The date and time that a string in the format writes. -/
def writtenDate (s : Bytes) : DateTime where
  year := decimal s 0 4
  month := decimal s 5 2 - 1
  day := decimal s 8 2
  hour := decimal s 11 2
  minute := decimal s 14 2
  second := decimal s 17 2

theorem charInt_of_isDigit {c : UInt8} (h : IsDigit c) : charInt c - 48 = (c.toNat - 48 : ℕ) := by
  have hlo : 48 ≤ c.toNat := UInt8.le_iff_toNat_le.mp h.1
  have hhi : c.toNat ≤ 57 := UInt8.le_iff_toNat_le.mp h.2
  unfold charInt
  rw [Int.bmod_eq_of_le (by omega) (by omega)]
  omega

theorem number2_of_isDigit {a b : UInt8} (ha : IsDigit a) (hb : IsDigit b) :
    number2 a b = (10 * (a.toNat - 48) + (b.toNat - 48) : ℕ) := by
  unfold number2
  rw [charInt_of_isDigit ha, charInt_of_isDigit hb]
  omega

theorem numAt_two_eq_decimal {s : Bytes} {n : ℕ} (hlen : n + 2 ≤ s.length)
    (ha : IsDigit (charAt s n)) (hb : IsDigit (charAt s (n + 1))) :
    numAt s n 2 = decimal s n 2 := by
  rw [numAt_two hlen, number2_of_isDigit ha hb, decimal, take_two_drop hlen]
  simp only [List.foldl_cons, List.foldl_nil, mul_zero, zero_add]

/-- On digits the two readings are one. -/
theorem dateRead_eq_writtenDate {s : Bytes} (h : Plain s) : dateRead s = writtenDate s := by
  obtain ⟨hlen, hdigit⟩ := h
  have hyear : numAt s 0 4 = decimal s 0 4 := by
    rw [numAt_four (by omega),
      number2_of_isDigit (hdigit 0 (by decide)) (hdigit 1 (by decide)),
      number2_of_isDigit (hdigit 2 (by decide)) (hdigit 3 (by decide)), decimal,
      show 4 = 2 + 2 by rfl, List.take_add, List.drop_drop, take_two_drop (by omega),
      take_two_drop (by omega)]
    simp only [List.cons_append, List.nil_append, List.foldl_cons, List.foldl_nil, zero_add,
      Nat.reduceAdd]
    omega
  unfold dateRead Tm.dateTime fieldsRead writtenDate
  dsimp only
  rw [hyear, numAt_two_eq_decimal (by omega) (hdigit 5 (by decide)) (hdigit 6 (by decide)),
    numAt_two_eq_decimal (by omega) (hdigit 8 (by decide)) (hdigit 9 (by decide)),
    numAt_two_eq_decimal (by omega) (hdigit 11 (by decide)) (hdigit 12 (by decide)),
    numAt_two_eq_decimal (by omega) (hdigit 14 (by decide)) (hdigit 15 (by decide)),
    numAt_two_eq_decimal (by omega) (hdigit 17 (by decide)) (hdigit 18 (by decide)),
    sub_add_cancel]

/-! ## The standard path -/

/-- The fields in the ranges of the conversion specifiers of `std::get_time`. -/
structure Tm.Converted (tm : Tm) : Prop where
  year : -1900 ≤ tm.year ∧ tm.year ≤ 8099
  mon : 0 ≤ tm.mon ∧ tm.mon ≤ 11
  mday : 1 ≤ tm.mday ∧ tm.mday ≤ 31
  hour : 0 ≤ tm.hour ∧ tm.hour ≤ 23
  min : 0 ≤ tm.min ∧ tm.min ≤ 59
  sec : 0 ≤ tm.sec ∧ tm.sec ≤ 60

/-- What the standard path calls of the C++ library and of libc, with what it relies on. -/
structure StandardTime where
  /-- `input >> std::get_time(&time, "%Y-%m-%dT%H:%M:%SZ")`: `time` after it, and
      `input.fail()`. -/
  getTime : Bytes → Tm → Tm × Bool
  /-- `timegm`: what it returns, and the struct after it. -/
  timegm : Tm → ℤ × Tm
  /-- `std::get_time` converts what the format writes to fields in their ranges. -/
  getTime_of_ok (s : Bytes) (tm : Tm) : TimeRegex s → (getTime s tm).2 = false →
    (getTime s tm).1.dateTime = writtenDate s ∧ (getTime s tm).1.Converted
  /-- `std::get_time` fails on no existing date. -/
  getTime_ok (s : Bytes) (tm : Tm) : TimeRegex s → (writtenDate s).Valid →
    (getTime s tm).2 = false
  /-- `timegm` is the inverse of `gmtime`, and normalises the fields. -/
  timegm_eq (tm : Tm) : tm.Converted →
    (timegm tm).1 = tm.dateTime.instant ∧
      (timegm tm).2.dateTime = DateTime.ofInstant tm.dateTime.instant

variable (std : StandardTime)

/-- `standard::isValidTimeString`. -/
def standardIsValidTimeString (timeString : Bytes) : Bool :=
  if ¬TimeRegex timeString then false
  else
    let (validate, fail) := std.getTime timeString Tm.zero
    let time := (std.timegm validate).2
    if validate.year ≠ time.year ∨ validate.mon ≠ time.mon ∨ validate.mday ≠ time.mday ∨
        validate.hour ≠ time.hour ∨ validate.min ≠ time.min ∨ validate.sec ≠ time.sec
    then false
    else !fail

/-- `standard::getTimeFromString`. -/
def standardGetTimeFromString (date : Bytes) : Tm := (std.getTime date Tm.zero).1

/-- `getEpochTimeFromString` with the functions outside the enclave. -/
def standardGetEpochTimeFromString (date : Bytes) : ℤ :=
  (std.timegm (standardGetTimeFromString std date)).1

variable {std}

/-- The standard path accepts exactly the strings of the format that name an existing date. -/
theorem standardIsValidTimeString_eq_true {s : Bytes} :
    standardIsValidTimeString std s = true ↔ TimeRegex s ∧ (writtenDate s).Valid := by
  unfold standardIsValidTimeString
  by_cases hregex : TimeRegex s
  · rw [if_neg (not_not.mpr hregex)]
    have hfields := dateTime_eq_iff (a := (std.getTime s Tm.zero).1)
      (b := (std.timegm (std.getTime s Tm.zero).1).2)
    cases hfail : (std.getTime s Tm.zero).2 with
    | true =>
      have hinvalid : ¬(writtenDate s).Valid := by
        intro hvalid
        rw [std.getTime_ok s Tm.zero hregex hvalid] at hfail
        cases hfail
      simp [hfail, hinvalid]
    | false =>
      obtain ⟨hdate, hconverted⟩ := std.getTime_of_ok s Tm.zero hregex hfail
      rw [(std.timegm_eq _ hconverted).2, hdate, ← valid_iff_ofInstant_instant] at hfields
      by_cases hvalid : (writtenDate s).Valid
      · simp only [if_neg (hfields.mp hvalid), hfail]
        simp [hregex, hvalid]
      · simp only [if_pos (not_not.mp (mt hfields.mpr hvalid))]
        simp [hvalid]
  · rw [if_pos hregex]
    constructor
    · intro h
      cases h
    · rintro ⟨h, -⟩
      exact absurd h hregex

/-- And gives the second of that date. -/
theorem standardGetEpochTimeFromString_eq {s : Bytes} (hregex : TimeRegex s)
    (hvalid : (writtenDate s).Valid) :
    standardGetEpochTimeFromString std s = (writtenDate s).instant := by
  obtain ⟨hdate, hconverted⟩ :=
    std.getTime_of_ok s Tm.zero hregex (std.getTime_ok s Tm.zero hregex hvalid)
  unfold standardGetEpochTimeFromString standardGetTimeFromString
  rw [(std.timegm_eq _ hconverted).1, hdate]

/-! ## The enclave path -/

/-- The date and time that the characters of a string count, each from `'0'`, digits or
    not. -/
def countedDate (s : Bytes) : DateTime where
  year := 100 * number2 (charAt s 0) (charAt s 1) + number2 (charAt s 2) (charAt s 3)
  month := number2 (charAt s 5) (charAt s 6) - 1
  day := number2 (charAt s 8) (charAt s 9)
  hour := number2 (charAt s 11) (charAt s 12)
  minute := number2 (charAt s 14) (charAt s 15)
  second := number2 (charAt s 17) (charAt s 18)

/-- The string is long enough, has the separators in place and counts an existing date. -/
def CountsDate (s : Bytes) : Prop := 20 ≤ s.length ∧ Separated s ∧ (countedDate s).Valid

instance : DecidablePred CountsDate := fun s =>
  inferInstanceAs (Decidable (20 ≤ s.length ∧ Separated s ∧ (countedDate s).Valid))

/-- The last second before the epoch, which is the second -1. -/
def lastBeforeEpoch : DateTime := ⟨1969, 11, 31, 23, 59, 59⟩

/-- A date from 1900 on, other than the last second before the epoch. -/
def Modern (d : DateTime) : Prop := 1900 ≤ d.year ∧ d ≠ lastBeforeEpoch

instance : DecidablePred Modern := fun d =>
  inferInstanceAs (Decidable (1900 ≤ d.year ∧ d ≠ lastBeforeEpoch))

theorem dateRead_eq_countedDate {s : Bytes} (h : 20 ≤ s.length) : dateRead s = countedDate s := by
  unfold dateRead Tm.dateTime fieldsRead countedDate
  dsimp only
  rw [numAt_four (by omega), numAt_two (by omega), numAt_two (by omega), numAt_two (by omega),
    numAt_two (by omega), numAt_two (by omega), sub_add_cancel]

theorem instant_eq_neg_one_iff {d : DateTime} (h : d.Valid) :
    d.instant = -1 ↔ d = lastBeforeEpoch := by
  have hlast : lastBeforeEpoch.Valid := by decide
  have hinstant : lastBeforeEpoch.instant = -1 := by decide
  constructor
  · intro hd
    exact h.eq_of_instant_eq hlast (hd.trans hinstant.symm)
  · rintro rfl
    exact hinstant

/-- A string of the format that writes an existing date counts it, and the other way
    round for a plain string. -/
theorem timeRegex_valid_iff {s : Bytes} :
    (TimeRegex s ∧ (writtenDate s).Valid) ↔ Plain s ∧ CountsDate s := by
  constructor
  · rintro ⟨⟨hplain, hsep⟩, hvalid⟩
    have hlen : 20 ≤ s.length := hplain.1.ge
    rw [← dateRead_eq_writtenDate hplain, dateRead_eq_countedDate hlen] at hvalid
    exact ⟨hplain, hlen, hsep, hvalid⟩
  · rintro ⟨hplain, hlen, hsep, hvalid⟩
    rw [← dateRead_eq_countedDate hlen, dateRead_eq_writtenDate hplain] at hvalid
    exact ⟨⟨hplain, hsep⟩, hvalid⟩

/-- The enclave path always ends, and accepts exactly the strings that count an existing
    date from 1900 on other than the last second before the epoch. -/
theorem enclaveIsValidTimeString_eq (s : Bytes) :
    enclaveIsValidTimeString s = some (decide (CountsDate s ∧ Modern (countedDate s))) := by
  obtain ⟨t, tm, h, haccepts, -⟩ := qvlStringToTime_accepts s Tm.zero
  unfold enclaveIsValidTimeString
  rw [h, Option.map_some, Option.some.injEq, Bool.eq_iff_iff, bne_iff_ne, decide_eq_true_iff,
    haccepts]
  constructor
  · rintro ⟨hlen, hsep, hvalid, hyear, hne⟩
    rw [dateRead_eq_countedDate hlen] at hvalid hyear hne
    exact ⟨⟨hlen, hsep, hvalid⟩, hyear, mt (instant_eq_neg_one_iff hvalid).mpr hne⟩
  · rintro ⟨⟨hlen, hsep, hvalid⟩, hyear, hne⟩
    rw [dateRead_eq_countedDate hlen]
    exact ⟨hlen, hsep, hvalid, hyear, mt (instant_eq_neg_one_iff hvalid).mp hne⟩

/-- And gives the second of that date. -/
theorem enclaveGetEpochTimeFromString_eq {s : Bytes} (hcounts : CountsDate s)
    (hmodern : Modern (countedDate s)) :
    enclaveGetEpochTimeFromString s = some (countedDate s).instant := by
  obtain ⟨hlen, hsep, hvalid⟩ := hcounts
  have hdate := dateRead_eq_countedDate hlen
  have hrange := inRange_of_valid hlen (hdate ▸ hvalid) (hdate ▸ hmodern.1)
  have hread : readFields s Tm.zero = .ok (fieldsRead s) :=
    readFields_eq_ok.mpr ⟨⟨hlen, hsep, hrange⟩, rfl⟩
  have hne := mt (instant_eq_neg_one_iff hvalid).mp hmodern.2
  have hleft : (Tm.ofInstant (countedDate s).instant).InRange := by
    apply hrange.congr
    rw [Tm.dateTime_ofInstant, hvalid.ofInstant_instant, ← hdate]
    rfl
  unfold enclaveGetEpochTimeFromString enclaveGetTimeFromString
  rw [qvlStringToTime_of_read hread, hdate, if_pos hvalid]
  simp only [Option.map_some, Option.bind_some, bne_iff_ne, ne_eq, hne, not_false_eq_true, if_true]
  rw [enclaveMktime_ofInstant hleft, Option.map_some]

/-! ## Agreement -/

/-- Both paths accept the string or both reject it, and where both accept it they give the
    same second. -/
def PathsAgree (std : StandardTime) (s : Bytes) : Prop :=
  enclaveIsValidTimeString s = some (standardIsValidTimeString std s) ∧
    (enclaveIsValidTimeString s = some true → standardIsValidTimeString std s = true →
      enclaveGetEpochTimeFromString s = some (standardGetEpochTimeFromString std s))

/-- The paths agree on a string unless it counts an existing date and either is plain or
    is from 1900 on (other than the last second before the epoch), but not both. -/
theorem pathsAgree_iff (std : StandardTime) (s : Bytes) :
    PathsAgree std s ↔ (CountsDate s → (Plain s ↔ Modern (countedDate s))) := by
  have hstandard : standardIsValidTimeString std s = decide (Plain s ∧ CountsDate s) := by
    rw [Bool.eq_iff_iff, standardIsValidTimeString_eq_true, timeRegex_valid_iff, decide_eq_true_iff]
  unfold PathsAgree
  rw [enclaveIsValidTimeString_eq, hstandard, Option.some.injEq, decide_eq_decide]
  constructor
  · rintro ⟨h, -⟩ hcounts
    constructor
    · intro hplain
      exact (h.mpr ⟨hplain, hcounts⟩).2
    · intro hmodern
      exact (h.mp ⟨hcounts, hmodern⟩).1
  · intro h
    refine ⟨⟨fun he => ⟨(h he.1).mpr he.2, he.1⟩, fun hs => ⟨hs.2, (h hs.2).mp hs.1⟩⟩, ?_⟩
    intro henclave hstd
    obtain ⟨hcounts, hmodern⟩ := of_decide_eq_true (Option.some.inj henclave)
    obtain ⟨hplain, -⟩ := of_decide_eq_true hstd
    obtain ⟨hregex, hvalid⟩ := timeRegex_valid_iff.mpr ⟨hplain, hcounts⟩
    rw [enclaveGetEpochTimeFromString_eq hcounts hmodern,
      standardGetEpochTimeFromString_eq hregex hvalid, ← dateRead_eq_countedDate hcounts.1,
      dateRead_eq_writtenDate hplain]

theorem writtenDate_year_bounds {s : Bytes} (h : Plain s) :
    0 ≤ (writtenDate s).year ∧ (writtenDate s).year ≤ 9999 := by
  obtain ⟨hlen, hdigit⟩ := h
  have hlt (c : UInt8) (hc : IsDigit c) : c.toNat ≤ 57 := UInt8.le_iff_toNat_le.mp hc.2
  have h0 := hlt _ (hdigit 0 (by decide))
  have h1 := hlt _ (hdigit 1 (by decide))
  have h2 := hlt _ (hdigit 2 (by decide))
  have h3 := hlt _ (hdigit 3 (by decide))
  rw [← dateRead_eq_writtenDate ⟨hlen, hdigit⟩, dateRead_eq_countedDate hlen.ge]
  unfold countedDate
  dsimp only
  rw [number2_of_isDigit (hdigit 0 (by decide)) (hdigit 1 (by decide)),
    number2_of_isDigit (hdigit 2 (by decide)) (hdigit 3 (by decide))]
  omega

/-- The struct of a date, as `std::get_time` fills it. -/
def Tm.ofDateTime (d : DateTime) : Tm where
  sec := d.second
  min := d.minute
  hour := d.hour
  mday := d.day
  mon := d.month
  year := d.year - 1900
  wday := 0
  yday := 0
  isdst := 0

theorem Tm.dateTime_ofDateTime (d : DateTime) : (Tm.ofDateTime d).dateTime = d := by
  unfold Tm.dateTime Tm.ofDateTime
  ext <;> simp

/-- A `std::get_time` that takes existing dates only. -/
def sampleStandardTime : StandardTime where
  getTime s tm :=
    if (writtenDate s).Valid then (Tm.ofDateTime (writtenDate s), false) else (tm, true)
  timegm tm := (tm.dateTime.instant, Tm.ofInstant tm.dateTime.instant)
  getTime_of_ok s tm hregex := by
    split_ifs with hvalid
    · intro _
      refine ⟨Tm.dateTime_ofDateTime _, ?_⟩
      have hyear := writtenDate_year_bounds hregex.1
      have hlen := monthLength_bounds (y := (writtenDate s).year) hvalid.month_lt
      obtain ⟨hmon, hmon', hday, hday', hhour, hhour', hmin, hmin', hsec, hsec'⟩ := hvalid
      constructor <;>
      · unfold Tm.ofDateTime
        dsimp only
        omega
    · intro h
      cases h
  getTime_ok s tm _ hvalid := by rw [if_pos hvalid]
  timegm_eq tm _ := ⟨rfl, Tm.dateTime_ofInstant _⟩

/-- On a plain date of this century the paths agree. -/
theorem pathsAgree_iff_sample : PathsAgree sampleStandardTime (str "2017-10-04T11:10:45Z") := by
  apply (pathsAgree_iff sampleStandardTime (str "2017-10-04T11:10:45Z")).mpr
  decide +kernel

/-- A date and a character after it. -/
def sampleTrailing : Bytes := str "2025-01-01T00:00:00Zx"

/-- The enclave path accepts it, the standard path does not. -/
theorem sampleTrailing_disagrees : ¬PathsAgree sampleStandardTime sampleTrailing := by
  rintro ⟨h, -⟩
  have hstandard : standardIsValidTimeString sampleStandardTime sampleTrailing = false := by
    unfold standardIsValidTimeString
    rw [if_pos (by decide +kernel)]
  rw [enclaveIsValidTimeString_eq, hstandard] at h
  revert h
  decide +kernel

end DcapQvl
