import DcapQvl.Common.Hex
import DcapQvl.Time.MkTime

/-!
# Dates in the enclave

The functions of `namespace enclave` in `AttestationCommons/src/Utils/TimeUtils.cpp`. A
string is read at fixed places; its characters are not checked to be digits.

Results:
* `readFields_eq_ok`: when the string is read to its end, and what is read.
* `qvlStringToTime_accepts`: what `qvlStringToTime` returns and leaves in the struct.
* `timeConversions`: `sgxssl_mktime`, `qvlStringToTime` and `gmtime` follow the
  Gregorian calendar.
-/

namespace DcapQvl

open Lib

/-! ## Numbers -/

/-- `*tmp`, with `tmp` at `offset`. -/
def charAt (str : Bytes) (offset : ℕ) : UInt8 := str.getD offset 0

/-- A `char` as an `int`; it is signed. -/
def charInt (c : UInt8) : ℤ := (c.toNat : ℤ).bmod 256

/-- A result of `uint32_t` arithmetic. -/
def wrapU32 (x : ℤ) : ℤ := x % 2 ^ 32

/-- `(uint32_t) (c - '0')`. -/
def digitOf (c : UInt8) : ℤ := wrapU32 (charInt c - 48)

/-- `*num` after `enclave::qvlStringToNum`, on the `count` characters that it reads. -/
def qvlStringToNum : Bytes → ℤ
  | [] => 0
  | c :: cs => cs.foldl (fun num c => wrapU32 (num * 10 + digitOf c)) (digitOf c)

/-- An `int` member of the struct after `qvlStringToNum` wrote it: the characters from
    `offset`. -/
def numAt (str : Bytes) (offset count : ℕ) : ℤ :=
  (qvlStringToNum ((str.drop offset).take count)).bmod (2 ^ 32)

/-- The value of two characters, each counted from `'0'`. -/
def number2 (a b : UInt8) : ℤ := 10 * (charInt a - 48) + (charInt b - 48)

theorem charInt_bounds (c : UInt8) : -128 ≤ charInt c ∧ charInt c ≤ 127 := by
  have h := UInt8.toNat_lt c
  unfold charInt
  rw [Int.bmod_def]
  split_ifs <;> omega

/-- The wrap-arounds cancel: two characters. -/
theorem qvlStringToNum_two (a b : UInt8) :
    (qvlStringToNum [a, b]).bmod (2 ^ 32) = number2 a b := by
  have ha := charInt_bounds a
  have hb := charInt_bounds b
  unfold qvlStringToNum digitOf wrapU32 number2
  simp only [List.foldl_cons, List.foldl_nil]
  rw [Int.bmod_def]
  split_ifs <;> omega

/-- The wrap-arounds cancel: four characters. -/
theorem qvlStringToNum_four (a b c d : UInt8) :
    (qvlStringToNum [a, b, c, d]).bmod (2 ^ 32) = 100 * number2 a b + number2 c d := by
  have ha := charInt_bounds a
  have hb := charInt_bounds b
  have hc := charInt_bounds c
  have hd := charInt_bounds d
  unfold qvlStringToNum digitOf wrapU32 number2
  simp only [List.foldl_cons, List.foldl_nil]
  rw [Int.bmod_def]
  split_ifs <;> omega

theorem take_two_drop {str : Bytes} {n : ℕ} (h : n + 2 ≤ str.length) :
    (str.drop n).take 2 = [charAt str n, charAt str (n + 1)] := by
  unfold charAt
  rw [List.drop_eq_getElem_cons (by omega), List.drop_eq_getElem_cons (by omega),
    List.take_succ_cons, List.take_succ_cons, List.take_zero, List.getD_eq_getElem _ _ (by omega),
    List.getD_eq_getElem _ _ (by omega)]

theorem numAt_two {str : Bytes} {n : ℕ} (h : n + 2 ≤ str.length) :
    numAt str n 2 = number2 (charAt str n) (charAt str (n + 1)) := by
  unfold numAt
  rw [take_two_drop h, qvlStringToNum_two]

theorem numAt_four {str : Bytes} (h : 4 ≤ str.length) :
    numAt str 0 4 = 100 * number2 (charAt str 0) (charAt str 1) +
      number2 (charAt str 2) (charAt str 3) := by
  unfold numAt
  rw [show 4 = 2 + 2 by rfl, List.take_add, List.drop_drop, take_two_drop (by omega),
    take_two_drop (by omega)]
  exact qvlStringToNum_four _ _ _ _

theorem number2_bounds (a b : UInt8) : -1936 ≤ number2 a b ∧ number2 a b ≤ 869 := by
  have ha := charInt_bounds a
  have hb := charInt_bounds b
  unfold number2
  omega

theorem numAt_four_le {str : Bytes} (h : 4 ≤ str.length) : numAt str 0 4 ≤ 90000 := by
  have h01 := number2_bounds (charAt str 0) (charAt str 1)
  have h23 := number2_bounds (charAt str 2) (charAt str 3)
  rw [numAt_four h]
  omega

/-! ## `qvlStringToTime` -/

/-- `if (condition) break`, with the struct as it is then. -/
def breakIf (condition : Prop) [Decidable condition] (datetime : Tm) : Except Tm Unit :=
  if condition then .error datetime else .ok ()

/-- `qvlStringToTime` up to the call of `sgxssl_mktime`, on pointers that are not `NULL`;
    `error` is a `break`. -/
def readFields (str : Bytes) (datetime : Tm) : Except Tm Tm := do
  breakIf (str.length < 20) datetime
  let datetime := { datetime with year := numAt str 0 4 - 1900 }
  breakIf (datetime.year < 0) datetime
  breakIf (charAt str 4 ≠ 45) datetime
  let datetime := { datetime with mon := numAt str 5 2 - 1 }
  breakIf (datetime.mon < 0 ∨ datetime.mon > 11) datetime
  breakIf (charAt str 7 ≠ 45) datetime
  let datetime := { datetime with mday := numAt str 8 2 }
  breakIf (datetime.mday < 1 ∨ datetime.mday > 31) datetime
  breakIf (charAt str 10 ≠ 84) datetime
  let datetime := { datetime with hour := numAt str 11 2 }
  breakIf (datetime.hour < 0 ∨ datetime.hour > 23) datetime
  breakIf (charAt str 13 ≠ 58) datetime
  let datetime := { datetime with min := numAt str 14 2 }
  breakIf (datetime.min < 0 ∨ datetime.min > 59) datetime
  breakIf (charAt str 16 ≠ 58) datetime
  let datetime := { datetime with sec := numAt str 17 2 }
  breakIf (datetime.sec < 0 ∨ datetime.sec > 59) datetime
  breakIf (charAt str 19 ≠ 90) datetime
  pure { datetime with wday := 0, yday := 0, isdst := -1 }

/-- `qvlStringToTime`: what it returns, and `*datetime`. -/
def qvlStringToTime (str : Bytes) (datetime : Tm) : Option (ℤ × Tm) :=
  match readFields str datetime with
  | .error datetime => some (-1, datetime)
  | .ok validate =>
    match sgxsslMktime validate with
    | none => none
    | some (result, datetime) =>
      if validate.year ≠ datetime.year ∨ validate.mon ≠ datetime.mon ∨
          validate.mday ≠ datetime.mday ∨ validate.hour ≠ datetime.hour ∨
          validate.min ≠ datetime.min ∨ validate.sec ≠ datetime.sec
      then some (-1, datetime)
      else some (result, datetime)

/-- The separators of `YYYY-MM-DDTHH:MM:SSZ`. -/
def Separated (str : Bytes) : Prop :=
  charAt str 4 = 45 ∧ charAt str 7 = 45 ∧ charAt str 10 = 84 ∧ charAt str 13 = 58 ∧
    charAt str 16 = 58 ∧ charAt str 19 = 90

instance : DecidablePred Separated := fun str =>
  inferInstanceAs (Decidable (charAt str 4 = 45 ∧ charAt str 7 = 45 ∧ charAt str 10 = 84 ∧
    charAt str 13 = 58 ∧ charAt str 16 = 58 ∧ charAt str 19 = 90))

/-- The struct that a string read to its end fills. -/
def fieldsRead (str : Bytes) : Tm where
  sec := numAt str 17 2
  min := numAt str 14 2
  hour := numAt str 11 2
  mday := numAt str 8 2
  mon := numAt str 5 2 - 1
  year := numAt str 0 4 - 1900
  wday := 0
  yday := 0
  isdst := -1

/-- The date and time that a string is read as. -/
def dateRead (str : Bytes) : DateTime := (fieldsRead str).dateTime

theorem breakIf_eq_ok {condition : Prop} [Decidable condition] {datetime : Tm} {u : Unit} :
    breakIf condition datetime = .ok u ↔ ¬condition := by
  unfold breakIf
  split_ifs with h <;> simp [h]

/-- The string is read to its end exactly when its separators are in place and its
    fields are in their ranges. -/
theorem readFields_eq_ok {str : Bytes} {datetime tm : Tm} :
    readFields str datetime = .ok tm ↔
      (20 ≤ str.length ∧ Separated str ∧ (fieldsRead str).InRange) ∧ tm = fieldsRead str := by
  unfold readFields
  simp only [bind_eq_ok, breakIf_eq_ok, exists_const, not_not, not_lt, not_or]
  constructor
  · rintro ⟨hlen, hyear, hs4, hmon, hs7, hmday, hs10, hhour, hs13, hmin, hs16, hsec, hs19, h⟩
    cases h
    have hyear' := numAt_four_le (show 4 ≤ str.length by omega)
    refine ⟨⟨hlen, ⟨hs4, hs7, hs10, hs13, hs16, hs19⟩, ?_⟩, rfl⟩
    constructor <;>
    · unfold fieldsRead
      dsimp only
      omega
  · rintro ⟨⟨hlen, ⟨hs4, hs7, hs10, hs13, hs16, hs19⟩, hyear, hmon, hmday, hhour, hmin, hsec⟩, rfl⟩
    unfold fieldsRead at hyear hmon hmday hhour hmin hsec
    dsimp only at hyear hmon hmday hhour hmin hsec
    refine ⟨hlen, by omega, hs4, by omega, hs7, by omega, hs10, by omega, hs13, by omega, hs16,
      by omega, hs19, rfl⟩

/-- The fields that `qvlStringToTime` compares are those of the date. -/
theorem dateTime_eq_iff {a b : Tm} :
    a.dateTime = b.dateTime ↔
      ¬(a.year ≠ b.year ∨ a.mon ≠ b.mon ∨ a.mday ≠ b.mday ∨ a.hour ≠ b.hour ∨
        a.min ≠ b.min ∨ a.sec ≠ b.sec) := by
  unfold Tm.dateTime
  simp only [DateTime.mk.injEq, add_left_inj, not_or, not_not]

theorem valid_iff_ofInstant_instant {d : DateTime} :
    d.Valid ↔ d = DateTime.ofInstant d.instant := by
  constructor
  · intro h
    exact h.ofInstant_instant.symm
  · intro h
    rw [h]
    exact DateTime.ofInstant_valid _

/-- An existing date from 1900 on is in the ranges. -/
theorem inRange_of_valid {str : Bytes} (hlen : 20 ≤ str.length) (hvalid : (dateRead str).Valid)
    (hyear : 1900 ≤ (dateRead str).year) : (fieldsRead str).InRange := by
  obtain ⟨hmon, hmon', hday, hday', hhour, hhour', hmin, hmin', hsec, hsec'⟩ := hvalid
  have hlength := monthLength_bounds (y := (dateRead str).year) hmon'
  have hyear' := numAt_four_le (show 4 ≤ str.length by omega)
  refine ⟨?_, ⟨hmon, hmon'⟩, ⟨hday, hday'.trans hlength.2⟩, ⟨hhour, hhour'⟩, ⟨hmin, hmin'⟩,
    hsec, hsec'⟩
  unfold dateRead Tm.dateTime fieldsRead at hyear
  unfold fieldsRead
  dsimp only at hyear ⊢
  omega

/-- What `qvlStringToTime` returns, and what it leaves, for a string read to its end. -/
theorem qvlStringToTime_of_read {str : Bytes} {datetime tm : Tm}
    (h : readFields str datetime = .ok tm) :
    qvlStringToTime str datetime =
      some (if (dateRead str).Valid then (dateRead str).instant else -1,
        Tm.ofInstant (dateRead str).instant) := by
  obtain ⟨⟨-, -, hrange⟩, rfl⟩ := readFields_eq_ok.mp h
  have hfields := dateTime_eq_iff (a := fieldsRead str) (b := Tm.ofInstant (dateRead str).instant)
  rw [Tm.dateTime_ofInstant] at hfields
  have hvalid := valid_iff_ofInstant_instant (d := dateRead str)
  unfold qvlStringToTime
  rw [h]
  dsimp only
  rw [sgxsslMktime_eq hrange]
  unfold dateRead at *
  by_cases hv : (fieldsRead str).dateTime.Valid
  · rw [if_pos hv]
    exact if_neg (hfields.mp (hvalid.mp hv))
  · rw [if_neg hv]
    exact if_pos (not_not.mp fun hsame => hv (hvalid.mpr (hfields.mpr hsame)))

theorem qvlStringToTime_of_break {str : Bytes} {datetime tm : Tm}
    (h : readFields str datetime = .error tm) : qvlStringToTime str datetime = some (-1, tm) := by
  unfold qvlStringToTime
  rw [h]

/-- `qvlStringToTime` always ends; it accepts exactly the strings whose fields, read
    without a check for digits, name an existing date from 1900 on other than the last
    second before the epoch. -/
theorem qvlStringToTime_accepts (str : Bytes) (datetime : Tm) :
    ∃ t tm, qvlStringToTime str datetime = some (t, tm) ∧
      (t ≠ -1 ↔ 20 ≤ str.length ∧ Separated str ∧ (dateRead str).Valid ∧
        1900 ≤ (dateRead str).year ∧ (dateRead str).instant ≠ -1) ∧
      (t ≠ -1 → t = (dateRead str).instant ∧ tm = Tm.ofInstant t) := by
  cases h : readFields str datetime with
  | error tm =>
    refine ⟨-1, tm, qvlStringToTime_of_break h, ?_, fun hne => absurd rfl hne⟩
    constructor
    · intro hne
      exact absurd rfl hne
    · rintro ⟨hlen, hsep, hvalid, hyear, -⟩
      have hok : readFields str datetime = .ok (fieldsRead str) :=
        readFields_eq_ok.mpr ⟨⟨hlen, hsep, inRange_of_valid hlen hvalid hyear⟩, rfl⟩
      rw [h] at hok
      cases hok
  | ok tm =>
    obtain ⟨⟨hlen, hsep, hrange⟩, rfl⟩ := readFields_eq_ok.mp h
    refine ⟨_, _, qvlStringToTime_of_read h, ?_, ?_⟩
    · have hyear : 1900 ≤ (dateRead str).year := by
        have := hrange.year
        unfold dateRead Tm.dateTime
        dsimp only
        omega
      split_ifs with hv
      · exact ⟨fun hne => ⟨hlen, hsep, hv, hyear, hne⟩, fun hrest => hrest.2.2.2.2⟩
      · exact ⟨fun hne => absurd rfl hne, fun hrest => absurd hrest.2.2.1 hv⟩
    · split_ifs with hv
      · exact fun _ => ⟨rfl, rfl⟩
      · exact fun hne => absurd rfl hne

/-! ## The functions of the enclave -/

/-- `enclave::gmtime`; the outer `error` is its `std::runtime_error`, the inner one `NULL`. -/
def enclaveGmtime (timep : Option ℤ) (tmGlobal : Tm) : Except Bytes (Except Tm Tm) :=
  match timep with
  | none => .error (str "Timestamp has invalid value")
  | some _ => .ok (sgxsslGmtime64 timep tmGlobal)

/-- `enclave::mktime`. -/
def enclaveMktime (tmp : Tm) : Option (ℤ × Tm) := sgxsslMktime tmp

/-- `enclave::isValidTimeString`. -/
def enclaveIsValidTimeString (timeString : Bytes) : Option Bool :=
  (qvlStringToTime timeString Tm.zero).map fun r => r.1 != -1

/-- `enclave::getTimeFromString`. -/
def enclaveGetTimeFromString (date : Bytes) : Option Tm :=
  (qvlStringToTime date Tm.zero).map fun r => if r.1 != -1 then r.2 else Tm.zero

/-- `getEpochTimeFromString` with the functions of the enclave. -/
def enclaveGetEpochTimeFromString (date : Bytes) : Option ℤ :=
  ((enclaveGetTimeFromString date).bind enclaveMktime).map Prod.fst

/-- The struct of a second, given to `enclave::mktime`, gives the second back. -/
theorem enclaveMktime_ofInstant {t : ℤ} (h : (Tm.ofInstant t).InRange) :
    enclaveMktime (Tm.ofInstant t) = some (t, Tm.ofInstant t) := by
  unfold enclaveMktime
  rw [sgxsslMktime_eq h, Tm.dateTime_ofInstant, DateTime.instant_ofInstant]

/-- `sgxssl_mktime` ends and returns the second of the date, an overlong day carried
    into the next month, and leaves its normalised fields; `qvlStringToTime` passes it
    such dates only and accepts no day that does not exist; `gmtime` gives the Gregorian
    date of every second from 1970 to 9999, and `mktime` that second back. -/
theorem timeConversions :
    (∀ tm : Tm, tm.InRange →
      sgxsslMktime tm = some (tm.dateTime.instant, Tm.ofInstant tm.dateTime.instant)) ∧
    (∀ str datetime tm, readFields str datetime = .ok tm → tm.InRange ∧ tm.isdst = -1) ∧
    (∀ str datetime, ∃ t tm, qvlStringToTime str datetime = some (t, tm) ∧
      (t ≠ -1 → (dateRead str).Valid)) ∧
    ∀ t tmGlobal, 0 ≤ t → t ≤ 253402300799 →
      enclaveGmtime (some t) tmGlobal = .ok (.ok (Tm.ofInstant t)) ∧
        enclaveMktime (Tm.ofInstant t) = some (t, Tm.ofInstant t) := by
  refine ⟨fun tm hrange => sgxsslMktime_eq hrange, ?_, ?_, ?_⟩
  · intro str datetime tm h
    obtain ⟨⟨-, -, hrange⟩, rfl⟩ := readFields_eq_ok.mp h
    exact ⟨hrange, rfl⟩
  · intro str datetime
    obtain ⟨t, tm, h, haccepts, -⟩ := qvlStringToTime_accepts str datetime
    exact ⟨t, tm, h, fun hne => (haccepts.mp hne).2.2.1⟩
  · intro t tmGlobal hmin hmax
    refine ⟨?_, enclaveMktime_ofInstant (Tm.inRange_ofInstant ⟨hmin, hmax⟩)⟩
    unfold enclaveGmtime sgxsslGmtime64
    dsimp only
    rw [timesub_near (by omega)]

/-- Of 31 February 2021 `sgxssl_mktime` makes 3 March, and `gmtime` reaches the last
    second of 9999. -/
theorem timeConversions_sample :
    sgxsslMktime ⟨0, 0, 0, 31, 1, 121, 0, 0, -1⟩ =
        some (1614729600, ⟨0, 0, 0, 3, 2, 121, 3, 61, 0⟩) ∧
      enclaveGmtime (some 253402300799) Tm.zero =
        .ok (.ok ⟨59, 59, 23, 31, 11, 8099, 5, 364, 0⟩) := by
  obtain ⟨hmktime, -, -, hgmtime⟩ := timeConversions
  constructor
  · rw [hmktime _ (by constructor <;> decide)]
    decide +kernel
  · rw [(hgmtime 253402300799 Tm.zero (by decide) (by decide)).1]
    decide +kernel

end DcapQvl
