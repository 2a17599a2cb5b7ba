import DcapQvl.Json.Value
import DcapQvl.Lib.Decimal

/-!
# Integers of a JSON text

`u32toa`, `i32toa`, `u64toa` and `i64toa` of rapidjson's `itoa.h`, which take two digits at
a time from a table and branch on the number of digits.

Results:
* `u32toa_eq`, `u64toa_eq`, `i32toa_eq`, `i64toa_eq`: what is written are the decimal digits.
-/

namespace DcapQvl.Rapidjson

open Lib

/-! ## Model -/

/-- `GetDigitsLut()`: the two digits of each number below 100. -/
def digitsLut : Bytes :=
  str "00010203040506070809101112131415161718192021222324252627282930313233343536373839" ++
    str "40414243444546474849505152535455565758596061626364656667686970717273747576777879" ++
    str "8081828384858687888990919293949596979899"

/-- `cDigitsLut[i]`. -/
def lut (i : ℕ) : UInt8 := digitsLut.getD i 0

/-- `if (condition) *buffer++ = c;`. -/
def putIf (condition : Prop) [Decidable condition] (c : UInt8) : Bytes :=
  if condition then [c] else []

/-- The branch of `u32toa` and of `u64toa` for a value below 10000. -/
def upTo4 (value : ℕ) : Bytes :=
  let d1 := (value / 100) <<< 1
  let d2 := (value % 100) <<< 1
  putIf (1000 ≤ value) (lut d1) ++ putIf (100 ≤ value) (lut (d1 + 1)) ++
    putIf (10 ≤ value) (lut d2) ++ [lut (d2 + 1)]

/-- The branch of `u32toa` and of `u64toa` for a value `bbbbcccc`. -/
def upTo8 (value : ℕ) : Bytes :=
  let b := value / 10000
  let c := value % 10000
  let d1 := (b / 100) <<< 1
  let d2 := (b % 100) <<< 1
  let d3 := (c / 100) <<< 1
  let d4 := (c % 100) <<< 1
  putIf (10000000 ≤ value) (lut d1) ++ putIf (1000000 ≤ value) (lut (d1 + 1)) ++
    putIf (100000 ≤ value) (lut d2) ++
    [lut (d2 + 1), lut d3, lut (d3 + 1), lut d4, lut (d4 + 1)]

/-- The eight digits of a value `bbbbcccc` that follow other digits. -/
def all8 (value : ℕ) : Bytes :=
  let b := value / 10000
  let c := value % 10000
  let d1 := (b / 100) <<< 1
  let d2 := (b % 100) <<< 1
  let d3 := (c / 100) <<< 1
  let d4 := (c % 100) <<< 1
  [lut d1, lut (d1 + 1), lut d2, lut (d2 + 1), lut d3, lut (d3 + 1), lut d4, lut (d4 + 1)]

/-- `u32toa`. -/
def u32toa (value : ℕ) : Bytes :=
  if value < 10000 then upTo4 value
  else if value < 100000000 then upTo8 value
  else
    let a := value / 100000000
    let value := value % 100000000
    (if 10 ≤ a then [lut (a <<< 1), lut ((a <<< 1) + 1)] else [UInt8.ofNat (48 + a)]) ++
      all8 value

/-- `i32toa`. -/
def i32toa (value : ℤ) : Bytes :=
  let u := UInt32.ofInt value
  if value < 0 then 45 :: u32toa (~~~u + 1).toNat else u32toa u.toNat

/-- The branch of `u64toa` for a value of 9 to 16 digits. -/
def upTo16 (value : ℕ) : Bytes :=
  let v0 := value / 10 ^ 8
  let v1 := value % 10 ^ 8
  let b0 := v0 / 10000
  let c0 := v0 % 10000
  let d1 := (b0 / 100) <<< 1
  let d2 := (b0 % 100) <<< 1
  let d3 := (c0 / 100) <<< 1
  let d4 := (c0 % 100) <<< 1
  putIf (10 ^ 15 ≤ value) (lut d1) ++ putIf (10 ^ 14 ≤ value) (lut (d1 + 1)) ++
    putIf (10 ^ 13 ≤ value) (lut d2) ++ putIf (10 ^ 12 ≤ value) (lut (d2 + 1)) ++
    putIf (10 ^ 11 ≤ value) (lut d3) ++ putIf (10 ^ 10 ≤ value) (lut (d3 + 1)) ++
    putIf (10 ^ 9 ≤ value) (lut d4) ++ lut (d4 + 1) :: all8 v1

/-- The digits of `value / 10^16` in `u64toa`, 1 to 1844. -/
def upTo1844 (a : ℕ) : Bytes :=
  if a < 10 then [UInt8.ofNat (48 + a)]
  else if a < 100 then
    let i := a <<< 1
    [lut i, lut (i + 1)]
  else if a < 1000 then
    let i := (a % 100) <<< 1
    [UInt8.ofNat (48 + a / 100), lut i, lut (i + 1)]
  else
    let i := (a / 100) <<< 1
    let j := (a % 100) <<< 1
    [lut i, lut (i + 1), lut j, lut (j + 1)]

/-- `u64toa`. -/
def u64toa (value : ℕ) : Bytes :=
  if value < 10 ^ 8 then
    if value < 10000 then upTo4 value else upTo8 value
  else if value < 10 ^ 16 then upTo16 value
  else
    let a := value / 10 ^ 16
    let value := value % 10 ^ 16
    upTo1844 a ++ (all8 (value / 10 ^ 8) ++ all8 (value % 10 ^ 8))

/-- `i64toa`. -/
def i64toa (value : ℤ) : Bytes :=
  let u := UInt64.ofInt value
  if value < 0 then 45 :: u64toa (~~~u + 1).toNat else u64toa u.toNat

/-! ## The table -/

theorem lut_digits : ∀ k < 100, lut (k <<< 1) = digitByte (k / 10) ∧
    lut ((k <<< 1) + 1) = digitByte (k % 10) := by
  decide +kernel

theorem lut_left {k : ℕ} (h : k < 100) : lut (k <<< 1) = digitByte (k / 10) := (lut_digits k h).1

theorem lut_right {k : ℕ} (h : k < 100) : lut ((k <<< 1) + 1) = digitByte (k % 10) :=
  (lut_digits k h).2

/-! ## Digits -/

theorem upTo4_eq {value : ℕ} (h : value < 10000) : upTo4 value = decimal value := by
  rw [← significant_eq (k := 3) (by omega)]
  simp only [upTo4, putIf, significant]
  rw [lut_left (by omega), lut_right (by omega), lut_left (by omega), lut_right (by omega)]
  rw [show value / 100 / 10 = value / 10 ^ 3 % 10 by omega,
    show value / 100 % 10 = value / 10 ^ 2 % 10 by omega,
    show value % 100 / 10 = value / 10 ^ 1 % 10 by omega,
    show value % 100 % 10 = value % 10 by omega]
  simp

theorem all8_eq {value : ℕ} (h : value < 100000000) : all8 value = zeroPadded 8 value := by
  simp only [all8, zeroPadded_succ]
  rw [lut_left (by omega), lut_right (by omega), lut_left (by omega), lut_right (by omega),
    lut_left (by omega), lut_right (by omega), lut_left (by omega), lut_right (by omega)]
  rw [show value / 10000 / 100 / 10 = value / 10 ^ 7 % 10 by omega,
    show value / 10000 / 100 % 10 = value / 10 ^ 6 % 10 by omega,
    show value / 10000 % 100 / 10 = value / 10 ^ 5 % 10 by omega,
    show value / 10000 % 100 % 10 = value / 10 ^ 4 % 10 by omega,
    show value % 10000 / 100 / 10 = value / 10 ^ 3 % 10 by omega,
    show value % 10000 / 100 % 10 = value / 10 ^ 2 % 10 by omega,
    show value % 10000 % 100 / 10 = value / 10 ^ 1 % 10 by omega,
    show value % 10000 % 100 % 10 = value / 10 ^ 0 % 10 by omega]
  rfl

theorem upTo8_eq {value : ℕ} (hle : 10000 ≤ value) (h : value < 100000000) :
    upTo8 value = decimal value := by
  rw [← significant_eq (k := 7) (by omega)]
  simp only [upTo8, putIf, significant]
  rw [lut_left (by omega), lut_right (by omega), lut_left (by omega), lut_right (by omega),
    lut_left (by omega), lut_right (by omega), lut_left (by omega), lut_right (by omega)]
  rw [show value / 10000 / 100 / 10 = value / 10 ^ (6 + 1) % 10 by omega,
    show value / 10000 / 100 % 10 = value / 10 ^ (5 + 1) % 10 by omega,
    show value / 10000 % 100 / 10 = value / 10 ^ (4 + 1) % 10 by omega,
    show value / 10000 % 100 % 10 = value / 10 ^ (3 + 1) % 10 by omega,
    show value % 10000 / 100 / 10 = value / 10 ^ (2 + 1) % 10 by omega,
    show value % 10000 / 100 % 10 = value / 10 ^ (1 + 1) % 10 by omega,
    show value % 10000 % 100 / 10 = value / 10 ^ (0 + 1) % 10 by omega,
    show value % 10000 % 100 % 10 = value % 10 by omega]
  -- the last five digits are there in any case
  rw [if_pos (show 10 ^ (3 + 1) ≤ value by omega), if_pos (show 10 ^ (2 + 1) ≤ value by omega),
    if_pos (show 10 ^ (1 + 1) ≤ value by omega), if_pos (show 10 ^ (0 + 1) ≤ value by omega)]
  simp only [List.append_assoc, List.singleton_append]
  rfl

theorem upTo16_eq {value : ℕ} (hle : 10 ^ 8 ≤ value) (h : value < 10 ^ 16) :
    upTo16 value = decimal value := by
  rw [decimal_eq_append (k := 8) (by omega), ← significant_eq (k := 7) (by omega)]
  simp only [upTo16, putIf, significant]
  rw [all8_eq (by omega), ← zeroPadded_mod 8 value]
  rw [lut_left (by omega), lut_right (by omega), lut_left (by omega), lut_right (by omega),
    lut_left (by omega), lut_right (by omega), lut_left (by omega), lut_right (by omega)]
  generalize hv : value / 10 ^ 8 = v
  rw [show v / 10000 / 100 / 10 = v / 10 ^ (6 + 1) % 10 by omega,
    show v / 10000 / 100 % 10 = v / 10 ^ (5 + 1) % 10 by omega,
    show v / 10000 % 100 / 10 = v / 10 ^ (4 + 1) % 10 by omega,
    show v / 10000 % 100 % 10 = v / 10 ^ (3 + 1) % 10 by omega,
    show v % 10000 / 100 / 10 = v / 10 ^ (2 + 1) % 10 by omega,
    show v % 10000 / 100 % 10 = v / 10 ^ (1 + 1) % 10 by omega,
    show v % 10000 % 100 / 10 = v / 10 ^ (0 + 1) % 10 by omega,
    show v % 10000 % 100 % 10 = v % 10 by omega]
  simp only [show (10 ^ 15 ≤ value) = (10 ^ (6 + 1) ≤ v) by simp; omega,
    show (10 ^ 14 ≤ value) = (10 ^ (5 + 1) ≤ v) by simp; omega,
    show (10 ^ 13 ≤ value) = (10 ^ (4 + 1) ≤ v) by simp; omega,
    show (10 ^ 12 ≤ value) = (10 ^ (3 + 1) ≤ v) by simp; omega,
    show (10 ^ 11 ≤ value) = (10 ^ (2 + 1) ≤ v) by simp; omega,
    show (10 ^ 10 ≤ value) = (10 ^ (1 + 1) ≤ v) by simp; omega,
    show (10 ^ 9 ≤ value) = (10 ^ (0 + 1) ≤ v) by simp; omega]
  simp only [List.append_assoc, List.singleton_append]

theorem upTo1844_eq {a : ℕ} (h : a < 10000) : upTo1844 a = decimal a := by
  unfold upTo1844
  split_ifs with h10 h100 h1000
  · rw [decimal_of_lt h10]
    rfl
  · rw [decimal_eq_zeroPadded (k := 1) (by omega) (by omega)]
    simp only [zeroPadded_succ]
    rw [lut_left (by omega), lut_right (by omega),
      show a / 10 = a / 10 ^ 1 % 10 by omega, show a % 10 = a / 10 ^ 0 % 10 by omega]
    rfl
  · rw [decimal_eq_zeroPadded (k := 2) (by omega) (by omega)]
    simp only [zeroPadded_succ]
    rw [lut_left (by omega), lut_right (by omega),
      show a % 100 / 10 = a / 10 ^ 1 % 10 by omega, show a % 100 % 10 = a / 10 ^ 0 % 10 by omega,
      show a / 100 = a / 10 ^ 2 % 10 by omega]
    rfl
  · rw [decimal_eq_zeroPadded (k := 3) (by omega) (by omega)]
    simp only [zeroPadded_succ]
    rw [lut_left (by omega), lut_right (by omega), lut_left (by omega), lut_right (by omega),
      show a / 100 / 10 = a / 10 ^ 3 % 10 by omega, show a / 100 % 10 = a / 10 ^ 2 % 10 by omega,
      show a % 100 / 10 = a / 10 ^ 1 % 10 by omega, show a % 100 % 10 = a / 10 ^ 0 % 10 by omega]
    rfl

/-- `u32toa` writes the decimal digits. -/
theorem u32toa_eq {value : ℕ} (h : value < 2 ^ 32) : u32toa value = decimal value := by
  unfold u32toa
  split_ifs with h4 h8
  · exact upTo4_eq h4
  · exact upTo8_eq (by omega) h8
  · have ha {a : ℕ} (h100 : a < 100) :
        (if 10 ≤ a then [lut (a <<< 1), lut ((a <<< 1) + 1)] else [UInt8.ofNat (48 + a)]) =
          decimal a := by
      rw [← upTo1844_eq (by omega), upTo1844]
      by_cases h10 : 10 ≤ a
      · rw [if_pos h10, if_neg (by omega), if_pos h100]
      · rw [if_neg h10, if_pos (by omega)]
    dsimp only
    rw [ha (by omega), all8_eq (by omega), decimal_eq_append (k := 8) (n := value) (by omega)]
    exact congrArg _ (zeroPadded_mod 8 value)

/-- `u64toa` writes the decimal digits. -/
theorem u64toa_eq {value : ℕ} (h : value < 2 ^ 64) : u64toa value = decimal value := by
  unfold u64toa
  split_ifs with h8 h4 h16
  · exact upTo4_eq h4
  · exact upTo8_eq (by omega) (by omega)
  · exact upTo16_eq (by omega) h16
  · dsimp only
    rw [upTo1844_eq (by omega), all8_eq (by omega), all8_eq (by omega),
      decimal_eq_append (k := 16) (n := value) (by omega), ← zeroPadded_mod 16 value,
      zeroPadded_add 8 8 (value % 10 ^ 16)]
    rw [zeroPadded_mod 8 (value % 10 ^ 16)]

/-- The digits of an integer, with a sign. -/
def signed (value : ℤ) : Bytes :=
  if value < 0 then 45 :: decimal value.natAbs else decimal value.natAbs

/-- `i32toa` writes the sign and the decimal digits. -/
theorem i32toa_eq {value : ℤ} (hlow : -2 ^ 31 ≤ value) (hhigh : value < 2 ^ 31) :
    i32toa value = signed value := by
  have hu : (UInt32.ofInt value).toNat = (value % 2 ^ 32).toNat := by
    rw [UInt32.ofInt, UInt32.toNat_ofNat', Nat.mod_eq_of_lt (by omega)]
  have hneg : (~~~UInt32.ofInt value + 1).toNat =
      (2 ^ 32 - (UInt32.ofInt value).toNat) % 2 ^ 32 := by
    rw [UInt32.toNat_add, UInt32.toNat_not]
    have := (UInt32.ofInt value).toNat_lt
    simp
    omega
  unfold i32toa signed
  dsimp only
  split_ifs with h
  · rw [hneg, hu, u32toa_eq (by omega)]
    congr 2
    omega
  · rw [hu, u32toa_eq (by omega)]
    congr 1
    omega

/-- `i64toa` writes the sign and the decimal digits. -/
theorem i64toa_eq {value : ℤ} (hlow : -2 ^ 63 ≤ value) (hhigh : value < 2 ^ 63) :
    i64toa value = signed value := by
  have hu : (UInt64.ofInt value).toNat = (value % 2 ^ 64).toNat := by
    rw [UInt64.ofInt, UInt64.toNat_ofNat', Nat.mod_eq_of_lt (by omega)]
  have hneg : (~~~UInt64.ofInt value + 1).toNat =
      (2 ^ 64 - (UInt64.ofInt value).toNat) % 2 ^ 64 := by
    rw [UInt64.toNat_add, UInt64.toNat_not]
    have := (UInt64.ofInt value).toNat_lt
    simp
    omega
  unfold i64toa signed
  dsimp only
  split_ifs with h
  · rw [hneg, hu, u64toa_eq (by omega)]
    congr 2
    omega
  · rw [hu, u64toa_eq (by omega)]
    congr 1
    omega

/-- **Integers are written in decimal.** The four functions write the decimal digits of every
    value of their types, the lowest ones included, whose sign cannot be changed. -/
theorem toa_decimal :
    (∀ value : UInt32, u32toa value.toNat = decimal value.toNat) ∧
    (∀ value : UInt64, u64toa value.toNat = decimal value.toNat) ∧
    (∀ value : Int32, i32toa value.toInt = signed value.toInt) ∧
    (∀ value : Int64, i64toa value.toInt = signed value.toInt) :=
  ⟨fun value => u32toa_eq value.toNat_lt, fun value => u64toa_eq value.toNat_lt,
    fun value => i32toa_eq value.le_toInt value.toInt_lt,
    fun value => i64toa_eq value.le_toInt value.toInt_lt⟩

end DcapQvl.Rapidjson
