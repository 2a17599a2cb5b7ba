import DcapQvl.Json.Itoa
import DcapQvl.Json.Grammar

/-!
# Doubles of a JSON text

`dtoa` of rapidjson's `dtoa.h` with `Prettify` and `WriteExponent`. The shortest digits of a
double, which `Grisu2` computes, are the parameter `DoubleWriter`.

Results:
* `dtoa_number`: what is written is the text of a number with a fraction or an exponent, and
  its value is the one of the digits.
* `dtoa_buffer`: the 25 characters of the caller's buffer are enough.
* `dtoa_correct`: both.
-/

namespace DcapQvl.Rapidjson

open Lib

/-! ## Doubles -/

/-- `IsZero()`. -/
def isZero (d : UInt64) : Bool := d &&& 0x7FFFFFFFFFFFFFFF == 0

/-- `Sign()`. -/
def sign (d : UInt64) : Bool := d &&& 0x8000000000000000 != 0

/-- `IsNanOrInf()`. -/
def isNanOrInf (d : UInt64) : Bool := d &&& infinity == infinity

/-- `value < 0`. -/
def isNegative (d : UInt64) : Bool := isPositive (negate d)

/-- What `Grisu2(value, buffer, &length, &K)` has put into the buffer, and `K`: for a
    positive finite double at most 17 digits of which the first is not 0, and an exponent
    that the range of the doubles allows. -/
structure DoubleWriter where
  grisu2 : UInt64 → Bytes × ℤ
  digits : ∀ d, isPositive d = true → aboveMax d = false →
    ∃ c ds, (grisu2 d).1 = c :: ds ∧ c ≠ 48 ∧ ∀ b ∈ c :: ds, isDigit b = true
  length_le : ∀ d, isPositive d = true → aboveMax d = false → (grisu2 d).1.length ≤ 17
  exponent : ∀ d, isPositive d = true → aboveMax d = false →
    -323 ≤ (grisu2 d).1.length + (grisu2 d).2 ∧ (grisu2 d).1.length + (grisu2 d).2 ≤ 309

/-! ## Model -/

/-- `WriteExponent(K, buffer)`. -/
def writeExponent (K : ℤ) : Bytes :=
  (if K < 0 then [45] else []) ++
    let K := K.natAbs
    if 100 ≤ K then
      [UInt8.ofNat (48 + K / 100), lut (K % 100 * 2), lut (K % 100 * 2 + 1)]
    else if 10 ≤ K then [lut (K * 2), lut (K * 2 + 1)]
    else [UInt8.ofNat (48 + K)]

/-- The loop `for (int i = …; i > stop; i--)` that goes back over trailing zeros, and what it
    returns: the end of the text in the buffer. -/
def trimZeros (buffer : Bytes) (stop : ℕ) : ℕ → ℕ
  | 0 => stop + 1
  | i + 1 =>
    if i + 1 ≤ stop then stop + 1
    else if buffer.getD (i + 1) 0 ≠ 48 then i + 2
    else trimZeros buffer stop i

/-- `Prettify(buffer, length, k, maxDecimalPlaces)` on the digits in the buffer: what the
    buffer holds afterwards, and the end of the text in it. -/
def prettify (digits : Bytes) (k : ℤ) (maxDecimalPlaces : ℕ) : Bytes × ℕ :=
  let length : ℤ := digits.length
  let kk := length + k
  if 0 ≤ k ∧ kk ≤ 21 then
    let buffer := digits ++ List.replicate k.toNat 48 ++ [46, 48]
    (buffer, kk.toNat + 2)
  else if 0 < kk ∧ kk ≤ 21 then
    let buffer := digits.take kk.toNat ++ 46 :: digits.drop kk.toNat
    if 0 > k + maxDecimalPlaces then
      (buffer, trimZeros buffer (kk.toNat + 1) (kk.toNat + maxDecimalPlaces))
    else (buffer, digits.length + 1)
  else if -6 < kk ∧ kk ≤ 0 then
    let offset := 2 - kk
    let buffer := 48 :: 46 :: (List.replicate (offset - 2).toNat 48 ++ digits)
    if length - kk > maxDecimalPlaces then
      (buffer, trimZeros buffer 2 (maxDecimalPlaces + 1))
    else (buffer, digits.length + offset.toNat)
  else if kk < -(maxDecimalPlaces : ℤ) then (48 :: 46 :: 48 :: digits.drop 3, 3)
  else
    match digits with
    | [c] =>
      let buffer := c :: 101 :: writeExponent (kk - 1)
      (buffer, buffer.length)
    | c :: ds =>
      let buffer := c :: 46 :: (ds ++ 101 :: writeExponent (kk - 1))
      (buffer, buffer.length)
    | [] => ([], 0)

/-- `dtoa(value, buffer, maxDecimalPlaces)`: what the buffer holds, and the end of the text. -/
def dtoaBuffer (wr : DoubleWriter) (value : UInt64) (maxDecimalPlaces : ℕ) : Bytes × ℕ :=
  if isZero value then
    let text := (if sign value then [45] else []) ++ [48, 46, 48]
    (text, text.length)
  else if isNegative value then
    let g := wr.grisu2 (negate value)
    let p := prettify g.1 g.2 maxDecimalPlaces
    (45 :: p.1, p.2 + 1)
  else
    let g := wr.grisu2 value
    prettify g.1 g.2 maxDecimalPlaces

/-- The text that `dtoa` leaves in the buffer. -/
def dtoa (wr : DoubleWriter) (value : UInt64) (maxDecimalPlaces : ℕ) : Bytes :=
  (dtoaBuffer wr value maxDecimalPlaces).1.take (dtoaBuffer wr value maxDecimalPlaces).2

/-! ## The bits of a double -/

theorem xor_two_pow_of_lt {n k : ℕ} (h : n < 2 ^ k) : n ^^^ 2 ^ k = n + 2 ^ k := by
  have hor : 2 ^ k + n = 2 ^ k ||| n := by
    have := Nat.two_pow_add_eq_or_of_lt h 1
    simpa using this
  rw [Nat.add_comm, hor]
  apply Nat.eq_of_testBit_eq
  intro i
  rw [Nat.testBit_xor, Nat.testBit_or, Nat.testBit_two_pow]
  by_cases hi : k = i
  · subst hi
    simp [Nat.testBit_lt_two_pow h]
  · simp [hi]

theorem xor_two_pow_of_le {n k : ℕ} (hle : 2 ^ k ≤ n) (h : n < 2 ^ (k + 1)) :
    n ^^^ 2 ^ k = n - 2 ^ k := by
  have hlow : n - 2 ^ k < 2 ^ k := by
    rw [pow_succ] at h
    omega
  have hadd := xor_two_pow_of_lt hlow
  rw [Nat.sub_add_cancel hle] at hadd
  rw [← hadd, Nat.xor_assoc, Nat.xor_self, Nat.xor_zero, hadd]

/-- The bits of the greatest exponent are all set. -/
theorem and_infinity {n : ℕ} (h : 0x7FF0000000000000 ≤ n % 2 ^ 63) :
    n &&& 0x7FF0000000000000 = 0x7FF0000000000000 := by
  have hmask : 0x7FF0000000000000 = 2047 <<< 52 := rfl
  have hhigh : n / 2 ^ 52 % 2 ^ 11 = 2047 := by omega
  rw [hmask]
  apply Nat.eq_of_testBit_eq
  intro i
  rw [Nat.testBit_and, Nat.testBit_shiftLeft]
  by_cases hi : 52 ≤ i
  · have hbit : n.testBit i = (n / 2 ^ 52).testBit (i - 52) := by
      rw [← Nat.shiftRight_eq_div_pow, Nat.testBit_shiftRight, Nat.add_sub_cancel' hi]
    by_cases hj : i - 52 < 11
    · have := Nat.testBit_mod_two_pow (n / 2 ^ 52) 11 (i - 52)
      rw [hhigh] at this
      simp only [hj, decide_true, Bool.true_and] at this
      rw [hbit, ← this]
      simp [hi]
    · have : Nat.testBit 2047 (i - 52) = false := by
        apply Nat.testBit_lt_two_pow
        calc 2047 < 2 ^ 11 := by norm_num
          _ ≤ 2 ^ (i - 52) := Nat.pow_le_pow_right (by omega) (by omega)
      simp [this]
  · simp [hi]

theorem toNat_negate (d : UInt64) : (negate d).toNat = d.toNat ^^^ 2 ^ 63 := by
  unfold negate
  rw [UInt64.toNat_xor]
  rfl

theorem isPositive_iff (d : UInt64) :
    isPositive d = true ↔ 0 < d.toNat ∧ d.toNat ≤ 0x7FF0000000000000 := by
  simp only [isPositive, infinity, Bool.and_eq_true, decide_eq_true_eq, UInt64.lt_iff_toNat_lt,
    UInt64.le_iff_toNat_le]
  rfl

theorem aboveMax_iff (d : UInt64) : aboveMax d = true ↔ d.toNat = 0x7FF0000000000000 := by
  simp only [aboveMax, infinity, beq_iff_eq]
  constructor
  · rintro rfl; rfl
  · intro h
    exact UInt64.toNat_inj.mp h

theorem isZero_iff (d : UInt64) : isZero d = true ↔ d.toNat % 2 ^ 63 = 0 := by
  rw [isZero, beq_iff_eq, ← UInt64.toNat_inj, UInt64.toNat_and]
  rw [← Nat.and_two_pow_sub_one_eq_mod]
  rfl

theorem sign_iff (d : UInt64) : sign d = true ↔ 2 ^ 63 ≤ d.toNat := by
  rw [sign, bne_iff_ne, Ne, ← UInt64.toNat_inj, UInt64.toNat_and]
  have hand : d.toNat &&& 2 ^ 63 = (d.toNat.testBit 63).toNat * 2 ^ 63 := Nat.and_two_pow _ _
  have hlt := d.toNat_lt
  have hbit : d.toNat.testBit 63 = decide (2 ^ 63 ≤ d.toNat) := by
    rw [Nat.testBit_eq_decide_div_mod_eq]
    congr 1
    simp
    omega
  change ¬ d.toNat &&& 2 ^ 63 = 0 ↔ _
  rw [hand, hbit]
  simp

theorem lt_infinity {d : UInt64} (h : isNanOrInf d = false) :
    d.toNat % 2 ^ 63 < 0x7FF0000000000000 := by
  by_contra hle
  have := and_infinity (not_lt.mp hle)
  rw [isNanOrInf, beq_eq_false_iff_ne] at h
  apply h
  rw [← UInt64.toNat_inj, UInt64.toNat_and]
  exact this

/-- A finite double other than zero is negative or positive, with the sign that it has. -/
theorem finite_cases {d : UInt64} (hfinite : isNanOrInf d = false) (hzero : isZero d = false) :
    isNegative d = true ∧ sign d = true ∧ aboveMax (negate d) = false ∨
      isNegative d = false ∧ sign d = false ∧ isPositive d = true ∧ aboveMax d = false := by
  have hlt := lt_infinity hfinite
  have h64 := d.toNat_lt
  have hpos : d.toNat % 2 ^ 63 ≠ 0 := fun h => by rw [(isZero_iff d).mpr h] at hzero; cases hzero
  simp only [← Bool.not_eq_true, isNegative, isPositive_iff, aboveMax_iff, sign_iff, toNat_negate]
  by_cases h : 2 ^ 63 ≤ d.toNat
  · rw [xor_two_pow_of_le h h64]
    omega
  · rw [xor_two_pow_of_lt (not_le.mp h)]
    omega

/-! ## Texts -/

theorem isDigit_digitByte {d : ℕ} (h : d < 10) : isDigit (digitByte d) = true := by
  have hn := toNat_digitByte h
  simp only [isDigit, Bool.and_eq_true, decide_eq_true_eq, UInt8.le_iff_toNat_le, hn]
  constructor
  · show 48 ≤ 48 + d
    omega
  · show 48 + d ≤ 57
    omega

/-- `WriteExponent` writes the sign and the decimal digits. -/
theorem writeExponent_eq {K : ℤ} (h : K.natAbs < 1000) : writeExponent K = signed K := by
  have hdigits : (if 100 ≤ K.natAbs then
      [UInt8.ofNat (48 + K.natAbs / 100), lut (K.natAbs % 100 * 2), lut (K.natAbs % 100 * 2 + 1)]
      else if 10 ≤ K.natAbs then [lut (K.natAbs * 2), lut (K.natAbs * 2 + 1)]
      else [UInt8.ofNat (48 + K.natAbs)]) = decimal K.natAbs := by
    generalize K.natAbs = a at h
    have hshift (x : ℕ) : x * 2 = x <<< 1 := by
      rw [Nat.shiftLeft_eq]
    rw [← upTo1844_eq (by omega), upTo1844, hshift, hshift]
    by_cases h100 : 100 ≤ a
    · rw [if_pos h100, if_neg (by omega), if_neg (by omega), if_pos h]
    · rw [if_neg h100]
      by_cases h10 : 10 ≤ a
      · rw [if_pos h10, if_neg (by omega), if_pos (by omega)]
      · rw [if_neg h10, if_pos (by omega)]
  unfold writeExponent signed
  dsimp only
  rw [hdigits]
  split_ifs <;> rfl

/-- A text of a double: a number with the sign that it has, and with a fraction or an
    exponent, which is at most 308. -/
structure IsFloat (minus : Bool) (n : Number) : Prop where
  minus_eq : n.minus = minus
  float : n.frac ≠ none ∨ n.exp ≠ none
  exp_le : ∀ e ∈ n.exp, e.sign = [45] ∨ e.sign = [] ∧ decimalValue (e.lead :: e.tail) ≤ 308

/-- The value of an exponent. -/
def Exponent.value (e : Exponent) : ℤ :=
  if e.sign = [45] then -(decimalValue (e.lead :: e.tail)) else decimalValue (e.lead :: e.tail)

/-- The value of a number without its sign. -/
def Number.magnitude (n : Number) : ℚ :=
  fixed (n.lead :: n.tail) (n.frac.getD []) * 10 ^ (n.exp.elim 0 Exponent.value)

/-- A text of a double without exponent. -/
theorem exists_frac (minus : Bool) {c : UInt8} (ds fs : Bytes) (hc : isDigit c = true)
    (hds : ∀ b ∈ ds, isDigit b = true) (hzero : c = 48 → ds = []) (hfs : fs ≠ [])
    (hdigits : ∀ b ∈ fs, isDigit b = true) :
    ∃ n, IsFloat minus n ∧ n.magnitude = fixed (c :: ds) fs ∧
      n.text = (if minus then [45] else []) ++ (c :: ds ++ 46 :: fs) := by
  refine ⟨⟨minus, c, ds, some fs, none, hc, hds, hzero, ?_⟩, ⟨rfl, by simp, by simp⟩, ?_, ?_⟩
  · rintro es ⟨⟩
    exact ⟨hfs, hdigits⟩
  · simp [Number.magnitude]
  · simp [Number.text, fracText, expText]

/-- A text of a double with an exponent. -/
theorem exists_exp (minus : Bool) {c : UInt8} (frac : Option Bytes) (hc : isDigit c = true)
    (hfrac : ∀ fs ∈ frac, fs ≠ [] ∧ ∀ b ∈ fs, isDigit b = true) {K : ℤ} (hK : K ≤ 308) :
    ∃ n, IsFloat minus n ∧ n.magnitude = fixed [c] (frac.getD []) * 10 ^ K ∧
      n.text = (if minus then [45] else []) ++ (c :: (fracText frac ++ 101 :: signed K)) := by
  obtain ⟨lead, tail, hdecimal⟩ := List.exists_cons_of_ne_nil (decimal_ne_nil K.natAbs)
  have hdigits : ∀ b ∈ lead :: tail, isDigit b = true := by
    intro b hb
    rw [← hdecimal] at hb
    obtain ⟨d, hd, rfl⟩ := mem_decimal hb
    exact isDigit_digitByte hd
  have hsigned : signed K = (if K < 0 then [45] else []) ++ lead :: tail := by
    unfold signed
    rw [hdecimal]
    split_ifs <;> rfl
  let e : Exponent :=
    { mark := 101, sign := if K < 0 then [45] else [], lead := lead, tail := tail,
      mark_eq := .inl rfl, sign_eq := by split_ifs <;> simp,
      isDigit_lead := hdigits lead List.mem_cons_self,
      isDigit_tail := fun b hb => hdigits b (List.mem_cons_of_mem _ hb) }
  have habs : decimalValue (e.lead :: e.tail) = K.natAbs := by
    show decimalValue (lead :: tail) = K.natAbs
    rw [← hdecimal, decimalValue_decimal]
  have hvalue : e.value = K := by
    unfold Exponent.value
    rw [habs]
    by_cases hneg : K < 0
    · rw [if_pos (show e.sign = [45] from if_pos hneg)]
      omega
    · rw [if_neg (show e.sign ≠ [45] by simp [e, hneg])]
      omega
  refine ⟨⟨minus, c, [], frac, some e, hc, by simp, fun _ => rfl, hfrac⟩, ⟨rfl, by simp, ?_⟩, ?_, ?_⟩
  · rintro e' ⟨⟩
    by_cases hneg : K < 0
    · exact .inl (if_pos hneg)
    · refine .inr ⟨if_neg hneg, ?_⟩
      rw [habs]
      omega
  · simp [Number.magnitude, hvalue]
  · simp [Number.text, expText, Exponent.text, e, hsigned]

theorem le_trimZeros (buffer : Bytes) (stop i : ℕ) : stop + 1 ≤ trimZeros buffer stop i := by
  induction i with
  | zero => exact le_rfl
  | succ i ih =>
    rw [trimZeros]
    split_ifs
    · exact le_rfl
    · omega
    · exact ih

theorem trimZeros_le {buffer : Bytes} {stop i n : ℕ} (hstop : stop + 1 ≤ n) (hi : i + 1 ≤ n) :
    trimZeros buffer stop i ≤ n := by
  induction i with
  | zero => exact hstop
  | succ i ih =>
    rw [trimZeros]
    split_ifs
    · exact hstop
    · exact hi
    · exact ih (by omega)

/-- The loop goes back over zeros only. -/
theorem getD_of_trimZeros_le {buffer : Bytes} {stop i j : ℕ} (hj : trimZeros buffer stop i ≤ j)
    (hi : j ≤ i) : buffer.getD j 0 = 48 := by
  induction i with
  | zero =>
    have := le_trimZeros buffer stop 0
    omega
  | succ i ih =>
    rw [trimZeros] at hj
    split_ifs at hj with hstop hzero
    · omega
    · omega
    · by_cases h : j = i + 1
      · rw [h]
        exact not_not.mp hzero
      · exact ih hj (by omega)

/-- What the loop leaves of a fraction has the value of the places it starts from. -/
theorem fixed_trimZeros (as : Bytes) {bs : Bytes} {places : ℕ} (hplaces : 1 ≤ places)
    (hlen : places ≤ bs.length) :
    fixed as (bs.take (trimZeros (as ++ 46 :: bs) (as.length + 1) (as.length + places) -
      as.length - 1)) = fixed as (bs.take places) := by
  have hle := le_trimZeros (as ++ 46 :: bs) (as.length + 1) (as.length + places)
  have hge : trimZeros (as ++ 46 :: bs) (as.length + 1) (as.length + places) ≤
      as.length + places + 1 := trimZeros_le (by omega) le_rfl
  have hzeros {j : ℕ} := @getD_of_trimZeros_le (as ++ 46 :: bs) (as.length + 1) (as.length + places) j
  generalize trimZeros (as ++ 46 :: bs) (as.length + 1) (as.length + places) = t at hle hge hzeros
  obtain ⟨m, rfl⟩ : ∃ m, t = as.length + 1 + m := ⟨t - as.length - 1, by omega⟩
  rw [show as.length + 1 + m - as.length - 1 = m by omega]
  have hsplit : bs.take places = bs.take m ++ List.replicate (places - m) 48 := by
    rw [← List.take_append_drop m (bs.take places), List.take_take, Nat.min_eq_left (by omega)]
    congr 1
    rw [List.eq_replicate_iff]
    refine ⟨by simp only [List.length_drop, List.length_take]; omega, ?_⟩
    intro b hb
    obtain ⟨i, hi, rfl⟩ := List.mem_iff_getElem.mp hb
    simp only [List.length_drop, List.length_take] at hi
    have hget := @hzeros (as.length + 1 + (m + i)) (by omega) (by omega)
    rw [List.getD_eq_getElem?_getD, List.getElem?_append_right (by omega),
      show as.length + 1 + (m + i) - as.length = (m + i) + 1 by omega, List.getElem?_cons_succ,
      List.getElem?_eq_getElem (by omega)] at hget
    rw [List.getElem_drop, List.getElem_take]
    exact hget
  rw [hsplit, fixed_append_zeros]

/-- The text of a number whose fraction is cut off. -/
theorem take_point {as bs : Bytes} {stop : ℕ} (h : as.length + 1 ≤ stop) :
    (as ++ 46 :: bs).take stop = as ++ 46 :: bs.take (stop - as.length - 1) := by
  rw [List.take_append, List.take_of_length_le (by omega),
    show stop - as.length = (stop - as.length - 1) + 1 by omega, List.take_succ_cons]
  rfl

/-- A text with a point, of which at least one place is left. -/
theorem exists_point (minus : Bool) {c : UInt8} (ds bs : Bytes) (stop : ℕ)
    (hc : isDigit c = true) (hds : ∀ b ∈ ds, isDigit b = true) (hzero : c = 48 → ds = [])
    (hbs : bs ≠ []) (hdigits : ∀ b ∈ bs, isDigit b = true) (hstop : ds.length + 3 ≤ stop) :
    ∃ n, IsFloat minus n ∧
      n.magnitude = fixed (c :: ds) (bs.take (stop - (c :: ds).length - 1)) ∧
      n.text = (if minus then [45] else []) ++ (c :: ds ++ 46 :: bs).take stop := by
  rw [take_point (by rw [List.length_cons]; omega)]
  apply exists_frac minus _ _ hc hds hzero
  · intro h
    have hlen := congrArg List.length h
    have := List.length_pos_iff.mpr hbs
    simp only [List.length_take, List.length_cons, List.length_nil] at hlen
    omega
  · intro b hb
    exact hdigits b (List.mem_of_mem_take hb)

/-! ## Decimal places -/

/-- `v` is `x`, or it is `x` cut after some decimal places; with the default nothing is cut. -/
structure IsCut (places : ℕ) (x v : ℚ) : Prop where
  le : v ≤ x
  lt : x < v + 1 / 10 ^ places
  eq_of_default : defaultMaxDecimalPlaces ≤ places → v = x

theorem IsCut.refl (places : ℕ) (x : ℚ) : IsCut places x x :=
  ⟨le_rfl, lt_add_of_pos_right _ (by positivity), fun _ => rfl⟩

theorem le_57_of_isDigit {c : UInt8} (h : isDigit c = true) : c ≤ 57 := by
  simp only [isDigit, Bool.and_eq_true, decide_eq_true_eq] at h
  exact h.2

/-- The text of digits with a point: all of them, or those that are left after a cut. -/
theorem exists_cut (minus : Bool) {c : UInt8} (ds bs : Bytes) (places : ℕ) (cut : Prop)
    [Decidable cut] (hc : isDigit c = true) (hds : ∀ b ∈ ds, isDigit b = true)
    (hzero : c = 48 → ds = []) (hbs : bs ≠ []) (hdigits : ∀ b ∈ bs, isDigit b = true)
    (hcut : cut → places ≤ bs.length ∧ places < defaultMaxDecimalPlaces) :
    ∃ n, IsFloat minus n ∧ (1 ≤ places → IsCut places (fixed (c :: ds) bs) n.magnitude) ∧
      n.text = (if minus then [45] else []) ++ (c :: ds ++ 46 :: bs).take
        (if cut then trimZeros (c :: ds ++ 46 :: bs) (ds.length + 2) (ds.length + 1 + places)
          else (c :: ds ++ 46 :: bs).length) := by
  have hpos := List.length_pos_iff.mpr hbs
  by_cases h : cut
  · rw [if_pos h]
    obtain ⟨n, hn, hvalue, htext⟩ := exists_point minus ds bs
      (trimZeros (c :: ds ++ 46 :: bs) (ds.length + 2) (ds.length + 1 + places)) hc hds hzero hbs
      hdigits (le_trimZeros _ _ _)
    refine ⟨n, hn, fun hplaces => ?_, htext⟩
    have htrim := fixed_trimZeros (c :: ds) hplaces (hcut h).1
    obtain ⟨hle, hlt⟩ := fixed_take (c :: ds) (fun b hb => le_57_of_isDigit (hdigits b hb)) places
    rw [hvalue]
    rw [List.length_cons] at htrim ⊢
    rw [htrim]
    exact ⟨hle, hlt, fun hdefault => absurd (hcut h).2 (by omega)⟩
  · rw [if_neg h]
    obtain ⟨n, hn, hvalue, htext⟩ := exists_point minus ds bs (c :: ds ++ 46 :: bs).length hc hds
      hzero hbs hdigits (by simp only [List.length_append, List.length_cons]; omega)
    refine ⟨n, hn, fun _ => ?_, htext⟩
    rw [hvalue, List.take_of_length_le (by simp only [List.length_append, List.length_cons]; omega)]
    exact IsCut.refl _ _

/-- Digits among which the point stands after the first `kk`. -/
theorem fixed_take_drop {ds : Bytes} {kk : ℕ} (hkk : kk ≤ ds.length) {k : ℤ}
    (hk : (kk : ℤ) = ds.length + k) :
    fixed (ds.take kk) (ds.drop kk) = decimalValue ds * (10 : ℚ) ^ k := by
  obtain rfl : k = -((ds.drop kk).length : ℤ) := by
    rw [List.length_drop]
    omega
  rw [fixed, List.take_append_drop, zpow_neg, zpow_natCast, div_eq_mul_inv]

/-- Digits after zeros after the point. -/
theorem fixed_zeros (ds : Bytes) {z : ℕ} {k : ℤ} (hk : -(z : ℤ) = ds.length + k) :
    fixed [48] (List.replicate z 48 ++ ds) = decimalValue ds * (10 : ℚ) ^ k := by
  obtain rfl : k = -((List.replicate z 48 ++ ds).length : ℤ) := by
    rw [List.length_append, List.length_replicate]
    omega
  have hvalue : decimalValue ([48] ++ (List.replicate z 48 ++ ds)) = decimalValue ds := by
    rw [← List.append_assoc, ← List.replicate_one, List.replicate_append_replicate,
      decimalValue_append, decimalValue_zeros, Nat.zero_mul, Nat.zero_add]
  rw [fixed, hvalue, zpow_neg, zpow_natCast, div_eq_mul_inv]

/-- Digits before zeros before the point. -/
theorem fixed_whole (ds : Bytes) {k : ℤ} (hk : 0 ≤ k) :
    fixed (ds ++ List.replicate k.toNat 48) [48] = decimalValue ds * (10 : ℚ) ^ k := by
  obtain ⟨k, rfl⟩ := Int.eq_ofNat_of_zero_le hk
  have hfrac := fixed_append_zeros (ds ++ List.replicate k 48) [] 1
  rw [List.nil_append, List.replicate_one] at hfrac
  rw [Int.toNat_natCast, hfrac, fixed, List.append_nil, decimalValue_append, decimalValue_zeros,
    List.length_replicate, zpow_natCast]
  simp

/-! ## The branches of `Prettify` -/

/-- The buffer holds, up to its end, the text of a number: the digits with their exponent, or
    what is left of them after as many decimal places as may be written. -/
def HoldsNumber (minus : Bool) (digits : Bytes) (k : ℤ) (maxDecimalPlaces : ℕ)
    (buffer : Bytes × ℕ) : Prop :=
  ∃ n, IsFloat minus n ∧
    (1 ≤ maxDecimalPlaces →
      IsCut maxDecimalPlaces (decimalValue digits * 10 ^ k) n.magnitude) ∧
    n.text = (if minus then [45] else []) ++ buffer.1.take buffer.2

section Branches

variable (minus : Bool) {c : UInt8} {ds : Bytes} {k : ℤ} (maxDecimalPlaces : ℕ)
  (hne : c ≠ 48) (hdigits : ∀ b ∈ c :: ds, isDigit b = true)

theorem isDigit_zeros_append {ds : Bytes} (hds : ∀ b ∈ ds, isDigit b = true) (z : ℕ) :
    (∀ b ∈ ds ++ List.replicate z 48, isDigit b = true) ∧
      ∀ b ∈ List.replicate z 48 ++ ds, isDigit b = true := by
  have hzeros : ∀ b ∈ List.replicate z 48, isDigit b = true := by
    intro b hb
    rw [(List.mem_replicate.mp hb).2]
    decide
  exact ⟨fun b hb => (List.mem_append.mp hb).elim (hds b) (hzeros b),
    fun b hb => (List.mem_append.mp hb).elim (hzeros b) (hds b)⟩

include hne hdigits in
/-- All digits stand before the point. -/
theorem prettify_whole (h : 0 ≤ k ∧ (c :: ds).length + k ≤ 21) :
    HoldsNumber minus (c :: ds) k maxDecimalPlaces (prettify (c :: ds) k maxDecimalPlaces) := by
  unfold prettify
  dsimp only
  rw [if_pos h]
  have hds := (isDigit_zeros_append (fun b hb => hdigits b (List.mem_cons_of_mem c hb)) k.toNat).1
  obtain ⟨n, hn, hvalue, htext⟩ := exists_frac minus (ds ++ List.replicate k.toNat 48) [48]
    (hdigits c List.mem_cons_self) hds (fun h => absurd h hne) (by simp) (by simp [isDigit])
  refine ⟨n, hn, fun _ => ?_, ?_⟩
  · rw [hvalue, ← List.cons_append, fixed_whole _ h.1]
    exact IsCut.refl _ _
  · rw [htext, List.take_of_length_le (by simp; omega)]
    simp

include hne hdigits in
/-- The point stands among the digits. -/
theorem prettify_among (hlen : (c :: ds).length ≤ 17) (hneg : k < 0)
    (h : 0 < (c :: ds).length + k ∧ (c :: ds).length + k ≤ 21) :
    HoldsNumber minus (c :: ds) k maxDecimalPlaces (prettify (c :: ds) k maxDecimalPlaces) := by
  unfold prettify
  dsimp only
  rw [if_neg (fun h => by omega), if_pos h]
  have hlength : ((c :: ds).length : ℤ) = ds.length + 1 := by simp
  rw [List.length_cons] at hlen
  rw [hlength] at h ⊢
  have hds : ∀ b ∈ ds, isDigit b = true := fun b hb => hdigits b (List.mem_cons_of_mem _ hb)
  generalize hkk : (ds.length + 1 + k).toNat = kk
  obtain ⟨kk, rfl⟩ : ∃ j, kk = j + 1 := ⟨kk - 1, by omega⟩
  obtain ⟨n, hn, hvalue, htext⟩ := exists_cut minus (ds.take kk) (ds.drop kk) maxDecimalPlaces
    (0 > k + maxDecimalPlaces) (hdigits c List.mem_cons_self)
    (fun b hb => hds b (List.mem_of_mem_take hb)) (fun h => absurd h hne)
    (by
      intro hnil
      have := List.drop_eq_nil_iff.mp hnil
      omega)
    (fun b hb => hds b (List.mem_of_mem_drop hb))
    (fun hcut => by rw [List.length_drop, defaultMaxDecimalPlaces]; omega)
  refine ⟨n, hn, fun hplaces => ?_, ?_⟩
  · have hfixed := @fixed_take_drop (c :: ds) (kk + 1) (by simp; omega) k (by simp; omega)
    rw [List.take_succ_cons, List.drop_succ_cons] at hfixed
    rw [← hfixed]
    exact hvalue hplaces
  · have hmin : min kk ds.length = kk := Nat.min_eq_left (by omega)
    rw [htext, List.take_succ_cons, List.drop_succ_cons, List.length_take, hmin]
    congr 1
    split_ifs
    · rfl
    · rw [List.take_length]
      refine (List.take_of_length_le ?_).symm
      simp only [List.length_append, List.length_cons, List.length_take, List.length_drop]
      omega

include hdigits in
/-- Zeros stand between the point and the digits. -/
theorem prettify_zeros (hlen : (c :: ds).length ≤ 17)
    (h : -6 < (c :: ds).length + k ∧ (c :: ds).length + k ≤ 0) :
    HoldsNumber minus (c :: ds) k maxDecimalPlaces (prettify (c :: ds) k maxDecimalPlaces) := by
  have hpos : (0 : ℤ) < (c :: ds).length := by simp
  unfold prettify
  dsimp only
  rw [if_neg (fun h => by omega), if_neg (fun h => by omega), if_pos h]
  have hlength : ((c :: ds).length : ℤ) = ds.length + 1 := by simp
  rw [List.length_cons] at hlen
  rw [hlength] at h ⊢
  generalize hz : (2 - (ds.length + 1 + k) - 2).toNat = z
  obtain ⟨n, hn, hvalue, htext⟩ := exists_cut minus [] (List.replicate z 48 ++ c :: ds)
    maxDecimalPlaces ((ds.length : ℤ) + 1 - (ds.length + 1 + k) > maxDecimalPlaces)
    (show isDigit 48 = true by decide) (by simp) (fun _ => rfl) (by simp)
    (isDigit_zeros_append hdigits z).2
    (fun hcut => by
      simp only [List.length_append, List.length_replicate, List.length_cons,
        defaultMaxDecimalPlaces]
      omega)
  refine ⟨n, hn, fun hplaces => ?_, ?_⟩
  · rw [← fixed_zeros (c :: ds) (z := z) (by simp; omega)]
    exact hvalue hplaces
  · rw [htext]
    congr 1
    split_ifs
    · simp [Nat.add_comm]
    · rw [List.take_of_length_le le_rfl, List.take_of_length_le]
      · rfl
      · simp
        omega

include hdigits in
/-- The number is cut off to zero. -/
theorem prettify_cut (hlow : -323 ≤ (c :: ds).length + k) (hsmall : (c :: ds).length + k ≤ -6)
    (h : (c :: ds).length + k < -(maxDecimalPlaces : ℤ)) :
    HoldsNumber minus (c :: ds) k maxDecimalPlaces (prettify (c :: ds) k maxDecimalPlaces) := by
  unfold prettify
  dsimp only
  rw [if_neg (fun h => by omega), if_neg (fun h => by omega), if_neg (fun h => by omega), if_pos h]
  obtain ⟨n, hn, hvalue, htext⟩ := exists_frac minus [] [48] (show isDigit 48 = true by decide)
    (by simp) (fun _ => rfl) (by simp) (by simp [isDigit])
  have hzero : n.magnitude = 0 := by
    rw [hvalue, fixed]
    simp [decimalValue]
  refine ⟨n, hn, fun _ => ?_, htext⟩
  rw [hzero]
  refine ⟨by positivity, ?_, fun hdefault => ?_⟩
  · have hlt : (decimalValue (c :: ds) : ℚ) < 10 ^ ((c :: ds).length : ℤ) := by
      exact_mod_cast decimalValue_lt fun b hb => le_57_of_isDigit (hdigits b hb)
    calc (decimalValue (c :: ds) : ℚ) * 10 ^ k
        < 10 ^ ((c :: ds).length : ℤ) * 10 ^ k := by gcongr
      _ = 10 ^ ((c :: ds).length + k) := (zpow_add₀ (by norm_num) _ _).symm
      _ ≤ 10 ^ (-(maxDecimalPlaces : ℤ)) := zpow_le_zpow_right₀ (by norm_num) h.le
      _ = 0 + 1 / 10 ^ maxDecimalPlaces := by rw [zpow_neg, zpow_natCast, zero_add, one_div]
  · rw [defaultMaxDecimalPlaces] at hdefault
    omega

include hdigits in
/-- The number has an exponent. -/
theorem prettify_exponent (hhigh : (c :: ds).length + k ≤ 309)
    (hlow : -323 ≤ (c :: ds).length + k)
    (hout : 21 < (c :: ds).length + k ∨ (c :: ds).length + k ≤ -6)
    (hplaces : -(maxDecimalPlaces : ℤ) ≤ (c :: ds).length + k) :
    HoldsNumber minus (c :: ds) k maxDecimalPlaces (prettify (c :: ds) k maxDecimalPlaces) := by
  have hc : isDigit c = true := hdigits c List.mem_cons_self
  unfold prettify
  dsimp only
  rw [if_neg (fun h => by omega), if_neg (fun h => by omega), if_neg (fun h => by omega),
    if_neg (by omega), writeExponent_eq (by omega)]
  have hK : ((c :: ds).length : ℤ) + k - 1 ≤ 308 := by omega
  cases ds with
  | nil =>
    dsimp only
    obtain ⟨n, hn, hvalue, htext⟩ := exists_exp minus none hc (by simp) hK
    refine ⟨n, hn, fun _ => ?_, ?_⟩
    · rw [hvalue]
      simpa [fixed] using IsCut.refl _ _
    · rw [List.take_length]
      exact htext
  | cons d ds =>
    dsimp only
    have hfrac : ∀ fs ∈ some (d :: ds), fs ≠ [] ∧ ∀ b ∈ fs, isDigit b = true := by
      rintro fs ⟨⟩
      exact ⟨List.cons_ne_nil _ _, fun b hb => hdigits b (List.mem_cons_of_mem _ hb)⟩
    obtain ⟨n, hn, hvalue, htext⟩ := exists_exp minus (some (d :: ds)) hc hfrac hK
    have hmagnitude : n.magnitude = decimalValue (c :: d :: ds) * 10 ^ k := by
      rw [hvalue, Option.getD_some, fixed, List.singleton_append, ← zpow_natCast,
        div_mul_eq_mul_div, mul_div_assoc, ← zpow_sub₀ (by norm_num)]
      congr 2
      simp only [List.length_cons]
      omega
    refine ⟨n, hn, fun _ => ?_, ?_⟩
    · rw [hmagnitude]
      exact IsCut.refl _ _
    · rw [List.take_length]
      exact htext

end Branches

/-- `Prettify` leaves the text of a number: the digits with their exponent, or what is left
    of them after as many decimal places as it may write. -/
theorem prettify_number (minus : Bool) {c : UInt8} {ds : Bytes} {k : ℤ} (maxDecimalPlaces : ℕ)
    (hne : c ≠ 48) (hdigits : ∀ b ∈ c :: ds, isDigit b = true) (hlen : (c :: ds).length ≤ 17)
    (hlow : -323 ≤ (c :: ds).length + k) (hhigh : (c :: ds).length + k ≤ 309) :
    HoldsNumber minus (c :: ds) k maxDecimalPlaces (prettify (c :: ds) k maxDecimalPlaces) := by
  have hpos : (0 : ℤ) < (c :: ds).length := by simp
  by_cases h1 : 0 ≤ k ∧ (c :: ds).length + k ≤ 21
  · exact prettify_whole minus maxDecimalPlaces hne hdigits h1
  by_cases h2 : 0 < (c :: ds).length + k ∧ (c :: ds).length + k ≤ 21
  · exact prettify_among minus maxDecimalPlaces hne hdigits hlen (by omega) h2
  by_cases h3 : -6 < (c :: ds).length + k ∧ (c :: ds).length + k ≤ 0
  · exact prettify_zeros minus maxDecimalPlaces hdigits hlen h3
  by_cases h4 : (c :: ds).length + k < -(maxDecimalPlaces : ℤ)
  · exact prettify_cut minus maxDecimalPlaces hdigits hlow (by omega) h4
  · exact prettify_exponent minus maxDecimalPlaces hdigits hhigh hlow (by omega) (by omega)

/-- What `Grisu2` makes of a double, without its sign: the digits with their exponent. -/
def DoubleWriter.magnitude (wr : DoubleWriter) (d : UInt64) : ℚ :=
  if isZero d then 0
  else
    let g := wr.grisu2 (if isNegative d then negate d else d)
    decimalValue g.1 * 10 ^ g.2

/-- `dtoa` writes a finite double as a number with its sign, with a fraction or an exponent,
    and with the value of its digits up to the decimal places. -/
theorem dtoa_number (wr : DoubleWriter) {d : UInt64} (h : isNanOrInf d = false)
    (maxDecimalPlaces : ℕ) :
    ∃ n, IsFloat (sign d) n ∧
      (1 ≤ maxDecimalPlaces → IsCut maxDecimalPlaces (wr.magnitude d) n.magnitude) ∧
      n.text = dtoa wr d maxDecimalPlaces := by
  unfold dtoa dtoaBuffer DoubleWriter.magnitude
  cases hzero : isZero d with
  | true =>
    simp only [if_true, List.take_length]
    obtain ⟨n, hn, hvalue, htext⟩ := exists_frac (sign d) [] [48]
      (show isDigit 48 = true by decide) (by simp) (fun _ => rfl) (by simp) (by simp [isDigit])
    refine ⟨n, hn, fun _ => ?_, htext⟩
    rw [hvalue]
    simpa [fixed, decimalValue] using IsCut.refl _ _
  | false =>
    rcases finite_cases h hzero with ⟨hneg, hsign, hmax⟩ | ⟨hneg, hsign, hpos, hmax⟩
    · obtain ⟨c, ds, hgrisu, hne, hdigits⟩ := wr.digits _ hneg hmax
      have hlen := wr.length_le _ hneg hmax
      have hrange := wr.exponent _ hneg hmax
      rw [hgrisu] at hlen hrange
      rw [hneg, hsign]
      simp only [Bool.false_eq_true, if_false, if_true, hgrisu, List.take_succ_cons]
      exact prettify_number true maxDecimalPlaces hne hdigits hlen hrange.1 hrange.2
    · obtain ⟨c, ds, hgrisu, hne, hdigits⟩ := wr.digits _ hpos hmax
      have hlen := wr.length_le _ hpos hmax
      have hrange := wr.exponent _ hpos hmax
      rw [hgrisu] at hlen hrange
      rw [hneg, hsign]
      simp only [Bool.false_eq_true, if_false, hgrisu]
      exact prettify_number false maxDecimalPlaces hne hdigits hlen hrange.1 hrange.2

/-! ## The buffer -/

theorem length_writeExponent (K : ℤ) : (writeExponent K).length ≤ 4 := by
  unfold writeExponent
  dsimp only
  split_ifs <;> simp

/-- `Prettify` writes at most 24 characters and ends in what it has written. -/
theorem prettify_buffer {digits : Bytes} (k : ℤ) (maxDecimalPlaces : ℕ) (hne : digits ≠ [])
    (hlen : digits.length ≤ 17) :
    (prettify digits k maxDecimalPlaces).1.length ≤ 24 ∧
      (prettify digits k maxDecimalPlaces).2 ≤ (prettify digits k maxDecimalPlaces).1.length := by
  have hpos := List.length_pos_of_ne_nil hne
  have hexp := length_writeExponent (digits.length + k - 1)
  unfold prettify
  dsimp only
  by_cases h1 : 0 ≤ k ∧ digits.length + k ≤ 21
  · rw [if_pos h1]
    simp only [List.length_append, List.length_replicate, List.length_cons, List.length_nil]
    omega
  rw [if_neg h1]
  by_cases h2 : 0 < digits.length + k ∧ digits.length + k ≤ 21
  · rw [if_pos h2]
    have hbuffer : (digits.take (digits.length + k).toNat ++
        46 :: digits.drop (digits.length + k).toNat).length = digits.length + 1 := by
      simp only [List.length_append, List.length_take, List.length_cons, List.length_drop]
      omega
    by_cases hcut : 0 > k + maxDecimalPlaces
    · rw [if_pos hcut, hbuffer]
      exact ⟨by omega, trimZeros_le (by omega) (by omega)⟩
    · rw [if_neg hcut, hbuffer]
      exact ⟨by omega, le_rfl⟩
  rw [if_neg h2]
  by_cases h3 : -6 < digits.length + k ∧ digits.length + k ≤ 0
  · rw [if_pos h3]
    have hbuffer : (48 :: 46 :: (List.replicate (2 - (digits.length + k) - 2).toNat 48 ++
        digits) : Bytes).length = digits.length + (2 - (digits.length + k)).toNat := by
      simp only [List.length_append, List.length_replicate, List.length_cons]
      omega
    by_cases hcut : (digits.length : ℤ) - (digits.length + k) > maxDecimalPlaces
    · rw [if_pos hcut, hbuffer]
      exact ⟨by omega, trimZeros_le (by omega) (by omega)⟩
    · rw [if_neg hcut, hbuffer]
      exact ⟨by omega, le_rfl⟩
  rw [if_neg h3]
  by_cases h4 : (digits.length : ℤ) + k < -maxDecimalPlaces
  · rw [if_pos h4]
    simp only [List.length_cons, List.length_drop]
    omega
  rw [if_neg h4]
  rcases digits with _ | ⟨c, _ | ⟨d, ds⟩⟩
  · exact absurd rfl hne
  · simp only [List.length_cons, List.length_nil] at hexp ⊢
    omega
  · simp only [List.length_cons, List.length_append] at hexp hlen ⊢
    omega

/-- `dtoa` stays in the 25 characters of its buffer on every finite double, and ends in what
    it has written. -/
theorem dtoa_buffer (wr : DoubleWriter) {d : UInt64} (h : isNanOrInf d = false)
    (maxDecimalPlaces : ℕ) :
    (dtoaBuffer wr d maxDecimalPlaces).1.length ≤ 25 ∧
      (dtoaBuffer wr d maxDecimalPlaces).2 ≤ (dtoaBuffer wr d maxDecimalPlaces).1.length := by
  have grisu {v : UInt64} (hpos : isPositive v = true) (hmax : aboveMax v = false) :=
    prettify_buffer (wr.grisu2 v).2 maxDecimalPlaces
      (fun hnil => by
        obtain ⟨c, ds, hgrisu, -, -⟩ := wr.digits v hpos hmax
        rw [hgrisu] at hnil
        cases hnil)
      (wr.length_le v hpos hmax)
  unfold dtoaBuffer
  cases hzero : isZero d with
  | true =>
    rw [if_pos rfl]
    cases sign d <;> simp
  | false =>
    rcases finite_cases h hzero with ⟨hneg, -, hmax⟩ | ⟨hneg, -, hpos, hmax⟩
    · obtain ⟨hlen, hstop⟩ := grisu hneg hmax
      rw [hneg, if_neg Bool.false_ne_true, if_pos rfl]
      simp only [List.length_cons]
      exact ⟨Nat.add_le_add_right hlen 1, Nat.add_le_add_right hstop 1⟩
    · rw [hneg, if_neg Bool.false_ne_true, if_neg Bool.false_ne_true]
      obtain ⟨hlen, hstop⟩ := grisu hpos hmax
      exact ⟨hlen.trans (by norm_num), hstop⟩

/-- **The text of a double.** A finite double is written as a number that has its sign, a
    fraction or an exponent, and the value of its shortest digits, which is cut only after the
    decimal places that the writer allows and not at all by default; the text fits the buffer. -/
theorem dtoa_correct (wr : DoubleWriter) {d : UInt64} (h : isNanOrInf d = false)
    {maxDecimalPlaces : ℕ} (hplaces : 1 ≤ maxDecimalPlaces) :
    (∃ n, n.text = dtoa wr d maxDecimalPlaces ∧ IsFloat (sign d) n ∧
      IsCut maxDecimalPlaces (wr.magnitude d) n.magnitude) ∧
    (dtoaBuffer wr d maxDecimalPlaces).2 ≤ (dtoaBuffer wr d maxDecimalPlaces).1.length ∧
      (dtoaBuffer wr d maxDecimalPlaces).1.length ≤ 25 := by
  obtain ⟨n, hn, hvalue, htext⟩ := dtoa_number wr h maxDecimalPlaces
  obtain ⟨hlen, hstop⟩ := dtoa_buffer wr h maxDecimalPlaces
  exact ⟨⟨n, htext, hn, hvalue hplaces⟩, hstop, hlen⟩

/-- A writer that knows one digit. -/
def sampleWriter : DoubleWriter where
  grisu2 _ := ([49], 0)
  digits _ _ _ := ⟨49, [], rfl, by decide, by simp [isDigit]⟩
  length_le _ _ _ := by decide
  exponent _ _ _ := by simp

theorem dtoa_correct_one :
    (∃ n, n.text = dtoa sampleWriter 0x3FF0000000000000 defaultMaxDecimalPlaces ∧
      IsFloat (sign 0x3FF0000000000000) n ∧
      IsCut defaultMaxDecimalPlaces (sampleWriter.magnitude 0x3FF0000000000000) n.magnitude) ∧
    (dtoaBuffer sampleWriter 0x3FF0000000000000 defaultMaxDecimalPlaces).2 ≤
        (dtoaBuffer sampleWriter 0x3FF0000000000000 defaultMaxDecimalPlaces).1.length ∧
      (dtoaBuffer sampleWriter 0x3FF0000000000000 defaultMaxDecimalPlaces).1.length ≤ 25 :=
  dtoa_correct sampleWriter (by decide) (by decide)

end DcapQvl.Rapidjson
