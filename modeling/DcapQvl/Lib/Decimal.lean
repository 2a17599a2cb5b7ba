import Mathlib

/-!
# Decimal digits

`decimal n` are the ASCII digits of `n` without leading zeros, and `zeroPadded k n` the last
`k` of them with zeros in front.

Results:
* `decimal_eq_append`: a number is written as its head and its last `k` digits.
* `significant_eq`: the digits of a number one by one, each left out while the number is
  too small for it.
* `decimalValue_decimal`: the value of the digits of `n` is `n`.
* `fixed_take`: how far a fraction is off that is cut after some places.
-/

namespace DcapQvl.Lib

/-- The character of a digit. -/
def digitByte (d : ℕ) : UInt8 := UInt8.ofNat (48 + d)

/-- The digits of a number. -/
def decimal (n : ℕ) : List UInt8 := (Nat.toDigits 10 n).map fun c => UInt8.ofNat c.toNat

/-- The last `k` digits of a number. -/
def zeroPadded : ℕ → ℕ → List UInt8
  | 0, _ => []
  | k + 1, n => zeroPadded k (n / 10) ++ [digitByte (n % 10)]

/-- The digits of a number from the one for `10^k` on, as far as the number has them; the
    last one is always there. -/
def significant : ℕ → ℕ → List UInt8
  | 0, n => [digitByte (n % 10)]
  | k + 1, n =>
    (if 10 ^ (k + 1) ≤ n then [digitByte (n / 10 ^ (k + 1) % 10)] else []) ++ significant k n

/-- The value of digits. -/
def decimalValue (ds : List UInt8) : ℕ := ds.foldl (fun n c => n * 10 + (c.toNat - 48)) 0

/-- The value of digits with a point. -/
def fixed (ds fs : List UInt8) : ℚ := decimalValue (ds ++ fs) / 10 ^ fs.length

theorem digitByte_eq {d : ℕ} (h : d < 10) : digitByte d = UInt8.ofNat d.digitChar.toNat := by
  interval_cases d <;> rfl

/-- The last digit of a number. -/
theorem decimal_eq (n : ℕ) :
    decimal n = (if n < 10 then [] else decimal (n / 10)) ++ [digitByte (n % 10)] := by
  unfold decimal
  rw [Nat.toDigits_eq_if (by omega), digitByte_eq (Nat.mod_lt n (by omega))]
  by_cases h : n < 10
  · rw [if_pos h, if_pos h, Nat.mod_eq_of_lt h]
    rfl
  · rw [if_neg h, if_neg h, List.map_append]
    rfl

theorem decimal_of_lt {n : ℕ} (h : n < 10) : decimal n = [digitByte n] := by
  rw [decimal_eq, if_pos h, Nat.mod_eq_of_lt h]
  rfl

theorem decimal_of_le {n : ℕ} (h : 10 ≤ n) :
    decimal n = decimal (n / 10) ++ [digitByte (n % 10)] := by
  rw [decimal_eq, if_neg (by omega)]

theorem zeroPadded_add (j k n : ℕ) :
    zeroPadded (j + k) n = zeroPadded j (n / 10 ^ k) ++ zeroPadded k n := by
  induction k generalizing n with
  | zero => simp [zeroPadded]
  | succ k ih =>
    have hdiv : n / 10 / 10 ^ k = n / 10 ^ (k + 1) := by
      rw [Nat.div_div_eq_div_mul, pow_succ, Nat.mul_comm]
    rw [← Nat.add_assoc, zeroPadded, zeroPadded, ih, hdiv, List.append_assoc]

/-- The first of the last digits. -/
theorem zeroPadded_succ (k n : ℕ) :
    zeroPadded (k + 1) n = digitByte (n / 10 ^ k % 10) :: zeroPadded k n := by
  rw [Nat.add_comm, zeroPadded_add]
  rfl

theorem zeroPadded_mod (k n : ℕ) : zeroPadded k (n % 10 ^ k) = zeroPadded k n := by
  induction k generalizing n with
  | zero => rfl
  | succ k ih =>
    have hdiv : n % 10 ^ (k + 1) / 10 = n / 10 % 10 ^ k := by
      rw [pow_succ, Nat.mul_comm, Nat.mod_mul_right_div_self]
    have hmod : n % 10 ^ (k + 1) % 10 = n % 10 := Nat.mod_mod_of_dvd n (dvd_pow_self 10 (by omega))
    rw [zeroPadded, zeroPadded, hdiv, hmod, ih]

/-- A number is written as its head and its last digits. -/
theorem decimal_eq_append {k n : ℕ} (h : 10 ^ k ≤ n) :
    decimal n = decimal (n / 10 ^ k) ++ zeroPadded k n := by
  induction k generalizing n with
  | zero => simp [zeroPadded]
  | succ k ih =>
    have hle : 10 ^ k ≤ n / 10 := by
      rw [Nat.le_div_iff_mul_le (by omega), ← pow_succ]
      exact h
    have hten : 10 ≤ n := (Nat.le_self_pow (by omega) 10).trans h
    have hdiv : n / 10 / 10 ^ k = n / 10 ^ (k + 1) := by
      rw [Nat.div_div_eq_div_mul, pow_succ, Nat.mul_comm]
    rw [decimal_of_le hten, ih hle, hdiv, zeroPadded, List.append_assoc]

/-- All digits of a number that has `k + 1` of them. -/
theorem decimal_eq_zeroPadded {k n : ℕ} (h : 10 ^ k ≤ n) (hlt : n < 10 ^ (k + 1)) :
    decimal n = zeroPadded (k + 1) n := by
  have hdigit : n / 10 ^ k < 10 := by
    rw [Nat.div_lt_iff_lt_mul (by positivity), Nat.mul_comm, ← pow_succ]
    exact hlt
  rw [decimal_eq_append h, decimal_of_lt hdigit, zeroPadded_succ, Nat.mod_eq_of_lt hdigit]
  rfl

theorem significant_of_le {k n : ℕ} (h : 10 ^ k ≤ n) :
    significant k n = zeroPadded (k + 1) n := by
  induction k with
  | zero => rfl
  | succ k ih =>
    have hle : 10 ^ k ≤ n := (Nat.pow_le_pow_right (by omega) (by omega)).trans h
    rw [significant, if_pos h, ih hle, zeroPadded_succ (k + 1)]
    rfl

/-- The digits of a number, each left out while the number is too small for it. -/
theorem significant_eq {k n : ℕ} (h : n < 10 ^ (k + 1)) : significant k n = decimal n := by
  induction k with
  | zero =>
    rw [decimal_of_lt (by simpa using h), significant, Nat.mod_eq_of_lt (by simpa using h)]
  | succ k ih =>
    by_cases hle : 10 ^ (k + 1) ≤ n
    · rw [significant_of_le hle, decimal_eq_zeroPadded hle h]
    · rw [significant, if_neg hle, List.nil_append, ih (not_le.mp hle)]

theorem toNat_digitByte {d : ℕ} (h : d < 10) : (digitByte d).toNat = 48 + d := by
  unfold digitByte
  rw [UInt8.toNat_ofNat', Nat.mod_eq_of_lt (by omega)]

theorem decimal_ne_nil (n : ℕ) : decimal n ≠ [] := by
  rw [decimal_eq]
  simp

/-- The value of the digits of a number is the number. -/
theorem decimalValue_decimal (n : ℕ) : decimalValue (decimal n) = n := by
  induction n using Nat.strong_induction_on with
  | _ n ih =>
    have hmod : (digitByte (n % 10)).toNat - 48 = n % 10 := by
      rw [toNat_digitByte (Nat.mod_lt n (by omega))]
      omega
    by_cases h : n < 10
    · rw [Nat.mod_eq_of_lt h] at hmod
      rw [decimal_of_lt h, decimalValue, List.foldl_cons, hmod]
      simp
    · have hvalue := ih (n / 10) (by omega)
      unfold decimalValue at hvalue ⊢
      rw [decimal_of_le (by omega), List.foldl_append, hvalue, List.foldl_cons, hmod,
        List.foldl_nil]
      omega

theorem decimalValue_append (ds es : List UInt8) :
    decimalValue (ds ++ es) = decimalValue ds * 10 ^ es.length + decimalValue es := by
  have hfold (n : ℕ) : es.foldl (fun n c => n * 10 + (c.toNat - 48)) n =
      n * 10 ^ es.length + decimalValue es := by
    unfold decimalValue
    induction es generalizing n with
    | nil => simp
    | cons c es ih =>
      rw [List.foldl_cons, List.foldl_cons, ih, ih (0 * 10 + _), List.length_cons, pow_succ]
      ring
  rw [decimalValue, List.foldl_append, hfold]
  rfl

theorem decimalValue_zeros (k : ℕ) : decimalValue (List.replicate k 48) = 0 := by
  induction k with
  | zero => rfl
  | succ k ih =>
    rw [List.replicate_succ', decimalValue_append, ih, Nat.zero_mul, Nat.zero_add]
    rfl

theorem decimalValue_lt {ds : List UInt8} (h : ∀ c ∈ ds, c ≤ 57) :
    decimalValue ds < 10 ^ ds.length := by
  induction ds with
  | nil => exact Nat.one_pos
  | cons c ds ih =>
    obtain ⟨hc, hds⟩ := List.forall_mem_cons.mp h
    have hdigit : decimalValue [c] ≤ 9 := by
      have : c.toNat ≤ 57 := UInt8.le_iff_toNat_le.mp hc
      show 0 * 10 + (c.toNat - 48) ≤ 9
      omega
    rw [← List.singleton_append, decimalValue_append, List.length_append, pow_add]
    calc decimalValue [c] * 10 ^ ds.length + decimalValue ds
        < decimalValue [c] * 10 ^ ds.length + 10 ^ ds.length := by
          have := ih hds
          omega
      _ = (decimalValue [c] + 1) * 10 ^ ds.length := by ring
      _ ≤ 10 ^ [c].length * 10 ^ ds.length := by
          apply Nat.mul_le_mul_right
          rw [List.length_singleton]
          omega

/-- Zeros at the end of a fraction do not count. -/
theorem fixed_append_zeros (ds fs : List UInt8) (k : ℕ) :
    fixed ds (fs ++ List.replicate k 48) = fixed ds fs := by
  unfold fixed
  rw [← List.append_assoc, decimalValue_append, decimalValue_zeros, List.length_append,
    List.length_replicate, pow_add]
  push_cast
  field_simp
  ring

/-- A fraction that is cut after `k` places is less by less than one in the last of them. -/
theorem fixed_take (ds : List UInt8) {fs : List UInt8} (hfs : ∀ c ∈ fs, c ≤ 57) (k : ℕ) :
    fixed ds (fs.take k) ≤ fixed ds fs ∧
      fixed ds fs < fixed ds (fs.take k) + 1 / 10 ^ k := by
  by_cases hlen : fs.length ≤ k
  · rw [List.take_of_length_le hlen]
    exact ⟨le_rfl, lt_add_of_pos_right _ (by positivity)⟩
  · have htake : (fs.take k).length = k := List.length_take_of_le (by omega)
    have hvalue : fixed ds fs =
        fixed ds (fs.take k) + decimalValue (fs.drop k) / 10 ^ (fs.drop k).length / 10 ^ k := by
      conv_lhs => rw [← List.take_append_drop k fs]
      unfold fixed
      rw [← List.append_assoc, decimalValue_append, List.length_append, htake, pow_add]
      push_cast
      field_simp
    have hdrop : (decimalValue (fs.drop k) : ℚ) / 10 ^ (fs.drop k).length < 1 := by
      rw [div_lt_one (by positivity)]
      exact_mod_cast decimalValue_lt fun c hc => hfs c (List.mem_of_mem_drop hc)
    rw [hvalue]
    refine ⟨le_add_of_nonneg_right (by positivity), ?_⟩
    gcongr

theorem mem_decimal {n : ℕ} {c : UInt8} (h : c ∈ decimal n) : ∃ d < 10, c = digitByte d := by
  induction n using Nat.strong_induction_on with
  | _ n ih =>
    by_cases hn : n < 10
    · rw [decimal_of_lt hn, List.mem_singleton] at h
      exact ⟨n, hn, h⟩
    · rw [decimal_of_le (by omega), List.mem_append, List.mem_singleton] at h
      rcases h with h | h
      · exact ih (n / 10) (by omega) h
      · exact ⟨n % 10, Nat.mod_lt n (by omega), h⟩

/-- Only zero starts with a zero. -/
theorem head_decimal {n : ℕ} {c : UInt8} {ds : List UInt8} (h : decimal n = c :: ds)
    (hn : 0 < n) : c ≠ digitByte 0 := by
  induction n using Nat.strong_induction_on generalizing ds with
  | _ n ih =>
    by_cases hlt : n < 10
    · rw [decimal_of_lt hlt] at h
      cases h
      interval_cases n <;> decide
    · rw [decimal_of_le (by omega)] at h
      obtain ⟨d, es, hcons⟩ := List.exists_cons_of_ne_nil (decimal_ne_nil (n / 10))
      rw [hcons] at h
      cases h
      exact ih (n / 10) (by omega) hcons (by omega)

end DcapQvl.Lib
