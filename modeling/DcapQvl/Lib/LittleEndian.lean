import Mathlib

/-!
# Integers as bytes

`leBytes k n` is the little-endian encoding of `n mod 256^k` in `k` bytes and
`leNat` its inverse. Results: `leNat_leBytes`, `leBytes_leNat` (inverse
bijections between `[0, 256^k)` and `k`-byte strings).

`beBytes n` are the bytes of `n`, most significant first, without leading zeros, and
`beNat` its inverse. Results: `beNat_beBytes`, `beBytes_eq_nil_iff`.
-/

namespace DcapQvl.Lib

/-- The `k` low bytes of `n`, least significant first. -/
def leBytes : (k n : ℕ) → List UInt8
  | 0, _ => []
  | k + 1, n => UInt8.ofNat n :: leBytes k (n / 256)

/-- The number a little-endian byte string denotes. -/
def leNat : List UInt8 → ℕ
  | [] => 0
  | b :: bs => b.toNat + 256 * leNat bs

@[simp] theorem length_leBytes (k n : ℕ) : (leBytes k n).length = k := by
  induction k generalizing n with
  | zero => rfl
  | succ k ih => simp [leBytes, ih]

theorem leNat_leBytes (k n : ℕ) : leNat (leBytes k n) = n % 256 ^ k := by
  induction k generalizing n with
  | zero => simp [leBytes, leNat, Nat.mod_one]
  | succ k ih =>
    rw [leBytes, leNat, ih, pow_succ, Nat.mul_comm (256 ^ k) 256, Nat.mod_mul]
    simp

theorem leNat_leBytes_of_lt {k n : ℕ} (h : n < 256 ^ k) : leNat (leBytes k n) = n := by
  rw [leNat_leBytes, Nat.mod_eq_of_lt h]

theorem leBytes_leNat (bs : List UInt8) : leBytes bs.length (leNat bs) = bs := by
  induction bs with
  | nil => rfl
  | cons b bs ih =>
    have hb := b.toNat_lt
    rw [List.length_cons, leBytes, leNat, show (b.toNat + 256 * leNat bs) / 256 = leNat bs by omega,
      ih]
    congr 1
    apply UInt8.toNat_inj.mp
    rw [UInt8.toNat_ofNat']
    omega

/-! ## Big-endian, of minimal length -/

/-- The bytes of `n`, most significant first; none for 0. -/
def beBytes (n : ℕ) : List UInt8 := ((Nat.digits 256 n).map UInt8.ofNat).reverse

/-- The number a big-endian byte string denotes. -/
def beNat (bs : List UInt8) : ℕ := Nat.ofDigits 256 (bs.reverse.map UInt8.toNat)

theorem beNat_beBytes (n : ℕ) : beNat (beBytes n) = n := by
  unfold beNat beBytes
  rw [List.reverse_reverse, List.map_map]
  have hmap : (Nat.digits 256 n).map (UInt8.toNat ∘ UInt8.ofNat) = Nat.digits 256 n := by
    refine (List.map_congr_left fun d hd => ?_).trans (List.map_id _)
    have hlt := Nat.digits_lt_base (by decide) hd
    rw [Function.comp_apply, UInt8.toNat_ofNat', id]
    omega
  rw [hmap, Nat.ofDigits_digits]

theorem beBytes_inj {m n : ℕ} : beBytes m = beBytes n ↔ m = n := by
  constructor
  · intro h
    rw [← beNat_beBytes m, h, beNat_beBytes]
  · exact congrArg beBytes

theorem beBytes_eq_nil_iff {n : ℕ} : beBytes n = [] ↔ n = 0 := by
  simp [beBytes, Nat.digits_eq_nil_iff_eq_zero]

end DcapQvl.Lib
