import DcapQvl.Common.ByteOperands
import DcapQvl.Lib.Cursor

/-!
# Quote parsers

Models of the `copyAndAdvance` overloads of `QuoteVerification/QuoteParsers.h`
and the constants of `QuoteConstants.h`.

Results: `copyAndAdvance16_reads`, `copyAndAdvance32_reads` (little-endian
integers), `copyAndAdvanceArray_reads` and `copyAndAdvance_reads` (a nested
structure confined to its size).
-/

namespace DcapQvl

open Lib

/-! ## Constants -/

def teeTypeSgx : UInt32 := 0x00000000
def teeTypeTdx : UInt32 := 0x00000081
def quoteVersion3 : UInt16 := 3
def quoteVersion4 : UInt16 := 4
def quoteVersion5 : UInt16 := 5
def ecdsa256WithP256Curve : UInt16 := 2
def bodyByteSize : ℕ := 6
def bodySgxEnclaveReportType : UInt16 := 1
def bodyTdReport10Type : UInt16 := 2
def bodyTdReport15Type : UInt16 := 3
def bodyTdReport15ExType : UInt16 := 4
def enclaveReportByteLen : ℕ := 384
def tdReport10ByteLen : ℕ := 584
def tdReport15ByteLen : ℕ := 648
def tdReport15ExByteLen : ℕ := 885
def pckIdQeReportCertificationData : UInt16 := 6
def headerByteLen : ℕ := 48
def authDataSizeByteLen : ℕ := 4
def ecdsaSignatureByteLen : ℕ := 64
def ecdsaPubkeyByteLen : ℕ := 64
def qeReportByteLen : ℕ := enclaveReportByteLen
def qeAuthDataSizeByteLen : ℕ := 2
def certificationDataTypeByteLen : ℕ := 2
def certificationDataSizeByteLen : ℕ := 4

/-- `AUTH_DATA_MIN_BYTE_LEN`: signature, key, QE report and its signature, and
    the three size and type fields. -/
def authDataMinByteLen : ℕ :=
  ecdsaSignatureByteLen + ecdsaPubkeyByteLen + qeReportByteLen + ecdsaSignatureByteLen +
    qeAuthDataSizeByteLen + 2 + 4

/-- `QUOTE_MIN_BYTE_LEN`: a version 3 quote with an enclave report. -/
def quoteMinByteLen : ℕ :=
  headerByteLen + enclaveReportByteLen + authDataSizeByteLen + authDataMinByteLen

def allowedQuoteVersions : List UInt16 := [quoteVersion3, quoteVersion4, quoteVersion5]
def allowedBodyTypes : List UInt16 :=
  [bodySgxEnclaveReportType, bodyTdReport10Type, bodyTdReport15Type, bodyTdReport15ExType]
def allowedTeeTypes : List UInt32 := [teeTypeSgx, teeTypeTdx]
def allowedAttestationKeyTypes : List UInt16 := [ecdsa256WithP256Curve]

/-- `INTEL_QE_VENDOR_ID`. -/
def intelQeVendorId : ByteArr 16 :=
  ⟨[0x93, 0x9A, 0x72, 0x33, 0xF7, 0x9C, 0x4C, 0xA9, 0x94, 0x0A, 0x0D, 0xB3, 0x95, 0x7F, 0x06, 0x07],
    rfl⟩

/-! ## copyAndAdvance -/

/-- A reader on `std::vector<uint8_t>`. -/
abbrev ByteReader := Reader UInt8

/-- `copyAndAdvance(T& val, from, amount, totalEnd)` for a type with `insert`. -/
def copyAndAdvance {T : Type} (insert : ByteReader T) (amount : ℕ) : ByteReader T := do
  let available ← Reader.distance
  if available < 0 ∨ toUnsigned available < amount then Reader.reject
  else Reader.within amount insert

/-- `std::copy(from, std::next(from, n), arr.begin())`. -/
def copyArray (n : ℕ) : ByteReader (ByteArr n) := fun buf pos _ =>
  if h : pos + n ≤ buf.length then
    .ok (ByteArr.ofList ((buf.drop pos).take n) (by simp; omega), pos)
  else .error .outOfRange

/-- `copyAndAdvance(std::array<uint8_t, N>& arr, from, totalEnd)`. -/
def copyAndAdvanceArray (n : ℕ) : ByteReader (ByteArr n) := do
  let available ← Reader.distance
  if available < n then Reader.reject
  else do
    let arr ← copyArray n
    Reader.advance n
    pure arr

/-- `copyAndAdvance(uint16_t& val, from, totalEnd)`. -/
def copyAndAdvance16 : ByteReader UInt16 := do
  let available ← Reader.distance
  if available < 0 ∨ toUnsigned available < 2 then Reader.reject
  else do
    let b0 ← Reader.deref 0
    let b1 ← Reader.deref 1
    Reader.advance 2
    pure (swapBytes16 (toUint16 b0 b1))

/-- `copyAndAdvance(uint32_t& val, position, totalEnd)`. -/
def copyAndAdvance32 : ByteReader UInt32 := do
  let available ← Reader.distance
  if available < 0 ∨ toUnsigned available < 4 then Reader.reject
  else do
    let b0 ← Reader.deref 0
    let b1 ← Reader.deref 1
    let b2 ← Reader.deref 2
    let b3 ← Reader.deref 3
    Reader.advance 4
    pure (swapBytes32 (toUint32 b0 b1 b2 b3))

/-! ## What they read -/

theorem copyArray_ok (n : ℕ) {buf : Bytes} {pos stop : ℕ} (h : pos + n ≤ buf.length) :
    copyArray n buf pos stop =
      .ok (ByteArr.ofList ((buf.drop pos).take n) (by simp; omega), pos) := by
  rw [copyArray, dif_pos h]

/-- `copyAndAdvance` of a structure is `insert` confined to `amount` bytes. -/
theorem copyAndAdvance_reads {T : Type} {insert : ByteReader T} {enc : T → Bytes}
    {ok : T → Bytes → Prop} (amount : ℕ) (h : Reads insert enc ok) :
    Reads (copyAndAdvance insert amount) enc
      (fun v rest => (enc v).length ≤ amount ∧ amount ≤ (enc v).length + rest.length ∧
        ok v (rest.take (amount - (enc v).length))) := by
  obtain ⟨s, hs, hse⟩ := h.within amount
  refine ⟨s, hs.congr fun buf pos stop _ => ?_, hse⟩
  simp only [copyAndAdvance, Bind.bind, Reader.distance]
  split <;> rfl

/-- `copyAndAdvance` of a structure with a fixed size. -/
theorem copyAndAdvance_reads_fixed {T : Type} {insert : ByteReader T} {enc : T → Bytes} {k : ℕ}
    (h : Reads insert enc fun _ _ => True) (henc : ∀ v, (enc v).length = k) :
    Reads (copyAndAdvance insert k) enc fun _ _ => True :=
  (copyAndAdvance_reads k h).congr (fun v rest => by rw [henc]; simp) fun _ _ _ => rfl

/-- The scan that `copyAndAdvanceArray` refines. -/
def scanArray (n : ℕ) : Scan UInt8 (ByteArr n) := fun w =>
  if h : w.length < n then none
  else some (ByteArr.ofList (w.take n) (by simp; omega), w.drop n)

/-- The scan that `copyAndAdvance16` refines. -/
def scan16 : Scan UInt8 UInt16
  | b0 :: b1 :: rest => some (swapBytes16 (toUint16 b0 b1), rest)
  | _ => none

/-- The scan that `copyAndAdvance32` refines. -/
def scan32 : Scan UInt8 UInt32
  | b0 :: b1 :: b2 :: b3 :: rest => some (swapBytes32 (toUint32 b0 b1 b2 b3), rest)
  | _ => none

theorem scan16_short {w : Bytes} (h : w.length < 2) : scan16 w = none := by
  rcases w with _ | ⟨b0, _ | ⟨b1, rest⟩⟩
  · rfl
  · rfl
  · simp only [List.length_cons] at h
    omega

theorem scan32_short {w : Bytes} (h : w.length < 4) : scan32 w = none := by
  rcases w with _ | ⟨b0, _ | ⟨b1, _ | ⟨b2, _ | ⟨b3, rest⟩⟩⟩⟩
  · rfl
  · rfl
  · rfl
  · rfl
  · simp only [List.length_cons] at h
    omega

theorem copyAndAdvanceArray_reads (n : ℕ) :
    Reads (copyAndAdvanceArray n) (fun v => v.toList) (fun _ _ => True) := by
  refine ⟨scanArray n, ?_, ?_⟩
  · intro buf pos stop hb
    have hlen := length_window pos hb.stop_le
    have hle := hb.le
    have hstop := hb.stop_le
    rw [copyAndAdvanceArray, Reader.distance_bind]
    by_cases h : stop - pos < n
    · rw [scanArray, dif_pos (by omega), if_pos (by omega)]
      rfl
    · rw [scanArray, dif_neg (by omega)]
      refine ⟨pos + n, by omega, by omega, ?_, by rw [window_drop]⟩
      rw [if_neg (by omega), Reader.bind_ok (copyArray_ok n (by omega)),
        Reader.advance_bind _ (by omega)]
      simp only [window_take _ _ _ _ (show pos + n ≤ stop by omega), take_drop_eq_window]
      rfl
  · intro w v rest
    constructor
    · intro h
      rw [scanArray] at h
      split at h
      · cases h
      · cases h
        exact ⟨(List.take_append_drop n w).symm, trivial⟩
    · rintro ⟨rfl, -⟩
      have hv : v.toList.length = n := v.toList_length
      have hlen : ¬ (v.toList ++ rest).length < n := by
        rw [List.length_append]
        omega
      rw [scanArray, dif_neg hlen]
      simp only [Option.some.injEq, Prod.mk.injEq]
      refine ⟨List.Vector.toList_injective ?_, ?_⟩
      · exact List.take_left' hv
      · exact List.drop_left' hv

theorem scan16_eq_some (w : Bytes) (v : UInt16) (rest : Bytes) :
    scan16 w = some (v, rest) ↔ w = leBytes 2 v.toNat ++ rest := by
  constructor
  · intro h
    rcases w with _ | ⟨b0, _ | ⟨b1, tail⟩⟩
    · cases h
    · cases h
    · cases h
      rw [swapBytes16_toUint16, show 2 = [b0, b1].length by rfl, leBytes_leNat]
      rfl
  · rintro rfl
    simp only [leBytes, List.cons_append, List.nil_append, scan16, Option.some.injEq,
      Prod.mk.injEq, and_true]
    apply UInt16.toNat_inj.mp
    have hv := v.toNat_lt
    rw [swapBytes16_toUint16]
    exact leNat_leBytes_of_lt (k := 2) (by omega)

theorem scan32_eq_some (w : Bytes) (v : UInt32) (rest : Bytes) :
    scan32 w = some (v, rest) ↔ w = leBytes 4 v.toNat ++ rest := by
  constructor
  · intro h
    rcases w with _ | ⟨b0, _ | ⟨b1, _ | ⟨b2, _ | ⟨b3, tail⟩⟩⟩⟩
    · cases h
    · cases h
    · cases h
    · cases h
    · cases h
      rw [swapBytes32_toUint32, show 4 = [b0, b1, b2, b3].length by rfl, leBytes_leNat]
      rfl
  · rintro rfl
    simp only [leBytes, List.cons_append, List.nil_append, scan32, Option.some.injEq,
      Prod.mk.injEq, and_true]
    apply UInt32.toNat_inj.mp
    have hv := v.toNat_lt
    rw [swapBytes32_toUint32]
    exact leNat_leBytes_of_lt (k := 4) (by omega)

theorem copyAndAdvance16_refines : Refines copyAndAdvance16 scan16 := by
  intro buf pos stop hb
  have hlen := length_window pos hb.stop_le
  have hle := hb.le
  have hstop := hb.stop_le
  have hsmall := hb.small
  have hu := toUnsigned_distance hle (by omega)
  rw [copyAndAdvance16, Reader.distance_bind, hu]
  by_cases h : stop - pos < 2
  · rw [if_pos (Or.inr h), scan16_short (by omega)]
    rfl
  · obtain ⟨b0, hb0, e0⟩ := window_cons (show pos < stop by omega) hstop
    obtain ⟨b1, hb1, e1⟩ := window_cons (show pos + 1 < stop by omega) hstop
    rw [if_neg (by omega), e0, e1]
    refine ⟨pos + 2, by omega, by omega, ?_, rfl⟩
    rw [Reader.deref_bind (k := 0) _ hb0, Reader.deref_bind (k := 1) _ hb1,
      Reader.advance_bind _ (by omega)]
    rfl

theorem copyAndAdvance32_refines : Refines copyAndAdvance32 scan32 := by
  intro buf pos stop hb
  have hlen := length_window pos hb.stop_le
  have hle := hb.le
  have hstop := hb.stop_le
  have hsmall := hb.small
  have hu := toUnsigned_distance hle (by omega)
  rw [copyAndAdvance32, Reader.distance_bind, hu]
  by_cases h : stop - pos < 4
  · rw [if_pos (Or.inr h), scan32_short (by omega)]
    rfl
  · obtain ⟨b0, hb0, e0⟩ := window_cons (show pos < stop by omega) hstop
    obtain ⟨b1, hb1, e1⟩ := window_cons (show pos + 1 < stop by omega) hstop
    obtain ⟨b2, hb2, e2⟩ := window_cons (show pos + 1 + 1 < stop by omega) hstop
    obtain ⟨b3, hb3, e3⟩ := window_cons (show pos + 1 + 1 + 1 < stop by omega) hstop
    rw [if_neg (by omega), e0, e1, e2, e3]
    refine ⟨pos + 4, by omega, by omega, ?_, rfl⟩
    rw [Reader.deref_bind (k := 0) _ hb0, Reader.deref_bind (k := 1) _ hb1,
      Reader.deref_bind (k := 2) _ hb2, Reader.deref_bind (k := 3) _ hb3,
      Reader.advance_bind _ (by omega)]
    rfl

theorem copyAndAdvance16_reads :
    Reads copyAndAdvance16 (fun v => leBytes 2 v.toNat) (fun _ _ => True) :=
  ⟨scan16, copyAndAdvance16_refines, fun w v rest => by rw [scan16_eq_some, and_true]⟩

theorem copyAndAdvance32_reads :
    Reads copyAndAdvance32 (fun v => leBytes 4 v.toNat) (fun _ _ => True) :=
  ⟨scan32, copyAndAdvance32_refines, fun w v rest => by rw [scan32_eq_some, and_true]⟩

/-- `copyAndAdvance` into an array of `n` bytes succeeds when `n` bytes are left. -/
theorem copyAndAdvanceArray_total (n : ℕ) : Total (copyAndAdvanceArray n) n := by
  intro buf pos stop hb hk
  have hstop := hb.stop_le
  rw [copyAndAdvanceArray, Reader.distance_bind, if_neg (by omega),
    Reader.bind_ok (copyArray_ok n (by omega)), Reader.advance_bind _ (by omega)]
  exact ⟨_, rfl⟩

theorem copyAndAdvance16_total : Total copyAndAdvance16 2 := by
  intro buf pos stop hb hk
  have hstop := hb.stop_le
  have hsmall := hb.small
  obtain ⟨b0, hb0, -⟩ := window_cons (show pos < stop by omega) hstop
  obtain ⟨b1, hb1, -⟩ := window_cons (show pos + 1 < stop by omega) hstop
  rw [copyAndAdvance16, Reader.distance_bind, toUnsigned_distance hb.le (by omega),
    if_neg (by omega), Reader.deref_bind (k := 0) _ hb0, Reader.deref_bind (k := 1) _ hb1,
    Reader.advance_bind _ (by omega)]
  exact ⟨_, rfl⟩

theorem copyAndAdvance32_total : Total copyAndAdvance32 4 := by
  intro buf pos stop hb hk
  have hstop := hb.stop_le
  have hsmall := hb.small
  obtain ⟨b0, hb0, -⟩ := window_cons (show pos < stop by omega) hstop
  obtain ⟨b1, hb1, -⟩ := window_cons (show pos + 1 < stop by omega) hstop
  obtain ⟨b2, hb2, -⟩ := window_cons (show pos + 1 + 1 < stop by omega) hstop
  obtain ⟨b3, hb3, -⟩ := window_cons (show pos + 1 + 1 + 1 < stop by omega) hstop
  rw [copyAndAdvance32, Reader.distance_bind, toUnsigned_distance hb.le (by omega),
    if_neg (by omega), Reader.deref_bind (k := 0) _ hb0, Reader.deref_bind (k := 1) _ hb1, Reader.deref_bind (k := 2) _ hb2,
    Reader.deref_bind (k := 3) _ hb3, Reader.advance_bind _ (by omega)]
  exact ⟨_, rfl⟩

end DcapQvl
