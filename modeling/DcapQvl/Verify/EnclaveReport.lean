import DcapQvl.Quote.SignedData
import DcapQvl.Tcb.Selection

/-!
# Enclave report verification

Models of `Verifiers/EnclaveReportVerifier.cpp` and of
`sgxAttestationVerifyEnclaveReport` (`QuoteVerification.cpp`). The report fields
are little-endian integers of a 384-byte block, the fields of the identity are
hex strings; `MatchesIdentity` compares both as bytes.

Results:
* `EnclaveReportVerifier.verify_eq`: the verifier is the comparison of the fields followed
  by the status of the selected level.
* `verifyEnclaveReport_decides`: the same for the API function, on the block.
-/

namespace DcapQvl

open Lib

/-! ## The verifier -/

/-- `EnclaveReportVerifier::vectorToUint32(input)`; fewer than four bytes are read
    past the end. -/
def vectorToUint32 : Bytes → Except Exn UInt32
  | b0 :: b1 :: b2 :: b3 :: _ => .ok (swapBytes32 (toUint32 b0 b1 b2 b3))
  | _ => .error .undefined

/-- The end of `EnclaveReportVerifier::verify`, from the search for a level. -/
def verifyIsvSvn (enclaveIdentity : EnclaveIdentity) (isvSvn : UInt16) : Except Exn Status :=
  match enclaveIdentity.getTcbLevel isvSvn.toUInt32 with
  | .ok matchedTcbLevel =>
    if matchedTcbLevel.tcbStatus ≠ .upToDate then
      if matchedTcbLevel.tcbStatus = .revoked then .ok .sgxEnclaveReportIsvsvnRevoked
      else .ok .sgxEnclaveReportIsvsvnOutOfDate
    else .ok .ok
  | .error (.statusNotSupported _) => .ok .sgxEnclaveReportIsvsvnNotSupported
  | .error e => .error e

/-- `EnclaveReportVerifier::verify(enclaveIdentity, enclaveReport)`. -/
def EnclaveReportVerifier.verify (enclaveIdentity : EnclaveIdentity)
    (enclaveReport : EnclaveReport) : Except Exn Status := do
  let miscselectMask ← vectorToUint32 enclaveIdentity.miscselectMask
  let miscselect ← vectorToUint32 enclaveIdentity.miscselect
  if enclaveReport.miscSelect &&& miscselectMask ≠ miscselect then
    pure .sgxEnclaveReportMiscselectMismatch
  else if applyMask enclaveReport.attributes.toList enclaveIdentity.attributesMask ≠
      enclaveIdentity.attributes then
    pure .sgxEnclaveReportAttributesMismatch
  else if enclaveIdentity.mrSigner ≠ [] ∧
      enclaveIdentity.mrSigner ≠ enclaveReport.mrSigner.toList then
    pure .sgxEnclaveReportMrsignerMismatch
  else if enclaveReport.isvProdID.toUInt32 ≠ enclaveIdentity.isvProdId then
    pure .sgxEnclaveReportIsvprodidMismatch
  else verifyIsvSvn enclaveIdentity enclaveReport.isvSvn

/-- `sgxAttestationVerifyEnclaveReport(enclaveReport, enclaveIdentity)`; a null
    pointer is `none`, and a C string is given by its characters. -/
def sgxAttestationVerifyEnclaveReport (env : JsonEnv)
    (enclaveReport : Option (ByteArr enclaveReportByteLen)) (enclaveIdentity : Option Bytes) :
    Except Exn Status :=
  match enclaveReport, enclaveIdentity with
  | some enclaveReport, some enclaveIdentity =>
    let vecEnclaveReport := enclaveReport.toList
    match copyAndAdvance EnclaveReport.insert enclaveReportByteLen vecEnclaveReport 0
        vecEnclaveReport.length with
    | .error .rejected => .ok .sgxEnclaveReportUnsupportedFormat
    | .error .outOfRange => .error .undefined
    | .ok (eReport, pos) =>
      if pos ≠ vecEnclaveReport.length then .ok .sgxEnclaveReportUnsupportedFormat
      else
        match EnclaveIdentity.parse env enclaveIdentity with
        | .error (.format _) => .ok .sgxEnclaveIdentityUnsupportedFormat
        | .error (.invalidExtension _) => .ok .sgxEnclaveIdentityInvalid
        | .error (.invalidVersion _) => .ok .sgxEnclaveIdentityUnsupportedVersion
        | .error e => .error e
        | .ok enclaveIdentityParsed => EnclaveReportVerifier.verify enclaveIdentityParsed eReport
  | _, _ => .ok .sgxEnclaveReportUnsupportedFormat

/-! ## Fields of the report -/

/-- A slice of a concatenation that is one of its pieces. -/
theorem slice_piece {pieces post : List Bytes} (pre : List Bytes) (x : Bytes) {pos n : ℕ}
    (h : pieces = pre ++ x :: post) (hpos : pre.flatten.length = pos) (hn : x.length = n) :
    slice pieces.flatten pos n = x := by
  rw [h, List.flatten_append, slice_right hpos.le, hpos, Nat.sub_self, List.flatten_cons,
    slice_left (by omega), slice_all hn]

namespace EnclaveReport

variable (r : EnclaveReport)

theorem slice_miscSelect : leNat (slice r.bytes 16 4) = r.miscSelect.toNat := by
  have hlt := r.miscSelect.toNat_lt
  have hslice : slice r.bytes 16 4 = leBytes 4 r.miscSelect.toNat :=
    slice_piece [r.cpuSvn.toList] _ rfl (by simp) (by simp)
  rw [hslice, leNat_leBytes_of_lt (by omega)]

theorem slice_attributes : slice r.bytes 48 16 = r.attributes.toList :=
  slice_piece [r.cpuSvn.toList, leBytes 4 r.miscSelect.toNat, r.reserved1.toList] _ rfl (by simp)
    (by simp)

theorem slice_mrSigner : slice r.bytes 128 32 = r.mrSigner.toList :=
  slice_piece [r.cpuSvn.toList, leBytes 4 r.miscSelect.toNat, r.reserved1.toList,
    r.attributes.toList, r.mrEnclave.toList, r.reserved2.toList] _ rfl (by simp) (by simp)

theorem slice_isvProdID : leNat (slice r.bytes 256 2) = r.isvProdID.toNat := by
  have hlt := r.isvProdID.toNat_lt
  have hslice : slice r.bytes 256 2 = leBytes 2 r.isvProdID.toNat :=
    slice_piece [r.cpuSvn.toList, leBytes 4 r.miscSelect.toNat, r.reserved1.toList,
      r.attributes.toList, r.mrEnclave.toList, r.reserved2.toList, r.mrSigner.toList,
      r.reserved3.toList] _ rfl (by simp) (by simp)
  rw [hslice, leNat_leBytes_of_lt (by omega)]

theorem slice_isvSvn : leNat (slice r.bytes 258 2) = r.isvSvn.toNat := by
  have hlt := r.isvSvn.toNat_lt
  have hslice : slice r.bytes 258 2 = leBytes 2 r.isvSvn.toNat :=
    slice_piece [r.cpuSvn.toList, leBytes 4 r.miscSelect.toNat, r.reserved1.toList,
      r.attributes.toList, r.mrEnclave.toList, r.reserved2.toList, r.mrSigner.toList,
      r.reserved3.toList, leBytes 2 r.isvProdID.toNat] _ rfl (by simp) (by simp)
  rw [hslice, leNat_leBytes_of_lt (by omega)]

end EnclaveReport

/-! ## What the verifier decides -/

/-- The 384-byte block agrees with the identity on the masked MISCSELECT and
    ATTRIBUTES, on MRSIGNER and on ISVPRODID. -/
structure MatchesIdentity (block : Bytes) (i : EnclaveIdentity) : Prop where
  miscselect : leNat (slice block 16 4) &&& leNat i.miscselectMask = leNat i.miscselect
  attributes : List.zipWith (· &&& ·) (slice block 48 16) i.attributesMask = i.attributes
  mrSigner : slice block 128 32 = i.mrSigner
  isvProdId : leNat (slice block 256 2) = i.isvProdId.toNat

/-- The level with the greatest ISV SVN that is not above that of the block, and
    with the latest date among these. -/
def SelectsIdentityLevel (block : Bytes) (i : EnclaveIdentity) (l : IdentityTcbLevel) : Prop :=
  IsFirst IdentityTcbLevel.key (fun l => l.isvSvn.toNat ≤ leNat (slice block 258 2))
    i.identityTcbLevels l

/-- `vectorToUint32` reads a little-endian integer. -/
theorem vectorToUint32_eq {bytes : Bytes} (h : bytes.length = miscselectByteLen) :
    ∃ v, vectorToUint32 bytes = .ok v ∧ v.toNat = leNat bytes := by
  match bytes, h with
  | [b0, b1, b2, b3], _ => exact ⟨_, rfl, swapBytes32_toUint32 b0 b1 b2 b3⟩

variable {i : EnclaveIdentity}

/-- The verifier compares the fields one after the other and then looks for the level. -/
theorem EnclaveReportVerifier.verify_eq (hi : i.WellFormed) (r : EnclaveReport) :
    (MatchesIdentity r.bytes i → EnclaveReportVerifier.verify i r = verifyIsvSvn i r.isvSvn) ∧
    (¬ MatchesIdentity r.bytes i → ∃ status ∈ [Status.sgxEnclaveReportMiscselectMismatch,
        .sgxEnclaveReportAttributesMismatch, .sgxEnclaveReportMrsignerMismatch,
        .sgxEnclaveReportIsvprodidMismatch], EnclaveReportVerifier.verify i r = .ok status) := by
  obtain ⟨mask, hmask, hmaskNat⟩ := vectorToUint32_eq hi.miscselectMask_length
  obtain ⟨misc, hmisc, hmiscNat⟩ := vectorToUint32_eq hi.miscselect_length
  have hmiscIff : r.miscSelect &&& mask = misc ↔
      leNat (slice r.bytes 16 4) &&& leNat i.miscselectMask = leNat i.miscselect := by
    rw [r.slice_miscSelect, ← hmaskNat, ← hmiscNat, ← UInt32.toNat_and, UInt32.toNat_inj]
  have hattributesIff : applyMask r.attributes.toList i.attributesMask = i.attributes ↔
      List.zipWith (· &&& ·) (slice r.bytes 48 16) i.attributesMask = i.attributes := by
    rw [r.slice_attributes, applyMask, if_neg]
    rw [hi.attributesMask_length, List.Vector.toList_length, not_not]
    rfl
  have hsignerIff : ¬ (i.mrSigner ≠ [] ∧ i.mrSigner ≠ r.mrSigner.toList) ↔
      slice r.bytes 128 32 = i.mrSigner := by
    have hne : i.mrSigner ≠ [] := fun h => by
      have hlen := hi.mrSigner_length
      rw [h] at hlen
      cases hlen
    rw [r.slice_mrSigner]
    constructor
    · intro h
      by_contra hsigner
      exact h ⟨hne, fun heq => hsigner heq.symm⟩
    · rintro h ⟨_, hsigner⟩
      exact hsigner h.symm
  have hprodIff : r.isvProdID.toUInt32 = i.isvProdId ↔
      leNat (slice r.bytes 256 2) = i.isvProdId.toNat := by
    rw [r.slice_isvProdID, ← UInt32.toNat_inj, UInt16.toNat_toUInt32]
  rw [EnclaveReportVerifier.verify, hmask, hmisc, ok_bind, ok_bind]
  constructor
  · intro h
    rw [if_neg (not_not.mpr (hmiscIff.mpr h.miscselect)),
      if_neg (not_not.mpr (hattributesIff.mpr h.attributes)),
      if_neg (hsignerIff.mpr h.mrSigner), if_neg (not_not.mpr (hprodIff.mpr h.isvProdId))]
  · intro h
    split_ifs with h1 h2 h3 h4
    · exact ⟨_, by simp, rfl⟩
    · exact ⟨_, by simp, rfl⟩
    · exact ⟨_, by simp, rfl⟩
    · exact ⟨_, by simp, rfl⟩
    · exact absurd ⟨hmiscIff.mp (not_not.mp h1), hattributesIff.mp (not_not.mp h2),
        hsignerIff.mp h3, hprodIff.mp (not_not.mp h4)⟩ h

/-- `printTCBStatus` is not called, so its exception is not thrown. -/
theorem EnclaveReportVerifier.verify_avoids (i : EnclaveIdentity) (r : EnclaveReport)
    (what : Bytes) : Avoids (.invalidArgument what) (EnclaveReportVerifier.verify i r) := by
  have hvector : ∀ bytes, Avoids (.invalidArgument what) (vectorToUint32 bytes) := by
    intro bytes
    unfold vectorToUint32
    split
    · exact Avoids.pure _
    · exact Avoids.throw fun h => nomatch h
  refine (hvector _).bind fun mask _ => (hvector _).bind fun misc _ => ?_
  split_ifs
  · exact Avoids.pure _
  · exact Avoids.pure _
  · exact Avoids.pure _
  · exact Avoids.pure _
  · unfold verifyIsvSvn EnclaveIdentity.getTcbLevel
    cases i.identityTcbLevels.find? _ with
    | none => exact Avoids.pure _
    | some l =>
      show Avoids _ (if _ then _ else _)
      split_ifs
      · exact Avoids.pure _
      · exact Avoids.pure _
      · exact Avoids.pure _

theorem selectsIdentityLevel_iff (hi : i.WellFormed) {r : EnclaveReport} {l : IdentityTcbLevel} :
    SelectsIdentityLevel r.bytes i l ↔ i.getTcbLevel r.isvSvn.toUInt32 = .ok l := by
  rw [EnclaveIdentity.getTcbLevel_eq_ok hi, SelectsIdentityLevel, r.slice_isvSvn]
  simp only [UInt32.le_iff_toNat_le, UInt16.toNat_toUInt32]

/-- What the search for a level leads to. -/
theorem verifyIsvSvn_eq (hi : i.WellFormed) (r : EnclaveReport) :
    ((¬ ∃ l, SelectsIdentityLevel r.bytes i l) →
      verifyIsvSvn i r.isvSvn = .ok .sgxEnclaveReportIsvsvnNotSupported) ∧
    ∀ l, SelectsIdentityLevel r.bytes i l →
      (l.tcbStatus = .upToDate → verifyIsvSvn i r.isvSvn = .ok .ok) ∧
      (l.tcbStatus = .outOfDate →
        verifyIsvSvn i r.isvSvn = .ok .sgxEnclaveReportIsvsvnOutOfDate) ∧
      (l.tcbStatus = .revoked →
        verifyIsvSvn i r.isvSvn = .ok .sgxEnclaveReportIsvsvnRevoked) := by
  refine ⟨fun h => ?_, fun l hl => ?_⟩
  · rw [verifyIsvSvn]
    cases hget : i.getTcbLevel r.isvSvn.toUInt32 with
    | ok l => exact absurd ⟨l, (selectsIdentityLevel_iff hi).mpr hget⟩ h
    | error e =>
      rw [EnclaveIdentity.getTcbLevel] at hget
      split at hget
      · cases hget
      · cases hget
        rfl
  · rw [verifyIsvSvn, (selectsIdentityLevel_iff hi).mp hl]
    refine ⟨fun h => ?_, fun h => ?_, fun h => ?_⟩
    · simp only [h, ne_eq, not_true_eq_false, if_false]
    · simp only [h]
      rfl
    · simp only [h]
      rfl

/-- The block is decoded and handed to the verifier. -/
theorem sgxAttestationVerifyEnclaveReport_eq {env : JsonEnv} {text : Bytes}
    (h : EnclaveIdentity.parse env text = .ok i) (block : ByteArr enclaveReportByteLen) :
    ∃ r : EnclaveReport, r.bytes = block.toList ∧
      sgxAttestationVerifyEnclaveReport env (some block) (some text) =
        EnclaveReportVerifier.verify i r := by
  obtain ⟨r, hr⟩ := EnclaveReport.bytes_surjective block.toList_length
  have hlen : block.toList.length = enclaveReportByteLen := block.toList_length
  have hread := (copyAndAdvance_reads_fixed EnclaveReport.insert_reads
    EnclaveReport.length_bytes).run_eq (Nat.zero_le _) (by rw [hlen]; decide)
    (show block.toList.drop 0 = r.bytes ++ [] by rw [List.drop_zero, hr, List.append_nil]) trivial
  refine ⟨r, hr, ?_⟩
  simp only [sgxAttestationVerifyEnclaveReport, hread, h]
  rw [if_neg (by rw [Nat.zero_add, hr]; exact not_not.mpr rfl)]

/-- **Enclave report verification.** On a parsed identity the API function returns
    `STATUS_OK` exactly when the block matches the identity and the selected level
    exists and is up to date; when only the level fails, the status says how. -/
theorem verifyEnclaveReport_decides {env : JsonEnv} {text : Bytes} {i : EnclaveIdentity}
    (h : EnclaveIdentity.parse env text = .ok i) (block : ByteArr enclaveReportByteLen) :
    let result := sgxAttestationVerifyEnclaveReport env (some block) (some text)
    (result = .ok .ok ↔ MatchesIdentity block.toList i ∧
      ∃ l, SelectsIdentityLevel block.toList i l ∧ l.tcbStatus = .upToDate) ∧
    (MatchesIdentity block.toList i →
      ((¬ ∃ l, SelectsIdentityLevel block.toList i l) →
        result = .ok .sgxEnclaveReportIsvsvnNotSupported) ∧
      ∀ l, SelectsIdentityLevel block.toList i l → l.tcbStatus ≠ .upToDate →
        (l.tcbStatus = .revoked ∧ result = .ok .sgxEnclaveReportIsvsvnRevoked) ∨
        (l.tcbStatus = .outOfDate ∧ result = .ok .sgxEnclaveReportIsvsvnOutOfDate)) := by
  have hi := EnclaveIdentity.parse_wellFormed h
  obtain ⟨r, hr, hresult⟩ := sgxAttestationVerifyEnclaveReport_eq h block
  obtain ⟨hmatch, hmismatch⟩ := EnclaveReportVerifier.verify_eq hi r
  obtain ⟨hnone, hlevel⟩ := verifyIsvSvn_eq hi r
  intro result
  have hdef : result = EnclaveReportVerifier.verify i r := hresult
  rw [hdef, ← hr]
  refine ⟨⟨fun hok => ?_, fun ⟨hm, l, hl, hstatus⟩ => ?_⟩, fun hm => ⟨fun hn => ?_, fun l hl hne => ?_⟩⟩
  · by_cases hm : MatchesIdentity r.bytes i
    · rw [hmatch hm] at hok
      by_cases hl : ∃ l, SelectsIdentityLevel r.bytes i l
      · obtain ⟨l, hl⟩ := hl
        obtain ⟨-, hout, hrevoked⟩ := hlevel l hl
        rcases hi.levels_status l hl.1 with h | h | h
        · exact ⟨hm, l, hl, h⟩
        · rw [hout h] at hok
          cases hok
        · rw [hrevoked h] at hok
          cases hok
      · rw [hnone hl] at hok
        cases hok
    · obtain ⟨status, hmem, hstatus⟩ := hmismatch hm
      rw [hstatus] at hok
      cases hok
      exact absurd hmem (by decide)
  · rw [hmatch hm]
    exact (hlevel l hl).1 hstatus
  · rw [hmatch hm]
    exact hnone hn
  · obtain ⟨-, hout, hrevoked⟩ := hlevel l hl
    rw [hmatch hm]
    rcases hi.levels_status l hl.1 with h | h | h
    · exact absurd h hne
    · exact Or.inr ⟨h, hout h⟩
    · exact Or.inl ⟨h, hrevoked h⟩

/-- A report of zeros with ISV SVN 3 is out of date for the sample identity. -/
theorem verifyEnclaveReport_decides_sample :
    let block := EnclaveReport.rawBlob { EnclaveReport.zero with isvSvn := 3 }
    sgxAttestationVerifyEnclaveReport sampleDocuments (some block)
        (some sampleIdentityDocument.render) = .ok .sgxEnclaveReportIsvsvnOutOfDate ∧
      ¬ (MatchesIdentity block.toList sampleQeIdentity ∧
        ∃ l, SelectsIdentityLevel block.toList sampleQeIdentity l ∧ l.tcbStatus = .upToDate) := by
  intro block
  have hout : sgxAttestationVerifyEnclaveReport sampleDocuments (some block)
      (some sampleIdentityDocument.render) = .ok .sgxEnclaveReportIsvsvnOutOfDate := by
    decide +kernel
  refine ⟨hout, fun h => ?_⟩
  have hok := (verifyEnclaveReport_decides sampleQeIdentity_parse block).1.mpr h
  rw [hout] at hok
  cases hok

end DcapQvl
