import DcapQvl.Json.Duplicates
import DcapQvl.Verify.Verdicts

/-!
# The API functions on quotes

Models of the functions of `QuoteVerification.cpp` that read a quote. A null pointer is
`none`, a C string its characters, and a buffer the memory at its address. A call
returns its status, or the exception that leaves it, together with the buffers as it
leaves them.

Results:
* `QuoteVerifier.verify_cases`: the collateral information is filled for the verdicts
  only, and then it names the verdict.
* `verifyQuoteEx_writes`: what is written to the buffer.
* `verifyQuoteEx_status`: when the buffer changes the status.
* `getQECertificationData_size`: the two calls for the certification data.
-/

namespace DcapQvl

open Lib QuoteVerifier VerificationCollateralInfo

variable {Key : Type}

/-! ## The functions -/

/-- What the library calls that is not part of it. -/
structure Platform (Key : Type) where
  json : JsonEnv
  x509 : X509Env
  crypto : Crypto Key

/-- `quote.parse(vecQuote)` and `quote.validate()` on a new object; the member without
    an initializer is never read before it is assigned. -/
def readQuote (rawQuote : Bytes) : Stage Quote :=
  match Quote.parse rawQuote (.initial 0) with
  | (quote, .ok ()) => if quote.validate then .ok quote else .error (.ok .unsupportedQuoteFormat)
  | (_, .error .rejected) => .error (.ok .unsupportedQuoteFormat)
  | (_, .error .outOfRange) => .error (.error .undefined)

/-- `TcbInfo::parse(tcbInfoJson)` with its handlers. -/
def readTcbInfo (env : JsonEnv) (tcbInfoJson : Bytes) : Stage TcbInfo :=
  match TcbInfo.parse env tcbInfoJson with
  | .ok tcbInfo => .ok tcbInfo
  | .error (.format _) => .error (.ok .unsupportedTcbInfoFormat)
  | .error (.invalidExtension _) => .error (.ok .unsupportedTcbInfoFormat)
  | .error e => .error (.error e)

/-- `EnclaveIdentity::parse(qeIdentityJson)` with its handlers, when there is a QE identity. -/
def readQeIdentity (env : JsonEnv) : Option Bytes → Stage (Option EnclaveIdentity)
  | none => .ok none
  | some qeIdentityJson =>
    match EnclaveIdentity.parse env qeIdentityJson with
    | .ok enclaveIdentity => .ok (some enclaveIdentity)
    | .error (.format _) => .error (.ok .unsupportedQeIdentityFormat)
    | .error (.invalidExtension _) => .error (.ok .unsupportedQeIdentityFormat)
    | .error (.invalidVersion _) => .error (.ok .unsupportedQeIdentityFormat)
    | .error e => .error (.error e)

/-- What is read before the certificate. -/
structure QuoteInputs where
  quote : Quote
  pckCrl : CrlStore
  tcbInfo : TcbInfo
  enclaveIdentity : Option EnclaveIdentity

def readInputs (platform : Platform Key) (rawQuote pckCrl tcbInfoJson : Bytes)
    (qeIdentityJson : Option Bytes) : Stage QuoteInputs := do
  let quote ← readQuote rawQuote
  let pckCrl ← valueOrReturn (platform.x509.readCrl pckCrl) .unsupportedPckRlFormat
  let tcbInfo ← readTcbInfo platform.json tcbInfoJson
  let enclaveIdentity ← readQeIdentity platform.json qeIdentityJson
  pure { quote, pckCrl, tcbInfo, enclaveIdentity }

/-- `memcpy(dest, src, n)`. -/
def memcpy (dest src : Bytes) (n : ℕ) : Except Exn Bytes :=
  if n ≤ dest.length ∧ n ≤ src.length then .ok (src.take n ++ dest.drop n)
  else .error .undefined

/-- The copy of the collateral information to the buffer. -/
def copyCollateral (info : VerificationCollateralInfo) (size : UInt32) :
    Option Bytes → Except Exn (Option Bytes)
  | none => .ok none
  | some memory =>
    if info.isFilled then do
      let verCollInfoVec ← info.aggregateDataAndParseToVec
      let memory ← memcpy memory verCollInfoVec
        (min size.toNat (min verCollInfoVec.length verificationCollateralInfoSizeByteLen))
      pure (some memory)
    else .ok (some memory)

/-- The handlers around the verification. -/
def catchVerification : Exn → Except Exn Status
  | .format _ => .ok .unsupportedPckCertFormat
  | .invalidExtension _ => .ok .invalidPckCert
  | .verCollInfoSize _ => .ok .invalidParameter
  | e => .error e

/-- What follows the verification. -/
def returnChecked (checked : Checked) (verificationCollateralInfo : Option Bytes)
    (verificationCollateralInfoSize : UInt32) : Except Exn Status × Option Bytes :=
  match checked with
  | (.error e, _) => (catchVerification e, verificationCollateralInfo)
  | (.ok status, info) =>
    match copyCollateral info verificationCollateralInfoSize verificationCollateralInfo with
    | .error e => (catchVerification e, verificationCollateralInfo)
    | .ok buffer => (.ok status, buffer)

/-- The certificate and the verification. -/
def verifyInputs (platform : Platform Key) (inputs : QuoteInputs) (pemPckCertificate : Bytes)
    (verificationCollateralInfo : Option Bytes) (verificationCollateralInfoSize : UInt32) :
    Except Exn Status × Option Bytes :=
  match PckCertificate.parse platform.x509 pemPckCertificate with
  | .error e => (catchVerification e.toExn, verificationCollateralInfo)
  | .ok pckCert =>
    returnChecked (QuoteVerifier.verify platform.crypto inputs.quote pckCert inputs.pckCrl
      inputs.tcbInfo inputs.enclaveIdentity .initial) verificationCollateralInfo
      verificationCollateralInfoSize

/-- The check of the buffer and its size. -/
def RejectsBuffer (buffer : Option Bytes) (size : UInt32) : Prop :=
  (buffer = none ∧ size ≠ 0) ∨
    (buffer ≠ none ∧ size.toNat < verificationCollateralInfoSizeByteLen)

instance (buffer : Option Bytes) (size : UInt32) : Decidable (RejectsBuffer buffer size) :=
  inferInstanceAs (Decidable (_ ∨ _))

/-- `sgxAttestationVerifyQuoteEx(…)`. -/
def sgxAttestationVerifyQuoteEx (platform : Platform Key)
    (rawQuote pemPckCertificate pckCrl tcbInfoJson qeIdentityJson : Option Bytes)
    (verificationCollateralInfo : Option Bytes) (verificationCollateralInfoSize : UInt32) :
    Except Exn Status × Option Bytes :=
  match rawQuote, pemPckCertificate, pckCrl, tcbInfoJson with
  | some rawQuote, some pemPckCertificate, some pckCrl, some tcbInfoJson =>
    if RejectsBuffer verificationCollateralInfo verificationCollateralInfoSize then
      (.ok .invalidParameter, verificationCollateralInfo)
    else
      match readInputs platform rawQuote pckCrl tcbInfoJson qeIdentityJson with
      | .error result => (result, verificationCollateralInfo)
      | .ok inputs => verifyInputs platform inputs pemPckCertificate verificationCollateralInfo
          verificationCollateralInfoSize
  | _, _, _, _ => (.ok .missingParameters, verificationCollateralInfo)

/-- `sgxAttestationVerifyQuote(…)`. -/
def sgxAttestationVerifyQuote (platform : Platform Key)
    (rawQuote pemPckCertificate pckCrl tcbInfoJson qeIdentityJson : Option Bytes) :
    Except Exn Status :=
  (sgxAttestationVerifyQuoteEx platform rawQuote pemPckCertificate pckCrl tcbInfoJson
    qeIdentityJson none 0).1

/-- `sgxAttestationGetQECertificationDataSize(…)`. -/
def sgxAttestationGetQECertificationDataSize (rawQuote : Option Bytes)
    (qeCertificationDataSize : Option UInt32) : Except Exn Status × Option UInt32 :=
  match rawQuote, qeCertificationDataSize with
  | some rawQuote, some _ =>
    match readQuote rawQuote with
    | .error result => (result, qeCertificationDataSize)
    | .ok quote => (.ok .ok, some quote.certificationData.parsedDataSize)
  | _, _ => (.ok .missingParameters, qeCertificationDataSize)

/-- `sgxAttestationGetQECertificationData(…)`; `std::copy` writes as many bytes as are stored. -/
def sgxAttestationGetQECertificationData (rawQuote : Option Bytes)
    (qeCertificationDataSize : UInt32) (qeCertificationData : Option Bytes)
    (qeCertificationDataType : Option UInt16) :
    Except Exn Status × Option Bytes × Option UInt16 :=
  match rawQuote, qeCertificationData, qeCertificationDataType with
  | some rawQuote, some memory, some _ =>
    match readQuote rawQuote with
    | .error result => (result, qeCertificationData, qeCertificationDataType)
    | .ok quote =>
      let quoteCertificationData := quote.certificationData
      if qeCertificationDataSize ≠ quoteCertificationData.parsedDataSize then
        (.ok .invalidQeCertificationDataSize, qeCertificationData, qeCertificationDataType)
      else
        match memcpy memory quoteCertificationData.data quoteCertificationData.data.length with
        | .error e => (.error e, qeCertificationData, some quoteCertificationData.type)
        | .ok memory => (.ok .ok, some memory, some quoteCertificationData.type)
  | _, _, _ => (.ok .missingParameters, qeCertificationData, qeCertificationDataType)

/-! ## The record of a verdict -/

section Record

variable {info : VerificationCollateralInfo} {tcbInfo : TcbInfo} {launch current : TcbEvaluation}
  {launchName currentName : Bytes}

theorem recorded_hasDates :
    ∃ dates, (info.recorded tcbInfo launch current launchName currentName).HasDates dates := by
  have hcons {T : Type} (xs : List T) (x : T) : ∃ y ys, xs ++ [x] = y :: ys :=
    List.exists_cons_of_ne_nil (by simp)
  obtain ⟨issueDate, issueDates, hissue⟩ := hcons info.issueDates tcbInfo.issueDate
  obtain ⟨nextUpdate, nextUpdates, hnext⟩ := hcons info.nextUpdates tcbInfo.nextUpdate
  obtain ⟨number, numbers, hnumbers⟩ :=
    hcons info.tcbEvalNumbers tcbInfo.tcbEvaluationDataNumber
  exact ⟨⟨_, _, _, _⟩, issueDate, issueDates, nextUpdate, nextUpdates, number, numbers, hissue,
    hnext, hnumbers, rfl, rfl, rfl, rfl⟩

theorem recorded_isFilled :
    (info.recorded tcbInfo launch current launchName currentName).isFilled = true := rfl

theorem tcbString_length : ∀ p ∈ statusToTcbStringMap,
    p.2.length < verificationCollateralInfoTcbStatusByteLen := by
  decide +kernel

/-- The advisories of both evaluations fit their fields. -/
def VerificationCollateralInfo.RecordFits (info : VerificationCollateralInfo) : Prop :=
  AdvisoriesFit info.launchAdvisoryIds ∧ AdvisoriesFit info.currentAdvisoryIds

instance : Decidable info.RecordFits := inferInstanceAs (Decidable (_ ∧ _))

/-- A buffer that the function accepts. -/
def ValidBuffer (memory : Bytes) (size : UInt32) : Prop :=
  verificationCollateralInfoSizeByteLen ≤ size.toNat ∧ size.toNat ≤ memory.length

theorem memcpy_eq {memory src : Bytes} {n : ℕ} (hdest : n ≤ memory.length)
    (hsrc : src.length = n) : memcpy memory src n = .ok (src ++ memory.drop n) := by
  rw [memcpy, if_pos ⟨hdest, hsrc.ge⟩, List.take_of_length_le hsrc.le]

theorem copyCollateral_of_not_filled {memory : Bytes} {size : UInt32}
    (h : info.isFilled = false) : copyCollateral info size (some memory) = .ok (some memory) := by
  unfold copyCollateral
  rw [h]
  rfl

theorem copyCollateral_of_filled {memory : Bytes} {size : UInt32} (h : info.isFilled = true) :
    copyCollateral info size (some memory) = (do
      let verCollInfoVec ← info.aggregateDataAndParseToVec
      let memory ← memcpy memory verCollInfoVec
        (min size.toNat (min verCollInfoVec.length verificationCollateralInfoSizeByteLen))
      pure (some memory)) := by
  unfold copyCollateral
  simp only
  rw [if_pos h]

/-- A record that fits is written to the beginning of the buffer. -/
theorem copyCollateral_recorded (hlaunch : (launch.tcbStatus, launchName) ∈ statusToTcbStringMap)
    (hcurrent : (current.tcbStatus, currentName) ∈ statusToTcbStringMap)
    (hfits : (info.recorded tcbInfo launch current launchName currentName).RecordFits) :
    ∃ record : Bytes, record.length = verificationCollateralInfoSizeByteLen ∧
      fieldAt launchTcbStatusOffset verificationCollateralInfoTcbStatusByteLen record =
        padded verificationCollateralInfoTcbStatusByteLen launchName ∧
      ∀ memory size, ValidBuffer memory size →
        copyCollateral (info.recorded tcbInfo launch current launchName currentName) size
          (some memory) =
        .ok (some (record ++ memory.drop verificationCollateralInfoSizeByteLen)) := by
  obtain ⟨dates, hdates⟩ := @recorded_hasDates info tcbInfo launch current launchName currentName
  obtain ⟨record, hrecord, hlength, hname⟩ := aggregateDataAndParseToVec_eq_ok hdates
    (tcbString_length _ hlaunch) (tcbString_length _ hcurrent) hfits.1 hfits.2
  refine ⟨record, hlength, hname, fun memory size hbuffer => ?_⟩
  have hmin : min size.toNat (min record.length verificationCollateralInfoSizeByteLen) =
      verificationCollateralInfoSizeByteLen := by
    rw [hlength, min_self]
    exact min_eq_right hbuffer.1
  rw [copyCollateral_of_filled recorded_isFilled, hrecord, ok_bind, hmin, memcpy_eq (hbuffer.1.trans hbuffer.2) hlength]
  rfl

/-- Advisories that do not fit are reported before anything is written. -/
theorem copyCollateral_not_fits
    (hfits : ¬ (info.recorded tcbInfo launch current launchName currentName).RecordFits) :
    ∃ what, ∀ memory size,
      copyCollateral (info.recorded tcbInfo launch current launchName currentName) size
        (some memory) = .error (.verCollInfoSize what) := by
  obtain ⟨dates, hdates⟩ := @recorded_hasDates info tcbInfo launch current launchName currentName
  obtain ⟨what, hwhat⟩ := aggregateDataAndParseToVec_eq_error hdates hfits
  refine ⟨what, fun memory size => ?_⟩
  rw [copyCollateral_of_filled recorded_isFilled, hwhat]
  rfl

end Record

/-! ## What a call writes -/

/-- The result is a TCB verdict. -/
def IsVerdict (result : Except Exn Status) : Prop := ∃ s, result = .ok s ∧ s.IsTcbVerdict

/-- With any valid buffer the call returns `result`. When that is a verdict, then exactly
    the first 1048 bytes are overwritten, by `record` with the name of the verdict; else
    the buffer stays as it is. -/
structure Writes (call : Bytes → UInt32 → Except Exn Status × Option Bytes)
    (result : Except Exn Status) (record : Bytes) : Prop where
  record_length : record.length = verificationCollateralInfoSizeByteLen
  launchTcbStatus : ∀ s, result = .ok s → s.IsTcbVerdict →
    ∃ name, (s, name) ∈ statusToTcbStringMap ∧
      fieldAt launchTcbStatusOffset verificationCollateralInfoTcbStatusByteLen record =
        padded verificationCollateralInfoTcbStatusByteLen name
  verdict : IsVerdict result → ∀ memory size, ValidBuffer memory size →
    call memory size =
      (result, some (record ++ memory.drop verificationCollateralInfoSizeByteLen))
  other : ¬ IsVerdict result → ∀ memory size, ValidBuffer memory size →
    call memory size = (result, some memory)
  not_invalidArgument : ∀ what, result ≠ .error (.invalidArgument what)

section Calls

variable {call : Bytes → UInt32 → Except Exn Status × Option Bytes}

/-- A call that returns no verdict and leaves the buffer alone. -/
theorem Writes.nothing {result : Except Exn Status} (hverdict : ¬ IsVerdict result)
    (hargument : ∀ what, result ≠ .error (.invalidArgument what))
    (h : ∀ memory size, ValidBuffer memory size → call memory size = (result, some memory)) :
    ∃ result record, Writes call result record :=
  ⟨result, List.replicate verificationCollateralInfoSizeByteLen 0, List.length_replicate,
    fun s hs hv => absurd ⟨s, hs, hv⟩ hverdict, fun hv => absurd hv hverdict, fun _ => h,
    hargument⟩

theorem not_isVerdict_ok {s : Status} (h : ¬ s.IsTcbVerdict) : ¬ IsVerdict (.ok s) := by
  rintro ⟨_, hs, hverdict⟩
  cases hs
  exact h hverdict

theorem not_isVerdict_error {e : Exn} : ¬ IsVerdict (.error e) := by
  rintro ⟨_, hs, _⟩
  cases hs

theorem catchVerification_not_verdict (e : Exn) : ¬ IsVerdict (catchVerification e) := by
  cases e
  case format => exact not_isVerdict_ok (by decide)
  case invalidExtension => exact not_isVerdict_ok (by decide)
  case verCollInfoSize => exact not_isVerdict_ok (by decide)
  all_goals exact not_isVerdict_error

theorem catchVerification_not_invalidArgument {e : Exn} (h : ∀ what, e ≠ .invalidArgument what)
    (what : Bytes) : catchVerification e ≠ .error (.invalidArgument what) := by
  intro he
  cases e
  case invalidArgument what => exact h what rfl
  all_goals cases he

/-- What is written once the inputs are read. -/
theorem verifyInputs_writes (platform : Platform Key) (inputs : QuoteInputs)
    (pemPckCertificate : Bytes) : ∃ result record, Writes
      (fun memory size => verifyInputs platform inputs pemPckCertificate (some memory) size)
      result record := by
  unfold verifyInputs
  cases PckCertificate.parse platform.x509 pemPckCertificate with
  | error e =>
    refine Writes.nothing (catchVerification_not_verdict e.toExn) ?_ fun _ _ _ => rfl
    refine catchVerification_not_invalidArgument fun what h => ?_
    cases e with
    | format what => cases h
    | invalidExtension what => cases h
  | ok pckCert =>
    simp only
    rcases verify_cases platform.crypto inputs.quote pckCert inputs.pckCrl inputs.tcbInfo
      inputs.enclaveIdentity (show VerificationCollateralInfo.initial.isFilled = false from rfl)
      with ⟨launch, current, launchName, currentName, hlaunch, hcurrent, hverify⟩ |
      ⟨hfilled, hverdict, hargument⟩
    · rw [hverify]
      unfold returnChecked
      by_cases hfits : ((withIdentityData .initial inputs.enclaveIdentity).recorded inputs.tcbInfo
          launch current launchName currentName).RecordFits
      · obtain ⟨record, hlength, hname, hcopy⟩ := copyCollateral_recorded hlaunch hcurrent hfits
        have hverdict : launch.tcbStatus.IsTcbVerdict :=
          List.mem_map.mpr ⟨_, hlaunch, rfl⟩
        refine ⟨.ok launch.tcbStatus, record, hlength, fun s hs _ => ?_,
          fun _ memory size hbuffer => ?_, fun hnot => absurd ⟨_, rfl, hverdict⟩ hnot,
          fun what h => nomatch h⟩
        · cases hs
          exact ⟨launchName, hlaunch, hname⟩
        · simp only [hcopy memory size hbuffer]
      · obtain ⟨what, hcopy⟩ := copyCollateral_not_fits hfits
        refine Writes.nothing (@not_isVerdict_ok .invalidParameter (by decide))
          (fun what h => nomatch h) fun memory size _ => ?_
        simp only [hcopy memory size]
        rfl
    · generalize QuoteVerifier.verify platform.crypto inputs.quote pckCert inputs.pckCrl
        inputs.tcbInfo inputs.enclaveIdentity .initial = checked at hfilled hverdict hargument ⊢
      obtain ⟨result, info⟩ := checked
      unfold returnChecked
      cases result with
      | error e =>
        refine Writes.nothing (catchVerification_not_verdict e)
          (catchVerification_not_invalidArgument fun what h => hargument what (by rw [h]))
          fun _ _ _ => rfl
      | ok status =>
        refine Writes.nothing (not_isVerdict_ok (hverdict status rfl)) (fun what h => nomatch h)
          fun memory size _ => ?_
        simp only [copyCollateral_of_not_filled hfilled]

theorem readQuote_avoids {r : Except Exn Status} (hr : NotEarly r) {rawQuote : Bytes} :
    Avoids r (readQuote rawQuote) := by
  unfold readQuote
  split
  · split_ifs
    · exact Avoids.pure _
    · exact Avoids.throw (hr.ne (by decide))
  · exact Avoids.throw (hr.ne (by decide))
  · refine Avoids.throw fun h => ?_
    rw [← h] at hr
    cases hr

/-- Reading the inputs returns no verdict and does not print one. -/
theorem readInputs_avoids {r : Except Exn Status} (hr : NotEarly r) (platform : Platform Key)
    (rawQuote pckCrl tcbInfoJson : Bytes) (qeIdentityJson : Option Bytes) :
    Avoids r (readInputs platform rawQuote pckCrl tcbInfoJson qeIdentityJson) := by
  have hfield (what : Bytes) : (Exn.invalidArgument what).NotOfField := fun c h => nomatch h
  have hthrown {e : Exn} {α : Type} {x : Except Exn α} (hx : x = .error e)
      (havoids : ∀ what, Avoids (.invalidArgument what) x) :
      Avoids r (.error (.error e) : Stage α) := by
    refine Avoids.throw fun h => ?_
    rw [← h] at hr
    cases hr with
    | invalidArgument what => exact havoids what hx
  have htcbInfo : Avoids r (readTcbInfo platform.json tcbInfoJson) := by
    unfold readTcbInfo
    split
    · exact Avoids.pure _
    · exact Avoids.throw (hr.ne (by decide))
    · exact Avoids.throw (hr.ne (by decide))
    · rename_i he
      exact hthrown he fun what => TcbInfo.parse_avoids (hfield what) (fun h => nomatch h)
        (fun h => nomatch h) _ _
  have hidentity : Avoids r (readQeIdentity platform.json qeIdentityJson) := by
    unfold readQeIdentity
    split
    · exact Avoids.pure _
    · split
      · exact Avoids.pure _
      · exact Avoids.throw (hr.ne (by decide))
      · exact Avoids.throw (hr.ne (by decide))
      · exact Avoids.throw (hr.ne (by decide))
      · rename_i he
        intro h
        cases h
        cases hr with
        | invalidArgument what =>
          exact EnclaveIdentity.parse_avoids (hfield what) (fun h => nomatch h) _ _ he
  exact (readQuote_avoids hr).bind fun _ _ => (valueOrReturn_avoids hr (by decide)).bind fun _ _ =>
    htcbInfo.bind fun _ _ => hidentity.bind fun _ _ => Avoids.pure _

end Calls

theorem not_rejectsBuffer_none : ¬ RejectsBuffer none 0 := by
  rintro (⟨_, h⟩ | ⟨h, _⟩)
  · exact h rfl
  · exact h rfl

theorem ValidBuffer.not_rejects {memory : Bytes} {size : UInt32} (h : ValidBuffer memory size) :
    ¬ RejectsBuffer (some memory) size := by
  rintro (⟨hnone, _⟩ | ⟨_, hlt⟩)
  · cases hnone
  · exact absurd h.1 (not_le.mpr hlt)

/-- **What is written to the buffer.** A verdict comes with the first 1048 bytes of the
    buffer, which name it; anything else leaves the buffer as it was. The exception of
    `printTCBStatus` does not leave the function. -/
theorem verifyQuoteEx_writes (platform : Platform Key)
    (rawQuote pemPckCertificate pckCrl tcbInfoJson qeIdentityJson : Option Bytes) :
    ∃ result record, Writes (fun memory size => sgxAttestationVerifyQuoteEx platform rawQuote
      pemPckCertificate pckCrl tcbInfoJson qeIdentityJson (some memory) size) result record := by
  unfold sgxAttestationVerifyQuoteEx
  split
  · rename_i rawQuote pemPckCertificate pckCrl tcbInfoJson
    cases hinputs : readInputs platform rawQuote pckCrl tcbInfoJson qeIdentityJson with
    | error result =>
      have havoids {r : Except Exn Status} (hr : NotEarly r) : result ≠ r := by
        rintro rfl
        exact readInputs_avoids hr _ _ _ _ _ hinputs
      refine Writes.nothing ?_ (fun what => havoids (.invalidArgument what)) fun memory size h => ?_
      · rintro ⟨s, hs, hverdict⟩
        exact havoids (.status (Or.inl hverdict)) hs
      · rw [if_neg h.not_rejects]
    | ok inputs =>
      obtain ⟨result, record, hwrites⟩ := verifyInputs_writes platform inputs pemPckCertificate
      refine ⟨result, record, hwrites.record_length, hwrites.launchTcbStatus,
        fun hverdict memory size h => ?_, fun hverdict memory size h => ?_,
        hwrites.not_invalidArgument⟩
      · rw [if_neg h.not_rejects]
        exact hwrites.verdict hverdict memory size h
      · rw [if_neg h.not_rejects]
        exact hwrites.other hverdict memory size h
  · exact Writes.nothing (not_isVerdict_ok (by decide)) (fun what h => nomatch h)
      fun _ _ _ => rfl

/-! ## Asking for the collateral information -/

/-- The collateral information of a call, when it is filled. -/
def filledCollateral (platform : Platform Key)
    (rawQuote pemPckCertificate pckCrl tcbInfoJson qeIdentityJson : Option Bytes) :
    Option VerificationCollateralInfo := do
  let inputs ← (readInputs platform (← rawQuote) (← pckCrl) (← tcbInfoJson) qeIdentityJson).toOption
  let pckCert ← (PckCertificate.parse platform.x509 (← pemPckCertificate)).toOption
  let checked := QuoteVerifier.verify platform.crypto inputs.quote pckCert inputs.pckCrl
    inputs.tcbInfo inputs.enclaveIdentity .initial
  if checked.2.isFilled then some checked.2 else none

/-- The statuses with and without a buffer, once the inputs are read. -/
theorem returnChecked_status (platform : Platform Key) (inputs : QuoteInputs)
    (pckCert : PckCertificate) {memory : Bytes} {size : UInt32} (hbuffer : ValidBuffer memory size) :
    let checked := QuoteVerifier.verify platform.crypto inputs.quote pckCert inputs.pckCrl
      inputs.tcbInfo inputs.enclaveIdentity .initial
    let plain := (returnChecked checked none 0).1
    let full := returnChecked checked (some memory) size
    ((checked.2.isFilled = true → checked.2.RecordFits) → full.1 = plain) ∧
    (checked.2.isFilled = true → ¬ checked.2.RecordFits →
      IsVerdict plain ∧ full = (.ok .invalidParameter, some memory)) := by
  intro checked plain full
  rcases verify_cases platform.crypto inputs.quote pckCert inputs.pckCrl inputs.tcbInfo
    inputs.enclaveIdentity (show VerificationCollateralInfo.initial.isFilled = false from rfl)
    with ⟨launch, current, launchName, currentName, hlaunch, hcurrent, hverify⟩ |
    ⟨hfilled, hverdict, hargument⟩
  · have hchecked : checked = _ := hverify
    have hplain : plain = .ok launch.tcbStatus := by
      show (returnChecked checked none 0).1 = _
      rw [hchecked]
      rfl
    have hfull : full = returnChecked checked (some memory) size := rfl
    rw [hchecked] at hfull ⊢
    rw [hfull, hplain]
    unfold returnChecked
    refine ⟨fun hfits => ?_, fun _ hfits => ?_⟩
    · obtain ⟨record, _, _, hcopy⟩ := copyCollateral_recorded hlaunch hcurrent
        (hfits recorded_isFilled)
      simp only [hcopy memory size hbuffer]
    · obtain ⟨what, hcopy⟩ := copyCollateral_not_fits hfits
      refine ⟨⟨_, rfl, List.mem_map.mpr ⟨_, hlaunch, rfl⟩⟩, ?_⟩
      simp only [hcopy memory size]
      rfl
  · have hfilled : checked.2.isFilled = false := hfilled
    refine ⟨fun _ => ?_, fun h => absurd (hfilled.symm.trans h) Bool.false_ne_true⟩
    have hplain : plain = (returnChecked checked none 0).1 := rfl
    have hfull : full = returnChecked checked (some memory) size := rfl
    rw [hplain, hfull]
    obtain ⟨result, info⟩ := checked
    unfold returnChecked
    cases result with
    | error e => rfl
    | ok status =>
      simp only [copyCollateral_of_not_filled hfilled]
      rfl

/-- A call with a buffer that is not rejected ends before the verification, or returns
    what the verification leads to. -/
theorem verifyQuoteEx_cases (platform : Platform Key)
    (rawQuote pemPckCertificate pckCrl tcbInfoJson qeIdentityJson : Option Bytes) :
    let call := sgxAttestationVerifyQuoteEx platform rawQuote pemPckCertificate pckCrl tcbInfoJson
      qeIdentityJson
    let filled := filledCollateral platform rawQuote pemPckCertificate pckCrl tcbInfoJson
      qeIdentityJson
    (filled = none ∧ ∃ result, ∀ buffer size, ¬ RejectsBuffer buffer size →
      call buffer size = (result, buffer)) ∨
    (∃ (inputs : QuoteInputs) (pckCert : PckCertificate),
      let checked := QuoteVerifier.verify platform.crypto inputs.quote pckCert inputs.pckCrl
        inputs.tcbInfo inputs.enclaveIdentity .initial
      filled = (if checked.2.isFilled then some checked.2 else none) ∧
      ∀ buffer size, ¬ RejectsBuffer buffer size →
        call buffer size = returnChecked checked buffer size) := by
  unfold sgxAttestationVerifyQuoteEx filledCollateral
  split
  · rename_i rawQuote pemPckCertificate pckCrl tcbInfoJson
    cases hinputs : readInputs platform rawQuote pckCrl tcbInfoJson qeIdentityJson with
    | error result =>
      refine Or.inl ⟨?_, result, fun buffer size h => if_neg h⟩
      simp [hinputs, Except.toOption]
    | ok inputs =>
      cases hcert : PckCertificate.parse platform.x509 pemPckCertificate with
      | error e =>
        refine Or.inl ⟨?_, catchVerification e.toExn, fun buffer size h => ?_⟩
        · simp [hcert, Except.toOption]
        · refine (if_neg h).trans ?_
          unfold verifyInputs
          rw [hcert]
      | ok pckCert =>
        refine Or.inr ⟨inputs, pckCert, ?_, fun buffer size h => ?_⟩
        · simp [hinputs, hcert, Except.toOption]
        · refine (if_neg h).trans ?_
          unfold verifyInputs
          rw [hcert]
  · rename_i hmissing
    refine Or.inl ⟨?_, .ok .missingParameters, fun _ _ _ => rfl⟩
    cases rawQuote with
    | none => rfl
    | some rawQuote =>
    cases pckCrl with
    | none => rfl
    | some pckCrl =>
    cases tcbInfoJson with
    | none => rfl
    | some tcbInfoJson =>
    cases pemPckCertificate with
    | none =>
      cases readInputs platform rawQuote pckCrl tcbInfoJson qeIdentityJson with
      | error e => simp [Except.toOption]
      | ok inputs => simp [Except.toOption]
    | some pemPckCertificate => exact absurd rfl (hmissing _ _ _ _ rfl rfl rfl)

/-- **The buffer and the status.** Asking for the collateral information leaves the
    status as it is, unless the advisories of an evaluation do not fit their field;
    then the verdict gives way to `STATUS_INVALID_PARAMETER`. -/
theorem verifyQuoteEx_status (platform : Platform Key)
    (rawQuote pemPckCertificate pckCrl tcbInfoJson qeIdentityJson : Option Bytes)
    {memory : Bytes} {size : UInt32} (hbuffer : ValidBuffer memory size) :
    let plain := sgxAttestationVerifyQuote platform rawQuote pemPckCertificate pckCrl tcbInfoJson
      qeIdentityJson
    let full := sgxAttestationVerifyQuoteEx platform rawQuote pemPckCertificate pckCrl tcbInfoJson
      qeIdentityJson (some memory) size
    let filled := filledCollateral platform rawQuote pemPckCertificate pckCrl tcbInfoJson
      qeIdentityJson
    ((∀ info ∈ filled, info.RecordFits) → full.1 = plain) ∧
    (∀ info ∈ filled, ¬ info.RecordFits →
      IsVerdict plain ∧ full = (.ok .invalidParameter, some memory)) := by
  intro plain full filled
  rcases verifyQuoteEx_cases platform rawQuote pemPckCertificate pckCrl tcbInfoJson qeIdentityJson
    with ⟨hfilled, result, hcall⟩ | ⟨inputs, pckCert, hfilled, hcall⟩
  · have hplain : plain = result := congrArg Prod.fst (hcall none 0 not_rejectsBuffer_none)
    have hfull : full = (result, some memory) := hcall (some memory) size hbuffer.not_rejects
    have hnone : filled = none := hfilled
    rw [hplain, hfull, hnone]
    exact ⟨fun _ => rfl, fun info h => nomatch h⟩
  · obtain ⟨hsame, hreport⟩ := returnChecked_status platform inputs pckCert hbuffer
    have hplain : plain = _ := congrArg Prod.fst (hcall none 0 not_rejectsBuffer_none)
    have hfull : full = _ := hcall (some memory) size hbuffer.not_rejects
    have hsome : filled = _ := hfilled
    rw [hplain, hfull, hsome]
    refine ⟨fun h => hsame fun hisFilled => h _ (by rw [if_pos hisFilled]; rfl),
      fun info h hfits => ?_⟩
    split_ifs at h with hisFilled
    · cases h
      exact hreport hisFilled hfits
    · cases h

theorem readQuote_eq_ok {rawQuote : Bytes} {quote : Quote} :
    readQuote rawQuote = .ok quote ↔ Accepts rawQuote (.initial 0) quote := by
  unfold readQuote Accepts
  constructor
  · intro h
    split at h
    · rename_i hparse
      split_ifs at h with hvalid
      cases h
      exact ⟨hparse, hvalid⟩
    · cases h
    · cases h
  · rintro ⟨hparse, hvalid⟩
    rw [hparse]
    exact if_pos hvalid

/-- A platform that reads the sample certificate and some documents. -/
def samplePlatform (documents : List Json) : Platform Unit :=
  { json := sampleEnv documents, x509 := sampleX509 1 1 sampleCrl, crypto := sampleCrypto }

/-- An advisory of 450 bytes, one more than fits. -/
def sampleLongAdvisory : Bytes := List.replicate 450 65

def sampleLongDocument : Json := sampleTcbInfo
  [sampleLevel 1 (str "UpToDate") [sampleLongAdvisory]] [sampleIsvLevel 2 (str "UpToDate") []]

def sampleLongInfo : TcbInfo :=
  { sampleInfo with
    infoBody := ((sampleLongDocument.member? (str "tcbInfo")).map Json.render).getD []
    tcbLevels := [sampleParsedLevel 1 (str "UpToDate") [sampleLongAdvisory]] }

/-- The platform that reads it, and what is read of a call with the sample quote. -/
def sampleLongPlatform : Platform Unit := samplePlatform [sampleLongDocument, sampleIdentityDocument]

def sampleLongInputs : QuoteInputs :=
  { quote := QuoteLayout.sampleUpToDate.quote, pckCrl := sampleCrl, tcbInfo := sampleLongInfo
    enclaveIdentity := some sampleQeIdentity }

theorem sampleLong_readInputs : readInputs sampleLongPlatform QuoteLayout.sampleUpToDate.bytes []
    sampleLongDocument.render (some sampleIdentityDocument.render) = .ok sampleLongInputs := by
  have hquote : readQuote QuoteLayout.sampleUpToDate.bytes =
      .ok QuoteLayout.sampleUpToDate.quote :=
    readQuote_eq_ok.mpr (accepts_layout _ (by decide +kernel) _)
  have htcbInfo : readTcbInfo sampleLongPlatform.json sampleLongDocument.render =
      .ok sampleLongInfo := by
    decide +kernel
  have hidentity : readQeIdentity sampleLongPlatform.json (some sampleIdentityDocument.render) =
      .ok (some sampleQeIdentity) := by
    decide +kernel
  exact bind_eq_ok.mpr ⟨_, hquote, bind_eq_ok.mpr ⟨sampleCrl, rfl, bind_eq_ok.mpr ⟨_, htcbInfo,
    bind_eq_ok.mpr ⟨_, hidentity, rfl⟩⟩⟩⟩

/-- With an advisory that does not fit, the verdict `STATUS_OK` is not returned to a
    caller with a buffer. -/
theorem verifyQuoteEx_status_changes :
    sgxAttestationVerifyQuote sampleLongPlatform (some QuoteLayout.sampleUpToDate.bytes) (some [])
      (some []) (some sampleLongDocument.render) (some sampleIdentityDocument.render) =
        .ok .ok ∧
    ValidBuffer (List.replicate verificationCollateralInfoSizeByteLen 0) 1048 ∧
    sgxAttestationVerifyQuoteEx sampleLongPlatform (some QuoteLayout.sampleUpToDate.bytes) (some [])
      (some []) (some sampleLongDocument.render) (some sampleIdentityDocument.render)
      (some (List.replicate verificationCollateralInfoSizeByteLen 0)) 1048 =
        (.ok .invalidParameter,
          some (List.replicate verificationCollateralInfoSizeByteLen 0)) := by
  have hbuffer : ValidBuffer (List.replicate verificationCollateralInfoSizeByteLen 0) 1048 :=
    ⟨by decide, by decide +kernel⟩
  unfold sgxAttestationVerifyQuote sgxAttestationVerifyQuoteEx
  simp only [sampleLong_readInputs]
  refine ⟨?_, hbuffer, ?_⟩
  · rw [if_neg not_rejectsBuffer_none]
    decide +kernel
  · rw [if_neg hbuffer.not_rejects]
    decide +kernel

/-- The call keeps its buffer, and the advisories are the reason. -/
theorem verifyQuoteEx_status_sample :
    let memory : Bytes := List.replicate verificationCollateralInfoSizeByteLen 0
    IsVerdict (sgxAttestationVerifyQuote sampleLongPlatform
        (some QuoteLayout.sampleUpToDate.bytes) (some []) (some [])
        (some sampleLongDocument.render) (some sampleIdentityDocument.render)) ∧
      sgxAttestationVerifyQuoteEx sampleLongPlatform (some QuoteLayout.sampleUpToDate.bytes)
        (some []) (some []) (some sampleLongDocument.render)
        (some sampleIdentityDocument.render) (some memory) 1048 =
          (.ok .invalidParameter, some memory) := by
  intro memory
  have hbuffer : ValidBuffer memory 1048 := ⟨by decide, by decide +kernel⟩
  have hfilled : (filledCollateral sampleLongPlatform (some QuoteLayout.sampleUpToDate.bytes)
      (some []) (some []) (some sampleLongDocument.render)
      (some sampleIdentityDocument.render)).any (fun info => ¬ info.RecordFits) = true := by
    unfold filledCollateral
    simp only [Option.bind_eq_bind, Option.bind_some, sampleLong_readInputs]
    decide +kernel
  obtain ⟨info, hinfo, hfits⟩ := (Option.any_eq_true _ _).mp hfilled
  exact (verifyQuoteEx_status sampleLongPlatform _ _ _ _ _ hbuffer).2 info hinfo
    (of_decide_eq_true hfits)

/-! ## The certification data -/

section CertificationData

variable {raw : Bytes} {quote : Quote}

/-- The certification data that an accepted quote records are those of its layout. -/
theorem Accepts.certificationData (hsmall : raw.length < 2 ^ 32) {q : Quote}
    (h : Accepts raw q quote) :
    ∃ l : QuoteLayout, raw = l.bytes ∧ quote.certificationData.data = l.qe.certData ∧
      quote.certificationData.type = l.qe.certType ∧
      quote.certificationData.parsedDataSize.toNat = l.qe.certData.length := by
  obtain ⟨l, rfl, rfl⟩ := h.exists_layout hsmall
  refine ⟨l, rfl, rfl, rfl, ?_⟩
  show (UInt32.ofNat l.qe.certData.length).toNat = l.qe.certData.length
  rw [UInt32.toNat_ofNat', Nat.mod_eq_of_lt l.qe.certData_lt]

/-- The declared size is the number of stored bytes. -/
theorem Accepts.verifyCertificationData (hsmall : raw.length < 2 ^ 32) {q : Quote}
    (h : Accepts raw q quote) :
    quote.certificationData.parsedDataSize.toNat = quote.certificationData.data.length ∧
      QuoteVerifier.verifyCertificationData quote.certificationData = .ok := by
  obtain ⟨l, -, hdata, -, hsize⟩ := h.certificationData hsmall
  have heq : quote.certificationData.parsedDataSize.toNat =
      quote.certificationData.data.length := by
    rw [hsize, hdata]
  refine ⟨heq, ?_⟩
  unfold QuoteVerifier.verifyCertificationData
  rw [if_neg (not_not.mpr heq)]

theorem getQECertificationDataSize_of_accepts (h : Accepts raw (.initial 0) quote) (old : UInt32) :
    sgxAttestationGetQECertificationDataSize (some raw) (some old) =
      (.ok .ok, some quote.certificationData.parsedDataSize) := by
  unfold sgxAttestationGetQECertificationDataSize
  simp only [readQuote_eq_ok.mpr h]

/-- The size is returned for accepted quotes only. -/
theorem getQECertificationDataSize_eq_ok {old n : UInt32} :
    sgxAttestationGetQECertificationDataSize (some raw) (some old) = (.ok .ok, some n) ↔
      ∃ quote, Accepts raw (.initial 0) quote ∧ n = quote.certificationData.parsedDataSize := by
  constructor
  · intro h
    cases hquote : readQuote raw with
    | error result =>
      unfold sgxAttestationGetQECertificationDataSize at h
      simp only [hquote] at h
      have hresult : result = .ok .ok := congrArg Prod.fst h
      rw [hresult] at hquote
      exact absurd hquote (readQuote_avoids (.status (by decide)))
    | ok quote =>
      have haccepts := readQuote_eq_ok.mp hquote
      rw [getQECertificationDataSize_of_accepts haccepts] at h
      cases h
      exact ⟨quote, haccepts, rfl⟩
  · rintro ⟨quote, haccepts, rfl⟩
    exact getQECertificationDataSize_of_accepts haccepts old

theorem getQECertificationData_of_size (hsmall : raw.length < 2 ^ 32)
    (h : Accepts raw (.initial 0) quote) {memory : Bytes} (type : UInt16)
    (hmemory : quote.certificationData.parsedDataSize.toNat ≤ memory.length) :
    sgxAttestationGetQECertificationData (some raw) quote.certificationData.parsedDataSize
        (some memory) (some type) =
      (.ok .ok, some (quote.certificationData.data ++
        memory.drop quote.certificationData.parsedDataSize.toNat),
        some quote.certificationData.type) := by
  obtain ⟨hsize, -⟩ := h.verifyCertificationData hsmall
  rw [hsize] at hmemory ⊢
  unfold sgxAttestationGetQECertificationData
  simp only [readQuote_eq_ok.mpr h, ne_eq, not_true_eq_false, if_false, memcpy_eq hmemory rfl]

theorem getQECertificationData_of_ne (h : Accepts raw (.initial 0) quote) {n : UInt32}
    (hn : n ≠ quote.certificationData.parsedDataSize) (memory : Bytes) (type : UInt16) :
    sgxAttestationGetQECertificationData (some raw) n (some memory) (some type) =
      (.ok .invalidQeCertificationDataSize, some memory, some type) := by
  unfold sgxAttestationGetQECertificationData
  simp only [readQuote_eq_ok.mpr h]
  rw [if_pos hn]

/-- A call for `n` bytes copies the certification data of the quote, which are `n` bytes
    of a type from 1 to 5. -/
structure CopiesCertificationData (raw : Bytes) (quote : Quote) (n : UInt32) : Prop where
  accepts : Accepts raw (.initial 0) quote
  layout : ∃ l : QuoteLayout, raw = l.bytes ∧ quote.certificationData.data = l.qe.certData
  length : quote.certificationData.data.length = n.toNat
  type_mem : 1 ≤ quote.certificationData.type.toNat ∧ quote.certificationData.type.toNat ≤ 5
  call : ∀ memory type, n.toNat ≤ memory.length →
    sgxAttestationGetQECertificationData (some raw) n (some memory) (some type) =
      (.ok .ok, some (quote.certificationData.data ++ memory.drop n.toNat),
        some quote.certificationData.type)

/-- **The certification data in two calls.** The first call returns the size `n` exactly
    when the quote is accepted and the second call with `n` copies its certification
    data; with any other size the second call writes nothing. The size that an accepted
    quote records is the number of its stored bytes. -/
theorem getQECertificationData_size {raw : Bytes} (hsmall : raw.length < 2 ^ 32) (old : UInt32) :
    (∀ n, sgxAttestationGetQECertificationDataSize (some raw) (some old) = (.ok .ok, some n) ↔
      ∃ quote, CopiesCertificationData raw quote n) ∧
    (∀ n m, sgxAttestationGetQECertificationDataSize (some raw) (some old) = (.ok .ok, some n) →
      m ≠ n → ∀ memory type,
        sgxAttestationGetQECertificationData (some raw) m (some memory) (some type) =
          (.ok .invalidQeCertificationDataSize, some memory, some type)) ∧
    ∀ quote, Accepts raw (.initial 0) quote →
      quote.certificationData.parsedDataSize.toNat = quote.certificationData.data.length ∧
        QuoteVerifier.verifyCertificationData quote.certificationData = .ok := by
  refine ⟨fun n => ⟨fun h => ?_, ?_⟩, fun n m h hne memory type => ?_,
    fun quote h => h.verifyCertificationData hsmall⟩
  · obtain ⟨quote, haccepts, rfl⟩ := getQECertificationDataSize_eq_ok.mp h
    obtain ⟨l, hraw, hdata, htype, hsize⟩ := haccepts.certificationData hsmall
    refine ⟨quote, haccepts, ⟨l, hraw, hdata⟩, by rw [hdata, hsize], ?_,
      fun memory type => getQECertificationData_of_size hsmall haccepts type⟩
    rw [htype]
    exact l.qe.certType_mem
  · rintro ⟨quote, hcopies⟩
    refine getQECertificationDataSize_eq_ok.mpr ⟨quote, hcopies.accepts, ?_⟩
    obtain ⟨hsize, -⟩ := hcopies.accepts.verifyCertificationData hsmall
    exact UInt32.toNat_inj.mp (hcopies.length.symm.trans hsize.symm)
  · obtain ⟨quote, haccepts, rfl⟩ := getQECertificationDataSize_eq_ok.mp h
    exact getQECertificationData_of_ne haccepts hne memory type

/-- The smallest quote with a PCK certificate, which is type 4, of three bytes. -/
def QuoteLayout.sampleCertified : QuoteLayout :=
  { QuoteLayout.smallest with
    qe := { QeData.blank .zero 4 (by decide) with
      certData := [0x50, 0x43, 0x4B]
      certData_lt := by decide }
    authData_lt := by decide +kernel }

/-- The first call says three, and the second one copies these three bytes. -/
theorem getQECertificationData_size_sample :
    ∃ quote, CopiesCertificationData QuoteLayout.sampleCertified.bytes quote 3 ∧
      quote.certificationData.data = [0x50, 0x43, 0x4B] ∧
      quote.certificationData.type = 4 := by
  have hsmall : QuoteLayout.sampleCertified.bytes.length < 2 ^ 32 := by decide +kernel
  have haccepts := accepts_layout QuoteLayout.sampleCertified hsmall (Quote.initial 0)
  obtain ⟨quote, hcopies⟩ := ((getQECertificationData_size hsmall 7).1 3).mp
    (getQECertificationDataSize_of_accepts haccepts 7)
  -- the quote that is copied from is the one of the layout
  have hquote : quote = QuoteLayout.sampleCertified.quote :=
    (accepts_iff_layout hsmall (Quote.initial 0)).2.2 quote hcopies.accepts _ rfl
  refine ⟨quote, hcopies, ?_⟩
  rw [hquote]
  exact ⟨rfl, rfl⟩

end CertificationData

end DcapQvl
