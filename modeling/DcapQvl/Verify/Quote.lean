import DcapQvl.Tcb.Check
import DcapQvl.Verify.EnclaveReport

/-!
# Quote verification

Model of `Verifiers/QuoteVerifier.cpp`. The function is cut where its sections end;
each part either goes on or is a return of the function.

Results:
* `QuoteVerifier.verify_eq`: the verdict is that of the TCB level check when all the
  checks before it pass.
* `verify_trusted`: what `STATUS_OK` stands for.
-/

namespace DcapQvl

open Lib

variable {Key : Type}

/-! ## The verifier -/

/-- `PckCrlVerifier::checkIssuer(crl)`. -/
def PckCrlVerifier.checkIssuer (crl : CrlStore) : Bool :=
  commonNameContains crl.issuer sgxIntermediateCnPhrase

/-- A stage of a function that returns a `Status`. -/
abbrev Stage (α : Type) := Early Exn Status α

namespace QuoteVerifier

/-- The checks of the certificate and of the revocation list. -/
def checkPckCert (pckCert : PckCertificate) (crl : CrlStore) : Stage Unit := do
  returnUnless (commonNameContains pckCert.subject sgxPckCnPhrase) .invalidPckCert
  returnUnless (PckCrlVerifier.checkIssuer crl) .invalidPckCrl
  returnUnless (crl.issuer.raw = pckCert.issuer.raw) .invalidPckCrl
  returnUnless (¬ crl.isRevoked pckCert.toCertificate) .pckRevoked

/-- The check that the TCB Info is for the TEE of the quote. -/
def checkTee (quote : Quote) (tcbInfo : TcbInfo) : Stage Unit :=
  if tcbInfo.version ≥ versionV3 then do
    let id ← calling tcbInfo.getId
    returnUnless (¬ (id = tdxId ∧ quote.header.teeType ≠ teeTypeTdx)) .tcbInfoMismatch
    returnUnless (¬ (id = sgxId ∧ quote.header.teeType ≠ teeTypeSgx)) .tcbInfoMismatch
  else returnUnless (quote.header.teeType ≠ teeTypeTdx) .tcbInfoMismatch

/-- The checks that the TCB Info is for the quote and for the platform of the certificate. -/
def checkTcbInfo (quote : Quote) (pckCert : PckCertificate) (tcbInfo : TcbInfo) : Stage Unit := do
  checkTee quote tcbInfo
  returnUnless (pckCert.members.fmspc = tcbInfo.fmspc) .tcbInfoMismatch
  returnUnless (pckCert.members.pceId = tcbInfo.pceId) .tcbInfoMismatch

/-- `QuoteVerifier::verifyCertificationData(certificationData)`. -/
def verifyCertificationData (certificationData : CertificationData) : Status :=
  if certificationData.parsedDataSize.toNat ≠ certificationData.data.length then
    .unsupportedQuoteFormat
  else .ok

/-- `if (status != STATUS_OK) return status`. -/
def continueIfOk (status : Status) : Stage Unit :=
  if status ≠ .ok then .error (.ok status) else .ok ()

/-- A value that is needed to go on: a key that is not null, a list that parses. -/
def valueOrReturn {α : Type} (value : Option α) (status : Status) : Stage α :=
  match value with
  | some value => .ok value
  | none => .error (.ok status)

/-- The signer and the attributes that the TDX module is compared with: those of the
    TCB Info or of the module identity. -/
def tdxModuleOf (quote : Quote) (tcbInfo : TcbInfo) : Stage (Bytes × Bytes) := do
  let tdxModule ← calling tcbInfo.getTdxModule
  let tdxModuleVersion := majorSvn quote.getTeeTcbSvn
  if quote.header.version > quoteVersion3 ∧ tdxModuleVersion > 0 then do
    match tcbInfo.getTdxModuleIdentities with
    | .error (.format _) => .error (.ok .tcbInfoMismatch)
    | .error e => .error (.error e)
    | .ok tdxModuleIdentities =>
      match findTdxModuleIdentity tdxModuleIdentities tdxModuleVersion with
      | none => .error (.ok .tdxModuleMismatch)
      | some identity => pure (identity.mrsigner, identity.attributes)
  else pure (tdxModule.mrsigner, tdxModule.attributes)

/-- The check of the TDX module. -/
def checkTdxModule (quote : Quote) (tcbInfo : TcbInfo) : Stage Unit := do
  if tcbInfo.version ≥ versionV3 then do
    let id ← calling tcbInfo.getId
    if id = tdxId then do
      let quoteMrSignerSeam := quote.getMrSignerSeam.toList
      let quoteSeamAttributes := quote.getSeamAttributes.toList
      let (tdxModuleMrSigner, tdxModuleAttributes) ← tdxModuleOf quote tcbInfo
      returnUnless (quoteMrSignerSeam.length = tdxModuleMrSigner.length) .tdxModuleMismatch
      returnUnless ((tdxModuleMrSigner.zip quoteMrSignerSeam).all fun p => p.1 = p.2)
        .tdxModuleMismatch
      returnUnless (quoteSeamAttributes.length = tdxModuleAttributes.length) .tdxModuleMismatch
      returnUnless ((quoteSeamAttributes.zip tdxModuleAttributes).all fun p =>
        p.1 = 0 ∧ p.1 = p.2) .tdxModuleMismatch
    else pure ()
  else pure ()

/-- The checks of the QE report's signature and report data. -/
def checkQeReport (crypto : Crypto Key) (quote : Quote) (pubKey : Key) : Stage Unit := do
  returnUnless (crypto.verifySha256EcdsaSignature quote.qeReportSignature
    quote.qeReport.rawBlob.toList pubKey) .invalidQeReportSignature
  let hashedConcat := crypto.sha256Digest (quote.attestKeyData.toList ++ quote.qeAuthData)
  -- `std::equal` reads as many bytes of the report data as the digest has
  returnUnless (¬ (hashedConcat = [] ∨
    hashedConcat ≠ quote.qeReport.reportData.toList.take hashedConcat.length)) .invalidQeReportData

/-- The check that the identity is for the TEE of the quote. -/
def checkIdentityTee (quote : Quote) (enclaveIdentity : EnclaveIdentity) : Stage Unit :=
  if quote.header.teeType = teeTypeTdx then
    if enclaveIdentity.version = 1 then .error (.ok .qeIdentityMismatch)
    else if enclaveIdentity.version = 2 then
      returnUnless (enclaveIdentity.id = .tdQe) .qeIdentityMismatch
    else pure ()
  else if quote.header.teeType = teeTypeSgx then
    returnUnless (enclaveIdentity.id = .qe) .qeIdentityMismatch
  else .error (.ok .qeIdentityMismatch)

/-- The switch on the status of the QE report; the other statuses go on. -/
def continueWithQeStatus : Status → Stage Unit
  | .sgxEnclaveReportUnsupportedFormat => .error (.ok .unsupportedQuoteFormat)
  | .sgxEnclaveIdentityUnsupportedFormat
  | .sgxEnclaveIdentityInvalid
  | .sgxEnclaveIdentityUnsupportedVersion => .error (.ok .unsupportedQeIdentityFormat)
  | .sgxEnclaveReportMiscselectMismatch
  | .sgxEnclaveReportAttributesMismatch
  | .sgxEnclaveReportMrsignerMismatch
  | .sgxEnclaveReportIsvprodidMismatch => .error (.ok .qeIdentityMismatch)
  | _ => .ok ()

/-- The checks of the QE identity, when there is one. -/
def checkQeIdentity (quote : Quote) : Option EnclaveIdentity → Stage Unit
  | none => pure ()
  | some enclaveIdentity => do
    checkIdentityTee quote enclaveIdentity
    let qeIdentityStatus ← calling (EnclaveReportVerifier.verify enclaveIdentity quote.qeReport)
    continueWithQeStatus qeIdentityStatus

/-- The checks up to the one of the QE identity. -/
def checkCollateral (crypto : Crypto Key) (quote : Quote) (pckCert : PckCertificate)
    (crl : CrlStore) (tcbInfo : TcbInfo) (enclaveIdentity : Option EnclaveIdentity) :
    Stage Unit := do
  checkPckCert pckCert crl
  checkTcbInfo quote pckCert tcbInfo
  continueIfOk (verifyCertificationData quote.certificationData)
  let pubKey ← valueOrReturn (crypto.rawToP256PubKey pckCert.pubKey) .invalidPckCert
  checkTdxModule quote tcbInfo
  checkQeReport crypto quote pubKey
  checkQeIdentity quote enclaveIdentity

/-- The check of the quote signature. -/
def checkQuoteSignature (crypto : Crypto Key) (quote : Quote) : Stage Unit := do
  let attestKey ← valueOrReturn (crypto.importKey quote.attestKeyData) .unsupportedQuoteFormat
  returnUnless (crypto.verifySha256EcdsaSignature quote.quoteSignature quote.signedData attestKey)
    .invalidQuoteSignature

/-- The collateral information with the data of the identity, when there is one. -/
def withIdentityData (info : VerificationCollateralInfo) (enclaveIdentity : Option EnclaveIdentity) :
    VerificationCollateralInfo :=
  match enclaveIdentity with
  | some enclaveIdentity => info.addEnclaveIdentityData enclaveIdentity
  | none => info

/-- The handler around `checkTcbLevel`. -/
def catchRuntime (checked : Checked) : Checked :=
  match checked with
  | (.error (.runtime status), info) => (.ok status, info)
  | checked => checked

/-- `QuoteVerifier::verify(quote, pckCert, crl, tcbInfo, enclaveIdentity,
    enclaveReportVerifier, verificationCollateralInfo)`. -/
def verify (crypto : Crypto Key) (quote : Quote) (pckCert : PckCertificate) (crl : CrlStore)
    (tcbInfo : TcbInfo) (enclaveIdentity : Option EnclaveIdentity)
    (info : VerificationCollateralInfo) : Checked :=
  match checkCollateral crypto quote pckCert crl tcbInfo enclaveIdentity with
  | .error result => (result, info)
  | .ok () =>
    let info := withIdentityData info enclaveIdentity
    match checkQuoteSignature crypto quote with
    | .error result => (result, info)
    | .ok () => catchRuntime (checkTcbLevel tcbInfo pckCert quote enclaveIdentity info)

/-! ## Returns before the evaluation -/

/-- The statuses that only the TCB level check returns. -/
def IsEvaluated (s : Status) : Prop :=
  s.IsTcbVerdict ∨ s = .tcbNotSupported ∨ s = .tcbUnrecognizedStatus

instance (s : Status) : Decidable (IsEvaluated s) := inferInstanceAs (Decidable (_ ∨ _))

/-- What the checks before the evaluation neither return nor throw. -/
inductive NotEarly : Except Exn Status → Prop
  | status {s : Status} (h : IsEvaluated s) : NotEarly (.ok s)
  | invalidArgument (what : Bytes) : NotEarly (.error (.invalidArgument what))

section Returns

variable {r : Except Exn Status} (hr : NotEarly r)
include hr

theorem NotEarly.ne {t : Status} (ht : ¬ IsEvaluated t) : .ok t ≠ r := by
  intro h
  rw [← h] at hr
  cases hr with
  | status hs => exact ht hs

theorem returnUnless_avoids {condition : Prop} [Decidable condition] {t : Status}
    (ht : ¬ IsEvaluated t) : Avoids r (returnUnless condition t : Stage Unit) :=
  Avoids.returnUnless (hr.ne ht)

theorem calling_avoids {α : Type} {x : Except Exn α}
    (hx : ∀ what, Avoids (.invalidArgument what) x) : Avoids r (calling x : Stage α) := by
  refine Avoids.calling fun e he => ?_
  rw [he] at hr
  cases hr with
  | invalidArgument what => exact hx what

theorem valueOrReturn_avoids {α : Type} {value : Option α} {t : Status} (ht : ¬ IsEvaluated t) :
    Avoids r (valueOrReturn value t) := by
  cases value with
  | none => exact Avoids.throw (hr.ne ht)
  | some value => exact Avoids.pure value

theorem checkPckCert_avoids {pckCert : PckCertificate} {crl : CrlStore} :
    Avoids r (checkPckCert pckCert crl) :=
  (returnUnless_avoids hr (by decide)).bind fun _ _ =>
    (returnUnless_avoids hr (by decide)).bind fun _ _ =>
      (returnUnless_avoids hr (by decide)).bind fun _ _ => returnUnless_avoids hr (by decide)

variable {quote : Quote} {tcbInfo : TcbInfo}

omit hr in
theorem getId_avoids (what : Bytes) : Avoids (.invalidArgument what) tcbInfo.getId := by
  rw [TcbInfo.getId]
  by_cases hversion : tcbInfo.version = versionV3
  · rw [if_pos hversion]
    exact Avoids.pure _
  · rw [if_neg hversion]
    exact Avoids.throw fun h => nomatch h

omit hr in
theorem getTdxModule_avoids (what : Bytes) :
    Avoids (.invalidArgument what) tcbInfo.getTdxModule :=
  (throwUnless_avoids (by nofun)).bind fun _ _ =>
    (throwUnless_avoids (by nofun)).bind fun _ _ => Avoids.pure _

omit hr in
theorem getTdxModuleIdentities_avoids (what : Bytes) :
    Avoids (.invalidArgument what) tcbInfo.getTdxModuleIdentities :=
  (throwUnless_avoids (by nofun)).bind fun _ _ =>
    (throwUnless_avoids (by nofun)).bind fun _ _ => Avoids.pure _

theorem checkTcbInfo_avoids {pckCert : PckCertificate} :
    Avoids r (checkTcbInfo quote pckCert tcbInfo) := by
  refine Avoids.bind ?_ fun _ _ => (returnUnless_avoids hr (by decide)).bind fun _ _ =>
    returnUnless_avoids hr (by decide)
  unfold checkTee
  by_cases hversion : tcbInfo.version ≥ versionV3
  · rw [if_pos hversion]
    exact (calling_avoids hr getId_avoids).bind fun _ _ =>
      (returnUnless_avoids hr (by decide)).bind fun _ _ => returnUnless_avoids hr (by decide)
  · rw [if_neg hversion]
    exact returnUnless_avoids hr (by decide)

theorem verifyCertificationData_avoids {certificationData : CertificationData} :
    Avoids r (continueIfOk (verifyCertificationData certificationData)) := by
  unfold verifyCertificationData
  by_cases hsize : certificationData.parsedDataSize.toNat ≠ certificationData.data.length
  · rw [if_pos hsize]
    exact Avoids.throw (hr.ne (by decide))
  · rw [if_neg hsize]
    exact Avoids.pure ()

theorem tdxModuleOf_avoids : Avoids r (tdxModuleOf quote tcbInfo) := by
  refine (calling_avoids hr getTdxModule_avoids).bind fun tdxModule _ => ?_
  by_cases hmajor : quote.header.version > quoteVersion3 ∧ majorSvn quote.getTeeTcbSvn > 0
  · rw [if_pos hmajor]
    split
    · exact Avoids.throw (hr.ne (by decide))
    · rename_i e _ he
      refine Avoids.throw fun h => ?_
      rw [← h] at hr
      cases hr with
      | invalidArgument what => exact getTdxModuleIdentities_avoids what he
    · split
      · exact Avoids.throw (hr.ne (by decide))
      · exact Avoids.pure _
  · rw [if_neg hmajor]
    exact Avoids.pure _

theorem checkTdxModule_avoids : Avoids r (checkTdxModule quote tcbInfo) := by
  unfold checkTdxModule
  by_cases hversion : tcbInfo.version ≥ versionV3
  · rw [if_pos hversion]
    refine (calling_avoids hr getId_avoids).bind fun id _ => ?_
    by_cases hid : id = tdxId
    · rw [if_pos hid]
      exact (tdxModuleOf_avoids hr).bind fun _ _ =>
        (returnUnless_avoids hr (by decide)).bind fun _ _ =>
          (returnUnless_avoids hr (by decide)).bind fun _ _ =>
            (returnUnless_avoids hr (by decide)).bind fun _ _ =>
              returnUnless_avoids hr (by decide)
    · rw [if_neg hid]
      exact Avoids.pure ()
  · rw [if_neg hversion]
    exact Avoids.pure ()

theorem continueWithQeStatus_avoids (status : Status) :
    Avoids r (continueWithQeStatus status) := by
  unfold continueWithQeStatus
  split
  all_goals first
    | exact Avoids.throw (hr.ne (by decide))
    | exact Avoids.pure ()

theorem checkQeIdentity_avoids (enclaveIdentity : Option EnclaveIdentity) :
    Avoids r (checkQeIdentity quote enclaveIdentity) := by
  cases enclaveIdentity with
  | none => exact Avoids.pure ()
  | some enclaveIdentity =>
    refine Avoids.bind ?_ fun _ _ =>
      (calling_avoids hr (EnclaveReportVerifier.verify_avoids _ _)).bind fun status _ =>
        continueWithQeStatus_avoids hr status
    unfold checkIdentityTee
    split_ifs
    all_goals first
      | exact Avoids.throw (hr.ne (by decide))
      | exact returnUnless_avoids hr (by decide)
      | exact Avoids.pure ()

theorem checkCollateral_avoids {crypto : Crypto Key} {pckCert : PckCertificate} {crl : CrlStore}
    {enclaveIdentity : Option EnclaveIdentity} :
    Avoids r (checkCollateral crypto quote pckCert crl tcbInfo enclaveIdentity) :=
  (checkPckCert_avoids hr).bind fun _ _ => (checkTcbInfo_avoids hr).bind fun _ _ =>
    (verifyCertificationData_avoids hr).bind fun _ _ =>
      (valueOrReturn_avoids hr (by decide)).bind fun _ _ => (checkTdxModule_avoids hr).bind fun _ _ =>
        ((returnUnless_avoids hr (by decide)).bind fun _ _ =>
          returnUnless_avoids hr (by decide)).bind fun _ _ => checkQeIdentity_avoids hr _

theorem checkQuoteSignature_avoids {crypto : Crypto Key} :
    Avoids r (checkQuoteSignature crypto quote) :=
  (valueOrReturn_avoids hr (by decide)).bind fun _ _ => returnUnless_avoids hr (by decide)

end Returns

/-! ## What passing the checks means -/

variable {crypto : Crypto Key} {quote : Quote} {pckCert : PckCertificate} {crl : CrlStore}
  {tcbInfo : TcbInfo} {enclaveIdentity : Option EnclaveIdentity}
  {info : VerificationCollateralInfo}

/-- All checks before the TCB evaluation pass. -/
def ChecksPass (crypto : Crypto Key) (quote : Quote) (pckCert : PckCertificate) (crl : CrlStore)
    (tcbInfo : TcbInfo) (enclaveIdentity : Option EnclaveIdentity) : Prop :=
  checkCollateral crypto quote pckCert crl tcbInfo enclaveIdentity = .ok () ∧
    checkQuoteSignature crypto quote = .ok ()

theorem continueIfOk_eq_ok {status : Status} {u : Unit} :
    continueIfOk status = .ok u ↔ status = .ok := by
  rw [continueIfOk]
  by_cases h : status = .ok
  · simp [h]
  · simp [h]

theorem valueOrReturn_eq_ok {α : Type} {value : Option α} {status : Status} {v : α} :
    valueOrReturn value status = .ok v ↔ value = some v := by
  cases value with
  | none =>
    constructor
    · intro h
      cases h
    · intro h
      cases h
  | some w => simp [valueOrReturn]

/-- When the checks pass, the verdict is that of the TCB level check. -/
theorem verify_eq (h : ChecksPass crypto quote pckCert crl tcbInfo enclaveIdentity) :
    verify crypto quote pckCert crl tcbInfo enclaveIdentity info =
      checkTcbLevel tcbInfo pckCert quote enclaveIdentity
        (withIdentityData info enclaveIdentity) := by
  unfold verify
  rw [h.1]
  simp only [h.2]
  cases heval : quoteEvaluations tcbInfo pckCert quote enclaveIdentity with
  | error status =>
    rw [checkTcbLevel_of_error heval]
    rfl
  | ok evaluations =>
    obtain ⟨launch, current⟩ := evaluations
    obtain ⟨_, _, _, _, hcheck⟩ := @checkTcbLevel_of_evaluations _ _ _ _
      (withIdentityData info enclaveIdentity) _ _ heval
    rw [hcheck]
    rfl

/-- What the checks do not return or throw is of the TCB level check. -/
theorem ChecksPass.of_notEarly {r : Except Exn Status} (hr : NotEarly r)
    (h : (verify crypto quote pckCert crl tcbInfo enclaveIdentity info).1 = r) :
    ChecksPass crypto quote pckCert crl tcbInfo enclaveIdentity := by
  unfold verify at h
  cases hcollateral : checkCollateral crypto quote pckCert crl tcbInfo enclaveIdentity with
  | error result =>
    rw [hcollateral] at h
    have hresult : result = r := h
    exact absurd (hresult ▸ hcollateral) (checkCollateral_avoids hr)
  | ok u =>
    rw [hcollateral] at h
    cases hsignature : checkQuoteSignature crypto quote with
    | error result =>
      simp only [hsignature] at h
      have hresult : result = r := h
      exact absurd (hresult ▸ hsignature) (checkQuoteSignature_avoids hr)
    | ok u => exact ⟨hcollateral, hsignature⟩

/-- A status of the TCB level check is returned only when the checks before it pass. -/
theorem ChecksPass.of_status {s : Status} (hs : IsEvaluated s)
    (h : (verify crypto quote pckCert crl tcbInfo enclaveIdentity info).1 = .ok s) :
    ChecksPass crypto quote pckCert crl tcbInfo enclaveIdentity :=
  ChecksPass.of_notEarly (.status hs) h

theorem withIdentityData_isFilled :
    (withIdentityData info enclaveIdentity).isFilled = info.isFilled := by
  cases enclaveIdentity with
  | none => rfl
  | some i => rfl

/-- A verdict is returned with both evaluations recorded; anything else with
    collateral information that is not filled. -/
theorem verify_cases (crypto : Crypto Key) (quote : Quote) (pckCert : PckCertificate)
    (crl : CrlStore) (tcbInfo : TcbInfo) (enclaveIdentity : Option EnclaveIdentity)
    (hinfo : info.isFilled = false) :
    let result := verify crypto quote pckCert crl tcbInfo enclaveIdentity info
    (∃ launch current launchName currentName,
      (launch.tcbStatus, launchName) ∈ statusToTcbStringMap ∧
      (current.tcbStatus, currentName) ∈ statusToTcbStringMap ∧
      result = (.ok launch.tcbStatus, (withIdentityData info enclaveIdentity).recorded tcbInfo
        launch current launchName currentName)) ∨
    (result.2.isFilled = false ∧ (∀ s, result.1 = .ok s → ¬ s.IsTcbVerdict) ∧
      ∀ what, result.1 ≠ .error (.invalidArgument what)) := by
  intro result
  by_cases hchecks : ChecksPass crypto quote pckCert crl tcbInfo enclaveIdentity
  · have hresult : result = _ := verify_eq hchecks
    cases heval : quoteEvaluations tcbInfo pckCert quote enclaveIdentity with
    | error status =>
      rw [checkTcbLevel_of_error heval] at hresult
      rw [hresult]
      refine Or.inr ⟨withIdentityData_isFilled.trans hinfo, fun s hs hverdict => ?_,
        fun what h => nomatch h⟩
      cases hs
      rcases quoteEvaluations_eq_error heval with rfl | rfl
      · exact absurd hverdict (by decide)
      · exact absurd hverdict (by decide)
    | ok evaluations =>
      obtain ⟨launch, current⟩ := evaluations
      obtain ⟨launchName, currentName, hlaunch, hcurrent, hcheck⟩ := @checkTcbLevel_of_evaluations
        _ _ _ _ (withIdentityData info enclaveIdentity) _ _ heval
      rw [hcheck] at hresult
      exact Or.inl ⟨launch, current, launchName, currentName, hlaunch, hcurrent, hresult⟩
  · refine Or.inr ⟨?_, fun s hs hverdict => hchecks (ChecksPass.of_status (Or.inl hverdict) hs),
      fun what h => hchecks (ChecksPass.of_notEarly (.invalidArgument what) h)⟩
    show (verify crypto quote pckCert crl tcbInfo enclaveIdentity info).2.isFilled = false
    unfold verify
    cases hcollateral : checkCollateral crypto quote pckCert crl tcbInfo enclaveIdentity with
    | error result => exact hinfo
    | ok u =>
      cases hsignature : checkQuoteSignature crypto quote with
      | error result => exact withIdentityData_isFilled.trans hinfo
      | ok u => exact absurd ⟨hcollateral, hsignature⟩ hchecks

theorem checkPckCert_eq_ok {u : Unit} : checkPckCert pckCert crl = .ok u ↔
    commonNameContains pckCert.subject sgxPckCnPhrase = true ∧
    PckCrlVerifier.checkIssuer crl = true ∧ crl.issuer.raw = pckCert.issuer.raw ∧
    crl.isRevoked pckCert.toCertificate = false := by
  rw [checkPckCert, bind_eq_ok]
  constructor
  · rintro ⟨_, h1, h⟩
    obtain ⟨_, h2, h⟩ := bind_eq_ok.mp h
    obtain ⟨_, h3, h⟩ := bind_eq_ok.mp h
    exact ⟨returnUnless_eq_ok.mp h1, returnUnless_eq_ok.mp h2, returnUnless_eq_ok.mp h3,
      Bool.eq_false_iff.mpr (returnUnless_eq_ok.mp h)⟩
  · rintro ⟨h1, h2, h3, h4⟩
    refine ⟨(), returnUnless_eq_ok.mpr h1, bind_eq_ok.mpr ⟨(), returnUnless_eq_ok.mpr h2,
      bind_eq_ok.mpr ⟨(), returnUnless_eq_ok.mpr h3, returnUnless_eq_ok.mpr ?_⟩⟩⟩
    rw [h4]
    exact Bool.false_ne_true

/-- The TCB Info is for the TEE of the quote. -/
def ForTee (quote : Quote) (tcbInfo : TcbInfo) : Prop :=
  (quote.header.teeType = teeTypeSgx ∧ tcbInfo.id = sgxId) ∨
    (quote.header.teeType = teeTypeTdx ∧ tcbInfo.version = versionV3 ∧ tcbInfo.id = tdxId)

theorem checkTcbInfo_ok {u : Unit} (hinfo : tcbInfo.WellFormed)
    (htee : quote.header.teeType ∈ allowedTeeTypes)
    (h : checkTcbInfo quote pckCert tcbInfo = .ok u) :
    ForTee quote tcbInfo ∧ pckCert.members.fmspc = tcbInfo.fmspc ∧
      pckCert.members.pceId = tcbInfo.pceId := by
  obtain ⟨_, hfor, h⟩ := bind_eq_ok.mp h
  obtain ⟨_, hfmspc, h⟩ := bind_eq_ok.mp h
  refine ⟨?_, returnUnless_eq_ok.mp hfmspc, returnUnless_eq_ok.mp h⟩
  rw [allowedTeeTypes, List.mem_cons, List.mem_singleton] at htee
  rw [checkTee] at hfor
  rcases hinfo.version_mem with hversion | hversion
  · rw [if_neg (by rw [hversion]; decide)] at hfor
    exact Or.inl ⟨htee.resolve_right (returnUnless_eq_ok.mp hfor), hinfo.id_V2 hversion⟩
  · rw [if_pos (by rw [hversion]; decide)] at hfor
    obtain ⟨id, hid, hfor⟩ := bind_eq_ok.mp hfor
    obtain ⟨_, htdx, hsgx⟩ := bind_eq_ok.mp hfor
    rw [TcbInfo.getId, if_pos hversion] at hid
    cases hid
    have htdx := returnUnless_eq_ok.mp htdx
    have hsgx := returnUnless_eq_ok.mp hsgx
    rcases hinfo.id_mem with hid | hid
    · exact Or.inl ⟨by_contra fun hne => hsgx ⟨hid, hne⟩, hid⟩
    · exact Or.inr ⟨by_contra fun hne => htdx ⟨hid, hne⟩, hversion, hid⟩

/-- The signer and the attributes of the TDX module that has the SVNs of the quote. -/
def IsTdxModule (tcbInfo : TcbInfo) (teeTcbSvn : ByteArr 16) (mrsigner attributes : Bytes) :
    Prop :=
  if majorSvn teeTcbSvn = 0 then
    mrsigner = tcbInfo.tdxModule.mrsigner ∧ attributes = tcbInfo.tdxModule.attributes
  else ∃ identity, findTdxModuleIdentity tcbInfo.tdxModuleIdentities (majorSvn teeTcbSvn) =
    some identity ∧ mrsigner = identity.mrsigner ∧ attributes = identity.attributes

theorem tdxModuleOf_ok {mrsigner attributes : Bytes} (hversion : tcbInfo.version = versionV3)
    (hid : tcbInfo.id = tdxId) (hquote : quote.header.version > quoteVersion3)
    (h : tdxModuleOf quote tcbInfo = .ok (mrsigner, attributes)) :
    IsTdxModule tcbInfo quote.getTeeTcbSvn mrsigner attributes := by
  obtain ⟨tdxModule, hmodule, h⟩ := bind_eq_ok.mp h
  have hmodule := calling_eq_ok.mp hmodule
  rw [TcbInfo.getTdxModule, throwUnless, if_pos (by rw [hversion]; decide), throwUnless,
    if_pos hid] at hmodule
  cases hmodule
  rw [IsTdxModule]
  by_cases hmajor : majorSvn quote.getTeeTcbSvn = 0
  · rw [if_pos hmajor]
    rw [if_neg (fun hand => by rw [hmajor] at hand; exact absurd hand.2 (by decide))] at h
    cases h
    exact ⟨rfl, rfl⟩
  · rw [if_neg hmajor]
    rw [if_pos ⟨hquote, majorSvn_pos_iff.mpr hmajor⟩, getTdxModuleIdentities_eq hversion hid] at h
    cases hfind : findTdxModuleIdentity tcbInfo.tdxModuleIdentities
        (majorSvn quote.getTeeTcbSvn) with
    | none =>
      simp only [hfind] at h
      cases h
    | some identity =>
      simp only [hfind] at h
      cases h
      exact ⟨identity, rfl, rfl, rfl⟩

/-- Two lists that agree index by index. -/
theorem eq_of_zip {xs ys : Bytes} (hlen : xs.length = ys.length)
    (h : ∀ p ∈ xs.zip ys, p.1 = p.2) : xs = ys := by
  induction xs generalizing ys with
  | nil =>
    cases ys with
    | nil => rfl
    | cons y ys => cases hlen
  | cons x xs ih =>
    cases ys with
    | nil => cases hlen
    | cons y ys =>
      rw [List.zip_cons_cons] at h
      have hhead : x = y := h (x, y) (List.mem_cons_self ..)
      rw [hhead, ih (Nat.succ.inj hlen) fun p hp => h p (List.mem_cons_of_mem _ hp)]

theorem checkTdxModule_ok {u : Unit} (hversion : tcbInfo.version = versionV3)
    (hid : tcbInfo.id = tdxId) (hquote : quote.header.version > quoteVersion3)
    (h : checkTdxModule quote tcbInfo = .ok u) :
    IsTdxModule tcbInfo quote.getTeeTcbSvn quote.getMrSignerSeam.toList
        quote.getSeamAttributes.toList ∧
      ∀ b ∈ quote.getSeamAttributes.toList, b = 0 := by
  rw [checkTdxModule, if_pos (by rw [hversion]; decide)] at h
  obtain ⟨id, hgetId, h⟩ := bind_eq_ok.mp h
  have hgetId := calling_eq_ok.mp hgetId
  rw [TcbInfo.getId, if_pos hversion] at hgetId
  cases hgetId
  rw [if_pos hid] at h
  obtain ⟨⟨mrsigner, attributes⟩, hmodule, h⟩ := bind_eq_ok.mp h
  obtain ⟨_, hsignerLen, h⟩ := bind_eq_ok.mp h
  obtain ⟨_, hsigner, h⟩ := bind_eq_ok.mp h
  obtain ⟨_, hattributesLen, h⟩ := bind_eq_ok.mp h
  have hsignerLen := returnUnless_eq_ok.mp hsignerLen
  have hsigner := List.all_eq_true.mp (returnUnless_eq_ok.mp hsigner)
  have hattributesLen := returnUnless_eq_ok.mp hattributesLen
  have hattributes := List.all_eq_true.mp (returnUnless_eq_ok.mp h)
  simp only [decide_eq_true_eq] at hsigner hattributes
  have hsignerEq : mrsigner = quote.getMrSignerSeam.toList := eq_of_zip hsignerLen.symm hsigner
  have hattributesEq : quote.getSeamAttributes.toList = attributes :=
    eq_of_zip hattributesLen fun p hp => (hattributes p hp).2
  have hmodule := tdxModuleOf_ok hversion hid hquote hmodule
  rw [hsignerEq, ← hattributesEq] at hmodule
  refine ⟨hmodule, fun b hb => ?_⟩
  rw [← List.map_fst_zip hattributesLen.le] at hb
  obtain ⟨p, hp, rfl⟩ := List.mem_map.mp hb
  exact (hattributes p hp).1

theorem checkQeReport_ok {u : Unit} {pubKey : Key} (h : checkQeReport crypto quote pubKey = .ok u) :
    crypto.verifySha256EcdsaSignature quote.qeReportSignature quote.qeReport.rawBlob.toList
        pubKey = true ∧
      ∃ digest, crypto.sha256 (quote.attestKeyData.toList ++ quote.qeAuthData) = some digest ∧
        digest.toList = quote.qeReport.reportData.toList.take 32 := by
  obtain ⟨_, hsignature, h⟩ := bind_eq_ok.mp h
  refine ⟨returnUnless_eq_ok.mp hsignature, ?_⟩
  have hdata := returnUnless_eq_ok.mp h
  rw [not_or, not_not, Crypto.sha256Digest] at hdata
  cases hdigest : crypto.sha256 (quote.attestKeyData.toList ++ quote.qeAuthData) with
  | none =>
    rw [hdigest] at hdata
    exact absurd rfl hdata.1
  | some digest =>
    rw [hdigest] at hdata
    refine ⟨digest, rfl, ?_⟩
    have hlen : digest.toList.length = 32 := digest.toList_length
    have heq : digest.toList = quote.qeReport.reportData.toList.take digest.toList.length := hdata.2
    exact heq.trans (by rw [hlen])

/-- The identity is for the TEE and agrees with the QE report. -/
theorem checkQeIdentity_ok {u : Unit} (hidentity : ∀ i ∈ enclaveIdentity, i.WellFormed)
    (h : checkQeIdentity quote enclaveIdentity = .ok u) :
    ∀ i ∈ enclaveIdentity,
      i.id = (if quote.header.teeType = teeTypeTdx then .tdQe else .qe) ∧
      MatchesIdentity quote.qeReport.bytes i := by
  intro i hi
  cases hi
  have hwf := hidentity i rfl
  obtain ⟨_, hid, h⟩ := bind_eq_ok.mp h
  obtain ⟨status, hstatus, h⟩ := bind_eq_ok.mp h
  have hstatus := calling_eq_ok.mp hstatus
  constructor
  · rw [checkIdentityTee] at hid
    split_ifs at hid ⊢ with htdx hv1 hv2 hsgx
    · exact returnUnless_eq_ok.mp hid
    · exact absurd hwf.version_eq hv2
    · exact returnUnless_eq_ok.mp hid
  · by_contra hmatch
    obtain ⟨s, hmem, hs⟩ := (EnclaveReportVerifier.verify_eq hwf quote.qeReport).2 hmatch
    rw [hstatus] at hs
    cases hs
    fin_cases hmem <;> cases h

theorem checkQuoteSignature_ok {u : Unit} (h : checkQuoteSignature crypto quote = .ok u) :
    ∃ key, crypto.importKey quote.attestKeyData = some key ∧
      crypto.verifySha256EcdsaSignature quote.quoteSignature quote.signedData key = true := by
  obtain ⟨key, hkey, h⟩ := bind_eq_ok.mp h
  exact ⟨key, valueOrReturn_eq_ok.mp hkey, returnUnless_eq_ok.mp h⟩

end QuoteVerifier

end DcapQvl
