import DcapQvl.Tcb.Relaunch
import DcapQvl.Verify.Quote

/-!
# What the verdicts stand for

`STATUS_OK` of `QuoteVerifier::verify` says that every link from the certificate to
the quote holds and that every selected level is up to date. `STATUS_TCB_NOT_SUPPORTED`
says that a level is missing, or that a module level has a status that the evaluation
does not know.

Results:
* `Selection.upToDate_of_verdict`: a selection with the verdict `STATUS_OK`.
* `verify_trusted`: the meaning of `STATUS_OK`.
* `verify_notSupported_iff`: the meaning of `STATUS_TCB_NOT_SUPPORTED` for a TDX quote.
* `tellsUnknownStatus_iff`: when an unknown module status is told from a missing level.
-/

namespace DcapQvl

open Lib QuoteVerifier

/-! ## Levels that are up to date -/

/-- All selected levels are up to date. -/
structure Selection.UpToDate (s : Selection) : Prop where
  platform : s.platform.status = str "UpToDate"
  tdxModule : ∀ l ∈ s.tdxModule, l.tcbStatus = str "UpToDate"
  qe : ∀ l ∈ s.qe, l.tcbStatus = .upToDate

theorem statusOfName_platform : ∀ name ∈ TcbLevel.validStatuses,
    name = str "UpToDate" ∨ statusOfName name ∈ [EvaluationStatus.swHardeningNeeded,
      .configurationNeeded, .configurationAndSwHardeningNeeded, .outOfDate,
      .outOfDateConfigurationNeeded, .revoked] := by
  decide +kernel

theorem statusOfName_module : ∀ name ∈ moduleStatuses,
    name = str "UpToDate" ∨ statusOfName name ∈ [EvaluationStatus.outOfDate, .revoked] := by
  decide +kernel

namespace Selection

variable {s : Selection}

theorem platformStatus_mem : s.platformStatus ∈ s.statuses := List.mem_cons_self ..

theorem moduleStatus_mem {l : TdxModuleTcbLevel} (h : l ∈ s.tdxModule) :
    statusOfName l.tcbStatus ∈ s.statuses := by
  refine List.mem_cons_of_mem _ (List.mem_append_left _ (List.mem_map.mpr ⟨l, ?_, rfl⟩))
  exact Option.mem_toList.mpr h

theorem qeStatus_mem {l : IdentityTcbLevel} (h : l ∈ s.qe) :
    statusOfQe l.tcbStatus ∈ s.statuses := by
  refine List.mem_cons_of_mem _ (List.mem_append_right _ (List.mem_map.mpr ⟨l, ?_, rfl⟩))
  exact Option.mem_toList.mpr h

/-- Nothing but levels that are up to date leads to `STATUS_OK`. -/
theorem upToDate_of_verdict (hplatform : s.platform.status ∈ TcbLevel.validStatuses)
    (hmodule : ∀ l ∈ s.tdxModule, l.tcbStatus ∈ moduleStatuses)
    (hqe : ∀ l ∈ s.qe, l.tcbStatus = .upToDate ∨ l.tcbStatus = .outOfDate ∨ l.tcbStatus = .revoked)
    (h : s.verdict = .ok) : s.UpToDate := by
  unfold verdict at h
  split_ifs at h with hrevoked hout
  rw [not_or] at hout
  constructor
  · refine (statusOfName_platform _ hplatform).resolve_right fun hmem => ?_
    have hstatus := s.platformStatus_mem
    unfold ownStatus at h
    unfold platformStatus at h hstatus
    generalize statusOfName s.platform.status = status at h hstatus hmem
    fin_cases hmem
    · cases h
    · cases h
    · cases h
    · exact hout.1 hstatus
    · exact hout.2 hstatus
    · exact hrevoked hstatus
  · intro l hl
    refine (statusOfName_module _ (hmodule l hl)).resolve_right fun hmem => ?_
    have hstatus := moduleStatus_mem hl
    generalize statusOfName l.tcbStatus = status at hstatus hmem
    fin_cases hmem
    · exact hout.1 hstatus
    · exact hrevoked hstatus
  · intro l hl
    have hstatus := qeStatus_mem hl
    rcases hqe l hl with h | h | h
    · exact h
    · rw [h] at hstatus
      exact absurd hstatus hout.1
    · rw [h] at hstatus
      exact absurd hstatus hrevoked

end Selection

/-- The levels selected for a quote with a verdict `STATUS_OK` are up to date. -/
theorem Selects.upToDate {tcbInfo : TcbInfo} {enclaveIdentity : Option EnclaveIdentity}
    {svns : PlatformSvns} {s : Selection} (hinfo : tcbInfo.WellFormed)
    (hidentity : ∀ i ∈ enclaveIdentity, i.WellFormed) (hs : Selects tcbInfo enclaveIdentity svns s)
    (hmodule : ∀ l ∈ s.tdxModule, l.tcbStatus ∈ moduleStatuses) (h : s.verdict = .ok) :
    s.UpToDate := by
  refine Selection.upToDate_of_verdict (hinfo.levels_wellFormed _ hs.1.1).status_mem hmodule ?_ h
  intro l hl
  have hqe := hs.2.2
  cases enclaveIdentity with
  | none =>
    rw [show s.qe = none from hqe] at hl
    cases hl
  | some i =>
    obtain ⟨level, hlevel, hfirst⟩ := hqe
    rw [hlevel] at hl
    cases hl
    exact (hidentity i rfl).levels_status _ hfirst.1

/-! ## The evaluations behind `STATUS_OK` -/

section Evaluations

variable {quote : Quote} {tcbInfo : TcbInfo} {pckCert : PckCertificate}
  {enclaveIdentity : Option EnclaveIdentity} {launch current : TcbEvaluation}

theorem checkForRelaunch_ok {launch current : Status} (h : checkForRelaunch launch current = .ok) :
    launch = .ok := by
  unfold checkForRelaunch at h
  split_ifs at h with hout
  · rw [h] at hout
    exact absurd hout (by decide)
  · exact h

/-- The levels that a quote selects are up to date; those that the current TEE TCB SVN
    of a TD report 1.5 selects exist. -/
structure LevelsUpToDate (quote : Quote) (pckCert : PckCertificate) (tcbInfo : TcbInfo)
    (enclaveIdentity : Option EnclaveIdentity) : Prop where
  sgx : quote.header.teeType = teeTypeSgx → ∃ s : Selection,
    Selects tcbInfo enclaveIdentity (.ofQuote pckCert quote none) s ∧ s.UpToDate
  tdx : quote.header.teeType = teeTypeTdx → ∃ s : Selection,
    Selects tcbInfo enclaveIdentity (.ofQuote pckCert quote (some quote.getTeeTcbSvn)) s ∧
      s.UpToDate
  current : quote.header.teeType = teeTypeTdx → quote.body.bodyType ≥ bodyTdReport15Type →
    ∃ s, Selects tcbInfo enclaveIdentity (.ofQuote pckCert quote (some quote.getTeeTcbSvn2)) s

variable (hinfo : tcbInfo.WellFormed) (hidentity : ∀ i ∈ enclaveIdentity, i.WellFormed)
include hinfo hidentity

theorem levelsUpToDate_of_evaluations (htee : ForTee quote tcbInfo)
    (h : quoteEvaluations tcbInfo pckCert quote enclaveIdentity = .ok (launch, current))
    (hlaunch : launch.tcbStatus = .ok) : LevelsUpToDate quote pckCert tcbInfo enclaveIdentity := by
  rcases htee with ⟨hsgx, -⟩ | ⟨htdx, hversion, hid⟩
  · have hne : quote.header.teeType ≠ teeTypeTdx := by
      rw [hsgx]
      decide
    rw [quoteEvaluations_sgx hsgx] at h
    obtain ⟨_, heval, h⟩ := bind_eq_ok.mp h
    cases h
    obtain ⟨s, hs, hmodule, rfl⟩ := sgxEvaluation_ok hinfo hidentity heval
    refine ⟨fun _ => ⟨s, hs, ?_⟩, fun h => absurd h hne, fun h => absurd h hne⟩
    refine hs.upToDate hinfo hidentity (fun l hl => ?_) hlaunch
    rw [hmodule] at hl
    cases hl
  · have hne : quote.header.teeType ≠ teeTypeSgx := by
      rw [htdx]
      decide
    rw [quoteEvaluations_tdx htdx] at h
    obtain ⟨evaluation, heval, h⟩ := bind_eq_ok.mp h
    obtain ⟨s, hs, hmodule, rfl⟩ := tdxEvaluation_ok hinfo hidentity hversion hid heval
    by_cases hbody : quote.body.bodyType ≥ bodyTdReport15Type
    · rw [if_pos hbody] at h
      obtain ⟨_, hcurrent, h⟩ := bind_eq_ok.mp h
      cases h
      obtain ⟨s', hs', -⟩ := tdxEvaluation_ok hinfo hidentity hversion hid hcurrent
      exact ⟨fun h => absurd h hne, fun _ => ⟨s, hs, hs.upToDate hinfo hidentity hmodule
        (checkForRelaunch_ok hlaunch)⟩, fun _ _ => ⟨s', hs'⟩⟩
    · rw [if_neg hbody] at h
      cases h
      exact ⟨fun h => absurd h hne, fun _ => ⟨s, hs, hs.upToDate hinfo hidentity hmodule hlaunch⟩,
        fun _ h => absurd h hbody⟩

end Evaluations

/-! ## The meaning of `STATUS_OK` -/

/-- The bytes of the QE report in the raw quote. -/
def rawQeReport (raw : Bytes) (quote : Quote) : Bytes :=
  slice raw quote.qeReportOffset qeReportByteLen

/-- Every link from the certificate to the raw quote holds, and every selected level
    is up to date. -/
structure Trusted {Key : Type} (crypto : Crypto Key) (raw : Bytes) (quote : Quote)
    (pckCert : PckCertificate) (crl : CrlStore) (tcbInfo : TcbInfo)
    (enclaveIdentity : Option EnclaveIdentity) : Prop where
  crlIssuer : crl.issuer.raw = pckCert.issuer.raw
  notRevoked : crl.isRevoked pckCert.toCertificate = false
  fmspc : pckCert.members.fmspc = tcbInfo.fmspc
  pceId : pckCert.members.pceId = tcbInfo.pceId
  forTee : ForTee quote tcbInfo
  qeReportSignature : ∃ key, crypto.rawToP256PubKey pckCert.pubKey = some key ∧
    crypto.verifySha256EcdsaSignature quote.qeReportSignature (rawQeReport raw quote) key = true
  qeReportData : ∃ digest,
    crypto.sha256 (quote.attestKeyData.toList ++ quote.qeAuthData) = some digest ∧
      digest.toList = slice (rawQeReport raw quote) 320 32
  quoteSignature : ∃ key, crypto.importKey quote.attestKeyData = some key ∧
    crypto.verifySha256EcdsaSignature quote.quoteSignature quote.signedData key = true
  signedData : ∃ rest, raw = quote.signedData ++ leBytes 4 quote.authDataSize.toNat ++ rest
  tdxModule : quote.header.teeType = teeTypeTdx →
    IsTdxModule tcbInfo quote.getTeeTcbSvn quote.getMrSignerSeam.toList
        quote.getSeamAttributes.toList ∧
      ∀ b ∈ quote.getSeamAttributes.toList, b = 0
  identity : ∀ i ∈ enclaveIdentity,
    i.id = (if quote.header.teeType = teeTypeTdx then .tdQe else .qe) ∧
      MatchesIdentity (rawQeReport raw quote) i
  levels : LevelsUpToDate quote pckCert tcbInfo enclaveIdentity

theorem EnclaveReport.slice_reportData (r : EnclaveReport) :
    slice r.bytes 320 32 = r.reportData.toList.take 32 := by
  have hslice : slice r.bytes 320 64 = r.reportData.toList :=
    slice_piece [r.cpuSvn.toList, leBytes 4 r.miscSelect.toNat, r.reserved1.toList,
      r.attributes.toList, r.mrEnclave.toList, r.reserved2.toList, r.mrSigner.toList,
      r.reserved3.toList, leBytes 2 r.isvProdID.toNat, leBytes 2 r.isvSvn.toNat,
      r.reserved4.toList] _ rfl (by simp) (by simp)
  rw [← hslice, slice, slice, List.take_take]
  rfl

/-- The header fields of an accepted quote. -/
theorem Accepts.header_mem {raw : Bytes} (hsmall : raw.length < 2 ^ 32) {q quote : Quote}
    (h : Accepts raw q quote) : quote.header.teeType ∈ allowedTeeTypes ∧
      (quote.header.teeType = teeTypeTdx → quote.header.version > quoteVersion3) := by
  obtain ⟨l, rfl, rfl⟩ := h.exists_layout hsmall
  constructor
  · show l.header.teeType ∈ allowedTeeTypes
    rw [l.teeType_eq]
    exact l.report.teeType_mem
  · intro htdx
    show l.header.version > quoteVersion3
    rcases l.report_cases with ⟨r, -, ht, -⟩ | ⟨r, -, -, -, hv⟩ | ⟨r, -, -, -, hv, -⟩ |
      ⟨r, -, -, -, hv, -⟩
    · rw [show l.header.teeType = teeTypeTdx from htdx] at ht
      exact absurd ht (by decide)
    · rcases hv with ⟨hv, -⟩ | ⟨hv, -⟩ <;> rw [hv] <;> decide
    · rw [hv]
      decide
    · rw [hv]
      decide

/-- The signed data is the part of an accepted quote in front of the authentication
    data size. -/
theorem Accepts.signedData_prefix {raw : Bytes} (hsmall : raw.length < 2 ^ 32) {q quote : Quote}
    (h : Accepts raw q quote) :
    ∃ rest, raw = quote.signedData ++ leBytes 4 quote.authDataSize.toNat ++ rest := by
  obtain ⟨l, rfl, rfl⟩ := h.exists_layout hsmall
  have hlt : l.authBytes.length < 2 ^ 32 := l.authData_lt
  refine ⟨l.authBytes ++ l.trailing, ?_⟩
  rw [show l.quote.authDataSize = UInt32.ofNat l.authBytes.length from rfl, UInt32.toNat_ofNat',
    Nat.mod_eq_of_lt hlt, ← List.append_assoc]
  rfl

/-- **`STATUS_OK` is earned.** If the verifier returns `STATUS_OK` on an accepted quote
    and on parsed collateral, then the quote is trusted. -/
theorem verify_trusted {Key : Type} {env : JsonEnv} {raw : Bytes} (hsmall : raw.length < 2 ^ 32)
    {q quote : Quote} (hquote : Accepts raw q quote) {text : Bytes} {tcbInfo : TcbInfo}
    (hinfo : TcbInfo.parse env text = .ok tcbInfo) {enclaveIdentity : Option EnclaveIdentity}
    (hidentity : ∀ i ∈ enclaveIdentity, ∃ text, EnclaveIdentity.parse env text = .ok i)
    (crypto : Crypto Key) (pckCert : PckCertificate) (crl : CrlStore)
    (info : VerificationCollateralInfo)
    (h : (verify crypto quote pckCert crl tcbInfo enclaveIdentity info).1 = .ok .ok) :
    Trusted crypto raw quote pckCert crl tcbInfo enclaveIdentity := by
  have hinfo := TcbInfo.parse_wellFormed hinfo
  have hidentity : ∀ i ∈ enclaveIdentity, i.WellFormed := fun i hi => by
    obtain ⟨_, hparse⟩ := hidentity i hi
    exact EnclaveIdentity.parse_wellFormed hparse
  obtain ⟨htee, hversion⟩ := hquote.header_mem hsmall
  have hchecks := ChecksPass.of_status (by decide) h
  have hraw : rawQeReport raw quote = quote.qeReport.bytes :=
    (hquote.qeReport_slice hsmall).trans (EnclaveReport.rawBlob_eq _)
  -- the checks one after the other
  obtain ⟨_, hcert, hrest⟩ := bind_eq_ok.mp hchecks.1
  obtain ⟨_, htcb, hrest⟩ := bind_eq_ok.mp hrest
  obtain ⟨_, _, hrest⟩ := bind_eq_ok.mp hrest
  obtain ⟨pubKey, hkey, hrest⟩ := bind_eq_ok.mp hrest
  obtain ⟨_, hmodule, hrest⟩ := bind_eq_ok.mp hrest
  obtain ⟨_, hreport, hqe⟩ := bind_eq_ok.mp hrest
  obtain ⟨-, -, hissuer, hrevoked⟩ := checkPckCert_eq_ok.mp hcert
  obtain ⟨hfor, hfmspc, hpceId⟩ := checkTcbInfo_ok hinfo htee htcb
  obtain ⟨hsignature, digest, hdigest, hdata⟩ := checkQeReport_ok hreport
  rw [EnclaveReport.rawBlob_eq] at hsignature
  -- the evaluation
  rw [verify_eq hchecks] at h
  have hlevels : LevelsUpToDate quote pckCert tcbInfo enclaveIdentity := by
    rcases checkTcbLevel_status.mp h with ⟨launch, current, heval, hstatus⟩ | herror
    · exact levelsUpToDate_of_evaluations hinfo hidentity hfor heval hstatus
    · rcases quoteEvaluations_eq_error herror with h | h <;> cases h
  refine ⟨hissuer, hrevoked, hfmspc, hpceId, hfor, ⟨pubKey, valueOrReturn_eq_ok.mp hkey, ?_⟩,
    ⟨digest, hdigest, ?_⟩, checkQuoteSignature_ok hchecks.2, hquote.signedData_prefix hsmall,
    fun htdx => ?_, ?_, hlevels⟩
  · rw [hraw]
    exact hsignature
  · rw [hraw, EnclaveReport.slice_reportData]
    exact hdata
  · rcases hfor with ⟨hsgx, -⟩ | ⟨-, hv3, hid⟩
    · rw [hsgx] at htdx
      exact absurd htdx (by decide)
    · exact checkTdxModule_ok hv3 hid (hversion htdx) hmodule
  · rw [hraw]
    exact checkQeIdentity_ok hidentity hqe

/-! ## A sample -/

/-- Signatures that always verify, and a digest of zeros. -/
def sampleCrypto : Crypto Unit where
  importKey := fun _ => some ()
  rawEcdsaSignatureToDER := fun signature => signature.toList
  verifySha256Signature := fun _ _ _ => true
  sha256 := fun _ => some (.zero 32)
  verifyCrl := fun _ _ => true

/-- A revocation list of the issuer of the sample certificate, without entries. -/
def sampleCrl : CrlStore :=
  { crl := [], issuer := sampleName sgxIntermediateCnPhrase, validity := ⟨0, sampleEpoch⟩
    revoked := [], extensions := [] }

/-- A TDX quote with the SVNs of the newest levels. -/
def QuoteLayout.sampleUpToDate : QuoteLayout :=
  { QuoteLayout.sampleTd15 with
    report := .td15 { TDReport15.zero with
      teeTcbSvn := sampleRaisedSvns
      teeTcbSvn2 := sampleRaisedSvns }
    report_allowed := rfl
    teeType_eq := rfl }

/-- It is accepted, so all its levels are up to date. -/
theorem verify_trusted_sample :
    Trusted sampleCrypto QuoteLayout.sampleUpToDate.bytes QuoteLayout.sampleUpToDate.quote
      samplePckCertificate sampleCrl sampleInfo (some sampleQeIdentity) := by
  have hsmall : QuoteLayout.sampleUpToDate.bytes.length < 2 ^ 32 := by decide +kernel
  refine verify_trusted hsmall (accepts_layout _ hsmall (Quote.initial 0)) sampleInfo_parse
    (fun i hi => ?_) sampleCrypto samplePckCertificate sampleCrl .initial (by decide +kernel)
  rw [← Option.mem_some_iff.mp hi]
  exact ⟨_, sampleQeIdentity_parse⟩

/-! ## Module levels with an unknown status -/

section Unknown

variable {Key : Type} (crypto : Crypto Key) (quote : Quote) (pckCert : PckCertificate)
  (crl : CrlStore) (tcbInfo : TcbInfo) (enclaveIdentity : Option EnclaveIdentity)
  (info : VerificationCollateralInfo)

/-- The SVNs of the launch evaluation and of the current evaluation of a TDX quote. -/
def launchSvns : PlatformSvns := .ofQuote pckCert quote (some quote.getTeeTcbSvn)
def currentSvns : PlatformSvns := .ofQuote pckCert quote (some quote.getTeeTcbSvn2)

/-- A level that an evaluation of a TDX quote needs is missing. -/
def LevelMissing : Prop :=
  ¬ Selectable tcbInfo enclaveIdentity (launchSvns quote pckCert) ∨
    quote.body.bodyType ≥ bodyTdReport15Type ∧
      ¬ Selectable tcbInfo enclaveIdentity (currentSvns quote pckCert)

/-- The verdict tells a module level with an unknown status from a missing level. -/
structure TellsUnknownStatus : Prop where
  unrecognized : ChecksPass crypto quote pckCert crl tcbInfo enclaveIdentity →
    SelectsUnknownStatus tcbInfo (launchSvns quote pckCert) →
    (verify crypto quote pckCert crl tcbInfo enclaveIdentity info).1 =
      .ok .tcbUnrecognizedStatus
  notSupported :
    (verify crypto quote pckCert crl tcbInfo enclaveIdentity info).1 = .ok .tcbNotSupported →
    LevelMissing quote pckCert tcbInfo enclaveIdentity

variable {crypto quote pckCert crl tcbInfo enclaveIdentity info}
  (hquote : quote.header.teeType = teeTypeTdx) (hinfo : tcbInfo.WellFormed)
  (hversion : tcbInfo.version = versionV3) (hid : tcbInfo.id = tdxId)
  (hidentity : ∀ i ∈ enclaveIdentity, i.WellFormed)
include hquote hinfo hversion hid hidentity

/-- When the evaluations of a TDX quote fail. -/
theorem quoteEvaluations_notSupported_iff :
    quoteEvaluations tcbInfo pckCert quote enclaveIdentity = .error .tcbNotSupported ↔
      LevelMissing quote pckCert tcbInfo enclaveIdentity ∨
      SelectsUnknownStatus tcbInfo (launchSvns quote pckCert) ∨
      quote.body.bodyType ≥ bodyTdReport15Type ∧
        SelectsUnknownStatus tcbInfo (currentSvns quote pckCert) := by
  have hlaunch : tdxEvaluation tcbInfo pckCert quote enclaveIdentity quote.getTeeTcbSvn =
      .error .tcbNotSupported ↔ _ :=
    tdxEvaluation_eq_error hinfo hidentity hversion hid
  have hcurrent : tdxEvaluation tcbInfo pckCert quote enclaveIdentity quote.getTeeTcbSvn2 =
      .error .tcbNotSupported ↔ _ :=
    tdxEvaluation_eq_error hinfo hidentity hversion hid
  rw [quoteEvaluations_tdx hquote]
  unfold LevelMissing launchSvns currentSvns
  constructor
  · intro h
    rcases bind_eq_error.mp h with h | ⟨_, _, h⟩
    · rcases hlaunch.mp h with h | h
      · exact Or.inl (Or.inl h)
      · exact Or.inr (Or.inl h)
    · by_cases hbody : quote.body.bodyType ≥ bodyTdReport15Type
      · rw [if_pos hbody] at h
        rcases bind_eq_error.mp h with h | ⟨_, _, h⟩
        · rcases hcurrent.mp h with h | h
          · exact Or.inl (Or.inr ⟨hbody, h⟩)
          · exact Or.inr (Or.inr ⟨hbody, h⟩)
        · cases h
      · rw [if_neg hbody] at h
        cases h
  · intro h
    cases heval : tdxEvaluation tcbInfo pckCert quote enclaveIdentity quote.getTeeTcbSvn with
    | error status =>
      rw [show status = .tcbNotSupported from tdxEvaluateTCB_evaluatesTo.error heval]
      rfl
    | ok launch =>
      -- the launch evaluation succeeds, so the current one fails
      have hnot := (not_congr hlaunch).mp (by rw [heval]; exact fun h => nomatch h)
      rw [not_or] at hnot
      obtain ⟨hbody, herror⟩ : quote.body.bodyType ≥ bodyTdReport15Type ∧ _ := by
        rcases h with (h | ⟨hbody, h⟩) | h | ⟨hbody, h⟩
        · exact absurd h hnot.1
        · exact ⟨hbody, hcurrent.mpr (Or.inl h)⟩
        · exact absurd h hnot.2
        · exact ⟨hbody, hcurrent.mpr (Or.inr h)⟩
      rw [ok_bind, if_pos hbody, herror]
      rfl

/-- What `STATUS_TCB_NOT_SUPPORTED` says of a TDX quote. -/
theorem verify_notSupported_iff :
    (verify crypto quote pckCert crl tcbInfo enclaveIdentity info).1 = .ok .tcbNotSupported ↔
      ChecksPass crypto quote pckCert crl tcbInfo enclaveIdentity ∧
      (LevelMissing quote pckCert tcbInfo enclaveIdentity ∨
        SelectsUnknownStatus tcbInfo (launchSvns quote pckCert) ∨
        quote.body.bodyType ≥ bodyTdReport15Type ∧
          SelectsUnknownStatus tcbInfo (currentSvns quote pckCert)) := by
  rw [← quoteEvaluations_notSupported_iff hquote hinfo hversion hid hidentity]
  constructor
  · intro h
    have hchecks := ChecksPass.of_status (by decide) h
    rw [verify_eq hchecks] at h
    refine ⟨hchecks, ?_⟩
    rcases checkTcbLevel_status.mp h with ⟨launch, current, heval, hstatus⟩ | herror
    · have hverdict := (quoteEvaluations_verdict heval).1
      rw [hstatus] at hverdict
      exact absurd hverdict (by decide)
    · exact herror
  · rintro ⟨hchecks, herror⟩
    rw [verify_eq hchecks]
    exact checkTcbLevel_status.mpr (Or.inr herror)

end Unknown

/-- **An unknown module status is reported as a missing level.** On a TDX quote the
    verdict tells the two apart exactly when no module level with an unknown status is
    selected: the handler of `tdxEvaluateTCB` catches the exception that carries
    `STATUS_TCB_UNRECOGNIZED_STATUS` before the one of `QuoteVerifier::verify` can. -/
theorem tellsUnknownStatus_iff {Key : Type} {env : JsonEnv} {quote : Quote}
    (hquote : quote.header.teeType = teeTypeTdx) {text : Bytes} {tcbInfo : TcbInfo}
    (hinfo : TcbInfo.parse env text = .ok tcbInfo) (hversion : tcbInfo.version = versionV3)
    (hid : tcbInfo.id = tdxId) {enclaveIdentity : Option EnclaveIdentity}
    (hidentity : ∀ i ∈ enclaveIdentity, ∃ text, EnclaveIdentity.parse env text = .ok i)
    (crypto : Crypto Key) (pckCert : PckCertificate) (crl : CrlStore)
    (info : VerificationCollateralInfo) :
    TellsUnknownStatus crypto quote pckCert crl tcbInfo enclaveIdentity info ↔
      (ChecksPass crypto quote pckCert crl tcbInfo enclaveIdentity →
        ¬ SelectsUnknownStatus tcbInfo (launchSvns quote pckCert) ∧
        (¬ LevelMissing quote pckCert tcbInfo enclaveIdentity →
          quote.body.bodyType ≥ bodyTdReport15Type →
          ¬ SelectsUnknownStatus tcbInfo (currentSvns quote pckCert))) := by
  have hinfo := TcbInfo.parse_wellFormed hinfo
  have hidentity : ∀ i ∈ enclaveIdentity, i.WellFormed := fun i hi => by
    obtain ⟨_, hparse⟩ := hidentity i hi
    exact EnclaveIdentity.parse_wellFormed hparse
  have hiff := @verify_notSupported_iff _ crypto quote pckCert crl tcbInfo enclaveIdentity info
    hquote hinfo hversion hid hidentity
  constructor
  · rintro ⟨hunrecognized, hnotSupported⟩ hchecks
    refine ⟨fun hunknown => ?_, fun hmissing hbody hunknown => ?_⟩
    · have hstatus := hiff.mpr ⟨hchecks, Or.inr (Or.inl hunknown)⟩
      rw [hunrecognized hchecks hunknown] at hstatus
      cases hstatus
    · exact hmissing (hnotSupported (hiff.mpr ⟨hchecks, Or.inr (Or.inr ⟨hbody, hunknown⟩)⟩))
  · intro h
    refine ⟨fun hchecks hunknown => absurd hunknown (h hchecks).1, fun hstatus => ?_⟩
    obtain ⟨hchecks, hreason⟩ := hiff.mp hstatus
    obtain ⟨hlaunch, hcurrent⟩ := h hchecks
    rcases hreason with hmissing | hunknown | ⟨hbody, hunknown⟩
    · exact hmissing
    · exact absurd hunknown hlaunch
    · by_contra hmissing
      exact hcurrent hmissing hbody hunknown

/-- The sample TCB Info with a module level whose status is one for platforms only. -/
def sampleUnknownDocument : Json := sampleTcbInfo
  [sampleLevel 0 (str "OutOfDate") [str "INTEL-SA-1"], sampleLevel 1 (str "UpToDate") []]
  [sampleIsvLevel 2 (str "SWHardeningNeeded") []]

/-- An environment that reads it and the sample identity. -/
def sampleUnknownDocuments : JsonEnv := sampleEnv [sampleUnknownDocument, sampleIdentityDocument]

def sampleUnknownLevel : TdxModuleTcbLevel :=
  { tcb := { isvsvn := 2 }, tcbDate := sampleEpoch, tcbStatus := str "SWHardeningNeeded"
    advisoryIDs := [] }

def sampleUnknownIdentity : TdxModuleIdentity :=
  { id := str "TDX_01", mrsigner := List.replicate 48 0, attributes := List.replicate 8 0
    attributesMask := List.replicate 8 0, tcbLevels := [sampleUnknownLevel] }

def sampleUnknownInfo : TcbInfo :=
  { sampleInfo with
    infoBody := ((sampleUnknownDocument.member? (str "tcbInfo")).map Json.render).getD []
    tdxModuleIdentities := [sampleUnknownIdentity] }

theorem sampleUnknown_selected :
    SelectsUnknownStatus sampleUnknownInfo
      (launchSvns QuoteLayout.sampleUpToDate.quote samplePckCertificate) := by
  have hplatform : (launchSvns QuoteLayout.sampleUpToDate.quote samplePckCertificate).Satisfies
      (sampleParsedLevel 1 (str "UpToDate") []) := by decide +kernel
  refine ⟨⟨_, List.mem_cons_self .., hplatform⟩, some sampleUnknownLevel, ?_,
    sampleUnknownLevel, rfl, by decide +kernel⟩
  unfold SelectsModule launchSvns PlatformSvns.ofQuote
  simp only
  rw [if_neg (by decide +kernel)]
  refine ⟨sampleUnknownIdentity, sampleUnknownLevel, by decide +kernel, rfl,
    List.mem_singleton.mpr rfl, by decide +kernel, fun l hl _ => ?_⟩
  rw [List.mem_singleton.mp hl]

/-- All checks pass and a level of each kind is there, and still the status is
    `STATUS_TCB_NOT_SUPPORTED`. -/
theorem unknownStatus_notSupported :
    TcbInfo.parse sampleUnknownDocuments sampleUnknownDocument.render = .ok sampleUnknownInfo ∧
    EnclaveIdentity.parse sampleUnknownDocuments sampleIdentityDocument.render =
      .ok sampleQeIdentity ∧
    ChecksPass sampleCrypto QuoteLayout.sampleUpToDate.quote samplePckCertificate sampleCrl
      sampleUnknownInfo (some sampleQeIdentity) ∧
    (verify sampleCrypto QuoteLayout.sampleUpToDate.quote samplePckCertificate sampleCrl
      sampleUnknownInfo (some sampleQeIdentity) .initial).1 = .ok .tcbNotSupported ∧
    ¬ TellsUnknownStatus sampleCrypto QuoteLayout.sampleUpToDate.quote samplePckCertificate
      sampleCrl sampleUnknownInfo (some sampleQeIdentity) .initial := by
  have hchecks : ChecksPass sampleCrypto QuoteLayout.sampleUpToDate.quote samplePckCertificate
      sampleCrl sampleUnknownInfo (some sampleQeIdentity) :=
    ⟨by decide +kernel, by decide +kernel⟩
  have hstatus : (verify sampleCrypto QuoteLayout.sampleUpToDate.quote samplePckCertificate
      sampleCrl sampleUnknownInfo (some sampleQeIdentity) .initial).1 = .ok .tcbNotSupported := by
    decide +kernel
  refine ⟨by decide +kernel, by decide +kernel, hchecks, hstatus, fun h => ?_⟩
  rw [h.unrecognized hchecks sampleUnknown_selected] at hstatus
  cases hstatus

/-- With known statuses only, the verdict tells the two apart. -/
theorem tellsUnknownStatus_iff_sample :
    TellsUnknownStatus sampleCrypto QuoteLayout.sampleUpToDate.quote samplePckCertificate sampleCrl
      sampleInfo (some sampleQeIdentity) .initial := by
  have hidentity : ∀ i ∈ some sampleQeIdentity,
      ∃ text, EnclaveIdentity.parse sampleDocuments text = .ok i := by
    intro i hi
    rw [← Option.mem_some_iff.mp hi]
    exact ⟨_, sampleQeIdentity_parse⟩
  have hwf : ∀ i ∈ some sampleQeIdentity, i.WellFormed := by
    intro i hi
    obtain ⟨_, hparse⟩ := hidentity i hi
    exact EnclaveIdentity.parse_wellFormed hparse
  have hknown : ∀ teeTcbSvn, tdxEvaluation sampleInfo samplePckCertificate
      QuoteLayout.sampleUpToDate.quote (some sampleQeIdentity) teeTcbSvn ≠
        .error .tcbNotSupported →
      ¬ SelectsUnknownStatus sampleInfo (.ofQuote samplePckCertificate
        QuoteLayout.sampleUpToDate.quote (some teeTcbSvn)) := by
    intro teeTcbSvn heval hunknown
    exact heval (tdxEvaluation_notSupported (TcbInfo.parse_wellFormed sampleInfo_parse) hwf
      (by decide +kernel) (by decide +kernel) (Or.inr hunknown))
  refine (tellsUnknownStatus_iff (by decide +kernel) sampleInfo_parse (by decide +kernel)
    (by decide +kernel) hidentity sampleCrypto samplePckCertificate sampleCrl .initial).mpr ?_
  intro _
  exact ⟨hknown _ (by decide +kernel), fun _ _ => hknown _ (by decide +kernel)⟩

end DcapQvl
