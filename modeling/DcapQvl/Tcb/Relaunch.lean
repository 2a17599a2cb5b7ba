import DcapQvl.Tcb.Check
import DcapQvl.Quote.SignedData

/-!
# Relaunch advice

A quote with a TD report 1.5 is evaluated twice: for the TEE TCB SVN the TD was
launched with and for the current one. A relaunch is advised when the first
evaluation is out of date and the second is not.

Results:
* `tdxEvaluateTCB_ok`: what a successful evaluation merges.
* `relaunch_helps`: relaunch is advised exactly when it leads to a better status.
-/

namespace DcapQvl

open Lib

/-! ## Kinds of statuses -/

/-- The status is one of the out-of-date kinds. -/
def Status.IsOutOfDate (s : Status) : Prop :=
  s = .tcbOutOfDate ∨ s = .tcbOutOfDateConfigurationNeeded

/-- The status advises to relaunch the TD. -/
def Status.IsRelaunchAdvice (s : Status) : Prop :=
  s = .tcbTdRelaunchAdvised ∨ s = .tcbTdRelaunchAdvisedConfigurationNeeded

instance (s : Status) : Decidable s.IsOutOfDate := inferInstanceAs (Decidable (_ ∨ _))

instance (s : Status) : Decidable s.IsRelaunchAdvice := inferInstanceAs (Decidable (_ ∨ _))

/-- The statuses that platform levels are evaluated to. -/
def platformStatuses : List EvaluationStatus := validTcbInfoStatuses.map Prod.snd

/-- What a merge of known statuses yields. -/
theorem convergeTcbStatuses_range {platform : EvaluationStatus} (h : platform ∈ platformStatuses)
    (components : List EvaluationStatus) :
    ¬ (convergeTcbStatuses platform components).IsRelaunchAdvice ∧
    (.revoked ∈ components → convergeTcbStatuses platform components = .tcbRevoked) ∧
    (.outOfDate ∈ components → (convergeTcbStatuses platform components).IsOutOfDate ∨
      convergeTcbStatuses platform components = .tcbRevoked) := by
  have hany : ∀ c : EvaluationStatus, c ∈ components ↔ components.any (· = c) = true := fun c => by
    simp
  rw [hany, hany, convergeTcbStatuses]
  generalize components.any (· = EvaluationStatus.outOfDate) = out
  generalize components.any (· = EvaluationStatus.revoked) = revoked
  rw [platformStatuses, validTcbInfoStatuses] at h
  fin_cases h <;> cases out <;> cases revoked <;> decide

theorem checkForRelaunch_eq {launch current : Status} (h : ¬ launch.IsOutOfDate) :
    checkForRelaunch launch current = launch := by
  rw [checkForRelaunch]
  exact if_neg h

/-- When a relaunch is advised, and with which variant. -/
theorem checkForRelaunch_advice {launch current : Status} (hlaunch : launch.IsTcbVerdict)
    (hnot : ¬ launch.IsRelaunchAdvice) (hcurrent : current.IsTcbVerdict)
    (hnot' : ¬ current.IsRelaunchAdvice) :
    ((checkForRelaunch launch current).IsRelaunchAdvice ↔
      launch.IsOutOfDate ∧ ¬ current.IsOutOfDate ∧ current ≠ .tcbRevoked) ∧
    ((checkForRelaunch launch current).IsRelaunchAdvice →
      (checkForRelaunch launch current = .tcbTdRelaunchAdvisedConfigurationNeeded ↔
        isConfigurationNeeded launch ∨ isConfigurationNeeded current)) := by
  rw [Status.IsTcbVerdict, statusToTcbStringMap] at hlaunch hcurrent
  fin_cases hlaunch <;> fin_cases hcurrent <;> revert hnot hnot' <;> decide

/-! ## Successful evaluations -/

theorem selectPlatformLevel_status {satisfied : TcbLevel → Except Exn Bool}
    {tcbLevels : List TcbLevel} {platform : SelectedLevel}
    (h : selectPlatformLevel satisfied tcbLevels = .ok platform) (hp : platform.status ≠ .notSupported) :
    platform.status ∈ platformStatuses := by
  obtain ⟨found, _, h⟩ := bind_eq_ok.mp h
  cases found with
  | none =>
    cases h
    exact absurd rfl hp
  | some tcbLevel =>
    obtain ⟨status, hstatus, h⟩ := bind_eq_ok.mp h
    cases h
    rw [mapToEvaluationStatusOrThrow] at hstatus
    split at hstatus
    · next name hlookup =>
      cases hstatus
      obtain ⟨before, after, hmem, _⟩ := List.lookup_eq_some_iff.mp hlookup
      rw [platformStatuses, hmem, List.map_append, List.map_cons]
      exact List.mem_append_right _ (List.mem_cons_self ..)
    · cases hstatus

theorem applyQeIdentity_status {qeIdentity : Option EnclaveIdentity} {qeSvn : UInt16}
    {components result : ComponentLevels}
    (h : applyQeIdentity qeIdentity qeSvn components = .ok result) :
    ∀ i ∈ qeIdentity, ∃ l, i.getTcbLevel qeSvn.toUInt32 = .ok l ∧
      statusOfQe l.tcbStatus ∈ result.statuses := by
  intro i hi
  cases hi
  obtain ⟨l, hl, h⟩ := bind_eq_ok.mp h
  rw [mapToEvaluationStatusOrThrow_qe] at h
  cases h
  exact ⟨l, hl, List.mem_append_right _ (List.mem_singleton_self _)⟩

section Evaluation

variable {tcbComponents teeTcbSvns : Bytes} {pceSvn : UInt32} {qeSvn : UInt16} {tcbInfo : TcbInfo}
  {qeIdentity : Option EnclaveIdentity} {out evaluation : TcbEvaluation}

/-- A successful evaluation merges the status of a platform level with those of the
    components, which include that of the QE level. -/
theorem tdxEvaluateTCB_ok (h : evaluationOrStatus (tdxEvaluateTCB tcbComponents pceSvn qeSvn
      teeTcbSvns tcbInfo qeIdentity out) = .ok evaluation) :
    ∃ platform ∈ platformStatuses, ∃ components : List EvaluationStatus,
      evaluation.tcbStatus = convergeTcbStatuses platform components ∧
      ∀ i ∈ qeIdentity, ∃ l, i.getTcbLevel qeSvn.toUInt32 = .ok l ∧
        statusOfQe l.tcbStatus ∈ components := by
  have hnot : ∀ e : TcbEvaluation,
      evaluationOrStatus (.tcbNotSupported, e) ≠ .ok evaluation := fun e h => by
    rw [evaluationOrStatus, if_pos (show Status.tcbNotSupported ≠ .ok by decide)] at h
    cases h
  unfold tdxEvaluateTCB catchNotSupported at h
  split at h
  · next result hbody =>
    obtain ⟨major, _, hbody⟩ := bind_eq_ok.mp hbody
    obtain ⟨platform, hplatform, hbody⟩ := bind_eq_ok.mp hbody
    by_cases hp : platform.status = .notSupported
    · rw [if_pos hp] at hbody
      cases hbody
      exact absurd h (hnot out)
    · rw [if_neg hp] at hbody
      obtain ⟨tdxModule, _, hbody⟩ := bind_eq_ok.mp hbody
      cases tdxModule with
      | none =>
        cases hbody
        exact absurd h (hnot out)
      | some levels =>
        obtain ⟨components, hcomponents, hbody⟩ := bind_eq_ok.mp hbody
        cases hbody
        cases h
        exact ⟨_, selectPlatformLevel_status hplatform hp, _, rfl,
          applyQeIdentity_status hcomponents⟩
  · exact absurd h (hnot out)

end Evaluation

/-! ## Relaunching -/

/-- The quote with another TEE TCB SVN in its TD report 1.5. -/
def Quote.withTeeTcbSvn (quote : Quote) (teeTcbSvn : ByteArr 16) : Quote :=
  { quote with
    tdReport15 := { quote.tdReport15 with teeTcbSvn }
    tdReport15Ex := { quote.tdReport15Ex with teeTcbSvn } }

/-- The quote that the TD would have after a relaunch. -/
def Quote.relaunched (quote : Quote) : Quote := quote.withTeeTcbSvn quote.getTeeTcbSvn2

/-- A quote with a TD report 1.5, as the parser leaves it. -/
structure Quote.HasTdReport15 (quote : Quote) : Prop where
  version : quote.header.version = quoteVersion5
  teeType : quote.header.teeType = teeTypeTdx
  bodyType : quote.body.bodyType = bodyTdReport15Type ∨
    quote.body.bodyType = bodyTdReport15ExType

theorem Accepts.hasTdReport15 {raw : Bytes} (hsmall : raw.length < 2 ^ 32) {q quote : Quote}
    (h : Accepts raw q quote) (hbody : quote.body.bodyType = bodyTdReport15Type ∨
      quote.body.bodyType = bodyTdReport15ExType) : quote.HasTdReport15 := by
  obtain ⟨l, rfl, rfl⟩ := h.exists_layout hsmall
  rcases l.report_cases with ⟨r, -, -, -, hb⟩ | ⟨r, -, -, -, hb⟩ | ⟨r, -, ht, -, hv, hb⟩ |
    ⟨r, -, ht, -, hv, hb⟩
  · rcases hbody with h3 | h4
    · rw [h3] at hb
      exact absurd hb (by decide)
    · rw [h4] at hb
      exact absurd hb (by decide)
  · rcases hbody with h3 | h4
    · rw [h3] at hb
      exact absurd (hb.imp And.right And.right) (by decide)
    · rw [h4] at hb
      exact absurd (hb.imp And.right And.right) (by decide)
  · exact ⟨hv, ht, Or.inl hb⟩
  · exact ⟨hv, ht, Or.inr hb⟩

section Relaunch

variable {quote : Quote} {tcbInfo : TcbInfo} {pckCert : PckCertificate}
  {enclaveIdentity : Option EnclaveIdentity} {info : VerificationCollateralInfo}
  {teeTcbSvn : ByteArr 16} {evaluation : TcbEvaluation}

/-- The status of an evaluation is a verdict, and none of the relaunch advices. -/
theorem tdxEvaluation_status
    (h : tdxEvaluation tcbInfo pckCert quote enclaveIdentity teeTcbSvn = .ok evaluation) :
    evaluation.tcbStatus.IsTcbVerdict ∧ ¬ evaluation.tcbStatus.IsRelaunchAdvice := by
  obtain ⟨platform, hplatform, components, hstatus, _⟩ := tdxEvaluateTCB_ok h
  refine ⟨tdxEvaluateTCB_evaluatesTo.verdict h, ?_⟩
  rw [hstatus]
  exact (convergeTcbStatuses_range hplatform components).1

/-- The QE level of an evaluation that is neither out of date nor revoked. -/
theorem tdxEvaluation_qe
    (h : tdxEvaluation tcbInfo pckCert quote enclaveIdentity teeTcbSvn = .ok evaluation)
    (hout : ¬ evaluation.tcbStatus.IsOutOfDate) (hrevoked : evaluation.tcbStatus ≠ .tcbRevoked) :
    ∀ i ∈ enclaveIdentity, ∃ l, i.getTcbLevel quote.qeReport.isvSvn.toUInt32 = .ok l ∧
      l.tcbStatus ≠ .outOfDate ∧ l.tcbStatus ≠ .revoked := by
  obtain ⟨platform, hplatform, components, hstatus, hqe⟩ := tdxEvaluateTCB_ok h
  obtain ⟨-, himpRevoked, himpOut⟩ := convergeTcbStatuses_range hplatform components
  intro i hi
  obtain ⟨l, hl, hmem⟩ := hqe i hi
  refine ⟨l, hl, fun hlevel => ?_, fun hlevel => ?_⟩
  · rw [hlevel] at hmem
    rcases himpOut hmem with h | h
    · exact hout (hstatus ▸ h)
    · exact hrevoked (hstatus ▸ h)
  · rw [hlevel] at hmem
    exact hrevoked (hstatus.trans (himpRevoked hmem))

theorem quoteEvaluations_td15 (hquote : quote.HasTdReport15) :
    quoteEvaluations tcbInfo pckCert quote enclaveIdentity = (do
      let launch ← tdxEvaluation tcbInfo pckCert quote enclaveIdentity quote.getTeeTcbSvn
      let current ← tdxEvaluation tcbInfo pckCert quote enclaveIdentity quote.getTeeTcbSvn2
      pure ({ launch with tcbStatus := checkForRelaunch launch.tcbStatus current.tcbStatus },
        current)) := by
  have hbody : quote.body.bodyType ≥ bodyTdReport15Type := by
    rcases hquote.bodyType with h | h <;> rw [h] <;> decide
  rw [quoteEvaluations_tdx hquote.teeType]
  simp only [if_pos hbody]

theorem relaunched_getTeeTcbSvn (hquote : quote.HasTdReport15) :
    quote.relaunched.getTeeTcbSvn = quote.getTeeTcbSvn2 := by
  have hversion : quote.relaunched.header.version = quoteVersion5 := hquote.version
  rcases hquote.bodyType with h | h
  · rw [(gettersRead_td15 hversion h).teeTcbSvn, Quote.getTeeTcbSvn2, if_pos h]
    rw [Quote.relaunched, Quote.withTeeTcbSvn, Quote.getTeeTcbSvn2, if_pos h]
  · rw [(gettersRead_td15Ex hversion h).teeTcbSvn]
    rfl

theorem relaunched_getTeeTcbSvn2 : quote.relaunched.getTeeTcbSvn2 = quote.getTeeTcbSvn2 := rfl

/-- The evaluations of a relaunched quote are both the current one. -/
theorem quoteEvaluations_relaunched (hquote : quote.HasTdReport15) {current : TcbEvaluation}
    (h : tdxEvaluation tcbInfo pckCert quote enclaveIdentity quote.getTeeTcbSvn2 = .ok current)
    (hout : ¬ current.tcbStatus.IsOutOfDate) :
    quoteEvaluations tcbInfo pckCert quote.relaunched enclaveIdentity = .ok (current, current) := by
  have hrelaunched : quote.relaunched.HasTdReport15 :=
    ⟨hquote.version, hquote.teeType, hquote.bodyType⟩
  have heval : tdxEvaluation tcbInfo pckCert quote.relaunched enclaveIdentity
      quote.getTeeTcbSvn2 = .ok current := h
  rw [quoteEvaluations_td15 hrelaunched, relaunched_getTeeTcbSvn hquote, relaunched_getTeeTcbSvn2,
    heval, ok_bind, ok_bind, checkForRelaunch_eq hout]
  rfl

/-- The status that a check returns is that of the launch evaluation. -/
theorem checkTcbLevel_status {status : Status} :
    (checkTcbLevel tcbInfo pckCert quote enclaveIdentity info).1 = .ok status ↔
      (∃ launch current, quoteEvaluations tcbInfo pckCert quote enclaveIdentity =
        .ok (launch, current) ∧ launch.tcbStatus = status) ∨
      quoteEvaluations tcbInfo pckCert quote enclaveIdentity = .error status := by
  cases h : quoteEvaluations tcbInfo pckCert quote enclaveIdentity with
  | error e =>
    rw [checkTcbLevel_of_error h]
    simp
  | ok evaluations =>
    obtain ⟨launch, current⟩ := evaluations
    obtain ⟨_, _, _, _, hcheck⟩ := @checkTcbLevel_of_evaluations _ _ _ _ info _ _ h
    rw [hcheck]
    simp

end Relaunch

/-- **A relaunch is advised only when it helps.** If the check of a quote with a TD
    report 1.5 advises a relaunch, then the check of the relaunched quote returns a
    status that is not out of date, revoked or a relaunch advice, the QE level is
    neither out of date nor revoked, the two SVNs differ, and the variant says
    whether a configuration is needed. A launch that is out of date with a current
    status that is neither out of date nor revoked leads to the advice. -/
theorem relaunch_helps {raw : Bytes} (hsmall : raw.length < 2 ^ 32) {q quote : Quote}
    (h : Accepts raw q quote)
    (hbody : quote.body.bodyType = bodyTdReport15Type ∨
      quote.body.bodyType = bodyTdReport15ExType)
    (tcbInfo : TcbInfo) (pckCert : PckCertificate) (enclaveIdentity : Option EnclaveIdentity)
    (info : VerificationCollateralInfo) :
    let evaluation := tdxEvaluation tcbInfo pckCert quote enclaveIdentity
    (∀ status, (checkTcbLevel tcbInfo pckCert quote enclaveIdentity info).1 = .ok status →
      status.IsRelaunchAdvice →
      (∃ s, (checkTcbLevel tcbInfo pckCert quote.relaunched enclaveIdentity info).1 = .ok s ∧
        ¬ s.IsOutOfDate ∧ s ≠ .tcbRevoked ∧ ¬ s.IsRelaunchAdvice) ∧
      (∀ i ∈ enclaveIdentity, ∃ l, i.getTcbLevel quote.qeReport.isvSvn.toUInt32 = .ok l ∧
        l.tcbStatus ≠ .outOfDate ∧ l.tcbStatus ≠ .revoked) ∧
      quote.getTeeTcbSvn ≠ quote.getTeeTcbSvn2 ∧
      ∃ launch current, evaluation quote.getTeeTcbSvn = .ok launch ∧
        evaluation quote.getTeeTcbSvn2 = .ok current ∧
        (status = .tcbTdRelaunchAdvisedConfigurationNeeded ↔
          isConfigurationNeeded launch.tcbStatus ∨ isConfigurationNeeded current.tcbStatus)) ∧
    ∀ launch current, evaluation quote.getTeeTcbSvn = .ok launch →
      evaluation quote.getTeeTcbSvn2 = .ok current → launch.tcbStatus.IsOutOfDate →
      ¬ current.tcbStatus.IsOutOfDate → current.tcbStatus ≠ .tcbRevoked →
      ∃ status, (checkTcbLevel tcbInfo pckCert quote enclaveIdentity info).1 = .ok status ∧
        status.IsRelaunchAdvice := by
  have hquote := h.hasTdReport15 hsmall hbody
  intro evaluation
  refine ⟨fun status hstatus hadvice => ?_, fun launch current hl hc hout hnot hrevoked => ?_⟩
  · rcases checkTcbLevel_status.mp hstatus with ⟨launch', current, heval, rfl⟩ | herror
    · rw [quoteEvaluations_td15 hquote] at heval
      obtain ⟨launch, hl, heval⟩ := bind_eq_ok.mp heval
      obtain ⟨_, hc, heval⟩ := bind_eq_ok.mp heval
      cases heval
      obtain ⟨hlv, hln⟩ := tdxEvaluation_status hl
      obtain ⟨hcv, hcn⟩ := tdxEvaluation_status hc
      obtain ⟨hiff, hvariant⟩ := checkForRelaunch_advice hlv hln hcv hcn
      obtain ⟨hout, hnot, hrevoked⟩ := hiff.mp hadvice
      refine ⟨⟨current.tcbStatus, checkTcbLevel_status.mpr (Or.inl ⟨current, current,
        quoteEvaluations_relaunched hquote hc hnot, rfl⟩), hnot, hrevoked, hcn⟩,
        tdxEvaluation_qe hc hnot hrevoked, fun heq => ?_, launch, current, hl, hc,
        hvariant hadvice⟩
      rw [heq, hc] at hl
      cases hl
      exact hnot hout
    · rcases quoteEvaluations_eq_error herror with rfl | rfl
      · exact absurd hadvice (by decide)
      · exact absurd hadvice (by decide)
  · obtain ⟨hlv, hln⟩ := tdxEvaluation_status hl
    obtain ⟨hcv, hcn⟩ := tdxEvaluation_status hc
    obtain ⟨hiff, _⟩ := checkForRelaunch_advice hlv hln hcv hcn
    refine ⟨checkForRelaunch launch.tcbStatus current.tcbStatus, ?_,
      hiff.mpr ⟨hout, hnot, hrevoked⟩⟩
    refine checkTcbLevel_status.mpr (Or.inl ⟨{ launch with
      tcbStatus := checkForRelaunch launch.tcbStatus current.tcbStatus }, current, ?_, rfl⟩)
    rw [quoteEvaluations_td15 hquote, show tdxEvaluation _ _ _ _ _ = _ from hl,
      show tdxEvaluation _ _ _ _ _ = _ from hc]
    rfl

/-- The SVNs that the TEE TCB SVNs have been raised to. -/
def sampleRaisedSvns : ByteArr 16 := ⟨3 :: 1 :: List.replicate 14 1, rfl⟩

/-- A TDX quote whose TEE TCB SVN has been raised since the launch. -/
def QuoteLayout.sampleTd15 : QuoteLayout where
  header := ⟨5, 2, 0x81, 0, 0, intelQeVendorId, .zero 20⟩
  report := .td15 { TDReport15.zero with
    teeTcbSvn := sampleTeeTcbSvns
    teeTcbSvn2 := sampleRaisedSvns }
  quoteSignature := .zero 64
  attestKey := .zero 64
  qe := .blank { EnclaveReport.zero with isvSvn := 5 } 5 (by decide)
  slack := []
  trailing := []
  report_allowed := rfl
  keyType_eq := rfl
  teeType_eq := rfl
  vendor_eq := rfl
  authData_lt := by decide +kernel

/-- It is advised to relaunch, and the relaunched TD is up to date. -/
theorem relaunch_helps_sample :
    let check quote := (checkTcbLevel sampleInfo samplePckCertificate quote (some sampleQeIdentity)
      .initial).1
    check QuoteLayout.sampleTd15.quote = .ok .tcbTdRelaunchAdvised ∧
      check QuoteLayout.sampleTd15.quote.relaunched = .ok .ok ∧
      ∃ s, check QuoteLayout.sampleTd15.quote.relaunched = .ok s ∧ ¬ s.IsOutOfDate ∧
        s ≠ .tcbRevoked ∧ ¬ s.IsRelaunchAdvice := by
  intro check
  have hadvice : check QuoteLayout.sampleTd15.quote = .ok .tcbTdRelaunchAdvised := by
    decide +kernel
  have hsmall : QuoteLayout.sampleTd15.bytes.length < 2 ^ 32 := by decide +kernel
  refine ⟨hadvice, by decide +kernel, ?_⟩
  exact ((relaunch_helps hsmall (accepts_layout _ hsmall (Quote.initial 0)) (Or.inl rfl) sampleInfo
    samplePckCertificate (some sampleQeIdentity) .initial).1 _ hadvice (Or.inl rfl)).1

end DcapQvl
