import DcapQvl.Quote.Quote
import DcapQvl.Tcb.Collateral
import DcapQvl.Tcb.Selection
import DcapQvl.X509.SgxExtensions

/-!
# The TCB level check

Models of `Verifiers/Checks/TcbLevelCheck.cpp` and `TDRelaunchCheck.cpp`. A check
returns its status, or the exception it throws, together with the collateral
information as it leaves it.

Results:
* `sgxEvaluateTCB_evaluatesTo`, `tdxEvaluateTCB_evaluatesTo`: a successful evaluation
  has a verdict as its status.
* `checkTcbLevel_eq`: the check is two evaluations and a record of them.
* `checkTcbLevel_of_evaluations`, `checkTcbLevel_of_error`: what it returns and records.
-/

namespace DcapQvl

open Lib

/-! ## Relaunch -/

/-- `isConfigurationNeeded(status)`. -/
def isConfigurationNeeded : Status → Bool
  | .tcbConfigurationNeeded
  | .tcbOutOfDateConfigurationNeeded
  | .tcbConfigurationAndSwHardeningNeeded
  | .tcbTdRelaunchAdvisedConfigurationNeeded => true
  | _ => false

/-- `checkForRelaunch(launchTcbStatus, currentTcbStatus)`. -/
def checkForRelaunch (launchTcbStatus currentTcbStatus : Status) : Status :=
  if launchTcbStatus = .tcbOutOfDate ∨ launchTcbStatus = .tcbOutOfDateConfigurationNeeded then
    if currentTcbStatus = .ok ∨ currentTcbStatus = .tcbSwHardeningNeeded ∨
        currentTcbStatus = .tcbConfigurationNeeded ∨
        currentTcbStatus = .tcbConfigurationAndSwHardeningNeeded then
      if isConfigurationNeeded launchTcbStatus || isConfigurationNeeded currentTcbStatus then
        .tcbTdRelaunchAdvisedConfigurationNeeded
      else .tcbTdRelaunchAdvised
    else launchTcbStatus
  else launchTcbStatus

/-! ## The check -/

/-- A status or an exception, and the collateral information. -/
abbrev Checked := Except Exn Status × VerificationCollateralInfo

/-- What the local variables of an evaluation hold before it; they are only read
    after it has written them. -/
def TcbEvaluation.unset : TcbEvaluation := { tcbStatus := .ok, tcbDate := 0, advisoryIds := [] }

/-- `addCurrentInfo(…, printTCBStatus(tcbStatus))`; `printTCBStatus` is called first. -/
def addCurrentEvaluation (evaluation : TcbEvaluation) (info : VerificationCollateralInfo)
    (next : VerificationCollateralInfo → Checked) : Checked :=
  match printTCBStatus evaluation.tcbStatus with
  | .error e => (.error e, info)
  | .ok tcbStatus => next (info.addCurrentInfo evaluation.tcbDate evaluation.advisoryIds tcbStatus)

/-- What follows the branches of `checkTcbLevel`. -/
def addLaunchEvaluation (tcbInfo : TcbInfo) (launch : TcbEvaluation)
    (info : VerificationCollateralInfo) : Checked :=
  match printTCBStatus launch.tcbStatus with
  | .error e => (.error e, info)
  | .ok tcbStatus =>
    (.ok launch.tcbStatus,
      ((info.addLaunchInfo launch.tcbDate launch.advisoryIds tcbStatus).addTcbInfoData
        tcbInfo).setFilled)

/-- `checkTcbLevel(tcbInfo, pckCert, quote, enclaveIdentity, verificationCollateralInfo)`. -/
def checkTcbLevel (tcbInfo : TcbInfo) (pckCert : PckCertificate) (quote : Quote)
    (enclaveIdentity : Option EnclaveIdentity) (info : VerificationCollateralInfo) : Checked :=
  let tcb := pckCert.members.tcb
  let qeSvn := quote.qeReport.isvSvn
  if quote.header.teeType = teeTypeSgx then
    let (evaluationStatus, launch) := sgxEvaluateTCB tcb.cpuSvnComponents.toList tcb.pceSvn qeSvn
      tcbInfo enclaveIdentity .unset
    if evaluationStatus ≠ .ok then (.ok evaluationStatus, info)
    else addCurrentEvaluation launch info (addLaunchEvaluation tcbInfo launch)
  else if quote.header.teeType = teeTypeTdx then
    let (evaluationStatus, launch) := tdxEvaluateTCB tcb.cpuSvnComponents.toList tcb.pceSvn qeSvn
      quote.getTeeTcbSvn.toList tcbInfo enclaveIdentity .unset
    if evaluationStatus ≠ .ok then (.ok evaluationStatus, info)
    else if quote.body.bodyType ≥ bodyTdReport15Type then
      let (evaluationStatus2, current) := tdxEvaluateTCB tcb.cpuSvnComponents.toList tcb.pceSvn
        qeSvn quote.getTeeTcbSvn2.toList tcbInfo enclaveIdentity .unset
      if evaluationStatus2 ≠ .ok then (.ok evaluationStatus2, info)
      else
        let launch :=
          { launch with tcbStatus := checkForRelaunch launch.tcbStatus current.tcbStatus }
        addCurrentEvaluation current info (addLaunchEvaluation tcbInfo launch)
    else addCurrentEvaluation launch info (addLaunchEvaluation tcbInfo launch)
  else (.ok .unsupportedQuoteFormat, info)

/-! ## Verdicts -/

/-- A merged status is a verdict, when the platform has a status. -/
theorem convergeTcbStatuses_verdict {platform : EvaluationStatus} (h : platform ≠ .notSupported)
    (components : List EvaluationStatus) :
    (convergeTcbStatuses platform components).IsTcbVerdict := by
  rw [convergeTcbStatuses]
  generalize components.any (· = EvaluationStatus.outOfDate) = out
  generalize components.any (· = EvaluationStatus.revoked) = revoked
  cases platform <;> cases out <;> cases revoked <;> first | exact absurd rfl h | decide

/-- What an evaluation returns: a verdict, or that nothing matches and the outputs as they were. -/
def EvaluatesTo (out : TcbEvaluation) (result : Status × TcbEvaluation) : Prop :=
  (result.1 = .ok ∧ result.2.tcbStatus.IsTcbVerdict) ∨ result = (.tcbNotSupported, out)

theorem catchNotSupported_evaluatesTo {out : TcbEvaluation}
    {body : Except Exn (Status × TcbEvaluation)} (h : ∀ r, body = .ok r → EvaluatesTo out r) :
    EvaluatesTo out (catchNotSupported out body) := by
  cases body with
  | error e => exact Or.inr rfl
  | ok r => exact h r rfl

section Evaluations

variable {tcbComponents teeTcbSvns : Bytes} {pceSvn : UInt32} {qeSvn : UInt16} {tcbInfo : TcbInfo}
  {qeIdentity : Option EnclaveIdentity} {out : TcbEvaluation}

theorem sgxEvaluateTCB_evaluatesTo :
    EvaluatesTo out (sgxEvaluateTCB tcbComponents pceSvn qeSvn tcbInfo qeIdentity out) := by
  refine catchNotSupported_evaluatesTo fun r h => ?_
  obtain ⟨platform, _, h⟩ := bind_eq_ok.mp h
  by_cases hp : platform.status = .notSupported
  · rw [if_pos hp] at h
    cases h
    exact Or.inr rfl
  · rw [if_neg hp] at h
    obtain ⟨components, _, h⟩ := bind_eq_ok.mp h
    cases h
    exact Or.inl ⟨rfl, convergeTcbStatuses_verdict hp _⟩

theorem tdxEvaluateTCB_evaluatesTo :
    EvaluatesTo out
      (tdxEvaluateTCB tcbComponents pceSvn qeSvn teeTcbSvns tcbInfo qeIdentity out) := by
  refine catchNotSupported_evaluatesTo fun r h => ?_
  obtain ⟨major, _, h⟩ := bind_eq_ok.mp h
  obtain ⟨platform, _, h⟩ := bind_eq_ok.mp h
  by_cases hp : platform.status = .notSupported
  · rw [if_pos hp] at h
    cases h
    exact Or.inr rfl
  · rw [if_neg hp] at h
    obtain ⟨tdxModule, _, h⟩ := bind_eq_ok.mp h
    cases tdxModule with
    | none =>
      cases h
      exact Or.inr rfl
    | some levels =>
      obtain ⟨components, _, h⟩ := bind_eq_ok.mp h
      cases h
      exact Or.inl ⟨rfl, convergeTcbStatuses_verdict hp _⟩

end Evaluations

theorem checkForRelaunch_verdict {launch current : Status} (h : launch.IsTcbVerdict) :
    (checkForRelaunch launch current).IsTcbVerdict := by
  rw [checkForRelaunch]
  split_ifs
  · decide
  · decide
  · exact h
  · exact h

/-! ## The check as two evaluations -/

/-- The outputs of an evaluation, or its status when it fails. -/
def evaluationOrStatus (result : Status × TcbEvaluation) : Except Status TcbEvaluation :=
  if result.1 ≠ .ok then .error result.1 else .ok result.2

/-- The launch and the current evaluation of a quote, or the status of the one that fails. -/
def quoteEvaluations (tcbInfo : TcbInfo) (pckCert : PckCertificate) (quote : Quote)
    (enclaveIdentity : Option EnclaveIdentity) : Except Status (TcbEvaluation × TcbEvaluation) :=
  let tcb := pckCert.members.tcb
  let qeSvn := quote.qeReport.isvSvn
  if quote.header.teeType = teeTypeSgx then do
    let launch ← evaluationOrStatus (sgxEvaluateTCB tcb.cpuSvnComponents.toList tcb.pceSvn qeSvn
      tcbInfo enclaveIdentity .unset)
    pure (launch, launch)
  else if quote.header.teeType = teeTypeTdx then do
    let launch ← evaluationOrStatus (tdxEvaluateTCB tcb.cpuSvnComponents.toList tcb.pceSvn qeSvn
      quote.getTeeTcbSvn.toList tcbInfo enclaveIdentity .unset)
    if quote.body.bodyType ≥ bodyTdReport15Type then do
      let current ← evaluationOrStatus (tdxEvaluateTCB tcb.cpuSvnComponents.toList tcb.pceSvn
        qeSvn quote.getTeeTcbSvn2.toList tcbInfo enclaveIdentity .unset)
      pure ({ launch with tcbStatus := checkForRelaunch launch.tcbStatus current.tcbStatus },
        current)
    else pure (launch, launch)
  else .error .unsupportedQuoteFormat

theorem EvaluatesTo.verdict {out : TcbEvaluation} {result : Status × TcbEvaluation}
    (h : EvaluatesTo out result) {evaluation : TcbEvaluation}
    (hok : evaluationOrStatus result = .ok evaluation) : evaluation.tcbStatus.IsTcbVerdict := by
  rw [evaluationOrStatus] at hok
  rcases h with ⟨hstatus, hverdict⟩ | h
  · rw [if_neg (not_not.mpr hstatus)] at hok
    cases hok
    exact hverdict
  · rw [h, if_pos (show Status.tcbNotSupported ≠ .ok by decide)] at hok
    cases hok

theorem EvaluatesTo.error {out : TcbEvaluation} {result : Status × TcbEvaluation}
    (h : EvaluatesTo out result) {status : Status}
    (herror : evaluationOrStatus result = .error status) : status = .tcbNotSupported := by
  rw [evaluationOrStatus] at herror
  rcases h with ⟨hstatus, _⟩ | h
  · rw [if_neg (not_not.mpr hstatus)] at herror
    cases herror
  · rw [h, if_pos (show Status.tcbNotSupported ≠ .ok by decide)] at herror
    cases herror
    rfl

/-! ## Evaluations of a quote -/

/-- The evaluation that the check makes of an SGX quote. -/
def sgxEvaluation (tcbInfo : TcbInfo) (pckCert : PckCertificate) (quote : Quote)
    (enclaveIdentity : Option EnclaveIdentity) : Except Status TcbEvaluation :=
  let tcb := pckCert.members.tcb
  evaluationOrStatus (sgxEvaluateTCB tcb.cpuSvnComponents.toList tcb.pceSvn quote.qeReport.isvSvn
    tcbInfo enclaveIdentity .unset)

/-- The evaluation that the check makes of a TDX quote for a TEE TCB SVN. -/
def tdxEvaluation (tcbInfo : TcbInfo) (pckCert : PckCertificate) (quote : Quote)
    (enclaveIdentity : Option EnclaveIdentity) (teeTcbSvn : ByteArr 16) :
    Except Status TcbEvaluation :=
  let tcb := pckCert.members.tcb
  evaluationOrStatus (tdxEvaluateTCB tcb.cpuSvnComponents.toList tcb.pceSvn quote.qeReport.isvSvn
    teeTcbSvn.toList tcbInfo enclaveIdentity .unset)

/-- The SVNs that a quote is evaluated with. -/
def PlatformSvns.ofQuote (pckCert : PckCertificate) (quote : Quote)
    (teeTcbSvns : Option (ByteArr 16)) : PlatformSvns :=
  { tcbComponents := pckCert.members.tcb.cpuSvnComponents, pceSvn := pckCert.members.tcb.pceSvn
    qeSvn := quote.qeReport.isvSvn, teeTcbSvns }

/-- A platform level is satisfied and the selected module level has a status that the
    evaluation does not know. -/
def SelectsUnknownStatus (info : TcbInfo) (svns : PlatformSvns) : Prop :=
  (∃ l ∈ info.tcbLevels, svns.Satisfies l) ∧
    ∃ level, SelectsModule info svns level ∧ ∃ l ∈ level, l.tcbStatus ∉ moduleStatuses

section Levels

variable {tcbInfo : TcbInfo} {pckCert : PckCertificate} {quote : Quote}
  {enclaveIdentity : Option EnclaveIdentity} {evaluation : TcbEvaluation}

theorem quoteEvaluations_sgx (h : quote.header.teeType = teeTypeSgx) :
    quoteEvaluations tcbInfo pckCert quote enclaveIdentity = (do
      let launch ← sgxEvaluation tcbInfo pckCert quote enclaveIdentity
      pure (launch, launch)) := by
  unfold quoteEvaluations
  rw [if_pos h]
  rfl

theorem quoteEvaluations_tdx (h : quote.header.teeType = teeTypeTdx) :
    quoteEvaluations tcbInfo pckCert quote enclaveIdentity = (do
      let launch ← tdxEvaluation tcbInfo pckCert quote enclaveIdentity quote.getTeeTcbSvn
      if quote.body.bodyType ≥ bodyTdReport15Type then do
        let current ← tdxEvaluation tcbInfo pckCert quote enclaveIdentity quote.getTeeTcbSvn2
        pure ({ launch with tcbStatus := checkForRelaunch launch.tcbStatus current.tcbStatus },
          current)
      else pure (launch, launch)) := by
  unfold quoteEvaluations
  rw [if_neg (by rw [h]; decide), if_pos h]
  rfl

variable
  (hinfo : tcbInfo.WellFormed) (hidentity : ∀ i ∈ enclaveIdentity, i.WellFormed)
include hinfo hidentity

/-- A successful evaluation of an SGX quote is that of the selected levels. -/
theorem sgxEvaluation_ok
    (h : sgxEvaluation tcbInfo pckCert quote enclaveIdentity = .ok evaluation) :
    ∃ s, Selects tcbInfo enclaveIdentity (.ofQuote pckCert quote none) s ∧
      s.tdxModule = none ∧ evaluation = s.evaluation := by
  have heval : Evaluates tcbInfo enclaveIdentity (.ofQuote pckCert quote none) .unset _ :=
    sgxEvaluateTCB_eq hinfo hidentity rfl
  by_cases hs : Selectable tcbInfo enclaveIdentity (.ofQuote pckCert quote none)
  · obtain ⟨s, hs⟩ := (selectable_iff hinfo hidentity).mp hs
    have hresult : sgxEvaluation tcbInfo pckCert quote enclaveIdentity = .ok s.evaluation :=
      congrArg evaluationOrStatus (heval.selected s hs)
    rw [hresult] at h
    exact ⟨s, hs, hs.2.1, (Except.ok.inj h).symm⟩
  · have hresult : sgxEvaluation tcbInfo pckCert quote enclaveIdentity = .error .tcbNotSupported :=
      congrArg evaluationOrStatus (heval.unchanged hs)
    rw [hresult] at h
    cases h

variable (hversion : tcbInfo.version = versionV3) (hid : tcbInfo.id = tdxId)
  {teeTcbSvn : ByteArr 16}
include hversion hid

theorem tdxEvaluation_selected {s : Selection}
    (hs : Selects tcbInfo enclaveIdentity (.ofQuote pckCert quote (some teeTcbSvn)) s)
    (hstatus : ∀ l ∈ s.tdxModule, l.tcbStatus ∈ moduleStatuses) :
    tdxEvaluation tcbInfo pckCert quote enclaveIdentity teeTcbSvn = .ok s.evaluation := by
  exact congrArg evaluationOrStatus (tdxEvaluateTCB_selected hinfo hidentity rfl hversion hid hs
    hstatus)

theorem tdxEvaluation_notSupported
    (h : ¬ Selectable tcbInfo enclaveIdentity (.ofQuote pckCert quote (some teeTcbSvn)) ∨
      SelectsUnknownStatus tcbInfo (.ofQuote pckCert quote (some teeTcbSvn))) :
    tdxEvaluation tcbInfo pckCert quote enclaveIdentity teeTcbSvn = .error .tcbNotSupported := by
  rcases h with h | ⟨hplatform, level, hmodule, hstatus⟩
  · exact congrArg evaluationOrStatus
      (tdxEvaluateTCB_unselectable hinfo hidentity rfl hversion hid h)
  · exact congrArg evaluationOrStatus
      (tdxEvaluateTCB_unknown hinfo rfl hversion hid hplatform hmodule hstatus)

/-- A successful evaluation of a TDX quote is that of the selected levels. -/
theorem tdxEvaluation_ok
    (h : tdxEvaluation tcbInfo pckCert quote enclaveIdentity teeTcbSvn = .ok evaluation) :
    ∃ s, Selects tcbInfo enclaveIdentity (.ofQuote pckCert quote (some teeTcbSvn)) s ∧
      (∀ l ∈ s.tdxModule, l.tcbStatus ∈ moduleStatuses) ∧ evaluation = s.evaluation := by
  by_cases hs : Selectable tcbInfo enclaveIdentity (.ofQuote pckCert quote (some teeTcbSvn))
  · obtain ⟨s, hs⟩ := (selectable_iff hinfo hidentity).mp hs
    by_cases hstatus : ∀ l ∈ s.tdxModule, l.tcbStatus ∈ moduleStatuses
    · rw [tdxEvaluation_selected hinfo hidentity hversion hid hs hstatus] at h
      exact ⟨s, hs, hstatus, (Except.ok.inj h).symm⟩
    · push Not at hstatus
      have hunknown : SelectsUnknownStatus tcbInfo (.ofQuote pckCert quote (some teeTcbSvn)) :=
        ⟨⟨_, hs.1.1, hs.1.2.1⟩, _, hs.2.1, hstatus⟩
      rw [tdxEvaluation_notSupported hinfo hidentity hversion hid (Or.inr hunknown)] at h
      cases h
  · rw [tdxEvaluation_notSupported hinfo hidentity hversion hid (Or.inl hs)] at h
    cases h

/-- When an evaluation of a TDX quote fails. -/
theorem tdxEvaluation_eq_error :
    tdxEvaluation tcbInfo pckCert quote enclaveIdentity teeTcbSvn = .error .tcbNotSupported ↔
      ¬ Selectable tcbInfo enclaveIdentity (.ofQuote pckCert quote (some teeTcbSvn)) ∨
        SelectsUnknownStatus tcbInfo (.ofQuote pckCert quote (some teeTcbSvn)) := by
  refine ⟨fun h => ?_, tdxEvaluation_notSupported hinfo hidentity hversion hid⟩
  by_cases hs : Selectable tcbInfo enclaveIdentity (.ofQuote pckCert quote (some teeTcbSvn))
  · obtain ⟨s, hs⟩ := (selectable_iff hinfo hidentity).mp hs
    by_cases hstatus : ∀ l ∈ s.tdxModule, l.tcbStatus ∈ moduleStatuses
    · rw [tdxEvaluation_selected hinfo hidentity hversion hid hs hstatus] at h
      cases h
    · push Not at hstatus
      exact Or.inr ⟨⟨_, hs.1.1, hs.1.2.1⟩, _, hs.2.1, hstatus⟩
  · exact Or.inl hs

end Levels

/-! ## What the check returns -/

/-- What the check records of two evaluations. -/
def VerificationCollateralInfo.recorded (info : VerificationCollateralInfo) (tcbInfo : TcbInfo)
    (launch current : TcbEvaluation) (launchName currentName : Bytes) :
    VerificationCollateralInfo :=
  (((info.addCurrentInfo current.tcbDate current.advisoryIds currentName).addLaunchInfo
    launch.tcbDate launch.advisoryIds launchName).addTcbInfoData tcbInfo).setFilled

section Check

variable {tcbInfo : TcbInfo} {pckCert : PckCertificate} {quote : Quote}
  {enclaveIdentity : Option EnclaveIdentity} {info : VerificationCollateralInfo}

theorem checkTcbLevel_eq :
    checkTcbLevel tcbInfo pckCert quote enclaveIdentity info =
      match quoteEvaluations tcbInfo pckCert quote enclaveIdentity with
      | .error status => (.ok status, info)
      | .ok (launch, current) =>
        addCurrentEvaluation current info (addLaunchEvaluation tcbInfo launch) := by
  simp only [checkTcbLevel, quoteEvaluations, evaluationOrStatus]
  split_ifs <;> rfl

/-- The evaluations of a quote have verdicts. -/
theorem quoteEvaluations_verdict {launch current : TcbEvaluation}
    (h : quoteEvaluations tcbInfo pckCert quote enclaveIdentity = .ok (launch, current)) :
    launch.tcbStatus.IsTcbVerdict ∧ current.tcbStatus.IsTcbVerdict := by
  rw [quoteEvaluations] at h
  split_ifs at h with hsgx htdx hbody
  · obtain ⟨_, hlaunch, h⟩ := bind_eq_ok.mp h
    cases h
    have hverdict := sgxEvaluateTCB_evaluatesTo.verdict hlaunch
    exact ⟨hverdict, hverdict⟩
  · obtain ⟨_, hlaunch, h⟩ := bind_eq_ok.mp h
    obtain ⟨_, hcurrent, h⟩ := bind_eq_ok.mp h
    cases h
    exact ⟨checkForRelaunch_verdict (tdxEvaluateTCB_evaluatesTo.verdict hlaunch),
      tdxEvaluateTCB_evaluatesTo.verdict hcurrent⟩
  · obtain ⟨_, hlaunch, h⟩ := bind_eq_ok.mp h
    cases h
    have hverdict := tdxEvaluateTCB_evaluatesTo.verdict hlaunch
    exact ⟨hverdict, hverdict⟩

/-- The status of an evaluation that fails is not a verdict. -/
theorem quoteEvaluations_eq_error {status : Status}
    (h : quoteEvaluations tcbInfo pckCert quote enclaveIdentity = .error status) :
    status = .tcbNotSupported ∨ status = .unsupportedQuoteFormat := by
  rw [quoteEvaluations] at h
  split_ifs at h with hsgx htdx hbody
  · rcases bind_eq_error.mp h with h | ⟨_, _, h⟩
    · exact Or.inl (sgxEvaluateTCB_evaluatesTo.error h)
    · cases h
  · rcases bind_eq_error.mp h with h | ⟨_, _, h⟩
    · exact Or.inl (tdxEvaluateTCB_evaluatesTo.error h)
    · rcases bind_eq_error.mp h with h | ⟨_, _, h⟩
      · exact Or.inl (tdxEvaluateTCB_evaluatesTo.error h)
      · cases h
  · rcases bind_eq_error.mp h with h | ⟨_, _, h⟩
    · exact Or.inl (tdxEvaluateTCB_evaluatesTo.error h)
    · cases h
  · cases h
    exact Or.inr rfl

/-- A quote whose evaluations succeed gets the launch verdict, and both are recorded. -/
theorem checkTcbLevel_of_evaluations {launch current : TcbEvaluation}
    (h : quoteEvaluations tcbInfo pckCert quote enclaveIdentity = .ok (launch, current)) :
    ∃ launchName currentName, (launch.tcbStatus, launchName) ∈ statusToTcbStringMap ∧
      (current.tcbStatus, currentName) ∈ statusToTcbStringMap ∧
      checkTcbLevel tcbInfo pckCert quote enclaveIdentity info =
        (.ok launch.tcbStatus, info.recorded tcbInfo launch current launchName currentName) := by
  obtain ⟨hlaunch, hcurrent⟩ := quoteEvaluations_verdict h
  obtain ⟨launchName, hlaunch, hlaunchMem⟩ := printTCBStatus_verdict hlaunch
  obtain ⟨currentName, hcurrent, hcurrentMem⟩ := printTCBStatus_verdict hcurrent
  refine ⟨launchName, currentName, hlaunchMem, hcurrentMem, ?_⟩
  rw [checkTcbLevel_eq, h]
  simp only [addCurrentEvaluation, hcurrent, addLaunchEvaluation, hlaunch]
  rfl

/-- A quote with an evaluation that fails gets its status, and nothing is recorded. -/
theorem checkTcbLevel_of_error {status : Status}
    (h : quoteEvaluations tcbInfo pckCert quote enclaveIdentity = .error status) :
    checkTcbLevel tcbInfo pckCert quote enclaveIdentity info = (.ok status, info) := by
  rw [checkTcbLevel_eq, h]

end Check

end DcapQvl
