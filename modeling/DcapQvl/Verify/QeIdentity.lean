import DcapQvl.Tcb.QeLevel
import DcapQvl.Verify.Guarded

/-!
# Verification with and without a QE identity

The QE identity is optional. It adds a check of the QE report and the level of the QE,
so that it can make a verdict worse or take it away, but never better.

Results:
* `checkQeIdentity_eq`: the check of the identity passes, or is a mismatch.
* `verify_verdict_iff`: when verification returns a verdict, and which.
* `identity_neverImproves`: the two runs compared.
-/

namespace DcapQvl

open Lib QuoteVerifier

/-! ## The check of the identity -/

section Check

variable {Key : Type} {crypto : Crypto Key} {quote : Quote} {pckCert : PckCertificate}
  {crl : CrlStore} {tcbInfo : TcbInfo}

/-- The identity is for the TEE of the quote, and the QE report has its values. -/
def IdentityFits (quote : Quote) (i : EnclaveIdentity) : Prop :=
  i.id = (if quote.header.teeType = teeTypeTdx then .tdQe else .qe) ∧
    MatchesIdentity quote.qeReport.bytes i

theorem checkIdentityTee_eq {i : EnclaveIdentity} (hi : i.WellFormed)
    (htee : quote.header.teeType ∈ allowedTeeTypes) :
    checkIdentityTee quote i =
      returnUnless (i.id = if quote.header.teeType = teeTypeTdx then .tdQe else .qe)
        .qeIdentityMismatch := by
  unfold checkIdentityTee
  rw [allowedTeeTypes, List.mem_cons, List.mem_singleton] at htee
  rcases htee with hsgx | htdx
  · have hne : quote.header.teeType ≠ teeTypeTdx := by
      rw [hsgx]
      decide
    simp only [if_neg hne, if_pos hsgx]
  · simp only [if_pos htdx]
    rw [if_neg (by rw [hi.version_eq]; decide), if_pos (show i.version = 2 from hi.version_eq)]

/-- The status of a QE report with the values of the identity goes on. -/
theorem verifyIsvSvn_continues {i : EnclaveIdentity} (hi : i.WellFormed) (r : EnclaveReport) :
    ∃ status, verifyIsvSvn i r.isvSvn = .ok status ∧ continueWithQeStatus status = .ok () := by
  obtain ⟨hnone, hlevel⟩ := verifyIsvSvn_eq hi r
  by_cases hl : ∃ l, SelectsIdentityLevel r.bytes i l
  · obtain ⟨l, hl⟩ := hl
    obtain ⟨hupToDate, houtOfDate, hrevoked⟩ := hlevel l hl
    rcases hi.levels_status l hl.1 with h | h | h
    · exact ⟨_, hupToDate h, rfl⟩
    · exact ⟨_, houtOfDate h, rfl⟩
    · exact ⟨_, hrevoked h, rfl⟩
  · exact ⟨_, hnone hl, rfl⟩

/-- The check of an identity passes when it fits, and is a mismatch when it does not. -/
theorem checkQeIdentity_eq {i : EnclaveIdentity} (hi : i.WellFormed)
    (htee : quote.header.teeType ∈ allowedTeeTypes) :
    (IdentityFits quote i → checkQeIdentity quote (some i) = .ok ()) ∧
      (¬ IdentityFits quote i →
        checkQeIdentity quote (some i) = .error (.ok .qeIdentityMismatch)) := by
  obtain ⟨hmatch, hmismatch⟩ := EnclaveReportVerifier.verify_eq hi quote.qeReport
  have hcheck : checkQeIdentity quote (some i) = (do
      checkIdentityTee quote i
      let status ← calling (EnclaveReportVerifier.verify i quote.qeReport)
      continueWithQeStatus status) := rfl
  rw [hcheck, checkIdentityTee_eq hi htee]
  constructor
  · rintro ⟨hid, hvalues⟩
    obtain ⟨status, hstatus, hcontinue⟩ := verifyIsvSvn_continues hi quote.qeReport
    rw [returnUnless, if_pos hid, hmatch hvalues, hstatus]
    exact hcontinue
  · intro hnot
    by_cases hid : i.id = if quote.header.teeType = teeTypeTdx then .tdQe else .qe
    · obtain ⟨status, hmem, hstatus⟩ := hmismatch fun hvalues => hnot ⟨hid, hvalues⟩
      rw [returnUnless, if_pos hid, hstatus]
      fin_cases hmem <;> rfl
    · rw [returnUnless, if_neg hid]
      rfl

/-- An identity adds its check at the end of the checks of the collateral. -/
theorem checkCollateral_some (i : EnclaveIdentity) :
    checkCollateral crypto quote pckCert crl tcbInfo (some i) = (do
      checkCollateral crypto quote pckCert crl tcbInfo none
      checkQeIdentity quote (some i)) := by
  unfold checkCollateral
  simp only [bind_assoc]
  rfl

theorem checksPass_some_iff {i : EnclaveIdentity} :
    ChecksPass crypto quote pckCert crl tcbInfo (some i) ↔
      ChecksPass crypto quote pckCert crl tcbInfo none ∧
        checkQeIdentity quote (some i) = .ok () := by
  unfold ChecksPass
  rw [checkCollateral_some]
  constructor
  · rintro ⟨hcollateral, hsignature⟩
    obtain ⟨_, hcollateral, hidentity⟩ := bind_eq_ok.mp hcollateral
    exact ⟨⟨hcollateral, hsignature⟩, hidentity⟩
  · rintro ⟨⟨hcollateral, hsignature⟩, hidentity⟩
    exact ⟨bind_eq_ok.mpr ⟨(), hcollateral, hidentity⟩, hsignature⟩

end Check

/-! ## When there is a verdict -/

section Verdict

variable {Key : Type} {crypto : Crypto Key} {quote : Quote} {pckCert : PckCertificate}
  {crl : CrlStore} {tcbInfo : TcbInfo} {identity : Option EnclaveIdentity}
  {info : VerificationCollateralInfo} (hinfo : tcbInfo.WellFormed)
include hinfo

/-- A verdict is only given for the TEE of the TCB Info. -/
theorem tee_of_verdict {verdict : Status} (hverdict : verdict.IsTcbVerdict)
    (h : (verify crypto quote pckCert crl tcbInfo identity info).1 = .ok verdict) :
    quote.header.teeType = teeTypeSgx ∨
      quote.header.teeType = teeTypeTdx ∧ tcbInfo.version = versionV3 ∧ tcbInfo.id = tdxId := by
  have hchecks := ChecksPass.of_status (Or.inl hverdict) h
  obtain ⟨_, _, hrest⟩ := bind_eq_ok.mp hchecks.1
  obtain ⟨_, htcbInfo, _⟩ := bind_eq_ok.mp hrest
  obtain ⟨_, htee, _⟩ := bind_eq_ok.mp htcbInfo
  by_cases hsgx : quote.header.teeType = teeTypeSgx
  · exact Or.inl hsgx
  · by_cases htdx : quote.header.teeType = teeTypeTdx
    · exact Or.inr ⟨htdx, (checkTee_ok hinfo htee).1 htdx⟩
    · have hevaluations : quoteEvaluations tcbInfo pckCert quote identity =
          .error .unsupportedQuoteFormat := by
        unfold quoteEvaluations
        rw [if_neg hsgx, if_neg htdx]
      rw [verify_eq hchecks, checkTcbLevel_of_error hevaluations] at h
      cases h
      exact absurd hverdict (by decide)

variable (hidentity : ∀ i ∈ identity, i.WellFormed)
  (htee : quote.header.teeType = teeTypeSgx ∨
    quote.header.teeType = teeTypeTdx ∧ tcbInfo.version = versionV3 ∧ tcbInfo.id = tdxId)
include hidentity htee

/-- A verdict is given when the checks pass and all searches select. -/
theorem verify_verdict_iff {verdict : Status} :
    (verify crypto quote pckCert crl tcbInfo identity info).1 = .ok verdict ∧
        verdict.IsTcbVerdict ↔
      ChecksPass crypto quote pckCert crl tcbInfo identity ∧
        ∃ s, QuoteVerdict tcbInfo pckCert quote identity s verdict := by
  rw [← quoteEvaluations_verdict_iff hinfo hidentity htee]
  constructor
  · rintro ⟨h, hverdict⟩
    have hchecks := ChecksPass.of_status (Or.inl hverdict) h
    rw [verify_eq hchecks] at h
    refine ⟨hchecks, (checkTcbLevel_status.mp h).resolve_right fun herror => ?_⟩
    rcases quoteEvaluations_eq_error herror with rfl | rfl
    · exact absurd hverdict (by decide)
    · exact absurd hverdict (by decide)
  · rintro ⟨hchecks, launch, current, heval, rfl⟩
    rw [verify_eq hchecks]
    exact ⟨checkTcbLevel_status.mpr (Or.inl ⟨_, _, heval, rfl⟩), (quoteEvaluations_verdict heval).1⟩

/-- When the checks pass and there is no verdict, the levels are not supported. -/
theorem verify_of_noVerdict (hchecks : ChecksPass crypto quote pckCert crl tcbInfo identity)
    (hnone : ∀ s verdict, ¬ QuoteVerdict tcbInfo pckCert quote identity s verdict) :
    (verify crypto quote pckCert crl tcbInfo identity info).1 = .ok .tcbNotSupported := by
  rw [verify_eq hchecks]
  cases heval : quoteEvaluations tcbInfo pckCert quote identity with
  | ok evaluations =>
    obtain ⟨s, hs⟩ := (quoteEvaluations_verdict_iff hinfo hidentity htee).mp
      ⟨evaluations.1, evaluations.2, heval, rfl⟩
    exact absurd hs (hnone s _)
  | error status =>
    rw [checkTcbLevel_of_error heval]
    rcases quoteEvaluations_eq_error heval with rfl | rfl
    · rfl
    · rcases htee with hsgx | ⟨htdx, _⟩
      · rw [quoteEvaluations_sgx hsgx] at heval
        rcases bind_eq_error.mp heval with h | ⟨_, _, h⟩
        · cases sgxEvaluateTCB_evaluatesTo.error h
        · cases h
      · rw [quoteEvaluations_tdx htdx] at heval
        rcases bind_eq_error.mp heval with h | ⟨_, _, h⟩
        · cases tdxEvaluateTCB_evaluatesTo.error h
        · split_ifs at h
          · rcases bind_eq_error.mp h with h | ⟨_, _, h⟩
            · cases tdxEvaluateTCB_evaluatesTo.error h
            · cases h
          · cases h

end Verdict

/-! ## The two runs -/

/-- The verdict with an identity, whose level for the QE is `qe`, against the one
    without it. -/
structure NeverImproves (launch : Selection) (qe : IdentityTcbLevel) (without withIdentity : Status) :
    Prop where
  status : qe.tcbStatus = .upToDate ∨ qe.tcbStatus = .outOfDate ∨ qe.tcbStatus = .revoked
  upToDate : qe.tcbStatus = .upToDate → withIdentity = without
  revoked : qe.tcbStatus = .revoked → withIdentity = .tcbRevoked
  outOfDate_revoked : qe.tcbStatus = .outOfDate → without = .tcbRevoked →
    withIdentity = .tcbRevoked
  outOfDate : qe.tcbStatus = .outOfDate → without ≠ .tcbRevoked →
    withIdentity.IsOutOfDate ∧
      (withIdentity = .tcbOutOfDateConfigurationNeeded ↔ launch.NeedsConfiguration)
  noRelaunch : qe.tcbStatus = .outOfDate → ¬ withIdentity.IsRelaunchAdvice
  ok : withIdentity = .ok → without = .ok

theorem neverImproves_worsened {launch : Selection} {qe : IdentityTcbLevel} (without : Status)
    (hstatus : qe.tcbStatus = .upToDate ∨ qe.tcbStatus = .outOfDate ∨ qe.tcbStatus = .revoked) :
    NeverImproves launch qe without
      (worsened qe.tcbStatus launch.NeedsConfiguration without) := by
  constructor
  · exact hstatus
  · intro h
    rw [h]
    rfl
  · intro h
    rw [h]
    rfl
  · intro h hrevoked
    rw [h]
    exact if_pos hrevoked
  · intro h hrevoked
    rw [h, worsened_outOfDate hrevoked]
    by_cases hneeds : launch.NeedsConfiguration
    · rw [if_pos hneeds]
      exact ⟨Or.inr rfl, iff_of_true rfl hneeds⟩
    · rw [if_neg hneeds]
      exact ⟨Or.inl rfl, iff_of_false (by decide) hneeds⟩
  · intro h
    rw [h]
    unfold worsened
    dsimp only
    split_ifs <;> decide
  · intro hok
    rcases hstatus with h | h | h
    · rw [h] at hok
      exact hok
    · rw [h] at hok
      unfold worsened at hok
      dsimp only at hok
      split_ifs at hok
    · rw [h] at hok
      cases hok

/-- **An identity never improves the verdict.** A verdict with an identity is the one
    without it, made worse by the level of the QE: unchanged by one that is up to date,
    a revocation by one that is revoked; one that is out of date leaves a revocation,
    and otherwise the launch is out of date, with the need of a configuration exactly
    when its platform level has it. An identity takes a verdict away in two ways: it
    does not fit the QE report, or it has no level for it. -/
theorem identity_neverImproves {Key : Type} {env : JsonEnv} {infoText identityText : Bytes}
    {tcbInfo : TcbInfo} {identity : EnclaveIdentity}
    (hinfo : TcbInfo.parse env infoText = .ok tcbInfo)
    (hidentity : EnclaveIdentity.parse env identityText = .ok identity)
    (crypto : Crypto Key) (quote : Quote) (pckCert : PckCertificate) (crl : CrlStore)
    (info : VerificationCollateralInfo) :
    (∀ verdict,
      (verify crypto quote pckCert crl tcbInfo (some identity) info).1 = .ok verdict →
      verdict.IsTcbVerdict →
        ∃ verdict₀, (verify crypto quote pckCert crl tcbInfo none info).1 = .ok verdict₀ ∧
          verdict₀.IsTcbVerdict ∧ ∃ launch qe,
            Selects tcbInfo (some identity) (.ofQuote pckCert quote (launchTee quote)) launch ∧
              IsQeLevel identity quote qe ∧ NeverImproves launch qe verdict₀ verdict) ∧
    ∀ verdict₀, (verify crypto quote pckCert crl tcbInfo none info).1 = .ok verdict₀ →
      verdict₀.IsTcbVerdict →
      (∀ verdict,
        (verify crypto quote pckCert crl tcbInfo (some identity) info).1 = .ok verdict →
        ¬ verdict.IsTcbVerdict) →
        ((verify crypto quote pckCert crl tcbInfo (some identity) info).1 =
            .ok .qeIdentityMismatch ∧ ¬ IdentityFits quote identity) ∨
          (verify crypto quote pckCert crl tcbInfo (some identity) info).1 =
            .ok .tcbNotSupported ∧ IdentityFits quote identity ∧
            ∀ l ∈ identity.identityTcbLevels, ¬ l.isvSvn ≤ quote.qeReport.isvSvn.toUInt32 := by
  have hinfo := TcbInfo.parse_wellFormed hinfo
  have hi := EnclaveIdentity.parse_wellFormed hidentity
  have hsome : ∀ i ∈ some identity, i.WellFormed := by
    intro i hmem
    cases hmem
    exact hi
  have hnone : ∀ i ∈ (none : Option EnclaveIdentity), i.WellFormed := fun i hmem => nomatch hmem
  constructor
  · intro verdict h hverdict
    have htee := tee_of_verdict hinfo hverdict h
    obtain ⟨hchecks, launch, hlaunch⟩ :=
      (verify_verdict_iff hinfo hsome htee).mp ⟨h, hverdict⟩
    obtain ⟨l, hl, verdict₀, hverdict₀, rfl⟩ := quoteVerdict_withoutQe hi hlaunch
    obtain ⟨h₀, hverdict₀⟩ := (@verify_verdict_iff _ _ _ _ _ _ _ info hinfo hnone htee _).mpr
      ⟨(checksPass_some_iff.mp hchecks).1, _, hverdict₀⟩
    exact ⟨verdict₀, h₀, hverdict₀, launch, l, hlaunch.1.1, hl,
      neverImproves_worsened verdict₀ (hi.levels_status l hl.1)⟩
  · intro verdict₀ h₀ hverdict₀ hno
    have htee := tee_of_verdict hinfo hverdict₀ h₀
    obtain ⟨hchecks₀, s, hs⟩ := (verify_verdict_iff hinfo hnone htee).mp ⟨h₀, hverdict₀⟩
    have hallowed : quote.header.teeType ∈ allowedTeeTypes := by
      rcases htee with h | ⟨h, _⟩ <;> rw [h] <;> decide
    obtain ⟨hfits, hmismatch⟩ := checkQeIdentity_eq hi hallowed
    by_cases hfit : IdentityFits quote identity
    · have hchecks := checksPass_some_iff.mpr ⟨hchecks₀, hfits hfit⟩
      have hnoVerdict : ∀ s verdict,
          ¬ QuoteVerdict tcbInfo pckCert quote (some identity) s verdict := by
        intro s verdict hs
        obtain ⟨h, hverdict⟩ := (@verify_verdict_iff _ _ _ _ _ _ _ info hinfo hsome htee _).mpr
          ⟨hchecks, s, hs⟩
        exact hno verdict h hverdict
      refine Or.inr ⟨verify_of_noVerdict hinfo hsome htee hchecks hnoVerdict, hfit, ?_⟩
      intro l hl hle
      have hlevel : ∃ l ∈ identity.identityTcbLevels,
          l.isvSvn ≤ quote.qeReport.isvSvn.toUInt32 := ⟨l, hl, hle⟩
      obtain ⟨qe, hqe⟩ := exists_isFirst hi.levels_sorted hlevel
      obtain ⟨s', verdict, hs'⟩ := exists_quoteVerdict hs hqe
      exact hnoVerdict s' verdict hs'
    · refine Or.inl ⟨?_, hfit⟩
      unfold verify
      rw [checkCollateral_some, hchecks₀.1, ok_bind, hmismatch hfit]

theorem identity_neverImproves_sample :
    ∃ verdict₀, (verify sampleCrypto QuoteLayout.sampleUpToDate.quote samplePckCertificate
        sampleCrl sampleInfo none .initial).1 = .ok verdict₀ ∧ verdict₀.IsTcbVerdict ∧
      ∃ launch qe, Selects sampleInfo (some sampleQeIdentity)
          (.ofQuote samplePckCertificate QuoteLayout.sampleUpToDate.quote
            (launchTee QuoteLayout.sampleUpToDate.quote)) launch ∧
        IsQeLevel sampleQeIdentity QuoteLayout.sampleUpToDate.quote qe ∧
        NeverImproves launch qe verdict₀ .ok :=
  (identity_neverImproves sampleInfo_parse sampleQeIdentity_parse sampleCrypto
    QuoteLayout.sampleUpToDate.quote samplePckCertificate sampleCrl .initial).1 .ok
    (by decide +kernel) (by decide)

end DcapQvl
