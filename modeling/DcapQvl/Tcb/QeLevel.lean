import DcapQvl.Tcb.Relaunch

/-!
# The QE level in a verdict

A QE identity adds the level of the QE to both evaluations of a quote. Here the verdict
with that level is computed from the verdict without it, through the merge and through
the relaunch check.

Results:
* `Selection.verdict_eq`, `checkForRelaunch_worsened`: what the QE level makes of a verdict.
* `quoteEvaluations_verdict_iff`: the verdict of a quote as that of selected levels.
* `quoteVerdict_withoutQe`, `exists_quoteVerdict`: the verdicts with and without it.
-/

namespace DcapQvl

open Lib

/-! ## One evaluation -/

/-- What a level of the QE makes of a verdict: one that is out of date leaves a
    revocation, and the need of a configuration. -/
def worsened (qeStatus : TcbStatus) (needsConfiguration : Prop) [Decidable needsConfiguration]
    (verdict : Status) : Status :=
  match qeStatus with
  | .upToDate => verdict
  | .revoked => .tcbRevoked
  | _ =>
    if verdict = .tcbRevoked then .tcbRevoked
    else if needsConfiguration then .tcbOutOfDateConfigurationNeeded else .tcbOutOfDate

theorem worsened_outOfDate {needsConfiguration : Prop} [Decidable needsConfiguration]
    {verdict : Status} (h : verdict ≠ .tcbRevoked) :
    worsened .outOfDate needsConfiguration verdict =
      if needsConfiguration then .tcbOutOfDateConfigurationNeeded else .tcbOutOfDate := by
  unfold worsened
  exact if_neg h

namespace Selection

variable (s : Selection)

/-- The selection of an evaluation that is not given an identity. -/
def withoutQe : Selection := { s with qe := none }

theorem ownStatus_ne_revoked : s.ownStatus ≠ .tcbRevoked := by
  unfold ownStatus
  split <;> decide

theorem verdict_eq_revoked_iff : s.verdict = .tcbRevoked ↔ .revoked ∈ s.statuses := by
  unfold verdict
  constructor
  · intro h
    by_contra hnot
    rw [if_neg hnot] at h
    split_ifs at h
    exact s.ownStatus_ne_revoked h
  · intro h
    exact if_pos h

/-- The status of the QE level is one more of the statuses that are merged. -/
theorem mem_statuses_iff {l : IdentityTcbLevel} (hqe : s.qe = some l) (c : EvaluationStatus) :
    c ∈ s.statuses ↔ c ∈ s.withoutQe.statuses ∨ c = statusOfQe l.tcbStatus := by
  have hstatuses : s.statuses = s.withoutQe.statuses ++ [statusOfQe l.tcbStatus] := by
    simp [statuses, componentStatuses, withoutQe, hqe, platformStatus]
  rw [hstatuses, List.mem_append, List.mem_singleton]

/-- The verdict with a QE level from the verdict without it. -/
theorem verdict_eq {l : IdentityTcbLevel} (hqe : s.qe = some l)
    (hstatus : l.tcbStatus = .upToDate ∨ l.tcbStatus = .outOfDate ∨ l.tcbStatus = .revoked) :
    s.verdict = worsened l.tcbStatus s.NeedsConfiguration s.withoutQe.verdict := by
  have hmem := s.mem_statuses_iff hqe
  rcases hstatus with h | h | h
  · rw [h] at hmem ⊢
    have hrevoked : .revoked ∈ s.statuses ↔ .revoked ∈ s.withoutQe.statuses := by
      simp [hmem, show statusOfQe .upToDate = .upToDate from rfl]
    have hout : .outOfDate ∈ s.statuses ↔ .outOfDate ∈ s.withoutQe.statuses := by
      simp [hmem, show statusOfQe .upToDate = .upToDate from rfl]
    have hconfiguration : .outOfDateConfigurationNeeded ∈ s.statuses ↔
        .outOfDateConfigurationNeeded ∈ s.withoutQe.statuses := by
      simp [hmem, show statusOfQe .upToDate = .upToDate from rfl]
    unfold verdict worsened
    simp only [hrevoked, hout, hconfiguration]
    rfl
  · rw [h] at hmem ⊢
    by_cases hrevoked : s.withoutQe.verdict = .tcbRevoked
    · unfold worsened
      rw [if_pos hrevoked]
      refine s.verdict_eq_revoked_iff.mpr ((hmem _).mpr (Or.inl ?_))
      exact s.withoutQe.verdict_eq_revoked_iff.mp hrevoked
    · have hnot : EvaluationStatus.revoked ∉ s.statuses := by
        intro hin
        rcases (hmem _).mp hin with hin | hin
        · exact hrevoked (s.withoutQe.verdict_eq_revoked_iff.mpr hin)
        · cases hin
      have hout : EvaluationStatus.outOfDate ∈ s.statuses := (hmem _).mpr (Or.inr rfl)
      rw [worsened_outOfDate hrevoked, verdict, if_neg hnot, if_pos (Or.inl hout)]
  · rw [h] at hmem ⊢
    exact s.verdict_eq_revoked_iff.mpr ((hmem _).mpr (Or.inr rfl))

end Selection

/-! ## Two evaluations -/

theorem checkForRelaunch_eq_revoked_iff {launch current : Status} :
    checkForRelaunch launch current = .tcbRevoked ↔ launch = .tcbRevoked := by
  unfold checkForRelaunch
  constructor
  · intro h
    split_ifs at h
    · exact h
    · exact h
  · rintro rfl
    rfl

/-- A current status that is out of date or revoked advises nothing. -/
theorem checkForRelaunch_of_outOfDate {launch current : Status}
    (h : current.IsOutOfDate ∨ current = .tcbRevoked) :
    checkForRelaunch launch current = launch := by
  have hnot : ¬ (current = .ok ∨ current = .tcbSwHardeningNeeded ∨
      current = .tcbConfigurationNeeded ∨ current = .tcbConfigurationAndSwHardeningNeeded) := by
    rcases h with (rfl | rfl) | rfl <;> decide
  unfold checkForRelaunch
  rw [if_neg hnot]
  exact ite_self _

/-- A QE level makes of the relaunch verdict what it makes of the launch verdict. -/
theorem checkForRelaunch_worsened {qeStatus : TcbStatus}
    (hstatus : qeStatus = .upToDate ∨ qeStatus = .outOfDate ∨ qeStatus = .revoked)
    {launchNeeds currentNeeds : Prop} [Decidable launchNeeds] [Decidable currentNeeds]
    (launch current : Status) :
    checkForRelaunch (worsened qeStatus launchNeeds launch)
        (worsened qeStatus currentNeeds current) =
      worsened qeStatus launchNeeds (checkForRelaunch launch current) := by
  rcases hstatus with rfl | rfl | rfl
  · rfl
  · have hcurrent : (worsened .outOfDate currentNeeds current).IsOutOfDate ∨
        worsened .outOfDate currentNeeds current = .tcbRevoked := by
      unfold worsened
      dsimp only
      split_ifs
      · exact Or.inr rfl
      · exact Or.inl (Or.inr rfl)
      · exact Or.inl (Or.inl rfl)
    rw [checkForRelaunch_of_outOfDate hcurrent]
    unfold worsened
    simp only [checkForRelaunch_eq_revoked_iff]
  · rfl

/-! ## The verdict of a quote -/

/-- The levels that an evaluation selects, with statuses that it knows. -/
def Evaluated (info : TcbInfo) (identity : Option EnclaveIdentity) (svns : PlatformSvns)
    (s : Selection) : Prop :=
  Selects info identity svns s ∧ ∀ l ∈ s.tdxModule, l.tcbStatus ∈ moduleStatuses

/-- The TEE TCB SVN that a TDX quote was launched with. -/
def launchTee (quote : Quote) : Option (ByteArr 16) :=
  if quote.header.teeType = teeTypeTdx then some quote.getTeeTcbSvn else none

/-- The quote has a current TEE TCB SVN as well. -/
def HasCurrent (quote : Quote) : Prop :=
  quote.header.teeType = teeTypeTdx ∧ quote.body.bodyType ≥ bodyTdReport15Type

/-- The verdict on a quote whose launch evaluation selects the given levels. -/
def QuoteVerdict (info : TcbInfo) (pckCert : PckCertificate) (quote : Quote)
    (identity : Option EnclaveIdentity) (launch : Selection) (verdict : Status) : Prop :=
  Evaluated info identity (.ofQuote pckCert quote (launchTee quote)) launch ∧
    ((¬ HasCurrent quote ∧ verdict = launch.verdict) ∨
      HasCurrent quote ∧ ∃ current,
        Evaluated info identity (.ofQuote pckCert quote (some quote.getTeeTcbSvn2)) current ∧
          verdict = checkForRelaunch launch.verdict current.verdict)

section Quote

variable {tcbInfo : TcbInfo} {pckCert : PckCertificate} {quote : Quote}
  {identity : Option EnclaveIdentity} (hinfo : tcbInfo.WellFormed)

section Evaluations

variable (hidentity : ∀ i ∈ identity, i.WellFormed)
include hinfo hidentity

theorem sgxEvaluation_eq_ok {evaluation : TcbEvaluation} :
    sgxEvaluation tcbInfo pckCert quote identity = .ok evaluation ↔
      ∃ s, Evaluated tcbInfo identity (.ofQuote pckCert quote none) s ∧
        evaluation = s.evaluation := by
  constructor
  · intro h
    obtain ⟨s, hs, hmodule, heq⟩ := sgxEvaluation_ok hinfo hidentity h
    exact ⟨s, ⟨hs, by simp [hmodule]⟩, heq⟩
  · rintro ⟨s, ⟨hs, _⟩, rfl⟩
    have heval : Evaluates tcbInfo identity (.ofQuote pckCert quote none) .unset _ :=
      sgxEvaluateTCB_eq hinfo hidentity rfl
    exact congrArg evaluationOrStatus (heval.selected s hs)

theorem tdxEvaluation_eq_ok (hversion : tcbInfo.version = versionV3) (hid : tcbInfo.id = tdxId)
    {teeTcbSvn : ByteArr 16} {evaluation : TcbEvaluation} :
    tdxEvaluation tcbInfo pckCert quote identity teeTcbSvn = .ok evaluation ↔
      ∃ s, Evaluated tcbInfo identity (.ofQuote pckCert quote (some teeTcbSvn)) s ∧
        evaluation = s.evaluation := by
  constructor
  · intro h
    obtain ⟨s, hs, hstatus, heq⟩ := tdxEvaluation_ok hinfo hidentity hversion hid h
    exact ⟨s, ⟨hs, hstatus⟩, heq⟩
  · rintro ⟨s, ⟨hs, hstatus⟩, rfl⟩
    exact tdxEvaluation_selected hinfo hidentity hversion hid hs hstatus

/-- The verdict of the evaluations is that of the levels that they select. -/
theorem quoteEvaluations_verdict_iff (htee : quote.header.teeType = teeTypeSgx ∨
      quote.header.teeType = teeTypeTdx ∧ tcbInfo.version = versionV3 ∧ tcbInfo.id = tdxId)
    {verdict : Status} :
    (∃ launch current, quoteEvaluations tcbInfo pckCert quote identity = .ok (launch, current) ∧
        launch.tcbStatus = verdict) ↔
      ∃ s, QuoteVerdict tcbInfo pckCert quote identity s verdict := by
  rcases htee with hsgx | ⟨htdx, hversion, hid⟩
  · have hne : quote.header.teeType ≠ teeTypeTdx := by
      rw [hsgx]
      decide
    rw [quoteEvaluations_sgx hsgx]
    constructor
    · rintro ⟨launch, current, h, rfl⟩
      obtain ⟨_, heval, h⟩ := bind_eq_ok.mp h
      cases h
      obtain ⟨s, hs, rfl⟩ := (sgxEvaluation_eq_ok hinfo hidentity).mp heval
      refine ⟨s, ?_, Or.inl ⟨fun h => hne h.1, rfl⟩⟩
      rw [launchTee, if_neg hne]
      exact hs
    · rintro ⟨s, hs, ⟨_, rfl⟩ | ⟨h, _⟩⟩
      · rw [launchTee, if_neg hne] at hs
        rw [(sgxEvaluation_eq_ok hinfo hidentity).mpr ⟨s, hs, rfl⟩]
        exact ⟨_, _, rfl, rfl⟩
      · exact absurd h.1 hne
  · rw [quoteEvaluations_tdx htdx]
    constructor
    · rintro ⟨launch, current, h, rfl⟩
      obtain ⟨_, heval, h⟩ := bind_eq_ok.mp h
      obtain ⟨s, hs, rfl⟩ := (tdxEvaluation_eq_ok hinfo hidentity hversion hid).mp heval
      refine ⟨s, by rw [launchTee, if_pos htdx]; exact hs, ?_⟩
      by_cases hbody : quote.body.bodyType ≥ bodyTdReport15Type
      · rw [if_pos hbody] at h
        obtain ⟨_, heval', h⟩ := bind_eq_ok.mp h
        cases h
        obtain ⟨s', hs', rfl⟩ := (tdxEvaluation_eq_ok hinfo hidentity hversion hid).mp heval'
        exact Or.inr ⟨⟨htdx, hbody⟩, s', hs', rfl⟩
      · rw [if_neg hbody] at h
        cases h
        exact Or.inl ⟨fun h => hbody h.2, rfl⟩
    · rintro ⟨s, hs, hverdict⟩
      rw [launchTee, if_pos htdx] at hs
      rw [(tdxEvaluation_eq_ok hinfo hidentity hversion hid).mpr ⟨s, hs, rfl⟩, ok_bind]
      rcases hverdict with ⟨hnot, rfl⟩ | ⟨hhas, s', hs', rfl⟩
      · rw [if_neg fun hbody => hnot ⟨htdx, hbody⟩]
        exact ⟨_, _, rfl, rfl⟩
      · rw [if_pos hhas.2, (tdxEvaluation_eq_ok hinfo hidentity hversion hid).mpr ⟨s', hs', rfl⟩]
        exact ⟨_, _, rfl, rfl⟩

end Evaluations

/-! ## With and without an identity -/

variable {i : EnclaveIdentity} (hi : i.WellFormed)

/-- The level of the QE that an identity selects. -/
def IsQeLevel (i : EnclaveIdentity) (quote : Quote) (l : IdentityTcbLevel) : Prop :=
  IsFirst IdentityTcbLevel.key (fun l => l.isvSvn ≤ quote.qeReport.isvSvn.toUInt32)
    i.identityTcbLevels l

include hi in
theorem IsQeLevel.unique {l l' : IdentityTcbLevel} (h : IsQeLevel i quote l)
    (h' : IsQeLevel i quote l') : l = l' := by
  have hfind := (find?_eq_some_iff hi.levels_sorted).mpr h
  rw [(find?_eq_some_iff hi.levels_sorted).mpr h'] at hfind
  exact (Option.some.inj hfind).symm

theorem Evaluated.withoutQe {tee : Option (ByteArr 16)} {s : Selection}
    (h : Evaluated tcbInfo (some i) (.ofQuote pckCert quote tee) s) :
    Evaluated tcbInfo none (.ofQuote pckCert quote tee) s.withoutQe ∧
      ∃ l, s.qe = some l ∧ IsQeLevel i quote l :=
  ⟨⟨⟨h.1.1, h.1.2.1, rfl⟩, h.2⟩, h.1.2.2⟩

theorem Evaluated.withQe {tee : Option (ByteArr 16)} {s : Selection}
    (h : Evaluated tcbInfo none (.ofQuote pckCert quote tee) s) {l : IdentityTcbLevel}
    (hl : IsQeLevel i quote l) :
    Evaluated tcbInfo (some i) (.ofQuote pckCert quote tee) { s with qe := some l } :=
  ⟨⟨h.1.1, h.1.2.1, l, rfl, hl⟩, h.2⟩

/-- Without its identity, the QE's level is missing from the verdict. -/
theorem quoteVerdict_withoutQe (hi : i.WellFormed) {launch : Selection} {verdict : Status}
    (h : QuoteVerdict tcbInfo pckCert quote (some i) launch verdict) :
    ∃ l, IsQeLevel i quote l ∧ ∃ verdict₀,
      QuoteVerdict tcbInfo pckCert quote none launch.withoutQe verdict₀ ∧
        verdict = worsened l.tcbStatus launch.NeedsConfiguration verdict₀ := by
  obtain ⟨hlaunch, hverdict⟩ := h
  obtain ⟨hlaunch₀, l, hqe, hl⟩ := hlaunch.withoutQe
  have hstatus := hi.levels_status l hl.1
  have hlaunchVerdict := launch.verdict_eq hqe hstatus
  refine ⟨l, hl, ?_⟩
  rcases hverdict with ⟨hnot, rfl⟩ | ⟨hhas, current, hcurrent, rfl⟩
  · exact ⟨_, ⟨hlaunch₀, Or.inl ⟨hnot, rfl⟩⟩, hlaunchVerdict⟩
  · obtain ⟨hcurrent₀, l', hqe', hl'⟩ := hcurrent.withoutQe
    cases hl'.unique hi hl
    refine ⟨_, ⟨hlaunch₀, Or.inr ⟨hhas, _, hcurrent₀, rfl⟩⟩, ?_⟩
    rw [hlaunchVerdict, current.verdict_eq hqe' hstatus]
    exact checkForRelaunch_worsened hstatus _ _

/-- With an identity that has a level for the QE, there is a verdict as well. -/
theorem exists_quoteVerdict {launch : Selection} {verdict₀ : Status}
    (h : QuoteVerdict tcbInfo pckCert quote none launch verdict₀) {l : IdentityTcbLevel}
    (hl : IsQeLevel i quote l) :
    ∃ s verdict, QuoteVerdict tcbInfo pckCert quote (some i) s verdict := by
  obtain ⟨hlaunch, hverdict⟩ := h
  rcases hverdict with ⟨hnot, _⟩ | ⟨hhas, current, hcurrent, _⟩
  · exact ⟨_, _, hlaunch.withQe hl, Or.inl ⟨hnot, rfl⟩⟩
  · exact ⟨_, _, hlaunch.withQe hl, Or.inr ⟨hhas, _, hcurrent.withQe hl, rfl⟩⟩

end Quote

end DcapQvl
