import DcapQvl.Verify.ChainApi

/-!
# Expiration dates

The verifiers of certificate chains and of collateral as functions of the
expiration-check date, and the two copies of the verifier of signed collateral.

Results:
* `acceptedDates`: the accepted dates are none or a closed interval, and a date
  after it is answered with an `EXPIRED` status.
* `collateralVerifiers_agree`: both verifiers of collateral return the same status
  up to the names of two of them.
-/

namespace DcapQvl

open Lib QuoteVerifier CommonVerifier

variable {Key : Type}

/-! ## Checks of dates -/

/-- The checks pass, or return one of the statuses. -/
def ReturnsOneOf (statuses : List Status) (checks : Stage Unit) : Prop :=
  checks = .ok () ∨ ∃ status ∈ statuses, checks = .error (.ok status)

theorem ReturnsOneOf.returnUnless {statuses : List Status} {status : Status} (condition : Prop)
    [Decidable condition] (h : status ∈ statuses) :
    ReturnsOneOf statuses (returnUnless condition status) := by
  rw [Lib.returnUnless]
  by_cases hcondition : condition
  · rw [if_pos hcondition]
    exact Or.inl rfl
  · rw [if_neg hcondition]
    exact Or.inr ⟨status, h, rfl⟩

theorem ReturnsOneOf.bind {statuses : List Status} {checks rest : Stage Unit}
    (h : ReturnsOneOf statuses checks) (hrest : ReturnsOneOf statuses rest) :
    ReturnsOneOf statuses (checks >>= fun _ => rest) := by
  rcases h with rfl | ⟨status, hmem, rfl⟩
  · exact hrest
  · exact Or.inr ⟨status, hmem, rfl⟩

/-- A verifier accepts the dates from `first` to `last`, and reports any later one as
    `expired`. -/
structure AcceptsBetween (verify : ℤ → Except Exn Status) (first last : ℤ)
    (expired : List Status) : Prop where
  accepted : {date | verify date = .ok .ok} = Set.Icc first last
  past : ∀ date, last < date → ∃ status ∈ expired, verify date = .ok status

/-- A verifier that first makes checks without a date and then checks the date. -/
theorem acceptsBetween_of_checks {α : Type} {checks : Stage α} {dateChecks : α → ℤ → Stage Unit}
    {first last : α → ℤ} {expired : List Status} (hchecks : Avoids (.ok .ok) checks)
    (hexpired : Status.ok ∉ expired)
    (hpass : ∀ a date, dateChecks a date = .ok () ↔ first a ≤ date ∧ date ≤ last a)
    (hreturns : ∀ a date, ReturnsOneOf expired (dateChecks a date)) :
    (∀ date, statusOf (checks >>= fun a => dateChecks a date) ≠ .ok .ok) ∨
      ∃ a, checks = .ok a ∧
        AcceptsBetween (fun date => statusOf (checks >>= fun a => dateChecks a date))
          (first a) (last a) expired := by
  cases checks with
  | error result =>
    refine Or.inl fun date h => hchecks ?_
    exact congrArg Except.error (show result = _ from h)
  | ok a =>
    refine Or.inr ⟨a, rfl, ?_, ?_⟩
    · ext date
      rw [Set.mem_ofPred_eq, Set.mem_Icc, ← hpass]
      refine statusOf_eq_ok fun h => ?_
      rcases hreturns a date with hok | ⟨status, hmem, hstatus⟩
      · exact absurd (hok.symm.trans h) (by simp)
      · cases hstatus.symm.trans h
        exact hexpired hmem
    · intro date hlast
      rcases hreturns a date with hok | ⟨status, hmem, hstatus⟩
      · exact absurd ((hpass a date).mp hok).2 (not_le.mpr hlast)
      · exact ⟨status, hmem, congrArg statusOf hstatus⟩

theorem CrlStore.expired_eq_false {crl : CrlStore} {date : ℤ} :
    crl.expired date = false ↔ crl.validity.notBeforeTime ≤ date ∧
      date ≤ crl.validity.notAfterTime := by
  simp [CrlStore.expired, Validity.isValid, and_comm]

/-! ## PCK certificate chains -/

namespace PckCertVerifier

variable {crypto : Crypto Key} {chain : CertificateChain} {rootCaCrl intermediateCrl : CrlStore}
  {rootCa : Certificate}

/-- The first date on which both revocation lists are valid. -/
def firstDate (rootCaCrl intermediateCrl : CrlStore) : ℤ :=
  max rootCaCrl.validity.notBeforeTime intermediateCrl.validity.notBeforeTime

/-- The last date on which nothing is expired. -/
def lastDate (roles : PckRoles) (rootCaCrl intermediateCrl : CrlStore) : ℤ :=
  min (min (min roles.root.validity.notAfterTime roles.intermediate.validity.notAfterTime)
    roles.pck.validity.notAfterTime)
    (min rootCaCrl.validity.notAfterTime intermediateCrl.validity.notAfterTime)

/-- The checks of `verify` before those of the dates. -/
def checkedRoles (crypto : Crypto Key) (chain : CertificateChain)
    (rootCaCrl intermediateCrl : CrlStore) (rootCa : Certificate) : Stage PckRoles := do
  let roles ← rolesOf chain
  checkCerts crypto roles rootCa
  checkCrls crypto roles rootCaCrl intermediateCrl
  pure roles

theorem verify_eq (expirationDate : ℤ) :
    verify crypto chain rootCaCrl intermediateCrl rootCa expirationDate =
      statusOf (checkedRoles crypto chain rootCaCrl intermediateCrl rootCa >>= fun roles =>
        checkDates roles rootCaCrl intermediateCrl expirationDate) := by
  unfold verify checkedRoles
  simp only [bind_assoc, pure_bind]

theorem checkedRoles_avoids :
    Avoids (.ok .ok) (checkedRoles crypto chain rootCaCrl intermediateCrl rootCa) := by
  refine rolesOf_avoids.bind fun roles _ => Avoids.bind ?_ fun _ _ => Avoids.bind ?_ fun _ _ => ?_
  · exact checkCerts_avoids
  · exact checkCrls_avoids
  · exact Avoids.pure roles

theorem checkedRoles_roles {roles : PckRoles}
    (h : checkedRoles crypto chain rootCaCrl intermediateCrl rootCa = .ok roles) :
    chain.rootCert = some roles.root ∧ chain.getIntermediateCert = some roles.intermediate ∧
      chain.pckCert = some roles.pck := by
  obtain ⟨r, hroles, h⟩ := bind_eq_ok.mp h
  obtain ⟨_, _, h⟩ := bind_eq_ok.mp h
  obtain ⟨_, _, h⟩ := bind_eq_ok.mp h
  cases h
  obtain ⟨⟨hroot, _⟩, ⟨hintermediate, _⟩, hpck, _⟩ := rolesOf_eq_ok.mp hroles
  exact ⟨hroot, hintermediate, hpck⟩

theorem checkDates_iff {roles : PckRoles} {date : ℤ} :
    checkDates roles rootCaCrl intermediateCrl date = .ok () ↔
      firstDate rootCaCrl intermediateCrl ≤ date ∧
        date ≤ lastDate roles rootCaCrl intermediateCrl := by
  unfold firstDate lastDate
  simp only [checkDates_eq_ok, CrlStore.expired_eq_false, max_le_iff, le_min_iff]
  tauto

theorem checkDates_returns (roles : PckRoles) (date : ℤ) :
    ReturnsOneOf [.sgxPckCertChainExpired, .sgxCrlExpired]
      (checkDates roles rootCaCrl intermediateCrl date) := by
  unfold checkDates
  refine (ReturnsOneOf.returnUnless _ (by simp)).bind ?_
  refine (ReturnsOneOf.returnUnless _ (by simp)).bind ?_
  refine (ReturnsOneOf.returnUnless _ (by simp)).bind ?_
  refine (ReturnsOneOf.returnUnless _ (by simp)).bind ?_
  exact ReturnsOneOf.returnUnless _ (by simp)

end PckCertVerifier

/-! ## Signed collateral -/

/-- The certificates of a signing chain, root first, once the chain and the signature of
    `body` under it are checked. -/
def signingCerts (crypto : Crypto Key) (signature body : Bytes) (chain : CertificateChain)
    (rootCaCrl : CrlStore) (trustedRoot : Certificate) (invalidSignature : Status) :
    Stage (Certificate × Certificate) := do
  continueIfOk (← calling (TCBSigningChain.verify crypto chain rootCaCrl trustedRoot))
  let tcbSigningCert ← deref chain.topmostCert
  returnUnless (checkSha256EcdsaSignature crypto signature body tcbSigningCert.pubKey)
    invalidSignature
  let rootCa ← deref chain.rootCert
  pure (rootCa, tcbSigningCert)

/-- The checks of the dates of signed collateral. -/
def checkCollateralDates (certs : Certificate × Certificate) (rootCaCrl : CrlStore)
    (nextUpdate : ℤ) (expired : Status) (expirationDate : ℤ) : Stage Unit := do
  returnUnless (¬ expirationDate > certs.1.validity.notAfterTime) .sgxSigningCertChainExpired
  returnUnless (¬ expirationDate > certs.2.validity.notAfterTime) .sgxSigningCertChainExpired
  returnUnless (¬ rootCaCrl.expired expirationDate) .sgxCrlExpired
  returnUnless (¬ expirationDate > nextUpdate) expired

/-- The last date on which nothing is expired. -/
def lastCollateralDate (certs : Certificate × Certificate) (rootCaCrl : CrlStore)
    (nextUpdate : ℤ) : ℤ :=
  min (min certs.1.validity.notAfterTime certs.2.validity.notAfterTime)
    (min rootCaCrl.validity.notAfterTime nextUpdate)

section Collateral

variable {crypto : Crypto Key} {chain : CertificateChain} {rootCaCrl : CrlStore}
  {trustedRoot : Certificate}

theorem deref_eq_ok {cert : Option Certificate} {c : Certificate} :
    deref cert = .ok c ↔ cert = some c := by
  cases cert <;> simp [deref]

theorem deref_avoids_ok {cert : Option Certificate} : Avoids (.ok .ok) (deref cert) := by
  cases cert with
  | none => exact Avoids.throw (by simp)
  | some c => exact Avoids.pure c

theorem TCBSigningChain.roles (h : TCBSigningChain.verify crypto chain rootCaCrl trustedRoot =
    .ok .ok) : ∃ rootCa tcbSigningCert,
      chain.rootCert = some rootCa ∧ chain.topmostCert = some tcbSigningCert := by
  unfold TCBSigningChain.verify at h
  cases hroot : chain.rootCert with
  | none =>
    rw [hroot] at h
    cases h
  | some rootCa =>
    cases htopmost : chain.topmostCert with
    | none =>
      rw [hroot, htopmost, statusOf_eq_ok ?_] at h
      · simp only [bind_eq_ok, valueOrReturn_eq_ok, reduceCtorEq, false_and, exists_false,
          and_false] at h
      · exact (valueOrReturn_avoids_ok (by decide)).bind fun _ _ =>
          (returnUnless_avoids_ok (by decide)).bind fun _ _ =>
            (continueIfOk_avoids_ok _).bind fun _ _ =>
              (valueOrReturn_avoids_ok (by decide)).bind fun _ h => by simp [valueOrReturn] at h
    | some tcbSigningCert => exact ⟨rootCa, tcbSigningCert, rfl, rfl⟩

theorem TCBInfoVerifier.verify_eq (tcbJson : TcbInfo) (expirationDate : ℤ) :
    TCBInfoVerifier.verify crypto tcbJson chain rootCaCrl trustedRoot expirationDate =
      statusOf (signingCerts crypto tcbJson.signature tcbJson.infoBody chain rootCaCrl trustedRoot
        .tcbInfoInvalidSignature >>= fun certs =>
          checkCollateralDates certs rootCaCrl tcbJson.nextUpdate .sgxTcbInfoExpired
            expirationDate) := by
  unfold TCBInfoVerifier.verify signingCerts checkCollateralDates
  simp only [bind_assoc, pure_bind]

/-- Two checks with one status can be made in either order. -/
theorem returnUnless_comm {c d : Prop} [Decidable c] [Decidable d] {status : Status}
    (rest : Stage Unit) :
    (do returnUnless c status; returnUnless d status; rest) =
      (do returnUnless d status; returnUnless c status; rest : Stage Unit) := by
  unfold returnUnless
  split_ifs <;> rfl

/-- The certificate chain is there, so that it does not matter when it is looked at. -/
theorem EnclaveIdentityVerifier.verify_eq (enclaveIdentity : EnclaveIdentity)
    (expirationDate : ℤ) :
    EnclaveIdentityVerifier.verify crypto enclaveIdentity chain rootCaCrl trustedRoot
      expirationDate =
      statusOf (signingCerts crypto enclaveIdentity.signature enclaveIdentity.body chain rootCaCrl
        trustedRoot .sgxEnclaveIdentityInvalidSignature >>= fun certs =>
          checkCollateralDates certs rootCaCrl enclaveIdentity.nextUpdate
            .sgxEnclaveIdentityExpired expirationDate) := by
  unfold EnclaveIdentityVerifier.verify signingCerts checkCollateralDates
  simp only [bind_assoc, pure_bind]
  cases hstatus : TCBSigningChain.verify crypto chain rootCaCrl trustedRoot with
  | error e => rfl
  | ok status =>
    by_cases hok : status = .ok
    · rw [hok] at hstatus
      obtain ⟨rootCa, tcbSigningCert, hroot, htopmost⟩ := TCBSigningChain.roles hstatus
      simp only [hroot, htopmost, deref, ok_bind, returnUnless_comm]
    · simp only [calling, Except.mapError, ok_bind, continueIfOk, if_pos hok, error_bind]

theorem signingCerts_avoids {signature body : Bytes} {invalidSignature : Status}
    (h : invalidSignature ≠ .ok) :
    Avoids (.ok .ok) (signingCerts crypto signature body chain rootCaCrl trustedRoot
      invalidSignature) := by
  refine calling_avoids_ok.bind fun status _ => (continueIfOk_avoids_ok _).bind fun _ _ => ?_
  refine deref_avoids_ok.bind fun _ _ => (returnUnless_avoids_ok h).bind fun _ _ => ?_
  exact deref_avoids_ok.bind fun _ _ => Avoids.pure _

theorem signingCerts_roles {signature body : Bytes} {invalidSignature : Status}
    {certs : Certificate × Certificate}
    (h : signingCerts crypto signature body chain rootCaCrl trustedRoot invalidSignature =
      .ok certs) : chain.rootCert = some certs.1 ∧ chain.topmostCert = some certs.2 := by
  obtain ⟨status, _, h⟩ := bind_eq_ok.mp h
  obtain ⟨_, _, h⟩ := bind_eq_ok.mp h
  obtain ⟨tcbSigningCert, htopmost, h⟩ := bind_eq_ok.mp h
  obtain ⟨_, _, h⟩ := bind_eq_ok.mp h
  obtain ⟨rootCa, hroot, h⟩ := bind_eq_ok.mp h
  cases h
  exact ⟨deref_eq_ok.mp hroot, deref_eq_ok.mp htopmost⟩

theorem checkCollateralDates_iff {certs : Certificate × Certificate} {nextUpdate date : ℤ}
    {expired : Status} :
    checkCollateralDates certs rootCaCrl nextUpdate expired date = .ok () ↔
      rootCaCrl.validity.notBeforeTime ≤ date ∧
        date ≤ lastCollateralDate certs rootCaCrl nextUpdate := by
  unfold checkCollateralDates lastCollateralDate
  simp only [bind_eq_ok, returnUnless_eq_ok, exists_const, gt_iff_lt, not_lt, Bool.not_eq_true,
    CrlStore.expired_eq_false, le_min_iff]
  tauto

theorem checkCollateralDates_returns (certs : Certificate × Certificate) (nextUpdate date : ℤ)
    (expired : Status) :
    ReturnsOneOf [.sgxSigningCertChainExpired, .sgxCrlExpired, expired]
      (checkCollateralDates certs rootCaCrl nextUpdate expired date) := by
  unfold checkCollateralDates
  refine (ReturnsOneOf.returnUnless _ (by simp)).bind ?_
  refine (ReturnsOneOf.returnUnless _ (by simp)).bind ?_
  refine (ReturnsOneOf.returnUnless _ (by simp)).bind ?_
  exact ReturnsOneOf.returnUnless _ (by simp)

/-- The dates that a verifier of collateral accepts. -/
theorem acceptedCollateralDates (signature body : Bytes) (nextUpdate : ℤ)
    {invalidSignature expired : Status} (hinvalid : invalidSignature ≠ .ok)
    (hexpired : expired ≠ .ok) {verify : ℤ → Except Exn Status}
    (hverify : ∀ date, verify date = statusOf (signingCerts crypto signature body chain rootCaCrl
      trustedRoot invalidSignature >>= fun certs =>
        checkCollateralDates certs rootCaCrl nextUpdate expired date)) :
    (∀ date, verify date ≠ .ok .ok) ∨
      ∃ rootCa tcbSigningCert, chain.rootCert = some rootCa ∧
        chain.topmostCert = some tcbSigningCert ∧
        AcceptsBetween verify rootCaCrl.validity.notBeforeTime
          (lastCollateralDate (rootCa, tcbSigningCert) rootCaCrl nextUpdate)
          [.sgxSigningCertChainExpired, .sgxCrlExpired, expired] := by
  rw [funext hverify]
  have hnot : Status.ok ∉ [.sgxSigningCertChainExpired, .sgxCrlExpired, expired] := by
    simp [hexpired.symm]
  have hpass (certs : Certificate × Certificate) (date : ℤ) :
      checkCollateralDates certs rootCaCrl nextUpdate expired date = .ok () ↔
        rootCaCrl.validity.notBeforeTime ≤ date ∧
          date ≤ lastCollateralDate certs rootCaCrl nextUpdate := checkCollateralDates_iff
  refine (acceptsBetween_of_checks (signingCerts_avoids hinvalid) hnot hpass fun certs date =>
    checkCollateralDates_returns certs nextUpdate date expired).imp_right ?_
  rintro ⟨certs, hcerts, h⟩
  obtain ⟨hroot, htopmost⟩ := signingCerts_roles hcerts
  exact ⟨certs.1, certs.2, hroot, htopmost, h⟩

end Collateral

/-- **Accepted dates.** The dates on which a verifier returns `STATUS_OK` are none, or those
    from the first to the last on which nothing is expired; a later date gets one of the
    `EXPIRED` statuses of the verifier. -/
theorem acceptedDates (crypto : Crypto Key) (chain : CertificateChain)
    (rootCaCrl intermediateCrl : CrlStore) (trustedRoot : Certificate) (tcbJson : TcbInfo)
    (enclaveIdentity : EnclaveIdentity) :
    ((∀ date, PckCertVerifier.verify crypto chain rootCaCrl intermediateCrl trustedRoot date ≠
        .ok .ok) ∨
      ∃ roles : PckRoles, chain.rootCert = some roles.root ∧
        chain.getIntermediateCert = some roles.intermediate ∧ chain.pckCert = some roles.pck ∧
        AcceptsBetween
          (PckCertVerifier.verify crypto chain rootCaCrl intermediateCrl trustedRoot)
          (PckCertVerifier.firstDate rootCaCrl intermediateCrl)
          (PckCertVerifier.lastDate roles rootCaCrl intermediateCrl)
          [.sgxPckCertChainExpired, .sgxCrlExpired]) ∧
    ((∀ date, TCBInfoVerifier.verify crypto tcbJson chain rootCaCrl trustedRoot date ≠ .ok .ok) ∨
      ∃ rootCa tcbSigningCert, chain.rootCert = some rootCa ∧
        chain.topmostCert = some tcbSigningCert ∧
        AcceptsBetween (TCBInfoVerifier.verify crypto tcbJson chain rootCaCrl trustedRoot)
          rootCaCrl.validity.notBeforeTime
          (lastCollateralDate (rootCa, tcbSigningCert) rootCaCrl tcbJson.nextUpdate)
          [.sgxSigningCertChainExpired, .sgxCrlExpired, .sgxTcbInfoExpired]) ∧
    ((∀ date, EnclaveIdentityVerifier.verify crypto enclaveIdentity chain rootCaCrl trustedRoot
        date ≠ .ok .ok) ∨
      ∃ rootCa tcbSigningCert, chain.rootCert = some rootCa ∧
        chain.topmostCert = some tcbSigningCert ∧
        AcceptsBetween
          (EnclaveIdentityVerifier.verify crypto enclaveIdentity chain rootCaCrl trustedRoot)
          rootCaCrl.validity.notBeforeTime
          (lastCollateralDate (rootCa, tcbSigningCert) rootCaCrl enclaveIdentity.nextUpdate)
          [.sgxSigningCertChainExpired, .sgxCrlExpired, .sgxEnclaveIdentityExpired]) := by
  refine ⟨?_, ?_, ?_⟩
  · rw [funext PckCertVerifier.verify_eq]
    have hpass (roles : PckRoles) (date : ℤ) :
        PckCertVerifier.checkDates roles rootCaCrl intermediateCrl date = .ok () ↔
          PckCertVerifier.firstDate rootCaCrl intermediateCrl ≤ date ∧
            date ≤ PckCertVerifier.lastDate roles rootCaCrl intermediateCrl :=
      PckCertVerifier.checkDates_iff
    refine (acceptsBetween_of_checks PckCertVerifier.checkedRoles_avoids (by simp) hpass
      PckCertVerifier.checkDates_returns).imp_right ?_
    rintro ⟨roles, hroles, h⟩
    obtain ⟨hroot, hintermediate, hpck⟩ := PckCertVerifier.checkedRoles_roles hroles
    exact ⟨roles, hroot, hintermediate, hpck, h⟩
  · exact acceptedCollateralDates tcbJson.signature tcbJson.infoBody tcbJson.nextUpdate
      (by decide) (by decide) (TCBInfoVerifier.verify_eq tcbJson)
  · exact acceptedCollateralDates enclaveIdentity.signature enclaveIdentity.body
      enclaveIdentity.nextUpdate (by decide) (by decide)
      (EnclaveIdentityVerifier.verify_eq enclaveIdentity)

/-! ## The two verifiers of collateral -/

/-- The status of the verifier of identities for that of the verifier of TCB Infos. -/
def identityStatus : Status → Status
  | .tcbInfoInvalidSignature => .sgxEnclaveIdentityInvalidSignature
  | .sgxTcbInfoExpired => .sgxEnclaveIdentityExpired
  | status => status

/-- The checks with their statuses renamed. -/
def renamed {α : Type} (checks : Stage α) : Stage α := checks.mapError (Except.map identityStatus)

theorem renamed_bind {α β : Type} (checks : Stage α) (rest : α → Stage β) :
    renamed (checks >>= rest) = renamed checks >>= fun a => renamed (rest a) := by
  cases checks <;> rfl

theorem renamed_returnUnless (condition : Prop) [Decidable condition] (status : Status) :
    renamed (returnUnless condition status) = returnUnless condition (identityStatus status) := by
  unfold returnUnless
  split_ifs <;> rfl

theorem renamed_valueOrReturn {α : Type} (value : Option α) (status : Status) :
    renamed (valueOrReturn value status) = valueOrReturn value (identityStatus status) := by
  cases value <;> rfl

theorem renamed_continueIfOk {status : Status} (h : identityStatus status = status) :
    renamed (continueIfOk status) = continueIfOk status := by
  unfold continueIfOk
  split_ifs
  · exact congrArg (fun s => Except.error (Except.ok s)) h
  · rfl

theorem renamed_deref (cert : Option Certificate) : renamed (deref cert) = deref cert := by
  cases cert <;> rfl

theorem statusOf_renamed (checks : Stage Unit) :
    statusOf (renamed checks) = (statusOf checks).map identityStatus := by
  cases checks <;> rfl

section Renamed

variable {crypto : Crypto Key} {chain : CertificateChain} {rootCaCrl : CrlStore}
  {trustedRoot : Certificate}

/-- The chain of the certificates is reported with the same statuses by both. -/
theorem TCBSigningChain.map_identityStatus :
    (TCBSigningChain.verify crypto chain rootCaCrl trustedRoot).map identityStatus =
      TCBSigningChain.verify crypto chain rootCaCrl trustedRoot := by
  have hroot (cert : Certificate) :
      identityStatus (verifyRootCACert crypto cert) = verifyRootCACert crypto cert := by
    unfold verifyRootCACert
    split_ifs <;> rfl
  have hcert (cert issuer : Certificate) : identityStatus (verifyTCBCert crypto cert issuer) =
      verifyTCBCert crypto cert issuer := by
    unfold verifyTCBCert
    split_ifs <;> rfl
  have hcrl (cert : Certificate) : identityStatus (PckCrlVerifier.verify crypto rootCaCrl cert) =
      PckCrlVerifier.verify crypto rootCaCrl cert := by
    unfold PckCrlVerifier.verify
    split_ifs <;> rfl
  unfold TCBSigningChain.verify
  rw [← statusOf_renamed]
  simp only [renamed_bind, renamed_valueOrReturn, renamed_returnUnless,
    renamed_continueIfOk (hroot _), renamed_continueIfOk (hcert _ _),
    renamed_continueIfOk (hcrl _)]
  rfl

theorem renamed_signingCerts (signature body : Bytes) (invalidSignature : Status) :
    renamed (signingCerts crypto signature body chain rootCaCrl trustedRoot invalidSignature) =
      signingCerts crypto signature body chain rootCaCrl trustedRoot
        (identityStatus invalidSignature) := by
  unfold signingCerts
  simp only [renamed_bind, renamed_deref, renamed_returnUnless]
  have hmap := @TCBSigningChain.map_identityStatus _ crypto chain rootCaCrl trustedRoot
  cases hstatus : TCBSigningChain.verify crypto chain rootCaCrl trustedRoot with
  | error e => rfl
  | ok status =>
    rw [hstatus] at hmap
    have hcall : renamed (calling (.ok status : Except Exn Status) : Stage Status) = .ok status :=
      rfl
    simp only [hcall, ok_bind, renamed_continueIfOk (Except.ok.inj hmap)]
    rfl

theorem renamed_checkCollateralDates (certs : Certificate × Certificate) (nextUpdate : ℤ)
    (expired : Status) (date : ℤ) :
    renamed (checkCollateralDates certs rootCaCrl nextUpdate expired date) =
      checkCollateralDates certs rootCaCrl nextUpdate (identityStatus expired) date := by
  unfold checkCollateralDates
  simp only [renamed_bind, renamed_returnUnless]
  rfl

/-- The checks of a signature decide by its validity alone. -/
theorem signingCerts_congr {signature body signature' body' : Bytes} {invalidSignature : Status}
    (h : ∀ tcbSigningCert, chain.topmostCert = some tcbSigningCert →
      checkSha256EcdsaSignature crypto signature body tcbSigningCert.pubKey =
        checkSha256EcdsaSignature crypto signature' body' tcbSigningCert.pubKey) :
    signingCerts crypto signature body chain rootCaCrl trustedRoot invalidSignature =
      signingCerts crypto signature' body' chain rootCaCrl trustedRoot invalidSignature := by
  unfold signingCerts
  cases htopmost : chain.topmostCert with
  | none => rfl
  | some tcbSigningCert => simp only [deref, ok_bind, h tcbSigningCert htopmost]

end Renamed

/-- **One procedure.** On a signing chain, two signed texts that are both valid or both invalid
    and have one date for their next update get the same status, up to its name. -/
theorem collateralVerifiers_agree (crypto : Crypto Key) (tcbJson : TcbInfo)
    (enclaveIdentity : EnclaveIdentity) (chain : CertificateChain) (rootCaCrl : CrlStore)
    (trustedRoot : Certificate) (expirationDate : ℤ)
    (hsignature : ∀ tcbSigningCert, chain.topmostCert = some tcbSigningCert →
      checkSha256EcdsaSignature crypto tcbJson.signature tcbJson.infoBody tcbSigningCert.pubKey =
        checkSha256EcdsaSignature crypto enclaveIdentity.signature enclaveIdentity.body
          tcbSigningCert.pubKey)
    (hnextUpdate : tcbJson.nextUpdate = enclaveIdentity.nextUpdate) :
    EnclaveIdentityVerifier.verify crypto enclaveIdentity chain rootCaCrl trustedRoot
      expirationDate =
        (TCBInfoVerifier.verify crypto tcbJson chain rootCaCrl trustedRoot expirationDate).map
          identityStatus := by
  rw [EnclaveIdentityVerifier.verify_eq, TCBInfoVerifier.verify_eq, ← statusOf_renamed,
    renamed_bind, renamed_signingCerts, signingCerts_congr hsignature, hnextUpdate]
  simp only [renamed_checkCollateralDates]
  rfl

/-- A chain of a TCB signing certificate. -/
def sampleSigningChain : CertificateChain :=
  CertificateChain.ofCerts sampleChainX509 [sampleCaCertificate rootCaSubject,
    sampleCaCertificate (intelName (str "Intel SGX TCB Signing"))]

/-- A TCB Info and an identity that were to be replaced on the first day. -/
def sampleOldTcbInfo : TcbInfo :=
  { TcbInfo.initial with signature := List.replicate 64 0, infoBody := [0] }

def sampleOldIdentity : EnclaveIdentity :=
  { id := .qe, version := EnclaveIdentity.v2, issueDate := 0, nextUpdate := 0
    tcbEvaluationDataNumber := 0, attributes := [], attributesMask := [], miscselect := []
    miscselectMask := [], mrSigner := [], isvProdId := 0, identityTcbLevels := [], body := [1]
    signature := List.replicate 64 0 }

/-- Both are expired a day later. -/
theorem collateralVerifiers_agree_sample :
    EnclaveIdentityVerifier.verify sampleCrypto sampleOldIdentity sampleSigningChain
      (sampleCaCrl rootCaSubject) (sampleCaCertificate rootCaSubject) 1 =
        .ok .sgxEnclaveIdentityExpired := by
  have h := collateralVerifiers_agree sampleCrypto sampleOldTcbInfo sampleOldIdentity
    sampleSigningChain (sampleCaCrl rootCaSubject) (sampleCaCertificate rootCaSubject) 1
    (fun _ _ => rfl) rfl
  have htcb : TCBInfoVerifier.verify sampleCrypto sampleOldTcbInfo sampleSigningChain
      (sampleCaCrl rootCaSubject) (sampleCaCertificate rootCaSubject) 1 =
        .ok .sgxTcbInfoExpired := by decide +kernel
  rw [h, htcb]
  rfl

end DcapQvl
