import DcapQvl.Verify.Quote
import DcapQvl.X509.Chain

/-!
# Verifying certificate chains

Models of `CommonVerifier.cpp`, `PckCrlVerifier.cpp`, `PckCertVerifier.cpp`,
`TCBSigningChain.cpp`, `TCBInfoVerifier.cpp` and `EnclaveIdentityVerifier.cpp`.

Results:
* `PckCertVerifier.verify_eq_ok`: what `STATUS_OK` of a PCK certificate chain stands for.
-/

namespace DcapQvl

open Lib QuoteVerifier

variable {Key : Type}

/-- The result of a function whose last statement is `return STATUS_OK`. -/
def statusOf (stage : Stage Unit) : Except Exn Status :=
  match stage with
  | .ok () => .ok .ok
  | .error result => result

/-! ## Common checks -/

namespace CommonVerifier

/-- `checkStandardExtensions(presentExtensions, opensslExtensionNids)`. -/
def checkStandardExtensions (presentExtensions : List Extension) (opensslExtensionNids : List ℤ) :
    Bool :=
  if opensslExtensionNids.length > presentExtensions.length then false
  else opensslExtensionNids.all fun requiredNid =>
    presentExtensions.any fun ext => ext.nid = requiredNid

/-- `verifyRootCACert(rootCa)`. -/
def verifyRootCACert (crypto : Crypto Key) (rootCa : Certificate) : Status :=
  if ¬ rootCa.issuer.same rootCa.subject then .sgxRootCaInvalidIssuer
  else if ¬ crypto.verifyCertificateSignature rootCa.signature rootCa.info rootCa.pubKey then
    .sgxRootCaInvalidIssuer
  else .ok

/-- `verifyIntermediate(intermediate, root)`. -/
def verifyIntermediate (crypto : Crypto Key) (intermediate root : Certificate) : Status :=
  if ¬ intermediate.issuer.same root.subject then .sgxIntermediateCaInvalidIssuer
  else if ¬ crypto.verifyCertificateSignature intermediate.signature intermediate.info
      root.pubKey then .sgxIntermediateCaInvalidIssuer
  else .ok

/-- `checkSignature(certificate, issuer)`. -/
def checkSignature (crypto : Crypto Key) (certificate issuer : Certificate) : Bool :=
  crypto.verifyCertificateSignature certificate.signature certificate.info issuer.pubKey

/-- `checkSignature(crl, crlIssuer)`. -/
def checkCrlSignature (crypto : Crypto Key) (crl : CrlStore) (crlIssuer : Certificate) : Bool :=
  crypto.verifyCrlSignature crl crlIssuer.pubKey

/-- `checkSha256EcdsaSignature(signature, message, publicKey)`. -/
def checkSha256EcdsaSignature (crypto : Crypto Key) (signature message publicKey : Bytes) : Bool :=
  match crypto.rawToP256PubKey publicKey with
  | none => false
  | some pubKey =>
    if h : signature.length = ecdsaP256SignatureByteLen then
      crypto.verifySha256EcdsaSignature ⟨signature, h⟩ message pubKey
    else false

end CommonVerifier

open CommonVerifier

/-! ## Revocation lists -/

/-- `CRL_REQUIRED_EXTENSIONS`: `NID_crl_number` and `NID_authority_key_identifier`. -/
def crlRequiredExtensions : List ℤ := [88, 90]

/-- A name of the Intel CAs, with the raw text and the common name. -/
def intelName (commonName : Bytes) : DistinguishedName :=
  { raw := str "CN=" ++ commonName ++ str ", O=Intel Corporation, L=Santa Clara, ST=CA, C=US"
    commonName, countryName := str "US", organizationName := str "Intel Corporation"
    locationName := str "Santa Clara", stateName := str "CA" }

/-- `ROOT_CA_SUBJECT`, `PLATFORM_CA_SUBJECT` and `PROCESSOR_CA_SUBJECT`, also as issuers
    of revocation lists. -/
def rootCaSubject : DistinguishedName := intelName (str "Intel SGX Root CA")
def platformCaSubject : DistinguishedName := intelName (str "Intel SGX PCK Platform CA")
def processorCaSubject : DistinguishedName := intelName (str "Intel SGX PCK Processor CA")

namespace PckCrlVerifier

/-- `verify(crl, cert)`; all fields of the names are compared. -/
def verify (crypto : Crypto Key) (crl : CrlStore) (cert : Certificate) : Status :=
  if crl.issuer ≠ cert.subject then .sgxCrlUnknownIssuer
  else if ¬ checkStandardExtensions crl.extensions crlRequiredExtensions then
    .sgxCrlInvalidExtensions
  else if ¬ checkCrlSignature crypto crl cert then .sgxCrlInvalidSignature
  else .ok

/-- The checks of the topmost certificate of a platform or processor CA. -/
def checkTopmost (crypto : Crypto Key) (chain : CertificateChain)
    (rootCertFromChain : Certificate) : Stage Unit := do
  returnUnless (chain.length = 2) .sgxCaCertUnsupportedFormat
  let topmostCert ← valueOrReturn chain.topmostCert .sgxIntermediateCaMissing
  returnUnless (topmostCert.subject.same processorCaSubject ∨
    topmostCert.subject.same platformCaSubject) .sgxCaCertInvalid
  returnUnless (verifyIntermediate crypto topmostCert rootCertFromChain = .ok) .sgxCaCertInvalid

/-- `verifyCRLIssuerCertChain(chain, crl)`. -/
def verifyCRLIssuerCertChain (crypto : Crypto Key) (chain : CertificateChain) (crl : CrlStore) :
    Stage Unit := do
  let rootCertFromChain ← valueOrReturn (chain.get rootCaSubject) .sgxRootCaInvalid
  returnUnless (verifyRootCACert crypto rootCertFromChain = .ok) .sgxCaCertInvalid
  if crl.issuer.same rootCaSubject then
    returnUnless (chain.length = 1) .sgxCaCertUnsupportedFormat
  else if crl.issuer.same platformCaSubject ∨ crl.issuer.same processorCaSubject then
    checkTopmost crypto chain rootCertFromChain
  else .error (.ok .sgxCrlUnknownIssuer)

/-- `verify(crl, chain, trustedRoot)`. -/
def verifyChain (crypto : Crypto Key) (crl : CrlStore) (chain : CertificateChain)
    (trustedRoot : Certificate) : Except Exn Status := statusOf do
  verifyCRLIssuerCertChain crypto chain crl
  let topmostCert ← valueOrReturn chain.topmostCert .sgxCrlUnknownIssuer
  continueIfOk (verify crypto crl topmostCert)
  returnUnless (trustedRoot.subject.same rootCaSubject) .trustedRootCaInvalid
  returnUnless (verifyRootCACert crypto trustedRoot = .ok) .trustedRootCaInvalid
  let chainRootCert ← valueOrReturn chain.rootCert .sgxRootCaMissing
  returnUnless (chainRootCert.signature = trustedRoot.signature) .sgxRootCaUntrusted

end PckCrlVerifier

/-! ## PCK certificates -/

/-- The certificates that `PckCertVerifier::verify` takes from a chain. -/
structure PckRoles where
  root : Certificate
  intermediate : Certificate
  pck : PckCertificate

namespace PckCertVerifier

/-- `verifyPCKCert(pckCert, intermediate)`. -/
def verifyPCKCert (crypto : Crypto Key) (pckCert : PckCertificate) (intermediate : Certificate) :
    Status :=
  if ¬ pckCert.issuer.same intermediate.subject then .sgxPckInvalidIssuer
  else if ¬ checkSignature crypto pckCert.toCertificate intermediate then .sgxPckInvalidIssuer
  else .ok

/-- The certificates and the phrases in their common names. -/
def rolesOf (chain : CertificateChain) : Stage PckRoles := do
  let root ← valueOrReturn chain.rootCert .sgxRootCaMissing
  returnUnless (commonNameContains root.subject sgxRootCaCnPhrase) .sgxRootCaMissing
  let intermediate ← valueOrReturn chain.getIntermediateCert .sgxIntermediateCaMissing
  returnUnless (commonNameContains intermediate.subject sgxIntermediateCnPhrase)
    .sgxIntermediateCaMissing
  let pck ← valueOrReturn chain.pckCert .sgxPckMissing
  returnUnless (commonNameContains pck.subject sgxPckCnPhrase) .sgxPckMissing
  pure { root, intermediate, pck }

/-- The checks of the certificates and of the trusted root. -/
def checkCerts (crypto : Crypto Key) (roles : PckRoles) (rootCa : Certificate) :
    Stage Unit := do
  continueIfOk (verifyRootCACert crypto roles.root)
  continueIfOk (verifyIntermediate crypto roles.intermediate roles.root)
  continueIfOk (verifyPCKCert crypto roles.pck roles.intermediate)
  returnUnless (rootCa.subject.same rootCa.issuer) .trustedRootCaInvalid
  returnUnless (roles.root.signature = rootCa.signature) .sgxPckCertChainUntrusted

/-- The checks of the revocation lists. -/
def checkCrls (crypto : Crypto Key) (roles : PckRoles) (rootCaCrl intermediateCrl : CrlStore) :
    Stage Unit := do
  continueIfOk (PckCrlVerifier.verify crypto rootCaCrl roles.root)
  continueIfOk (PckCrlVerifier.verify crypto intermediateCrl roles.intermediate)
  returnUnless (¬ rootCaCrl.isRevoked roles.intermediate) .sgxIntermediateCaRevoked
  returnUnless (¬ intermediateCrl.isRevoked roles.pck.toCertificate) .sgxPckRevoked

/-- The checks of the dates. -/
def checkDates (roles : PckRoles) (rootCaCrl intermediateCrl : CrlStore) (expirationDate : ℤ) :
    Stage Unit := do
  returnUnless (¬ expirationDate > roles.root.validity.notAfterTime) .sgxPckCertChainExpired
  returnUnless (¬ expirationDate > roles.intermediate.validity.notAfterTime)
    .sgxPckCertChainExpired
  returnUnless (¬ expirationDate > roles.pck.validity.notAfterTime) .sgxPckCertChainExpired
  returnUnless (¬ rootCaCrl.expired expirationDate) .sgxCrlExpired
  returnUnless (¬ intermediateCrl.expired expirationDate) .sgxCrlExpired

/-- `verify(chain, rootCaCrl, intermediateCrl, rootCa, expirationDate)`. -/
def verify (crypto : Crypto Key) (chain : CertificateChain) (rootCaCrl intermediateCrl : CrlStore)
    (rootCa : Certificate) (expirationDate : ℤ) : Except Exn Status := statusOf do
  let roles ← rolesOf chain
  checkCerts crypto roles rootCa
  checkCrls crypto roles rootCaCrl intermediateCrl
  checkDates roles rootCaCrl intermediateCrl expirationDate

end PckCertVerifier

/-! ## Collateral -/

namespace TCBSigningChain

/-- `verifyTCBCert(tcbCert, rootCaCert)`. -/
def verifyTCBCert (crypto : Crypto Key) (tcbCert rootCaCert : Certificate) : Status :=
  if ¬ tcbCert.issuer.same rootCaCert.subject then .sgxTcbSigningCertInvalidIssuer
  else if ¬ checkSignature crypto tcbCert rootCaCert then .sgxTcbSigningCertInvalidIssuer
  else .ok

/-- `verify(chain, rootCaCrl, trustedRoot)`. -/
def verify (crypto : Crypto Key) (chain : CertificateChain) (rootCaCrl : CrlStore)
    (trustedRoot : Certificate) : Except Exn Status := statusOf do
  let rootCert ← valueOrReturn chain.rootCert .sgxRootCaMissing
  returnUnless (commonNameContains rootCert.subject sgxRootCaCnPhrase) .sgxRootCaMissing
  continueIfOk (verifyRootCACert crypto rootCert)
  let tcbSigningCert ← valueOrReturn chain.topmostCert .sgxTcbSigningCertMissing
  returnUnless (commonNameContains tcbSigningCert.subject sgxTcbSigningCnPhrase)
    .sgxTcbSigningCertMissing
  continueIfOk (verifyTCBCert crypto tcbSigningCert rootCert)
  continueIfOk (PckCrlVerifier.verify crypto rootCaCrl rootCert)
  returnUnless (¬ rootCaCrl.isRevoked tcbSigningCert) .sgxTcbSigningCertRevoked
  returnUnless (trustedRoot.subject.same trustedRoot.issuer) .trustedRootCaInvalid
  returnUnless (rootCert.signature = trustedRoot.signature) .sgxTcbSigningCertChainUntrusted

end TCBSigningChain

/-- A certificate of a chain through its pointer. -/
def deref (cert : Option Certificate) : Stage Certificate :=
  match cert with
  | some cert => .ok cert
  | none => .error (.error .undefined)

/-- `TCBInfoVerifier::verify(tcbJson, chain, rootCaCrl, trustedRoot, expirationDate)`. -/
def TCBInfoVerifier.verify (crypto : Crypto Key) (tcbJson : TcbInfo) (chain : CertificateChain)
    (rootCaCrl : CrlStore) (trustedRoot : Certificate) (expirationDate : ℤ) :
    Except Exn Status := statusOf do
  continueIfOk (← calling (TCBSigningChain.verify crypto chain rootCaCrl trustedRoot))
  let tcbSigningCert ← deref chain.topmostCert
  returnUnless (checkSha256EcdsaSignature crypto tcbJson.signature tcbJson.infoBody
    tcbSigningCert.pubKey) .tcbInfoInvalidSignature
  let rootCa ← deref chain.rootCert
  returnUnless (¬ expirationDate > rootCa.validity.notAfterTime) .sgxSigningCertChainExpired
  returnUnless (¬ expirationDate > tcbSigningCert.validity.notAfterTime) .sgxSigningCertChainExpired
  returnUnless (¬ rootCaCrl.expired expirationDate) .sgxCrlExpired
  returnUnless (¬ expirationDate > tcbJson.nextUpdate) .sgxTcbInfoExpired

/-- `EnclaveIdentityVerifier::verify(enclaveIdentity, chain, rootCaCrl, trustedRoot,
    expirationDate)`. -/
def EnclaveIdentityVerifier.verify (crypto : Crypto Key) (enclaveIdentity : EnclaveIdentity)
    (chain : CertificateChain) (rootCaCrl : CrlStore) (trustedRoot : Certificate)
    (expirationDate : ℤ) : Except Exn Status := statusOf do
  continueIfOk (← calling (TCBSigningChain.verify crypto chain rootCaCrl trustedRoot))
  let tcbSigningCert ← deref chain.topmostCert
  returnUnless (checkSha256EcdsaSignature crypto enclaveIdentity.signature enclaveIdentity.body
    tcbSigningCert.pubKey) .sgxEnclaveIdentityInvalidSignature
  returnUnless (¬ expirationDate > tcbSigningCert.validity.notAfterTime) .sgxSigningCertChainExpired
  let rootCA ← deref chain.rootCert
  returnUnless (¬ expirationDate > rootCA.validity.notAfterTime) .sgxSigningCertChainExpired
  returnUnless (¬ rootCaCrl.expired expirationDate) .sgxCrlExpired
  returnUnless (¬ expirationDate > enclaveIdentity.nextUpdate) .sgxEnclaveIdentityExpired

/-! ## What `STATUS_OK` stands for -/

theorem statusOf_eq_ok {stage : Stage Unit} (h : Avoids (.ok .ok) stage) :
    statusOf stage = .ok .ok ↔ stage = .ok () := by
  cases stage with
  | ok u => simp [statusOf]
  | error result =>
    constructor
    · intro hresult
      exact absurd (congrArg Except.error (show result = _ from hresult)) h
    · intro hresult
      cases hresult

theorem continueIfOk_avoids_ok (status : Status) :
    Avoids (.ok .ok) (continueIfOk status) := by
  unfold continueIfOk
  by_cases h : status ≠ .ok
  · rw [if_pos h]
    refine Avoids.throw fun heq => h ?_
    exact Except.ok.inj heq
  · rw [if_neg h]
    exact Avoids.pure ()

theorem valueOrReturn_avoids_ok {α : Type} {value : Option α} {status : Status}
    (h : status ≠ .ok) : Avoids (.ok .ok) (valueOrReturn value status) := by
  cases value with
  | none => exact Avoids.throw fun heq => h (Except.ok.inj heq)
  | some value => exact Avoids.pure value

theorem returnUnless_avoids_ok {condition : Prop} [Decidable condition] {status : Status}
    (h : status ≠ .ok) : Avoids (.ok .ok) (returnUnless condition status : Stage Unit) :=
  Avoids.returnUnless fun heq => h (Except.ok.inj heq)

/-- A certificate is issued and signed by another. -/
structure IssuedBy (crypto : Crypto Key) (cert issuer : Certificate) : Prop where
  name : cert.issuer.same issuer.subject = true
  signature : checkSignature crypto cert issuer = true

/-- The two checks of a certificate and its issuer, with one status for both. -/
theorem issuedBy_iff {crypto : Crypto Key} {cert issuer : Certificate} {status : Status}
    (h : status ≠ .ok) :
    (if ¬ cert.issuer.same issuer.subject then status
      else if ¬ checkSignature crypto cert issuer then status else .ok) = .ok ↔
        IssuedBy crypto cert issuer := by
  constructor
  · intro hok
    by_cases hname : cert.issuer.same issuer.subject = true
    · rw [if_neg (not_not.mpr hname)] at hok
      by_cases hsignature : checkSignature crypto cert issuer = true
      · exact ⟨hname, hsignature⟩
      · rw [if_pos hsignature] at hok
        exact absurd hok h
    · rw [if_pos hname] at hok
      exact absurd hok h
  · rintro ⟨hname, hsignature⟩
    rw [if_neg (not_not.mpr hname), if_neg (not_not.mpr hsignature)]

section Issuers

variable {crypto : Crypto Key} {cert issuer : Certificate}

theorem CommonVerifier.verifyRootCACert_eq_ok :
    verifyRootCACert crypto cert = .ok ↔ IssuedBy crypto cert cert :=
  issuedBy_iff (by decide)

theorem CommonVerifier.verifyIntermediate_eq_ok :
    verifyIntermediate crypto cert issuer = .ok ↔ IssuedBy crypto cert issuer :=
  issuedBy_iff (by decide)

theorem PckCertVerifier.verifyPCKCert_eq_ok {pckCert : PckCertificate} :
    verifyPCKCert crypto pckCert issuer = .ok ↔ IssuedBy crypto pckCert.toCertificate issuer :=
  issuedBy_iff (by decide)

end Issuers

/-- A revocation list is issued and signed by a certificate. -/
structure CrlIssuedBy (crypto : Crypto Key) (crl : CrlStore) (cert : Certificate) : Prop where
  issuer : crl.issuer = cert.subject
  extensions : checkStandardExtensions crl.extensions crlRequiredExtensions = true
  signature : checkCrlSignature crypto crl cert = true

theorem PckCrlVerifier.verify_eq_ok {crypto : Crypto Key} {crl : CrlStore} {cert : Certificate} :
    PckCrlVerifier.verify crypto crl cert = .ok ↔ CrlIssuedBy crypto crl cert := by
  unfold PckCrlVerifier.verify
  constructor
  · intro h
    split_ifs at h with hissuer hextensions hsignature
    exact ⟨not_not.mp hissuer, hextensions, hsignature⟩
  · rintro ⟨hissuer, hextensions, hsignature⟩
    rw [if_neg (not_not.mpr hissuer), if_neg (not_not.mpr hextensions),
      if_neg (not_not.mpr hsignature)]

namespace PckCertVerifier

/-- The checks that a PCK certificate chain passes. -/
structure Accepts (crypto : Crypto Key) (chain : CertificateChain)
    (rootCaCrl intermediateCrl : CrlStore) (rootCa : Certificate) (expirationDate : ℤ)
    (r : PckRoles) : Prop where
  root : chain.rootCert = some r.root
  root_name : commonNameContains r.root.subject sgxRootCaCnPhrase = true
  intermediate : chain.getIntermediateCert = some r.intermediate
  intermediate_name : commonNameContains r.intermediate.subject sgxIntermediateCnPhrase = true
  pck : chain.pckCert = some r.pck
  pck_name : commonNameContains r.pck.subject sgxPckCnPhrase = true
  root_issued : IssuedBy crypto r.root r.root
  intermediate_issued : IssuedBy crypto r.intermediate r.root
  pck_issued : IssuedBy crypto r.pck.toCertificate r.intermediate
  trusted_name : rootCa.subject.same rootCa.issuer = true
  trusted : r.root.signature = rootCa.signature
  rootCrl_issued : CrlIssuedBy crypto rootCaCrl r.root
  intermediateCrl_issued : CrlIssuedBy crypto intermediateCrl r.intermediate
  intermediate_good : ¬ rootCaCrl.isRevoked r.intermediate
  pck_good : ¬ intermediateCrl.isRevoked r.pck.toCertificate
  root_date : expirationDate ≤ r.root.validity.notAfterTime
  intermediate_date : expirationDate ≤ r.intermediate.validity.notAfterTime
  pck_date : expirationDate ≤ r.pck.validity.notAfterTime
  rootCrl_date : rootCaCrl.expired expirationDate = false
  intermediateCrl_date : intermediateCrl.expired expirationDate = false

variable {crypto : Crypto Key} {chain : CertificateChain} {rootCaCrl intermediateCrl : CrlStore}
  {rootCa : Certificate} {expirationDate : ℤ}

theorem rolesOf_avoids : Avoids (.ok .ok) (rolesOf chain) :=
  (valueOrReturn_avoids_ok (by decide)).bind fun _ _ =>
    (returnUnless_avoids_ok (by decide)).bind fun _ _ =>
      (valueOrReturn_avoids_ok (by decide)).bind fun _ _ =>
        (returnUnless_avoids_ok (by decide)).bind fun _ _ =>
          (valueOrReturn_avoids_ok (by decide)).bind fun _ _ =>
            (returnUnless_avoids_ok (by decide)).bind fun _ _ => Avoids.pure _

theorem checkCerts_avoids {roles : PckRoles} : Avoids (.ok .ok) (checkCerts crypto roles rootCa) :=
  (continueIfOk_avoids_ok _).bind fun _ _ => (continueIfOk_avoids_ok _).bind fun _ _ =>
    (continueIfOk_avoids_ok _).bind fun _ _ =>
      (returnUnless_avoids_ok (by decide)).bind fun _ _ => returnUnless_avoids_ok (by decide)

theorem checkCrls_avoids {roles : PckRoles} :
    Avoids (.ok .ok) (checkCrls crypto roles rootCaCrl intermediateCrl) :=
  (continueIfOk_avoids_ok _).bind fun _ _ => (continueIfOk_avoids_ok _).bind fun _ _ =>
    (returnUnless_avoids_ok (by decide)).bind fun _ _ => returnUnless_avoids_ok (by decide)

theorem checkDates_avoids {roles : PckRoles} :
    Avoids (.ok .ok) (checkDates roles rootCaCrl intermediateCrl expirationDate) :=
  (returnUnless_avoids_ok (by decide)).bind fun _ _ =>
    (returnUnless_avoids_ok (by decide)).bind fun _ _ =>
      (returnUnless_avoids_ok (by decide)).bind fun _ _ =>
        (returnUnless_avoids_ok (by decide)).bind fun _ _ => returnUnless_avoids_ok (by decide)

theorem rolesOf_eq_ok {r : PckRoles} : rolesOf chain = .ok r ↔
    (chain.rootCert = some r.root ∧ commonNameContains r.root.subject sgxRootCaCnPhrase = true) ∧
    (chain.getIntermediateCert = some r.intermediate ∧
      commonNameContains r.intermediate.subject sgxIntermediateCnPhrase = true) ∧
    chain.pckCert = some r.pck ∧ commonNameContains r.pck.subject sgxPckCnPhrase = true := by
  simp only [rolesOf, bind_eq_ok, valueOrReturn_eq_ok, returnUnless_eq_ok, exists_const]
  constructor
  · rintro ⟨root, hroot, hrootName, intermediate, hintermediate, hname, pck, hpck, hpckName, h⟩
    cases h
    exact ⟨⟨hroot, hrootName⟩, ⟨hintermediate, hname⟩, hpck, hpckName⟩
  · rintro ⟨⟨hroot, hrootName⟩, ⟨hintermediate, hname⟩, hpck, hpckName⟩
    exact ⟨_, hroot, hrootName, _, hintermediate, hname, _, hpck, hpckName, rfl⟩

theorem checkCerts_eq_ok {r : PckRoles} : checkCerts crypto r rootCa = .ok () ↔
    IssuedBy crypto r.root r.root ∧ IssuedBy crypto r.intermediate r.root ∧
      IssuedBy crypto r.pck.toCertificate r.intermediate ∧
      rootCa.subject.same rootCa.issuer = true ∧ r.root.signature = rootCa.signature := by
  simp only [checkCerts, bind_eq_ok, continueIfOk_eq_ok, returnUnless_eq_ok, exists_const,
    verifyRootCACert_eq_ok, verifyIntermediate_eq_ok, verifyPCKCert_eq_ok]

theorem checkCrls_eq_ok {r : PckRoles} :
    checkCrls crypto r rootCaCrl intermediateCrl = .ok () ↔
      CrlIssuedBy crypto rootCaCrl r.root ∧ CrlIssuedBy crypto intermediateCrl r.intermediate ∧
      ¬ rootCaCrl.isRevoked r.intermediate ∧
      ¬ intermediateCrl.isRevoked r.pck.toCertificate := by
  simp only [checkCrls, bind_eq_ok, continueIfOk_eq_ok, returnUnless_eq_ok, exists_const,
    PckCrlVerifier.verify_eq_ok]

theorem checkDates_eq_ok {r : PckRoles} :
    checkDates r rootCaCrl intermediateCrl expirationDate = .ok () ↔
      expirationDate ≤ r.root.validity.notAfterTime ∧
      expirationDate ≤ r.intermediate.validity.notAfterTime ∧
      expirationDate ≤ r.pck.validity.notAfterTime ∧
      rootCaCrl.expired expirationDate = false ∧
      intermediateCrl.expired expirationDate = false := by
  simp only [checkDates, bind_eq_ok, returnUnless_eq_ok, exists_const, gt_iff_lt, not_lt,
    Bool.not_eq_true]

/-- **Accepted chains.** `STATUS_OK` stands for all the checks. -/
theorem verify_eq_ok :
    verify crypto chain rootCaCrl intermediateCrl rootCa expirationDate = .ok .ok ↔
      ∃ r, Accepts crypto chain rootCaCrl intermediateCrl rootCa expirationDate r := by
  unfold verify
  rw [statusOf_eq_ok (rolesOf_avoids.bind fun _ _ => checkCerts_avoids.bind fun _ _ =>
    checkCrls_avoids.bind fun _ _ => checkDates_avoids), bind_eq_ok]
  refine exists_congr fun r => ?_
  constructor
  · rintro ⟨hroles, h⟩
    obtain ⟨_, hcerts, h⟩ := bind_eq_ok.mp h
    obtain ⟨_, hcrls, hdates⟩ := bind_eq_ok.mp h
    obtain ⟨⟨hroot, hrootName⟩, ⟨hintermediate, hname⟩, hpck, hpckName⟩ := rolesOf_eq_ok.mp hroles
    obtain ⟨hrootIssued, hintermediateIssued, hpckIssued, htrustedName, htrusted⟩ :=
      checkCerts_eq_ok.mp hcerts
    obtain ⟨hrootCrl, hintermediateCrl, hintermediateGood, hpckGood⟩ := checkCrls_eq_ok.mp hcrls
    obtain ⟨hrootDate, hintermediateDate, hpckDate, hrootCrlDate, hintermediateCrlDate⟩ :=
      checkDates_eq_ok.mp hdates
    exact ⟨hroot, hrootName, hintermediate, hname, hpck, hpckName, hrootIssued,
      hintermediateIssued, hpckIssued, htrustedName, htrusted, hrootCrl, hintermediateCrl,
      hintermediateGood, hpckGood, hrootDate, hintermediateDate, hpckDate, hrootCrlDate,
      hintermediateCrlDate⟩
  · intro h
    have hroles : rolesOf chain = .ok r := rolesOf_eq_ok.mpr
      ⟨⟨h.root, h.root_name⟩, ⟨h.intermediate, h.intermediate_name⟩, h.pck, h.pck_name⟩
    have hcerts : checkCerts crypto r rootCa = .ok () := checkCerts_eq_ok.mpr
      ⟨h.root_issued, h.intermediate_issued, h.pck_issued, h.trusted_name, h.trusted⟩
    have hcrls : checkCrls crypto r rootCaCrl intermediateCrl = .ok () := checkCrls_eq_ok.mpr
      ⟨h.rootCrl_issued, h.intermediateCrl_issued, h.intermediate_good, h.pck_good⟩
    have hdates : checkDates r rootCaCrl intermediateCrl expirationDate = .ok () :=
      checkDates_eq_ok.mpr ⟨h.root_date, h.intermediate_date, h.pck_date, h.rootCrl_date,
        h.intermediateCrl_date⟩
    exact ⟨hroles, bind_eq_ok.mpr ⟨(), hcerts, bind_eq_ok.mpr ⟨(), hcrls, hdates⟩⟩⟩

end PckCertVerifier

end DcapQvl
