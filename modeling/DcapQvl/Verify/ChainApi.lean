import DcapQvl.Verify.Api
import DcapQvl.Verify.Chain

/-!
# The API functions on certificate chains

Models of the functions of `QuoteVerification.cpp` that verify a certificate chain. A null
pointer is `none`.

Results:
* `verifyPCKCertificate_trusted`: no certificate of an accepted chain is left unverified.
-/

namespace DcapQvl

open Lib QuoteVerifier

variable {Key : Type}

/-! ## The functions -/

/-- Where the library runs: in an enclave, or with a system clock. -/
inductive Host
  | enclave
  | standard (now : ℤ)

/-- `getCurrentTime(expirationDate)`; `none` when it throws. -/
def getCurrentTime (host : Host) (expirationDate : Option ℤ) : Option ℤ :=
  match host, expirationDate with
  | .standard now, none => some now
  | .standard _, some time => some time
  | .enclave, none => none
  | .enclave, some time => if time ≠ 0 then some time else none

/-- `EXPECTED_CERTIFICATE_COUNT_IN_PCK_CHAIN` and `EXPECTED_CERTIFICATE_COUNT_IN_TCB_CHAIN`. -/
def expectedCertificateCountInPckChain : ℕ := 3
def expectedCertificateCountInTcbChain : ℕ := 2

/-- The status that a function returns in the end. -/
def returned (stage : Stage Status) : Except Exn Status :=
  match stage with
  | .ok status => .ok status
  | .error result => result

/-- `Certificate::parse(pem)` with the handlers for both exceptions. -/
def readTrustedRoot (env : X509Env) (pem : Bytes) (format invalidExtension : Status) :
    Stage Certificate :=
  match env.readCertificate pem with
  | .ok cert => .ok cert
  | .error (.format _) => .error (.ok format)
  | .error (.invalidExtension _) => .error (.ok invalidExtension)

/-- `chain.parse(pemCertChain)` and the check of the length. -/
def readChain (env : X509Env) (pemCertChain : Bytes) (count : ℕ) : Stage CertificateChain := do
  let (status, chain) ← calling (CertificateChain.parse env pemCertChain)
  continueIfOk status
  returnUnless (chain.length = count) .unsupportedCertFormat
  pure chain

/-- What `sgxAttestationVerifyPCKCertificate` does with its inputs. -/
def verifyPCKCertificateInputs (platform : Platform Key)
    (pemCertChain rootCaCrl intermediateCrl pemRootCaCertificate : Bytes) (currentTime : ℤ) :
    Stage Status := do
  let chain ← readChain platform.x509 pemCertChain expectedCertificateCountInPckChain
  let rootCaCrl ← valueOrReturn (platform.x509.readCrl rootCaCrl) .sgxCrlUnsupportedFormat
  let intermediateCrl ← valueOrReturn (platform.x509.readCrl intermediateCrl)
    .sgxCrlUnsupportedFormat
  let rootCa ← readTrustedRoot platform.x509 pemRootCaCertificate
    .trustedRootCaUnsupportedFormat .trustedRootCaUnsupportedFormat
  calling (PckCertVerifier.verify platform.crypto chain rootCaCrl intermediateCrl rootCa
    currentTime)

/-- `sgxAttestationVerifyPCKCertificate(pemCertChain, crls, pemRootCaCertificate,
    expirationDate)`. -/
def sgxAttestationVerifyPCKCertificate (platform : Platform Key) (host : Host)
    (pemCertChain : Option Bytes) (crls : Option (Option Bytes × Option Bytes))
    (pemRootCaCertificate : Option Bytes) (expirationDate : Option ℤ) : Except Exn Status :=
  match getCurrentTime host expirationDate with
  | none => .ok .invalidParameter
  | some currentTime =>
    match pemCertChain, pemRootCaCertificate, crls with
    | some pemCertChain, some pemRootCaCertificate, some (some rootCaCrl, some intermediateCrl) =>
      returned (verifyPCKCertificateInputs platform pemCertChain rootCaCrl intermediateCrl
        pemRootCaCertificate currentTime)
    | _, _, _ => .ok .unsupportedCertFormat

/-- What `sgxAttestationVerifyPCKRevocationList` does with its inputs. -/
def verifyPCKRevocationListInputs (platform : Platform Key)
    (crl pemCACertChain pemTrustedRootCaCert : Bytes) : Stage Status := do
  let x509Crl ← valueOrReturn (platform.x509.readCrl crl) .sgxCrlUnsupportedFormat
  let (status, chain) ← calling (CertificateChain.parse platform.x509 pemCACertChain)
  returnUnless (status = .ok) .sgxCaCertUnsupportedFormat
  let trustedRootCACert ← readTrustedRoot platform.x509 pemTrustedRootCaCert
    .trustedRootCaUnsupportedFormat .trustedRootCaUnsupportedFormat
  calling (PckCrlVerifier.verifyChain platform.crypto x509Crl chain trustedRootCACert)

/-- `sgxAttestationVerifyPCKRevocationList(crl, pemCACertChain, pemTrustedRootCaCert)`. -/
def sgxAttestationVerifyPCKRevocationList (platform : Platform Key)
    (crl pemCACertChain pemTrustedRootCaCert : Option Bytes) : Except Exn Status :=
  match crl, pemCACertChain, pemTrustedRootCaCert with
  | some crl, some pemCACertChain, some pemTrustedRootCaCert =>
    returned (verifyPCKRevocationListInputs platform crl pemCACertChain pemTrustedRootCaCert)
  | _, _, _ => .ok .sgxCrlUnsupportedFormat

/-- `TcbInfo::parse(tcbInfo)` with its handlers. -/
def readTcbInfoCollateral (env : JsonEnv) (tcbInfo : Bytes) : Stage TcbInfo :=
  match TcbInfo.parse env tcbInfo with
  | .ok tcbInfo => .ok tcbInfo
  | .error (.format _) => .error (.ok .sgxTcbInfoUnsupportedFormat)
  | .error (.invalidExtension _) => .error (.ok .sgxTcbInfoInvalid)
  | .error e => .error (.error e)

/-- `EnclaveIdentity::parse(enclaveIdentityString)` with its handlers. -/
def readEnclaveIdentityCollateral (env : JsonEnv) (enclaveIdentityString : Bytes) :
    Stage EnclaveIdentity :=
  match EnclaveIdentity.parse env enclaveIdentityString with
  | .ok enclaveIdentity => .ok enclaveIdentity
  | .error (.format _) => .error (.ok .sgxEnclaveIdentityUnsupportedFormat)
  | .error (.invalidExtension _) => .error (.ok .sgxEnclaveIdentityInvalid)
  | .error (.invalidVersion _) => .error (.ok .sgxEnclaveIdentityUnsupportedVersion)
  | .error e => .error (.error e)

/-- The collateral, the signing chain and its trusted root, and the verification. -/
def verifySignedCollateral {T : Type} (platform : Platform Key) (collateral : Stage T)
    (verify : T → CertificateChain → CrlStore → Certificate → ℤ → Except Exn Status)
    (pemCertChain stringRootCaCrl pemRootCaCertificate : Bytes) (currentTime : ℤ) :
    Stage Status := do
  let collateral ← collateral
  let chain ← readChain platform.x509 pemCertChain expectedCertificateCountInTcbChain
  let rootCaCrl ← valueOrReturn (platform.x509.readCrl stringRootCaCrl) .sgxCrlUnsupportedFormat
  let trustedRootCa ← readTrustedRoot platform.x509 pemRootCaCertificate
    .unsupportedCertFormat .sgxRootCaInvalidExtensions
  calling (verify collateral chain rootCaCrl trustedRootCa currentTime)

/-- `sgxAttestationVerifyTCBInfo(tcbInfo, pemCertChain, stringRootCaCrl,
    pemRootCaCertificate, expirationDate)`. -/
def sgxAttestationVerifyTCBInfo (platform : Platform Key) (host : Host)
    (tcbInfo pemCertChain stringRootCaCrl pemRootCaCertificate : Option Bytes)
    (expirationDate : Option ℤ) : Except Exn Status :=
  match getCurrentTime host expirationDate with
  | none => .ok .invalidParameter
  | some currentTime =>
    match tcbInfo, pemCertChain, stringRootCaCrl, pemRootCaCertificate with
    | some tcbInfo, some pemCertChain, some stringRootCaCrl, some pemRootCaCertificate =>
      returned (verifySignedCollateral platform (readTcbInfoCollateral platform.json tcbInfo)
        (TCBInfoVerifier.verify platform.crypto) pemCertChain stringRootCaCrl
        pemRootCaCertificate currentTime)
    | _, _, _, _ => .ok .unsupportedCertFormat

/-- `sgxAttestationVerifyEnclaveIdentity(enclaveIdentityString, pemCertChain,
    stringRootCaCrl, pemRootCaCertificate, expirationDate)`. -/
def sgxAttestationVerifyEnclaveIdentity (platform : Platform Key) (host : Host)
    (enclaveIdentityString pemCertChain stringRootCaCrl pemRootCaCertificate : Option Bytes)
    (expirationDate : Option ℤ) : Except Exn Status :=
  match getCurrentTime host expirationDate with
  | none => .ok .invalidParameter
  | some currentTime =>
    match enclaveIdentityString, pemCertChain, stringRootCaCrl, pemRootCaCertificate with
    | some enclaveIdentityString, some pemCertChain, some stringRootCaCrl,
        some pemRootCaCertificate =>
      returned (verifySignedCollateral platform
        (readEnclaveIdentityCollateral platform.json enclaveIdentityString)
        (EnclaveIdentityVerifier.verify platform.crypto) pemCertChain stringRootCaCrl
        pemRootCaCertificate currentTime)
    | _, _, _, _ => .ok .unsupportedCertFormat

/-! ## Accepted chains -/

theorem returned_eq_ok {stage : Stage Status} {status : Status} (h : Avoids (.ok status) stage) :
    returned stage = .ok status ↔ stage = .ok status := by
  cases stage with
  | ok s => simp [returned]
  | error result =>
    constructor
    · intro hresult
      exact absurd (congrArg Except.error (show result = _ from hresult)) h
    · intro hresult
      cases hresult

theorem readTrustedRoot_eq_ok {env : X509Env} {pem : Bytes} {format invalidExtension : Status}
    {cert : Certificate} :
    readTrustedRoot env pem format invalidExtension = .ok cert ↔
      env.readCertificate pem = .ok cert := by
  unfold readTrustedRoot
  cases env.readCertificate pem with
  | ok c => simp
  | error e => cases e <;> simp

theorem readTrustedRoot_avoids_ok {env : X509Env} {pem : Bytes} {format invalidExtension : Status}
    (hformat : format ≠ .ok) (hinvalid : invalidExtension ≠ .ok) :
    Avoids (.ok .ok) (readTrustedRoot env pem format invalidExtension) := by
  unfold readTrustedRoot
  cases env.readCertificate pem with
  | ok cert => exact Avoids.pure cert
  | error e =>
    cases e with
    | format what => exact Avoids.throw fun h => hformat (Except.ok.inj h)
    | invalidExtension what => exact Avoids.throw fun h => hinvalid (Except.ok.inj h)

/-- A call does not make the function return. -/
theorem calling_avoids_ok {α : Type} {x : Except Exn α} :
    Avoids (.ok .ok) (calling x : Stage α) :=
  Avoids.calling fun _ h => nomatch h

theorem readChain_avoids_ok {env : X509Env} {pemCertChain : Bytes} {count : ℕ} :
    Avoids (.ok .ok) (readChain env pemCertChain count) :=
  calling_avoids_ok.bind fun _ _ => (continueIfOk_avoids_ok _).bind fun _ _ =>
    (returnUnless_avoids_ok (by decide)).bind fun _ _ => Avoids.pure _

theorem readChain_eq_ok {env : X509Env} {pemCertChain : Bytes} {count : ℕ}
    {chain : CertificateChain} :
    readChain env pemCertChain count = .ok chain ↔
      CertificateChain.parse env pemCertChain = .ok (.ok, chain) ∧ chain.length = count := by
  simp only [readChain, bind_eq_ok, calling_eq_ok, continueIfOk_eq_ok, returnUnless_eq_ok,
    exists_const]
  constructor
  · rintro ⟨⟨status, c⟩, hparse, rfl, hlen, h⟩
    cases h
    exact ⟨hparse, hlen⟩
  · rintro ⟨hparse, hlen⟩
    exact ⟨(.ok, chain), hparse, rfl, hlen, rfl⟩

/-- What `STATUS_OK` of `sgxAttestationVerifyPCKCertificate` says about the inputs. -/
theorem verifyPCKCertificateInputs_eq_ok {platform : Platform Key}
    {pemCertChain rootCaCrl intermediateCrl pemRootCaCertificate : Bytes} {currentTime : ℤ} :
    returned (verifyPCKCertificateInputs platform pemCertChain rootCaCrl intermediateCrl
        pemRootCaCertificate currentTime) = .ok .ok ↔
      ∃ chain rootCrl caCrl rootCa,
        (CertificateChain.parse platform.x509 pemCertChain = .ok (.ok, chain) ∧
          chain.length = expectedCertificateCountInPckChain) ∧
        platform.x509.readCrl rootCaCrl = some rootCrl ∧
        platform.x509.readCrl intermediateCrl = some caCrl ∧
        platform.x509.readCertificate pemRootCaCertificate = .ok rootCa ∧
        PckCertVerifier.verify platform.crypto chain rootCrl caCrl rootCa currentTime =
          .ok .ok := by
  have havoids : Avoids (.ok .ok) (verifyPCKCertificateInputs platform pemCertChain rootCaCrl
      intermediateCrl pemRootCaCertificate currentTime) :=
    readChain_avoids_ok.bind fun _ _ => (valueOrReturn_avoids_ok (by decide)).bind fun _ _ =>
      (valueOrReturn_avoids_ok (by decide)).bind fun _ _ =>
        (readTrustedRoot_avoids_ok (by decide) (by decide)).bind fun _ _ => calling_avoids_ok
  rw [returned_eq_ok havoids]
  simp only [verifyPCKCertificateInputs, bind_eq_ok, readChain_eq_ok, valueOrReturn_eq_ok,
    readTrustedRoot_eq_ok, calling_eq_ok]
  constructor
  · rintro ⟨chain, hchain, rootCrl, hrootCrl, caCrl, hcaCrl, rootCa, hrootCa, h⟩
    exact ⟨chain, rootCrl, caCrl, rootCa, hchain, hrootCrl, hcaCrl, hrootCa, h⟩
  · rintro ⟨chain, rootCrl, caCrl, rootCa, hchain, hrootCrl, hcaCrl, hrootCa, h⟩
    exact ⟨chain, hchain, rootCrl, hrootCrl, caCrl, hcaCrl, rootCa, hrootCa, h⟩

/-- The certificates of the roles, in the order of the issuers. -/
def PckRoles.certs (r : PckRoles) : List Certificate := [r.root, r.intermediate, r.pck.toCertificate]

/-- The roles of an accepted chain are different certificates: a certificate in two of
    them would be the issuer of the intermediate certificate, which is not self-issued. -/
theorem PckCertVerifier.Accepts.nodup {crypto : Crypto Key} {chain : CertificateChain}
    {rootCaCrl intermediateCrl : CrlStore} {rootCa : Certificate} {date : ℤ} {r : PckRoles}
    (h : Accepts crypto chain rootCaCrl intermediateCrl rootCa date r)
    (hself : CertificateChain.isIntermediate r.intermediate = true) : r.certs.Nodup := by
  have hnot : ¬ r.intermediate.issuer.same r.intermediate.subject = true := by
    intro hsame
    unfold CertificateChain.isIntermediate at hself
    rw [DistinguishedName.same_comm.mp hsame] at hself
    simp at hself
  have hroot : r.root ≠ r.intermediate := by
    intro heq
    exact hnot (heq ▸ h.root_issued.name)
  have hpck : r.intermediate ≠ r.pck.toCertificate := by
    intro heq
    exact hnot (heq ▸ h.pck_issued.name)
  have hends : r.root ≠ r.pck.toCertificate := by
    intro heq
    have hsubject : r.root.subject.same r.intermediate.subject = true :=
      DistinguishedName.same_trans (DistinguishedName.same_comm.mp h.root_issued.name)
        (heq ▸ h.pck_issued.name)
    exact hnot (DistinguishedName.same_trans h.intermediate_issued.name hsubject)
  simp [PckRoles.certs, hroot, hpck, hends]

/-- The roles of a chain of three certificates are all of them. -/
theorem PckCertVerifier.Accepts.perm {crypto : Crypto Key} {env : X509Env}
    {certs : List Certificate} {rootCaCrl intermediateCrl : CrlStore} {rootCa : Certificate}
    {date : ℤ} {r : PckRoles} (h : Accepts crypto (CertificateChain.ofCerts env certs) rootCaCrl
      intermediateCrl rootCa date r) (hlen : certs.length = expectedCertificateCountInPckChain) :
    r.certs.Nodup ∧ certs.Perm r.certs := by
  obtain ⟨hintermediate, hself⟩ := CertificateChain.getIntermediateCert_ofCerts h.intermediate
  have hnodup := h.nodup hself
  have hsubset : r.certs ⊆ certs := by
    intro cert hcert
    simp only [PckRoles.certs, List.mem_cons, List.not_mem_nil, or_false] at hcert
    rcases hcert with rfl | rfl | rfl
    · exact (CertificateChain.rootCert_ofCerts h.root).1
    · exact hintermediate
    · exact (CertificateChain.pckCert_ofCerts h.pck).1
  refine ⟨hnodup, ?_⟩
  exact ((List.subperm_of_subset hnodup hsubset).perm_of_length_le hlen.le).symm

/-- **No certificate is left unverified.** An accepted PCK certificate chain has three
    certificates, which are its root, intermediate and PCK certificate; each is issued
    and signed by the one before it, and the root is the trusted one. -/
theorem verifyPCKCertificate_trusted {platform : Platform Key} {host : Host}
    {pemCertChain pemRootCaCertificate : Option Bytes}
    {crls : Option (Option Bytes × Option Bytes)} {expirationDate : Option ℤ}
    (h : sgxAttestationVerifyPCKCertificate platform host pemCertChain crls pemRootCaCertificate
      expirationDate = .ok .ok) :
    ∃ text rootCrlText caCrlText rootText, pemCertChain = some text ∧
      crls = some (some rootCrlText, some caCrlText) ∧ pemRootCaCertificate = some rootText ∧
    ∃ chain rootCrl caCrl rootCa,
      CertificateChain.parse platform.x509 text = .ok (.ok, chain) ∧
      platform.x509.readCrl rootCrlText = some rootCrl ∧
      platform.x509.readCrl caCrlText = some caCrl ∧
      platform.x509.readCertificate rootText = .ok rootCa ∧
    ∃ root intermediate pck,
      (chain.rootCert = some root ∧ chain.getIntermediateCert = some intermediate ∧
        chain.pckCert = some pck) ∧
      ([root, intermediate, pck.toCertificate].Nodup ∧
        chain.certs.Perm [root, intermediate, pck.toCertificate]) ∧
      (IssuedBy platform.crypto root root ∧ root.signature = rootCa.signature) ∧
      IssuedBy platform.crypto intermediate root ∧
      IssuedBy platform.crypto pck.toCertificate intermediate ∧
      (CrlIssuedBy platform.crypto rootCrl root ∧ ¬ rootCrl.isRevoked intermediate) ∧
      CrlIssuedBy platform.crypto caCrl intermediate ∧ ¬ caCrl.isRevoked pck.toCertificate := by
  unfold sgxAttestationVerifyPCKCertificate at h
  split at h
  · cases h
  · split at h
    · rename_i text rootText rootCrlText caCrlText
      obtain ⟨chain, rootCrl, caCrl, rootCa, ⟨hparse, hlen⟩, hrootCrl, hcaCrl, hrootCa, hverify⟩ :=
        verifyPCKCertificateInputs_eq_ok.mp h
      obtain ⟨_, certs, _, _, _, _, rfl⟩ := CertificateChain.parse_eq_ok.mp hparse
      obtain ⟨r, hr⟩ := PckCertVerifier.verify_eq_ok.mp hverify
      exact ⟨text, rootCrlText, caCrlText, rootText, rfl, rfl, rfl, _, rootCrl, caCrl, rootCa,
        hparse, hrootCrl, hcaCrl, hrootCa, r.root, r.intermediate, r.pck,
        ⟨hr.root, hr.intermediate, hr.pck⟩, hr.perm hlen, ⟨hr.root_issued, hr.trusted⟩,
        hr.intermediate_issued, hr.pck_issued, ⟨hr.rootCrl_issued, hr.intermediate_good⟩,
        hr.intermediateCrl_issued, hr.pck_good⟩
    · cases h

/-! A chain of three certificates. -/

/-- A block with a short body. -/
def sampleBlock (body : UInt8) : Bytes := begCert ++ [body] ++ endCert

/-- A certificate of one Intel CA for another. -/
def sampleCaCertificate (subject : DistinguishedName) : Certificate :=
  { samplePckCertificate.toCertificate with subject, issuer := rootCaSubject }

def sampleLeafCertificate : Certificate :=
  { sampleCertificate with
    subject := intelName (str "Intel SGX PCK Certificate"), issuer := platformCaSubject }

/-- The list of a CA, without entries. -/
def sampleCaCrl (issuer : DistinguishedName) : CrlStore :=
  { crl := [], issuer, validity := ⟨0, 2⟩, revoked := []
    extensions := crlRequiredExtensions.map fun nid => ⟨nid, [], []⟩ }

/-- The body of a block says which certificate it is, and the text of a list whose it is. -/
def sampleChainX509 : X509Env :=
  { sampleX509 1 1 sampleCrl with
    readCertificate := fun pem =>
      if pem = sampleBlock 0 then .ok (sampleCaCertificate rootCaSubject)
      else if pem = sampleBlock 1 then .ok (sampleCaCertificate platformCaSubject)
      else if pem = sampleBlock 2 then .ok sampleLeafCertificate
      else .error (.format [])
    readCrl := fun text =>
      if text = [0] then some (sampleCaCrl rootCaSubject)
      else some (sampleCaCrl platformCaSubject) }

def sampleChainPlatform : Platform Unit :=
  { samplePlatform [] with x509 := sampleChainX509 }

theorem isPemBlock_sampleBlock {body : UInt8} (h : body ∈ [0, 1, 2]) :
    IsPemBlock (sampleBlock body) := by
  simp only [List.mem_cons, List.not_mem_nil, or_false] at h
  rcases h with rfl | rfl | rfl
  all_goals exact ⟨by decide +kernel, by decide +kernel⟩

/-- The text of some blocks, one after the other. -/
def sampleChainText (bodies : List UInt8) : Bytes := (bodies.map sampleBlock).flatten

theorem pemText_sampleChainText {bodies : List UInt8} (h : ∀ b ∈ bodies, b ∈ [0, 1, 2]) :
    PemText (bodies.map sampleBlock) (sampleChainText bodies) := by
  induction bodies with
  | nil => exact .nil List.not_mem_nil
  | cons body bodies ih =>
    obtain ⟨hbody, hbodies⟩ := List.forall_mem_cons.mp h
    exact .cons List.not_mem_nil (isPemBlock_sampleBlock hbody) (ih hbodies)

theorem sampleChain_parse : CertificateChain.parse sampleChainX509 (sampleChainText [2, 0, 1]) =
    .ok (.ok, CertificateChain.ofCerts sampleChainX509 [sampleLeafCertificate,
      sampleCaCertificate rootCaSubject, sampleCaCertificate platformCaSubject]) := by
  unfold CertificateChain.parse
  rw [splitChain_of_pemText (pemText_sampleChainText (by simp)), ok_bind]
  decide +kernel

/-- It is accepted, with the PCK certificate first. -/
theorem verifyPCKCertificate_trusted_sample :
    ∃ chain, CertificateChain.parse sampleChainX509 (sampleChainText [2, 0, 1]) =
        .ok (.ok, chain) ∧
      ∃ root intermediate pck, chain.rootCert = some root ∧
        chain.getIntermediateCert = some intermediate ∧ chain.pckCert = some pck ∧
        chain.certs.Perm [root, intermediate, pck.toCertificate] := by
  have hinputs (text root : Bytes) : sgxAttestationVerifyPCKCertificate sampleChainPlatform
      (.standard 0) (some text) (some (some [0], some [1])) (some root) (some 1) =
        returned (verifyPCKCertificateInputs sampleChainPlatform text [0] [1] root 1) := rfl
  have hok : sgxAttestationVerifyPCKCertificate sampleChainPlatform (.standard 0)
      (some (sampleChainText [2, 0, 1])) (some (some [0], some [1])) (some (sampleBlock 0))
      (some 1) = .ok .ok := by
    rw [hinputs, verifyPCKCertificateInputs_eq_ok]
    exact ⟨_, sampleCaCrl rootCaSubject, sampleCaCrl platformCaSubject,
      sampleCaCertificate rootCaSubject, ⟨sampleChain_parse, rfl⟩, by decide +kernel,
      by decide +kernel, by decide +kernel, by decide +kernel⟩
  obtain ⟨text, _, _, _, htext, _, _, chain, _, _, _, hparse, _, _, _, root, intermediate, pck,
    ⟨hroot, hintermediate, hpck⟩, ⟨_, hperm⟩, _⟩ := verifyPCKCertificate_trusted hok
  rw [← Option.some.inj htext] at hparse
  exact ⟨chain, hparse, root, intermediate, pck, hroot, hintermediate, hpck, hperm⟩

end DcapQvl
