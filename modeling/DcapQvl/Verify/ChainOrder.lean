import DcapQvl.Verify.ChainApi

/-!
# The order of the certificates in a chain

Each role of a chain is found by a scan of its own: the last self-issued certificate, the
first intermediate one, the last with the phrase of PCK certificates, the last that has
issued no other. When at most one certificate fits each role, the scans find the same
certificates in every order.

Results:
* `UniqueRoles.sameRoles`: the roles of a chain and of a permutation of it.
* `chainOrder_irrelevant`: the parser, the verifiers and the API functions on two texts with
  the same blocks.
-/

namespace DcapQvl

open Lib QuoteVerifier CertificateChain

variable {Key : Type}

/-! ## Roles -/

/-- At most one certificate fits each role, and the subjects are different. -/
structure UniqueRoles (env : X509Env) (certs : List Certificate) : Prop where
  root : certs.countP isSelfIssued = 1
  intermediate : certs.countP isIntermediate ≤ 1
  pck : certs.countP isPck ≤ 1
  pck_parses : PckParses env certs
  subjects : certs.Pairwise fun cert other => ¬ cert.subject.same other.subject
  topmost : certs.countP (isTopmost certs) = 1

/-- Two chains have the same certificates in their roles. -/
structure SameRoles (chain chain' : CertificateChain) : Prop where
  rootCert : chain.rootCert = chain'.rootCert
  intermediateCert : chain.getIntermediateCert = chain'.getIntermediateCert
  pckCert : chain.pckCert = chain'.pckCert
  topmostCert : chain.topmostCert = chain'.topmostCert
  length : chain.length = chain'.length
  get : ∀ subject, chain.get subject = chain'.get subject

theorem isTopmost_perm {certs certs' : List Certificate} (h : certs.Perm certs') :
    isTopmost certs = isTopmost certs' := by
  funext cert
  rw [Bool.eq_iff_iff, isTopmost, isTopmost, Option.isNone_iff_eq_none, Option.isNone_iff_eq_none,
    List.find?_eq_none, List.find?_eq_none]
  exact forall_congr' fun found => by rw [h.mem_iff]

/-- Certificates with the same subject are the same. -/
theorem UniqueRoles.eq_of_subject {env : X509Env} {certs : List Certificate}
    (h : UniqueRoles env certs) {cert other : Certificate} (hcert : cert ∈ certs)
    (hother : other ∈ certs) (hsame : cert.subject.same other.subject = true) : cert = other := by
  have hsymm : Std.Symm fun c d : Certificate => ¬ c.subject.same d.subject :=
    ⟨fun c d hcd hdc => hcd (DistinguishedName.same_comm.mp hdc)⟩
  by_contra hne
  exact h.subjects.forall hcert hother hne hsame

/-- **The scans.** They find the same certificates in a permutation of the list. -/
theorem UniqueRoles.sameRoles {env : X509Env} {certs certs' : List Certificate}
    (h : UniqueRoles env certs) (hperm : certs.Perm certs') :
    SameRoles (ofCerts env certs) (ofCerts env certs') := by
  have hpck : certs.reverse.find? isPck = certs'.reverse.find? isPck :=
    find?_reverse_perm hperm fun _ hx _ hy => eq_of_countP_le_one h.pck hx hy
  refine {
    rootCert := find?_reverse_perm hperm fun _ hx _ hy => eq_of_countP_le_one h.root.le hx hy
    intermediateCert := find?_perm hperm fun _ hx _ hy => eq_of_countP_le_one h.intermediate hx hy
    pckCert := congrArg (Option.bind · (toPck env)) hpck
    topmostCert := ?_
    length := hperm.length_eq
    get := fun subject => find?_perm hperm fun x hx y hy hsx hsy => ?_ }
  · show certs.reverse.find? (isTopmost certs) = certs'.reverse.find? (isTopmost certs')
    rw [← isTopmost_perm hperm]
    exact find?_reverse_perm hperm fun _ hx _ hy => eq_of_countP_le_one h.topmost.le hx hy
  · exact h.eq_of_subject hx hy
      (DistinguishedName.same_trans hsx (DistinguishedName.same_comm.mp hsy))

/-! ## Verifiers -/

section Verifiers

variable {chain chain' : CertificateChain} (h : SameRoles chain chain') (crypto : Crypto Key)
include h

theorem SameRoles.pckCertVerifier (rootCaCrl intermediateCrl : CrlStore) (rootCa : Certificate)
    (expirationDate : ℤ) :
    PckCertVerifier.verify crypto chain rootCaCrl intermediateCrl rootCa expirationDate =
      PckCertVerifier.verify crypto chain' rootCaCrl intermediateCrl rootCa expirationDate := by
  unfold PckCertVerifier.verify PckCertVerifier.rolesOf
  rw [h.rootCert, h.intermediateCert, h.pckCert]

theorem SameRoles.tcbSigningChain (rootCaCrl : CrlStore) (trustedRoot : Certificate) :
    TCBSigningChain.verify crypto chain rootCaCrl trustedRoot =
      TCBSigningChain.verify crypto chain' rootCaCrl trustedRoot := by
  unfold TCBSigningChain.verify
  rw [h.rootCert, h.topmostCert]

theorem SameRoles.pckCrlVerifier (crl : CrlStore) (trustedRoot : Certificate) :
    PckCrlVerifier.verifyChain crypto crl chain trustedRoot =
      PckCrlVerifier.verifyChain crypto crl chain' trustedRoot := by
  unfold PckCrlVerifier.verifyChain PckCrlVerifier.verifyCRLIssuerCertChain
    PckCrlVerifier.checkTopmost
  rw [h.rootCert, h.topmostCert, h.length, h.get]

theorem SameRoles.tcbInfoVerifier (tcbJson : TcbInfo) (rootCaCrl : CrlStore)
    (trustedRoot : Certificate) (expirationDate : ℤ) :
    TCBInfoVerifier.verify crypto tcbJson chain rootCaCrl trustedRoot expirationDate =
      TCBInfoVerifier.verify crypto tcbJson chain' rootCaCrl trustedRoot expirationDate := by
  unfold TCBInfoVerifier.verify
  rw [h.tcbSigningChain, h.rootCert, h.topmostCert]

theorem SameRoles.enclaveIdentityVerifier (enclaveIdentity : EnclaveIdentity)
    (rootCaCrl : CrlStore) (trustedRoot : Certificate) (expirationDate : ℤ) :
    EnclaveIdentityVerifier.verify crypto enclaveIdentity chain rootCaCrl trustedRoot
        expirationDate =
      EnclaveIdentityVerifier.verify crypto enclaveIdentity chain' rootCaCrl trustedRoot
        expirationDate := by
  unfold EnclaveIdentityVerifier.verify
  rw [h.tcbSigningChain, h.rootCert, h.topmostCert]

end Verifiers

/-! ## API functions -/

/-- Two texts are parsed to chains with the same certificates in their roles. -/
def ParsedAlike (env : X509Env) (text text' : Bytes) : Prop :=
  ∃ chain chain', CertificateChain.parse env text = .ok (.ok, chain) ∧
    CertificateChain.parse env text' = .ok (.ok, chain') ∧ SameRoles chain chain'

section Api

variable {platform : Platform Key} {text text' : Bytes} (h : ParsedAlike platform.x509 text text')
include h

/-- The stages that read a chain and use it. -/
theorem ParsedAlike.readChain_bind (count : ℕ) {f : CertificateChain → Stage Status}
    (hf : ∀ chain chain', SameRoles chain chain' → f chain = f chain') :
    (readChain platform.x509 text count >>= f) = (readChain platform.x509 text' count >>= f) := by
  obtain ⟨chain, chain', hchain, hchain', hroles⟩ := h
  have hread (t : Bytes) (c : CertificateChain)
      (ht : CertificateChain.parse platform.x509 t = .ok (.ok, c)) :
      (readChain platform.x509 t count >>= f) =
        (returnUnless (c.length = count) .unsupportedCertFormat >>= fun _ => f c) := by
    unfold readChain
    rw [ht]
    show ((returnUnless (c.length = count) .unsupportedCertFormat >>= fun _ => pure c) >>= f) = _
    rw [bind_assoc]
    rfl
  rw [hread text chain hchain, hread text' chain' hchain', hroles.length, hf chain chain' hroles]

theorem ParsedAlike.verifyPCKCertificate (host : Host)
    (crls : Option (Option Bytes × Option Bytes)) (pemRootCaCertificate : Option Bytes)
    (expirationDate : Option ℤ) :
    sgxAttestationVerifyPCKCertificate platform host (some text) crls pemRootCaCertificate
        expirationDate =
      sgxAttestationVerifyPCKCertificate platform host (some text') crls pemRootCaCertificate
        expirationDate := by
  have hinputs (rootCaCrl intermediateCrl pemRoot : Bytes) (currentTime : ℤ) :
      verifyPCKCertificateInputs platform text rootCaCrl intermediateCrl pemRoot currentTime =
        verifyPCKCertificateInputs platform text' rootCaCrl intermediateCrl pemRoot
          currentTime := by
    refine h.readChain_bind _ fun chain chain' hroles => ?_
    simp only [hroles.pckCertVerifier]
  unfold sgxAttestationVerifyPCKCertificate
  cases getCurrentTime host expirationDate with
  | none => rfl
  | some currentTime =>
    rcases pemRootCaCertificate with _ | pemRoot
    · rcases crls with _ | ⟨_ | _, _ | _⟩ <;> rfl
    · rcases crls with _ | ⟨_ | rootCaCrl, _ | intermediateCrl⟩
      -- all but the last lack a revocation list
      iterate 4 rfl
      exact congrArg returned (hinputs rootCaCrl intermediateCrl pemRoot currentTime)

theorem ParsedAlike.verifyPCKRevocationList (crl pemTrustedRootCaCert : Option Bytes) :
    sgxAttestationVerifyPCKRevocationList platform crl (some text) pemTrustedRootCaCert =
      sgxAttestationVerifyPCKRevocationList platform crl (some text') pemTrustedRootCaCert := by
  have hinputs (crl pemRoot : Bytes) : verifyPCKRevocationListInputs platform crl text pemRoot =
      verifyPCKRevocationListInputs platform crl text' pemRoot := by
    obtain ⟨chain, chain', hchain, hchain', hroles⟩ := h
    unfold verifyPCKRevocationListInputs
    rw [hchain, hchain']
    refine bind_congr fun x509Crl => ?_
    have hstages (c : CertificateChain) :
        ((calling (.ok (Status.ok, c)) : Stage (Status × CertificateChain)) >>= fun r => do
          returnUnless (r.1 = .ok) .sgxCaCertUnsupportedFormat
          let trustedRoot ← readTrustedRoot platform.x509 pemRoot
            .trustedRootCaUnsupportedFormat .trustedRootCaUnsupportedFormat
          calling (PckCrlVerifier.verifyChain platform.crypto x509Crl r.2 trustedRoot)) =
        (readTrustedRoot platform.x509 pemRoot .trustedRootCaUnsupportedFormat
            .trustedRootCaUnsupportedFormat >>= fun trustedRoot =>
          calling (PckCrlVerifier.verifyChain platform.crypto x509Crl c trustedRoot)) := rfl
    refine (hstages chain).trans (Eq.trans ?_ (hstages chain').symm)
    simp only [hroles.pckCrlVerifier]
  unfold sgxAttestationVerifyPCKRevocationList
  rcases crl with _ | crl
  · rfl
  · rcases pemTrustedRootCaCert with _ | pemRoot
    · rfl
    · exact congrArg returned (hinputs crl pemRoot)

/-- The stages of both functions on signed collateral. -/
theorem ParsedAlike.verifySignedCollateral {T : Type} (collateral : Stage T)
    {verify : T → CertificateChain → CrlStore → Certificate → ℤ → Except Exn Status}
    (hverify : ∀ chain chain', SameRoles chain chain' → ∀ t crl root time,
      verify t chain crl root time = verify t chain' crl root time)
    (stringRootCaCrl pemRootCaCertificate : Bytes) (currentTime : ℤ) :
    DcapQvl.verifySignedCollateral platform collateral verify text stringRootCaCrl
        pemRootCaCertificate currentTime =
      DcapQvl.verifySignedCollateral platform collateral verify text' stringRootCaCrl
        pemRootCaCertificate currentTime := by
  unfold DcapQvl.verifySignedCollateral
  refine bind_congr fun t => h.readChain_bind _ fun chain chain' hroles => ?_
  simp only [hverify chain chain' hroles]

theorem ParsedAlike.verifyTCBInfo (host : Host)
    (tcbInfo stringRootCaCrl pemRootCaCertificate : Option Bytes) (expirationDate : Option ℤ) :
    sgxAttestationVerifyTCBInfo platform host tcbInfo (some text) stringRootCaCrl
        pemRootCaCertificate expirationDate =
      sgxAttestationVerifyTCBInfo platform host tcbInfo (some text') stringRootCaCrl
        pemRootCaCertificate expirationDate := by
  unfold sgxAttestationVerifyTCBInfo
  cases getCurrentTime host expirationDate with
  | none => rfl
  | some currentTime =>
    rcases tcbInfo with _ | collateral
    · rfl
    · rcases stringRootCaCrl with _ | crl
      · rfl
      · rcases pemRootCaCertificate with _ | root
        · rfl
        · exact congrArg returned (h.verifySignedCollateral _
            (fun _ _ hroles => hroles.tcbInfoVerifier platform.crypto) crl root currentTime)

theorem ParsedAlike.verifyEnclaveIdentity (host : Host)
    (enclaveIdentityString stringRootCaCrl pemRootCaCertificate : Option Bytes)
    (expirationDate : Option ℤ) :
    sgxAttestationVerifyEnclaveIdentity platform host enclaveIdentityString (some text)
        stringRootCaCrl pemRootCaCertificate expirationDate =
      sgxAttestationVerifyEnclaveIdentity platform host enclaveIdentityString (some text')
        stringRootCaCrl pemRootCaCertificate expirationDate := by
  unfold sgxAttestationVerifyEnclaveIdentity
  cases getCurrentTime host expirationDate with
  | none => rfl
  | some currentTime =>
    rcases enclaveIdentityString with _ | collateral
    · rfl
    · rcases stringRootCaCrl with _ | crl
      · rfl
      · rcases pemRootCaCertificate with _ | root
        · rfl
        · exact congrArg returned (h.verifySignedCollateral _
            (fun _ _ hroles => hroles.enclaveIdentityVerifier platform.crypto) crl root currentTime)

end Api

/-! ## Permuted texts -/

theorem UniqueRoles.parse {env : X509Env} {certs : List Certificate} (h : UniqueRoles env certs)
    {blocks : List Bytes} {text : Bytes} (htext : PemText blocks text)
    (hcerts : blocks.mapM env.readCertificate = .ok certs) :
    CertificateChain.parse env text = .ok (.ok, ofCerts env certs) := by
  refine parse_eq_ok.mpr ⟨blocks, certs, splitChain_of_pemText htext, hcerts, ?_, h.pck_parses, rfl⟩
  rintro rfl
  exact absurd h.root (by decide)

/-- **The order does not matter.** Two texts have the same blocks, in any order and with
    any separators, and the certificates in them have unique roles. Then the parser
    selects the same certificates, and the verifiers and the API functions return the
    same. -/
theorem chainOrder_irrelevant {platform : Platform Key} {blocks blocks' : List Bytes}
    {text text' : Bytes} (htext : PemText blocks text) (htext' : PemText blocks' text')
    (hperm : blocks.Perm blocks') {certs : List Certificate}
    (hcerts : blocks.mapM platform.x509.readCertificate = .ok certs)
    (hunique : UniqueRoles platform.x509 certs) :
    (∃ chain chain', CertificateChain.parse platform.x509 text = .ok (.ok, chain) ∧
      CertificateChain.parse platform.x509 text' = .ok (.ok, chain') ∧ SameRoles chain chain' ∧
      (∀ rootCaCrl intermediateCrl rootCa expirationDate,
        PckCertVerifier.verify platform.crypto chain rootCaCrl intermediateCrl rootCa
            expirationDate =
          PckCertVerifier.verify platform.crypto chain' rootCaCrl intermediateCrl rootCa
            expirationDate) ∧
      (∀ rootCaCrl trustedRoot, TCBSigningChain.verify platform.crypto chain rootCaCrl trustedRoot =
        TCBSigningChain.verify platform.crypto chain' rootCaCrl trustedRoot) ∧
      ∀ crl trustedRoot, PckCrlVerifier.verifyChain platform.crypto crl chain trustedRoot =
        PckCrlVerifier.verifyChain platform.crypto crl chain' trustedRoot) ∧
    (∀ host crls pemRootCaCertificate expirationDate,
      sgxAttestationVerifyPCKCertificate platform host (some text) crls pemRootCaCertificate
          expirationDate =
        sgxAttestationVerifyPCKCertificate platform host (some text') crls pemRootCaCertificate
          expirationDate) ∧
    (∀ crl pemTrustedRootCaCert,
      sgxAttestationVerifyPCKRevocationList platform crl (some text) pemTrustedRootCaCert =
        sgxAttestationVerifyPCKRevocationList platform crl (some text') pemTrustedRootCaCert) ∧
    (∀ host tcbInfo stringRootCaCrl pemRootCaCertificate expirationDate,
      sgxAttestationVerifyTCBInfo platform host tcbInfo (some text) stringRootCaCrl
          pemRootCaCertificate expirationDate =
        sgxAttestationVerifyTCBInfo platform host tcbInfo (some text') stringRootCaCrl
          pemRootCaCertificate expirationDate) ∧
    ∀ host enclaveIdentityString stringRootCaCrl pemRootCaCertificate expirationDate,
      sgxAttestationVerifyEnclaveIdentity platform host enclaveIdentityString (some text)
          stringRootCaCrl pemRootCaCertificate expirationDate =
        sgxAttestationVerifyEnclaveIdentity platform host enclaveIdentityString (some text')
          stringRootCaCrl pemRootCaCertificate expirationDate := by
  obtain ⟨certs', hcerts', hperm'⟩ : ∃ certs',
      blocks'.mapM platform.x509.readCertificate = .ok certs' ∧ certs.Perm certs' := by
    have hagree := Agree.mapM_perm platform.x509.readCertificate hperm
    rw [hcerts] at hagree
    generalize blocks'.mapM platform.x509.readCertificate = read at hagree
    cases hagree with
    | ok h => exact ⟨_, rfl, h⟩
  have hroles := hunique.sameRoles hperm'
  have hparse := hunique.parse htext hcerts
  have hparse' : CertificateChain.parse platform.x509 text' =
      .ok (.ok, ofCerts platform.x509 certs') := by
    refine parse_eq_ok.mpr ⟨blocks', certs', splitChain_of_pemText htext', hcerts', ?_, ?_, rfl⟩
    · rintro rfl
      rw [List.perm_nil.mp hperm'] at hunique
      exact absurd hunique.root (by decide)
    · exact fun cert hcert => hunique.pck_parses cert (hperm'.mem_iff.mpr hcert)
  have halike : ParsedAlike platform.x509 text text' := ⟨_, _, hparse, hparse', hroles⟩
  refine ⟨⟨_, _, hparse, hparse', hroles, ?_, ?_, ?_⟩, ?_, ?_, ?_, ?_⟩
  · exact hroles.pckCertVerifier platform.crypto
  · exact hroles.tcbSigningChain platform.crypto
  · exact hroles.pckCrlVerifier platform.crypto
  · exact halike.verifyPCKCertificate
  · exact halike.verifyPCKRevocationList
  · exact halike.verifyTCBInfo
  · exact halike.verifyEnclaveIdentity

/-- The sample chain, with the PCK certificate first and last. -/
theorem chainOrder_irrelevant_sample :
    sgxAttestationVerifyPCKCertificate sampleChainPlatform (.standard 0)
        (some (sampleChainText [2, 0, 1])) (some (some [0], some [1])) (some (sampleBlock 0))
        none =
      sgxAttestationVerifyPCKCertificate sampleChainPlatform (.standard 0)
        (some (sampleChainText [0, 1, 2])) (some (some [0], some [1])) (some (sampleBlock 0))
        none := by
  have hperm : ([2, 0, 1].map sampleBlock).Perm ([0, 1, 2].map sampleBlock) :=
    List.Perm.map _ (by decide)
  have hunique : UniqueRoles sampleChainX509 [sampleLeafCertificate,
      sampleCaCertificate rootCaSubject, sampleCaCertificate platformCaSubject] := by
    refine ⟨by decide +kernel, by decide +kernel, by decide +kernel, ?_, by decide +kernel,
      by decide +kernel⟩
    obtain ⟨_, certs, _, _, _, hparses, heq⟩ := parse_eq_ok.mp sampleChain_parse
    have hcerts : [sampleLeafCertificate, sampleCaCertificate rootCaSubject,
        sampleCaCertificate platformCaSubject] = certs := congrArg CertificateChain.certs heq
    rw [hcerts]
    exact hparses
  exact (chainOrder_irrelevant (pemText_sampleChainText (by simp))
    (pemText_sampleChainText (by simp)) hperm (by decide +kernel) hunique).2.1 _ _ _ _

end DcapQvl
