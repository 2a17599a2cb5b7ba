import DcapQvl.Verify.ChainApi

/-!
# Chains of revocation lists

What `PckCrlVerifier::verify` accepts, in the terms of the chain: the root is looked up by
its subject, as the last self-issued certificate, and by the signature of the trusted root,
and all three are the same certificate.

Results:
* `PckCrlVerifier.verifyChain_eq_ok`: the checks that `STATUS_OK` stands for.
* `pckCrl_verified`: no certificate of the chain is left unverified.
-/

namespace DcapQvl

open Lib QuoteVerifier CommonVerifier

variable {Key : Type} {crypto : Crypto Key} {crl : CrlStore} {chain : CertificateChain}
  {trustedRoot : Certificate}

namespace PckCrlVerifier

/-- The chain of a list of a platform or processor CA: the CA is issued by the root. -/
structure CaOf (crypto : Crypto Key) (chain : CertificateChain) (root ca : Certificate) :
    Prop where
  length : chain.length = 2
  topmost : chain.topmostCert = some ca
  subject : ca.subject.same processorCaSubject = true ∨ ca.subject.same platformCaSubject = true
  issued : IssuedBy crypto ca root

theorem checkTopmost_eq_ok {root : Certificate} :
    checkTopmost crypto chain root = .ok () ↔ ∃ ca, CaOf crypto chain root ca := by
  simp only [checkTopmost, bind_eq_ok, valueOrReturn_eq_ok, returnUnless_eq_ok, exists_const,
    verifyIntermediate_eq_ok]
  constructor
  · rintro ⟨hlen, ca, htopmost, hsubject, hissued⟩
    exact ⟨ca, hlen, htopmost, hsubject, hissued⟩
  · rintro ⟨ca, h⟩
    exact ⟨h.length, ca, h.topmost, h.subject, h.issued⟩

/-- The length of the chain and the subject of its topmost certificate fit the issuer of the
    list. -/
def FitsIssuer (crypto : Crypto Key) (chain : CertificateChain) (crl : CrlStore)
    (root : Certificate) : Prop :=
  (crl.issuer.same rootCaSubject = true ∧ chain.length = 1) ∨
    ((crl.issuer.same platformCaSubject = true ∨ crl.issuer.same processorCaSubject = true) ∧
      ∃ ca, CaOf crypto chain root ca)

theorem rootCaSubject_ne : rootCaSubject.same platformCaSubject = false ∧
    rootCaSubject.same processorCaSubject = false := by
  decide +kernel

theorem not_same_rootCaSubject {name : DistinguishedName}
    (h : name.same platformCaSubject = true ∨ name.same processorCaSubject = true) :
    ¬ name.same rootCaSubject = true := by
  intro hroot
  obtain ⟨hplatform, hprocessor⟩ := rootCaSubject_ne
  have hname := DistinguishedName.same_comm.mp hroot
  rcases h with h | h
  · rw [DistinguishedName.same_trans hname h] at hplatform
    cases hplatform
  · rw [DistinguishedName.same_trans hname h] at hprocessor
    cases hprocessor

theorem verifyCRLIssuerCertChain_eq_ok {u : Unit} :
    verifyCRLIssuerCertChain crypto chain crl = .ok u ↔
      ∃ root, chain.get rootCaSubject = some root ∧ IssuedBy crypto root root ∧
        FitsIssuer crypto chain crl root := by
  simp only [verifyCRLIssuerCertChain, bind_eq_ok, valueOrReturn_eq_ok, returnUnless_eq_ok,
    exists_const, verifyRootCACert_eq_ok]
  refine exists_congr fun root => and_congr_right fun _ => and_congr_right fun _ => ?_
  unfold FitsIssuer
  by_cases hroot : crl.issuer.same rootCaSubject = true
  · rw [if_pos hroot, returnUnless_eq_ok]
    constructor
    · exact fun hlen => Or.inl ⟨hroot, hlen⟩
    · rintro (⟨_, hlen⟩ | ⟨hca, _⟩)
      · exact hlen
      · exact absurd hroot (not_same_rootCaSubject hca)
  · rw [if_neg hroot]
    by_cases hca : crl.issuer.same platformCaSubject = true ∨
        crl.issuer.same processorCaSubject = true
    · rw [if_pos hca, checkTopmost_eq_ok]
      constructor
      · exact fun h => Or.inr ⟨hca, h⟩
      · rintro (⟨h, _⟩ | ⟨_, h⟩)
        · exact absurd h hroot
        · exact h
    · rw [if_neg hca]
      constructor
      · intro h
        cases h
      · rintro (⟨h, _⟩ | ⟨h, _⟩)
        · exact absurd h hroot
        · exact absurd h hca

theorem verifyCRLIssuerCertChain_avoids :
    Avoids (.ok .ok) (verifyCRLIssuerCertChain crypto chain crl) := by
  refine (valueOrReturn_avoids_ok (by decide)).bind fun root _ => ?_
  refine (returnUnless_avoids_ok (by decide)).bind fun _ _ => ?_
  split_ifs
  · exact returnUnless_avoids_ok (by decide)
  · refine (returnUnless_avoids_ok (by decide)).bind fun _ _ => ?_
    refine (valueOrReturn_avoids_ok (by decide)).bind fun _ _ => ?_
    exact (returnUnless_avoids_ok (by decide)).bind fun _ _ => returnUnless_avoids_ok (by decide)
  · exact Avoids.throw (by simp)

/-- The checks of a list with its chain. -/
theorem verifyChain_eq_ok :
    verifyChain crypto crl chain trustedRoot = .ok .ok ↔
      (∃ root, chain.get rootCaSubject = some root ∧ IssuedBy crypto root root ∧
        FitsIssuer crypto chain crl root) ∧
      (∃ topmost, chain.topmostCert = some topmost ∧ CrlIssuedBy crypto crl topmost) ∧
      trustedRoot.subject.same rootCaSubject = true ∧ IssuedBy crypto trustedRoot trustedRoot ∧
      ∃ chainRoot, chain.rootCert = some chainRoot ∧
        chainRoot.signature = trustedRoot.signature := by
  unfold verifyChain
  rw [statusOf_eq_ok ?_]
  · simp only [bind_eq_ok, verifyCRLIssuerCertChain_eq_ok, valueOrReturn_eq_ok,
      continueIfOk_eq_ok, returnUnless_eq_ok, exists_const, PckCrlVerifier.verify_eq_ok,
      verifyRootCACert_eq_ok]
    constructor
    · rintro ⟨hchain, topmost, htopmost, hcrl, hsubject, htrusted, hroot⟩
      exact ⟨hchain, ⟨topmost, htopmost, hcrl⟩, hsubject, htrusted, hroot⟩
    · rintro ⟨hchain, ⟨topmost, htopmost, hcrl⟩, hsubject, htrusted, hroot⟩
      exact ⟨hchain, topmost, htopmost, hcrl, hsubject, htrusted, hroot⟩
  · refine verifyCRLIssuerCertChain_avoids.bind fun _ _ => ?_
    refine (valueOrReturn_avoids_ok (by decide)).bind fun _ _ => ?_
    refine (continueIfOk_avoids_ok _).bind fun _ _ => ?_
    refine (returnUnless_avoids_ok (by decide)).bind fun _ _ => ?_
    refine (returnUnless_avoids_ok (by decide)).bind fun _ _ => ?_
    exact (valueOrReturn_avoids_ok (by decide)).bind fun _ _ =>
      returnUnless_avoids_ok (by decide)

end PckCrlVerifier

/-! ## The certificates of the chain -/

namespace CertificateChain

variable {env : X509Env} {certs : List Certificate} {subject : DistinguishedName}
  {cert root : Certificate}

theorem get_ofCerts (h : (ofCerts env certs).get subject = some cert) :
    cert ∈ certs ∧ cert.subject.same subject = true := by
  have hfind : certs.find? (fun c => c.subject.same subject) = some cert := h
  exact ⟨List.mem_of_find?_eq_some hfind, by simpa using List.find?_some hfind⟩

theorem topmostCert_ofCerts (h : (ofCerts env certs).topmostCert = some cert) : cert ∈ certs :=
  List.mem_reverse.mp (List.mem_of_find?_eq_some h)

/-- The last self-issued certificate is the only one. -/
theorem rootCert_eq_of_unique (hmem : root ∈ certs) (hself : isSelfIssued root = true)
    (hunique : ∀ cert ∈ certs, isSelfIssued cert = true → cert = root) :
    (ofCerts env certs).rootCert = some root := by
  cases hfind : (ofCerts env certs).rootCert with
  | none =>
    have := List.find?_eq_none.mp hfind root (List.mem_reverse.mpr hmem)
    exact absurd hself this
  | some cert =>
    obtain ⟨hcert, hcertSelf⟩ := rootCert_ofCerts hfind
    rw [hunique cert hcert hcertSelf]

end CertificateChain

theorem IssuedBy.isSelfIssued {cert : Certificate} (h : IssuedBy crypto cert cert) :
    CertificateChain.isSelfIssued cert = true := DistinguishedName.same_comm.mp h.name

/-- A certificate issued by the root is self-issued only if it has the name of the root. -/
theorem IssuedBy.not_isSelfIssued {cert root : Certificate} (h : IssuedBy crypto cert root)
    (hne : ¬ cert.subject.same root.subject = true) :
    ¬ CertificateChain.isSelfIssued cert = true :=
  fun hself => hne (DistinguishedName.same_trans hself h.name)

/-- Two different members of a list of two are all of it. -/
theorem eq_pair_of_mem {α : Type} {xs : List α} {x y : α} (hlen : xs.length = 2) (hx : x ∈ xs)
    (hy : y ∈ xs) (hne : x ≠ y) : xs = [x, y] ∨ xs = [y, x] := by
  obtain ⟨a, b, rfl⟩ := List.length_eq_two.mp hlen
  simp only [List.mem_cons, List.not_mem_nil, or_false] at hx hy
  rcases hx with rfl | rfl <;> rcases hy with rfl | rfl
  · exact absurd rfl hne
  · exact Or.inl rfl
  · exact Or.inr rfl
  · exact absurd rfl hne

/-- **Verified lists.** When a revocation list is accepted, its chain is the root alone, and the
    list is issued and signed by the root, or it is the root and a CA issued and signed by the
    root, and the list is issued and signed by the CA. The root is found by its subject, as the
    self-issued certificate and by the signature of the trusted root. -/
theorem pckCrl_verified {env : X509Env} {pemCertChain : Bytes}
    (hparse : CertificateChain.parse env pemCertChain = .ok (.ok, chain))
    (hok : PckCrlVerifier.verifyChain crypto crl chain trustedRoot = .ok .ok) :
    ∃ root topmost, chain.get rootCaSubject = some root ∧ chain.rootCert = some root ∧
      root.signature = trustedRoot.signature ∧ IssuedBy crypto root root ∧
      chain.topmostCert = some topmost ∧ CrlIssuedBy crypto crl topmost ∧
      ((crl.issuer.same rootCaSubject = true ∧ chain.certs = [root] ∧ topmost = root) ∨
        ((crl.issuer.same platformCaSubject = true ∨ crl.issuer.same processorCaSubject = true) ∧
          (chain.certs = [root, topmost] ∨ chain.certs = [topmost, root]) ∧ topmost ≠ root ∧
          IssuedBy crypto topmost root)) := by
  obtain ⟨_, certs, _, _, _, _, rfl⟩ := CertificateChain.parse_eq_ok.mp hparse
  obtain ⟨⟨root, hget, hissued, hfits⟩, ⟨topmost, htopmost, hcrl⟩, _, _, chainRoot, hroot,
    hsignature⟩ := PckCrlVerifier.verifyChain_eq_ok.mp hok
  obtain ⟨hmem, hsubject⟩ := CertificateChain.get_ofCerts hget
  have htop := CertificateChain.topmostCert_ofCerts htopmost
  have hself := hissued.isSelfIssued
  rcases hfits with ⟨hissuer, hlen⟩ | ⟨hissuer, ca, hca⟩
  · obtain ⟨cert, rfl⟩ := List.length_eq_one_iff.mp hlen
    rw [List.mem_singleton] at hmem htop
    subst hmem htop
    have hrootCert : (CertificateChain.ofCerts env [_]).rootCert = some _ :=
      CertificateChain.rootCert_eq_of_unique (List.mem_singleton.mpr rfl) hself
        fun cert hcert _ => List.mem_singleton.mp hcert
    rw [hrootCert] at hroot
    cases hroot
    exact ⟨_, _, hget, hrootCert, hsignature, hissued, htopmost, hcrl,
      Or.inl ⟨hissuer, rfl, rfl⟩⟩
  · have heq : ca = topmost := Option.some.inj (hca.topmost.symm.trans htopmost)
    subst heq
    have hne : ¬ ca.subject.same root.subject = true := fun h =>
      PckCrlVerifier.not_same_rootCaSubject hca.subject.symm
        (DistinguishedName.same_trans h hsubject)
    have hneCert : ca ≠ root := fun h => hne (h ▸ DistinguishedName.same_refl _)
    have hcerts := eq_pair_of_mem hca.length hmem htop hneCert.symm
    have hrootCert : (CertificateChain.ofCerts env certs).rootCert = some root := by
      refine CertificateChain.rootCert_eq_of_unique hmem hself fun cert hcert hcertSelf => ?_
      have hpair : cert = root ∨ cert = ca := by
        rcases hcerts with h | h <;> rw [show certs = _ from h] at hcert <;> simp at hcert <;> tauto
      rcases hpair with h | rfl
      · exact h
      · exact absurd hcertSelf (hca.issued.not_isSelfIssued hne)
    rw [hrootCert] at hroot
    cases hroot
    exact ⟨_, _, hget, hrootCert, hsignature, hissued, htopmost, hcrl,
      Or.inr ⟨hissuer, hcerts, hneCert, hca.issued⟩⟩

/-- The list of the platform CA, with the CA after the root. -/
theorem pckCrl_verified_sample :
    ∃ root topmost : Certificate, root.signature = (sampleCaCertificate rootCaSubject).signature ∧
      CrlIssuedBy sampleCrypto (sampleCaCrl platformCaSubject) topmost ∧
      IssuedBy sampleCrypto topmost root := by
  have hparse : CertificateChain.parse sampleChainX509 (sampleChainText [0, 1]) =
      .ok (.ok, CertificateChain.ofCerts sampleChainX509
        [sampleCaCertificate rootCaSubject, sampleCaCertificate platformCaSubject]) := by
    unfold CertificateChain.parse
    rw [splitChain_of_pemText (pemText_sampleChainText (by simp)), ok_bind]
    decide +kernel
  have hok : PckCrlVerifier.verifyChain sampleCrypto (sampleCaCrl platformCaSubject)
      (CertificateChain.ofCerts sampleChainX509
        [sampleCaCertificate rootCaSubject, sampleCaCertificate platformCaSubject])
      (sampleCaCertificate rootCaSubject) = .ok .ok := by decide +kernel
  obtain ⟨root, topmost, _, _, hsignature, _, _, hcrl, h⟩ := pckCrl_verified hparse hok
  rcases h with ⟨hissuer, _⟩ | ⟨_, _, _, hissued⟩
  · exact absurd hissuer (by decide +kernel)
  · exact ⟨root, topmost, hsignature, hcrl, hissued⟩

end DcapQvl
