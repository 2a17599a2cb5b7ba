import DcapQvl.Lib.Search
import DcapQvl.X509.SgxExtensions

/-!
# Certificate chains

Model of `CertVerification/CertificateChain.cpp`. The certificates of a chain are in a
list, and a member that points to one of them is a copy of it.

Results:
* `splitChain_of_pemText`: a text of blocks is split into the blocks.
* `CertificateChain.parse_eq_ok`: when a text is parsed, and which certificates are selected.
-/

namespace DcapQvl

open Lib

/-! ## PEM blocks -/

/-- `begCert` and `endCert`. -/
def begCert : Bytes := str "-----BEGIN CERTIFICATE-----"
def endCert : Bytes := str "-----END CERTIFICATE-----"

/-- `substr(pos, n)` for a position inside the string. -/
def substr (s : Bytes) (pos n : ℕ) : Bytes := (s.drop pos).take n

/-- The loop of `splitChain`. The inner loop stops at the next dash, or `at` throws. -/
def splitLoop (pemChain : Bytes) (newStartPos foundEndPos : ℕ) (ret : List Bytes) :
    Except Exn (List Bytes) :=
  match findFrom pemChain (str "-") newStartPos with
  | none => .error .outOfRange
  | some newStartPos =>
    let newEndPos := foundEndPos + endCert.length
    let cert := substr pemChain newStartPos (newEndPos - newStartPos)
    let ret := if contains cert begCert then ret ++ [cert] else ret
    match _h : findFrom pemChain endCert newEndPos with
    | none => .ok ret
    | some nextEndPos =>
      if nextEndPos ≤ newEndPos then .ok []
      else splitLoop pemChain newEndPos nextEndPos ret
termination_by pemChain.length - foundEndPos
decreasing_by
  have := (findFrom_eq_some_iff.mp _h).2.1
  omega

/-- `CertificateChain::splitChain(pemChain)`. -/
def splitChain (pemChain : Bytes) : Except Exn (List Bytes) :=
  match findFrom pemChain begCert 0, findFrom pemChain endCert 0 with
  | some begPos, some endPos =>
    if begPos ≥ endPos then .ok [] else splitLoop pemChain begPos endPos []
  | _, _ => .ok []

/-! ## Chains -/

structure CertificateChain where
  certs : List Certificate
  rootCert : Option Certificate
  topmostCert : Option Certificate
  pckCert : Option PckCertificate
  deriving DecidableEq

namespace CertificateChain

/-- A new object. -/
def initial : CertificateChain :=
  { certs := [], rootCert := none, topmostCert := none, pckCert := none }

/-- The status for a certificate with invalid extensions, from the number of certificates
    before it and the number of all. -/
def invalidExtensionStatus (parsed count : ℕ) : Status :=
  if parsed = 0 then .sgxRootCaInvalidExtensions
  else if parsed = 1 then
    if count = 2 then .sgxTcbSigningCertInvalidExtensions else .sgxIntermediateCaInvalidExtensions
  else .sgxPckInvalidExtensions

/-- The subject of the certificate is its issuer. -/
def isSelfIssued (cert : Certificate) : Bool := cert.subject.same cert.issuer

/-- The first loop of `parse`, which goes on with `STATUS_OK`. -/
def readCerts (env : X509Env) (count : ℕ) :
    List Bytes → CertificateChain → Status × CertificateChain
  | [], chain => (.ok, chain)
  | certPem :: certStrs, chain =>
    match env.readCertificate certPem with
    | .ok cert =>
      readCerts env count certStrs { chain with
        rootCert := if isSelfIssued cert then some cert else chain.rootCert
        certs := chain.certs ++ [cert] }
    | .error (.format _) => (.unsupportedCertFormat, chain)
    | .error (.invalidExtension _) => (invalidExtensionStatus chain.certs.length count, chain)

/-- `found` is another certificate, issued by `cert`. -/
def isSignedCert (cert found : Certificate) : Bool :=
  !found.subject.same cert.subject && found.issuer.same cert.subject

/-- No certificate of the list is issued by `cert`. -/
def isTopmost (certs : List Certificate) (cert : Certificate) : Bool :=
  (certs.find? (isSignedCert cert)).isNone

/-- The common name has the phrase of PCK certificates. -/
def isPck (cert : Certificate) : Bool := contains cert.subject.commonName sgxPckCnPhrase

/-- The second loop of `parse`, which goes on with `STATUS_OK`. -/
def selectCerts (env : X509Env) :
    List Certificate → CertificateChain → Status × CertificateChain
  | [], chain => (.ok, chain)
  | cert :: certs, chain =>
    let chain :=
      if isTopmost chain.certs cert then { chain with topmostCert := some cert } else chain
    if isPck cert then
      match PckCertificate.ofCertificate env cert with
      | .ok pckCert => selectCerts env certs { chain with pckCert := some pckCert }
      | .error (.format _) => (.unsupportedCertFormat, chain)
      | .error (.invalidExtension _) => (.sgxPckInvalidExtensions, chain)
    else selectCerts env certs chain

/-- `length()`. -/
def length (chain : CertificateChain) : ℕ := chain.certs.length

/-- The body of `parse` after the text is split. -/
def parseBlocks (env : X509Env) (certStrs : List Bytes) : Status × CertificateChain :=
  match readCerts env certStrs.length certStrs initial with
  | (.ok, chain) =>
    match selectCerts env chain.certs chain with
    | (.ok, chain) =>
      if chain.length = 0 then (.unsupportedCertFormat, chain) else (.ok, chain)
    | result => result
  | result => result

/-- `CertificateChain::parse(pemCertChain)` on a new object. -/
def parse (env : X509Env) (pemCertChain : Bytes) : Except Exn (Status × CertificateChain) := do
  let certStrs ← splitChain pemCertChain
  pure (parseBlocks env certStrs)

/-- `get(subject)`. -/
def get (chain : CertificateChain) (subject : DistinguishedName) : Option Certificate :=
  chain.certs.find? fun cert => cert.subject.same subject

/-- The certificate is not self-issued, and its common name has the phrase of CAs. -/
def isIntermediate (cert : Certificate) : Bool :=
  !cert.subject.same cert.issuer && commonNameContains cert.subject sgxIntermediateCnPhrase

/-- `getIntermediateCert()`. -/
def getIntermediateCert (chain : CertificateChain) : Option Certificate :=
  chain.certs.find? isIntermediate

end CertificateChain

/-! ## Splitting -/

/-- A block of a certificate: the first marker of its end is its end. -/
def IsPemBlock (block : Bytes) : Prop :=
  begCert <+: block ∧ findFrom block endCert 0 = some (block.length - endCert.length)

/-- Blocks with texts without dashes around them. -/
inductive PemText : List Bytes → Bytes → Prop
  | nil {sep : Bytes} (hsep : 45 ∉ sep) : PemText [] sep
  | cons {sep block rest : Bytes} {blocks : List Bytes} (hsep : 45 ∉ sep)
      (hblock : IsPemBlock block) (h : PemText blocks rest) :
      PemText (block :: blocks) (sep ++ (block ++ rest))

theorem begCert_eq : begCert = 45 :: begCert.tail := rfl

theorem endCert_eq : endCert = 45 :: endCert.tail := rfl

theorem IsPemBlock.length_lt {block : Bytes} (h : IsPemBlock block) :
    endCert.length < block.length :=
  lt_of_lt_of_le (by decide) h.1.length_le

theorem IsPemBlock.contains {block : Bytes} (h : IsPemBlock block) :
    contains block begCert = true := decide_eq_true h.1.isInfix

/-- The end of the first block. -/
theorem PemText.find_endCert {sep block rest : Bytes} (hsep : 45 ∉ sep)
    (hblock : IsPemBlock block) :
    findFrom (sep ++ (block ++ rest)) endCert 0 =
      some (sep.length + (block.length - endCert.length)) := by
  rw [endCert_eq, findFrom_separator hsep, ← endCert_eq, findFrom_append_right hblock.2]
  rfl

/-- There is none without a block. -/
theorem find_of_not_mem {s pattern : Bytes} (hs : 45 ∉ s) :
    findFrom s (45 :: pattern) 0 = none := by
  have h : findFrom (s ++ []) (45 :: pattern) 0 = _ := findFrom_separator hs []
  rw [List.append_nil] at h
  rw [h, findFrom_eq_none_iff.mpr, Option.map_none]
  rintro j _ hle
  simp [Nat.le_zero.mp hle]

/-- Where a block starts, and where the markers are. -/
theorem PemText.find_start {sep block rest pattern : Bytes} (hsep : 45 ∉ sep)
    (h : 45 :: pattern <+: block) :
    findFrom (sep ++ (block ++ rest)) (45 :: pattern) 0 = some sep.length := by
  rw [findFrom_separator hsep, findFrom_append_right (i := 0), Option.map_some, Nat.add_zero]
  exact findFrom_eq_some_iff.mpr ⟨le_rfl, Nat.zero_le _, h, fun j _ hlt => absurd hlt (by omega)⟩

/-- One step of the loop, at a block of the text. -/
theorem splitLoop_step {done sep block rest : Bytes} {ret : List Bytes} (hsep : 45 ∉ sep)
    (hblock : IsPemBlock block) :
    splitLoop (done ++ (sep ++ (block ++ rest))) done.length
      (done.length + (sep.length + (block.length - endCert.length))) ret =
        match findFrom rest endCert 0 with
        | none => .ok (ret ++ [block])
        | some 0 => .ok []
        | some (k + 1) =>
          splitLoop (done ++ (sep ++ (block ++ rest))) (done ++ (sep ++ block)).length
            ((done ++ (sep ++ block)).length + (k + 1)) (ret ++ [block]) := by
  have hlt := hblock.length_lt
  have hdash : [45] <+: block := ((List.prefix_append [45] begCert.tail)).trans hblock.1
  have hskip : findFrom (done ++ (sep ++ (block ++ rest))) (str "-") done.length =
      some (done.length + sep.length) := by
    rw [findFrom_append_left]
    exact congrArg _ (PemText.find_start hsep hdash)
  have hlen : (done ++ (sep ++ block)).length =
      done.length + (sep.length + (block.length - endCert.length)) + endCert.length := by
    simp only [List.length_append]
    omega
  have hcert : substr (done ++ (sep ++ (block ++ rest))) (done.length + sep.length)
      ((done ++ (sep ++ block)).length - (done.length + sep.length)) = block := by
    have hcount : (done ++ (sep ++ block)).length - (done.length + sep.length) = block.length := by
      simp only [List.length_append]
      omega
    rw [substr, hcount, ← List.append_assoc, ← List.length_append, List.drop_left, List.take_left]
  have hnext : findFrom (done ++ (sep ++ (block ++ rest))) endCert (done ++ (sep ++ block)).length =
      (findFrom rest endCert 0).map ((done ++ (sep ++ block)).length + ·) := by
    rw [← findFrom_append_left]
    simp only [List.append_assoc]
  rw [splitLoop, hskip]
  simp only [← hlen, hcert, if_pos hblock.contains]
  cases hfind : findFrom rest endCert 0 with
  | none =>
    rw [hfind, Option.map_none] at hnext
    split
    · rfl
    · simp_all
  | some k =>
    rw [hfind, Option.map_some] at hnext
    split
    · simp_all
    · rename_i nextEndPos h
      rw [← hlen, hnext] at h
      cases h
      cases k with
      | zero => rw [if_pos (by omega)]
      | succ k => rw [if_neg (by omega)]

/-- The loop at a block of the text adds the block and those after it. -/
theorem splitLoop_of_pemText {rest : Bytes} {blocks : List Bytes} (h : PemText blocks rest) :
    ∀ {done sep block : Bytes} {ret : List Bytes}, 45 ∉ sep → IsPemBlock block →
      splitLoop (done ++ (sep ++ (block ++ rest))) done.length
        (done.length + (sep.length + (block.length - endCert.length))) ret =
          .ok (ret ++ block :: blocks) := by
  induction h with
  | nil hlast =>
    intro done sep block ret hsep hblock
    rw [splitLoop_step hsep hblock, endCert_eq, find_of_not_mem hlast]
  | @cons sep' block' rest' blocks' hsep' hblock' _ ih =>
    intro done sep block ret hsep hblock
    have hlt := hblock'.length_lt
    obtain ⟨k, hk⟩ : ∃ k, sep'.length + (block'.length - endCert.length) = k + 1 :=
      ⟨sep'.length + (block'.length - endCert.length) - 1, by omega⟩
    rw [splitLoop_step hsep hblock, PemText.find_endCert hsep' hblock', hk]
    have hrest := @ih (done ++ (sep ++ block)) _ _ (ret ++ [block]) hsep' hblock'
    rw [hk] at hrest
    simp only [List.append_assoc] at hrest ⊢
    exact hrest

/-- **Splitting.** A text of blocks is split into the blocks. -/
theorem splitChain_of_pemText {blocks : List Bytes} {text : Bytes} (h : PemText blocks text) :
    splitChain text = .ok blocks := by
  unfold splitChain
  cases h with
  | nil hsep => rw [begCert_eq, find_of_not_mem hsep]
  | @cons sep block rest blocks hsep hblock h =>
    have hlt := hblock.length_lt
    have hstart : findFrom (sep ++ (block ++ rest)) begCert 0 = some sep.length :=
      PemText.find_start hsep hblock.1
    have hloop := @splitLoop_of_pemText _ _ h sep [] block [] List.not_mem_nil hblock
    rw [List.nil_append, List.length_nil, Nat.zero_add, List.nil_append] at hloop
    rw [hstart, PemText.find_endCert hsep hblock]
    simp only
    rw [if_neg (by omega), hloop]

/-! ## Selecting -/

namespace CertificateChain

/-- The PCK certificate that a certificate is. -/
def toPck (env : X509Env) (cert : Certificate) : Option PckCertificate :=
  (PckCertificate.ofCertificate env cert).toOption

/-- The chain of a list of certificates: each role has the last certificate that fits. -/
def ofCerts (env : X509Env) (certs : List Certificate) : CertificateChain :=
  { certs
    rootCert := certs.reverse.find? isSelfIssued
    topmostCert := certs.reverse.find? (isTopmost certs)
    pckCert := (certs.reverse.find? isPck).bind (toPck env) }

/-- What both loops do to a role: the last certificate that fits replaces it. -/
theorem find?_reverse_cons (p : Certificate → Bool) (cert : Certificate)
    (certs : List Certificate) (role : Option Certificate) :
    ((cert :: certs).reverse.find? p).or role =
      (certs.reverse.find? p).or (if p cert then some cert else role) := by
  rw [List.reverse_cons, List.find?_append, Option.or_assoc, List.find?_singleton]
  cases p cert <;> rfl

theorem readCerts_eq_ok {env : X509Env} {count : ℕ} {certStrs : List Bytes}
    {chain chain' : CertificateChain} :
    readCerts env count certStrs chain = (.ok, chain') ↔
      ∃ certs, certStrs.mapM env.readCertificate = .ok certs ∧ chain' = { chain with
        certs := chain.certs ++ certs
        rootCert := (certs.reverse.find? isSelfIssued).or chain.rootCert } := by
  induction certStrs generalizing chain with
  | nil =>
    rw [readCerts, Prod.mk.injEq]
    constructor
    · rintro ⟨_, rfl⟩
      exact ⟨[], rfl, by simp⟩
    · rintro ⟨certs, hcerts, rfl⟩
      cases hcerts
      simp
  | cons certPem certStrs ih =>
    unfold readCerts
    rw [List.mapM_cons]
    cases hread : env.readCertificate certPem with
    | error e =>
      simp only [error_bind, reduceCtorEq, false_and, exists_false, iff_false]
      cases e with
      | format what => simp
      | invalidExtension what =>
        simp only [Prod.mk.injEq, not_and]
        intro h
        unfold invalidExtensionStatus at h
        split_ifs at h
    | ok cert =>
      simp only [ih, ok_bind]
      constructor
      · rintro ⟨certs, hcerts, rfl⟩
        refine ⟨cert :: certs, bind_eq_ok.mpr ⟨certs, hcerts, rfl⟩, ?_⟩
        rw [find?_reverse_cons, List.append_assoc, List.singleton_append]
      · rintro ⟨all, hall, rfl⟩
        obtain ⟨certs, hcerts, h⟩ := bind_eq_ok.mp hall
        cases h
        refine ⟨certs, hcerts, ?_⟩
        rw [find?_reverse_cons, List.append_assoc, List.singleton_append]

/-- The certificates with the phrase of PCK certificates are PCK certificates. -/
def PckParses (env : X509Env) (certs : List Certificate) : Prop :=
  ∀ cert ∈ certs, isPck cert = true → ∃ pck, PckCertificate.ofCertificate env cert = .ok pck

theorem toPck_eq_some {env : X509Env} {cert : Certificate} {pck : PckCertificate} :
    toPck env cert = some pck ↔ PckCertificate.ofCertificate env cert = .ok pck := by
  rw [toPck]
  cases PckCertificate.ofCertificate env cert <;> simp [Except.toOption]

theorem find?_isPck_cons {env : X509Env} {cert : Certificate} {certs : List Certificate}
    (h : PckParses env (cert :: certs)) (role : Option PckCertificate) :
    (((cert :: certs).reverse.find? isPck).bind (toPck env)).or role =
      ((certs.reverse.find? isPck).bind (toPck env)).or
        (if isPck cert then toPck env cert else role) := by
  rw [List.reverse_cons, List.find?_append, List.find?_singleton]
  cases hfind : certs.reverse.find? isPck with
  | none =>
    by_cases hcert : isPck cert = true
    · obtain ⟨pck, hpck⟩ := h cert (List.mem_cons_self ..) hcert
      simp [hcert, toPck_eq_some.mpr hpck]
    · simp [hcert]
  | some c =>
    have hmem := List.mem_reverse.mp (List.mem_of_find?_eq_some hfind)
    obtain ⟨pck, hpck⟩ := h c (List.mem_cons_of_mem _ hmem) (List.find?_some hfind)
    simp [toPck_eq_some.mpr hpck]

theorem selectCerts_eq_ok {env : X509Env} {certs : List Certificate}
    {chain chain' : CertificateChain} :
    selectCerts env certs chain = (.ok, chain') ↔
      PckParses env certs ∧ chain' = { chain with
        topmostCert := (certs.reverse.find? (isTopmost chain.certs)).or chain.topmostCert
        pckCert := ((certs.reverse.find? isPck).bind (toPck env)).or chain.pckCert } := by
  induction certs generalizing chain with
  | nil =>
    rw [selectCerts, Prod.mk.injEq, eq_comm (b := chain')]
    simp [PckParses]
  | cons cert certs ih =>
    have htopmost : (if isTopmost chain.certs cert then { chain with topmostCert := some cert }
        else chain) = { chain with
          topmostCert := if isTopmost chain.certs cert then some cert else chain.topmostCert } := by
      split_ifs <;> rfl
    have hparses : PckParses env (cert :: certs) ↔
        (isPck cert = true → ∃ pck, PckCertificate.ofCertificate env cert = .ok pck) ∧
          PckParses env certs := List.forall_mem_cons
    unfold selectCerts
    simp only [htopmost]
    by_cases hcert : isPck cert = true
    · rw [if_pos hcert]
      cases hpck : PckCertificate.ofCertificate env cert with
      | error e =>
        refine iff_of_false ?_ fun h => ?_
        · cases e <;> simp
        · obtain ⟨pck, h⟩ := (hparses.mp h.1).1 hcert
          rw [hpck] at h
          cases h
      | ok pck =>
        simp only [ih]
        constructor
        · rintro ⟨h, rfl⟩
          have hall := hparses.mpr ⟨fun _ => ⟨pck, hpck⟩, h⟩
          refine ⟨hall, ?_⟩
          rw [find?_reverse_cons, find?_isPck_cons hall, if_pos hcert, toPck_eq_some.mpr hpck]
        · rintro ⟨hall, rfl⟩
          refine ⟨(hparses.mp hall).2, ?_⟩
          rw [find?_reverse_cons, find?_isPck_cons hall, if_pos hcert, toPck_eq_some.mpr hpck]
    · rw [if_neg hcert, ih, hparses]
      constructor
      · rintro ⟨h, rfl⟩
        have hall := hparses.mpr ⟨fun hpck => absurd hpck hcert, h⟩
        refine ⟨⟨fun hpck => absurd hpck hcert, h⟩, ?_⟩
        rw [find?_reverse_cons, find?_isPck_cons hall, if_neg hcert]
      · rintro ⟨hall, rfl⟩
        refine ⟨hall.2, ?_⟩
        rw [find?_reverse_cons, find?_isPck_cons (hparses.mpr hall), if_neg hcert]

/-- When the blocks of a chain are accepted, and what is selected. -/
theorem parseBlocks_eq_ok {env : X509Env} {certStrs : List Bytes} {chain : CertificateChain} :
    parseBlocks env certStrs = (.ok, chain) ↔
      ∃ certs, certStrs.mapM env.readCertificate = .ok certs ∧ certs ≠ [] ∧
        PckParses env certs ∧ chain = ofCerts env certs := by
  have hinitial (certs : List Certificate) : { initial with
      certs := initial.certs ++ certs
      rootCert := (certs.reverse.find? isSelfIssued).or initial.rootCert } =
        { initial with certs, rootCert := certs.reverse.find? isSelfIssued } := by
    simp [initial]
  have hselect (certs : List Certificate) : { initial with
      certs
      rootCert := certs.reverse.find? isSelfIssued
      topmostCert := (certs.reverse.find? (isTopmost certs)).or none
      pckCert := ((certs.reverse.find? isPck).bind (toPck env)).or none } = ofCerts env certs := by
    simp only [Option.or_none, ofCerts]
  constructor
  · intro h
    unfold parseBlocks at h
    split at h
    · rename_i chain₁ hread
      split at h
      · rename_i chain₂ hchain
        obtain ⟨certs, hcerts, rfl⟩ := readCerts_eq_ok.mp hread
        rw [hinitial] at hchain
        obtain ⟨hparses, rfl⟩ := selectCerts_eq_ok.mp hchain
        split_ifs at h with hlen
        · cases h
        · cases h
          exact ⟨certs, hcerts, fun hnil => hlen (by rw [hnil]; rfl), hparses, hselect certs⟩
      · rename_i hne
        exact absurd h (hne chain)
    · rename_i hne
      exact absurd h (hne chain)
  · rintro ⟨certs, hcerts, hne, hparses, rfl⟩
    have hselected : selectCerts env certs
        { initial with certs, rootCert := certs.reverse.find? isSelfIssued } =
          (.ok, ofCerts env certs) :=
      selectCerts_eq_ok.mpr ⟨hparses, (hselect certs).symm⟩
    unfold parseBlocks
    rw [readCerts_eq_ok.mpr ⟨certs, hcerts, rfl⟩, hinitial]
    simp only [hselected]
    exact if_neg fun h => hne (List.length_eq_zero_iff.mp h)

/-- When the text of a chain is accepted, and what is selected. -/
theorem parse_eq_ok {env : X509Env} {pemCertChain : Bytes} {chain : CertificateChain} :
    parse env pemCertChain = .ok (.ok, chain) ↔
      ∃ certStrs certs, splitChain pemCertChain = .ok certStrs ∧
        certStrs.mapM env.readCertificate = .ok certs ∧ certs ≠ [] ∧ PckParses env certs ∧
        chain = ofCerts env certs := by
  unfold parse
  rw [bind_eq_ok]
  constructor
  · rintro ⟨certStrs, hsplit, h⟩
    obtain ⟨certs, hcerts⟩ := parseBlocks_eq_ok.mp (Except.ok.inj h)
    exact ⟨certStrs, certs, hsplit, hcerts⟩
  · rintro ⟨certStrs, certs, hsplit, hcerts⟩
    exact ⟨certStrs, hsplit, congrArg Except.ok (parseBlocks_eq_ok.mpr ⟨certs, hcerts⟩)⟩

/-! ## Roles -/

variable {env : X509Env} {certs : List Certificate}

theorem rootCert_ofCerts {cert : Certificate} (h : (ofCerts env certs).rootCert = some cert) :
    cert ∈ certs ∧ isSelfIssued cert = true :=
  ⟨List.mem_reverse.mp (List.mem_of_find?_eq_some h), List.find?_some h⟩

theorem getIntermediateCert_ofCerts {cert : Certificate}
    (h : (ofCerts env certs).getIntermediateCert = some cert) :
    cert ∈ certs ∧ isIntermediate cert = true :=
  ⟨List.mem_of_find?_eq_some h, List.find?_some h⟩

theorem pckCert_ofCerts {pck : PckCertificate} (h : (ofCerts env certs).pckCert = some pck) :
    pck.toCertificate ∈ certs ∧ isPck pck.toCertificate = true := by
  obtain ⟨cert, hfind, hpck⟩ := Option.bind_eq_some_iff.mp h
  rw [PckCertificate.ofCertificate_toCertificate (toPck_eq_some.mp hpck)]
  exact ⟨List.mem_reverse.mp (List.mem_of_find?_eq_some hfind), List.find?_some hfind⟩

end CertificateChain

end DcapQvl
