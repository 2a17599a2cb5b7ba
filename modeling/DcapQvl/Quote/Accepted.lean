import DcapQvl.Quote.Layout

/-!
# Accepted quotes

Results:
* `parse_cases`: parsing a quote shorter than `2^32` bytes either rejects it or
  succeeds, and never uses an iterator outside the quote; a quote that is also
  validated has a `QuoteLayout`.
* `accepts_iff_layout`: a quote is accepted exactly when it has a layout, whatever the
  prior state of the object.
-/

namespace DcapQvl

open Lib

/-! ## What the stages of the parser read -/

/-- The body descriptor in front of a report. -/
def descriptorBytes (version : UInt16) (r : Report) : Bytes :=
  if version = 5 then leBytes 2 r.bodyType.toNat ++ leBytes 4 r.bytes.length else []

theorem body_bytes (r : Report) :
    r.body.bytes = leBytes 2 r.bodyType.toNat ++ leBytes 4 r.bytes.length := by
  simp only [Report.body, Body.bytes, Report.length_bytes, List.flatten_cons, List.flatten_nil,
    List.append_nil]

theorem mem_allowedQuoteVersions {v : UInt16} :
    v ∈ allowedQuoteVersions ↔ v = 3 ∨ v = 4 ∨ v = 5 := by
  simp only [allowedQuoteVersions, List.mem_cons, List.not_mem_nil, or_false]
  rfl

/-- The reports of a header with an allowed version and TEE type. -/
def ReadsReport (h : Header) (raw : Bytes) (locals : LocalReports) (pos : ℕ) : Prop :=
  ∃ (r : Report) (rest : Bytes),
    raw.drop headerByteLen = descriptorBytes h.version r ++ (r.bytes ++ rest) ∧
    raw.drop pos = rest ∧
    (h.version = 5 → locals.body = r.body) ∧
    (h.version ≠ 5 → r.AllowedIn quoteVersion4 ∧ r.teeType = h.teeType)

theorem parseReports_cases (h : Header) {raw : Bytes} (q : Quote)
    (hpos : headerByteLen ≤ raw.length) (hsmall : raw.length < 2 ^ 32) :
    (∃ q', parseReports h raw q headerByteLen = (q', .error .rejected)) ∨
    ∃ q' locals pos, parseReports h raw q headerByteLen = (q', .ok (locals, pos)) ∧
      pos ≤ raw.length ∧ q'.header = q.header ∧
      (h.version ∈ allowedQuoteVersions → h.teeType ∈ allowedTeeTypes →
        ReadsReport h raw locals pos) := by
  unfold parseReports
  by_cases hv : h.version > quoteVersion4
  · rw [if_pos hv]
    rcases parseBodyAndReport_cases q hpos hsmall with ⟨r, rest, he, hle, hrun⟩ | hrun
    · refine Or.inr ⟨_, _, _, hrun, hle, rfl, fun hallowed _ => ⟨r, rest, ?_, ?_, ?_, ?_⟩⟩
      · have h5 : h.version = 5 := by
          rcases mem_allowedQuoteVersions.mp hallowed with h' | h' | h'
          · rw [h'] at hv; exact absurd hv (by decide)
          · rw [h'] at hv; exact absurd hv (by decide)
          · exact h'
        rw [he, descriptorBytes, if_pos h5, body_bytes]
      · have hrest := drop_after (drop_after he)
        rwa [Body.length_bytes, Report.length_bytes] at hrest
      · intro _
        cases r <;> rfl
      · intro h5
        rcases mem_allowedQuoteVersions.mp hallowed with h' | h' | h'
        · rw [h'] at hv; exact absurd hv (by decide)
        · rw [h'] at hv; exact absurd hv (by decide)
        · exact absurd h' h5
    · exact Or.inl ⟨_, hrun⟩
  · rw [if_neg hv]
    have h5 : h.version ≠ 5 := by
      intro h'
      rw [h'] at hv
      exact hv (by decide)
    rcases parseReportOnly_cases h.teeType q hpos hsmall with
      ⟨r, rest, he, hallowed, htee, hle, hrun⟩ | hrun | ⟨htee, hrun⟩
    · refine Or.inr ⟨_, _, _, hrun, hle, rfl, fun _ _ => ⟨r, rest, ?_, ?_, ?_, ?_⟩⟩
      · rw [he, descriptorBytes, if_neg h5, List.nil_append]
      · have hrest := drop_after he
        rwa [Report.length_bytes] at hrest
      · exact fun h' => absurd h' h5
      · exact fun _ => ⟨hallowed, htee⟩
    · exact Or.inl ⟨_, hrun⟩
    · exact Or.inr ⟨_, _, _, hrun, hpos, rfl, fun _ h' => absurd h' htee⟩

/-- The authentication data of a header with an allowed version. -/
def ReadsAuthData (version : UInt16) (n : ℕ) (raw : Bytes) (pos : ℕ)
    (certificationData : CertificationData) (a3 : Ecdsa256BitQuoteV3AuthData)
    (a4 : Ecdsa256BitQuoteV4AuthData) : Prop :=
  (version = 3 → ∃ rest, raw.drop pos = a3.bytes ++ rest ∧ a3.SizesMatch ∧ a3.bytes.length ≤ n ∧
    n ≤ a3.bytes.length + rest.length) ∧
  (version ≠ 3 → ∃ (rest : Bytes) (c : QEReportCertificationData), raw.drop pos = a4.bytes ++ rest ∧
    a4.SizesMatch ∧ a4.bytes.length ≤ n ∧ n ≤ a4.bytes.length + rest.length ∧
    a4.certificationData.data = c.bytes ∧ c.SizesMatch ∧ certificationData = c.certificationData)

theorem parseAuthData_cases (version : UInt16) (n : UInt32) {raw : Bytes} (q : Quote) {pos : ℕ}
    (hpos : pos ≤ raw.length) (hsmall : raw.length < 2 ^ 32) :
    (∃ q', parseAuthData version n raw q pos = (q', .error .rejected)) ∨
    ∃ q' a3 a4 pos', parseAuthData version n raw q pos = (q', .ok ((a3, a4), pos')) ∧
      q'.header = q.header ∧
      (version ∈ allowedQuoteVersions →
        ReadsAuthData version n.toNat raw pos q'.certificationData a3 a4) := by
  unfold parseAuthData
  by_cases h3 : version = quoteVersion3
  · rw [if_pos h3]
    rcases parseAuthDataV3_cases n q hpos hsmall with ⟨a, rest, he, hs, h1, h2, hrun⟩ | hrun
    · refine Or.inr ⟨q.withAuthV3 a, a, .zero, _, by rw [ParseStep.bind_ok hrun]; rfl, rfl,
        fun _ => ⟨fun _ => ⟨rest, he, hs, h1, h2⟩, fun h' => absurd h3 h'⟩⟩
    · exact Or.inl ⟨q, ParseStep.bind_error hrun⟩
  rw [if_neg h3]
  by_cases h4 : version > quoteVersion3
  · rw [if_pos h4]
    rcases parseAuthDataV4_cases n q hpos hsmall with
      ⟨a, rest, c, he, hs, h1, h2, hc, hcs, hrun⟩ | hrun
    · refine Or.inr ⟨q.withAuthV4 a c, .zero, a, _, by rw [ParseStep.bind_ok hrun]; rfl, rfl,
        fun _ => ⟨fun h' => absurd h' h3, fun _ => ⟨rest, c, he, hs, h1, h2, hc, hcs, rfl⟩⟩⟩
    · exact Or.inl ⟨q, ParseStep.bind_error hrun⟩
  · rw [if_neg h4]
    refine Or.inr ⟨q, .zero, .zero, pos, rfl, rfl, fun hallowed => ?_⟩
    rcases mem_allowedQuoteVersions.mp hallowed with h' | h' | h'
    · exact absurd h' h3
    · rw [h'] at h4; exact absurd (by decide) h4
    · rw [h'] at h4; exact absurd (by decide) h4

/-! ## A validated quote has a layout -/

theorem authDataBytes_append (v : UInt16) (s k : ByteArr 64) (qe : QeData) (slack : Bytes) :
    authDataBytes v s k qe slack = authDataBytes v s k qe [] ++ slack := by
  simp only [authDataBytes, List.append_nil]

/-- Authentication data that was read is that of quoting enclave data. -/
theorem ReadsAuthData.exists_qe {version : UInt16} {n : ℕ} {raw : Bytes} {pos : ℕ}
    {cd : CertificationData} {a3 : Ecdsa256BitQuoteV3AuthData} {a4 : Ecdsa256BitQuoteV4AuthData}
    (h : ReadsAuthData version n raw pos cd a3 a4)
    (h3 : version = 3 → 1 ≤ a3.certificationData.type.toNat ∧ a3.certificationData.type.toNat ≤ 5)
    (h6 : version ≠ 3 → a4.certificationData.type = 6)
    (h4 : version ≠ 3 → 1 ≤ cd.type.toNat ∧ cd.type.toNat ≤ 5) :
    ∃ (s k : ByteArr 64) (qe : QeData) (rest : Bytes),
      raw.drop pos = authDataBytes version s k qe [] ++ rest ∧
      (authDataBytes version s k qe []).length ≤ n ∧
      n ≤ (authDataBytes version s k qe []).length + rest.length := by
  by_cases hv : version = 3
  · obtain ⟨rest, he, hs, h1, h2⟩ := h.1 hv
    obtain ⟨qe, hqe⟩ := QeData.exists_decoded
      ⟨a3.qeReport, a3.qeReportSignature, a3.qeAuthData, a3.certificationData⟩ hs (h3 hv)
    have hbytes : a3.bytes = authDataBytes version a3.ecdsa256BitSignature.signature
        a3.ecdsaAttestationKey.pubKey qe [] := by
      rw [authDataBytes, if_pos hv, ← qe.decoded_bytes, hqe]
      simp only [Ecdsa256BitQuoteV3AuthData.bytes, QEReportCertificationData.bytes,
        List.flatten_cons, List.flatten_nil, List.append_nil, List.append_assoc]
    rw [hbytes] at he h1 h2
    exact ⟨_, _, qe, rest, he, h1, h2⟩
  · obtain ⟨rest, c, he, hs, h1, h2, hc, hcs, rfl⟩ := h.2 hv
    obtain ⟨qe, rfl⟩ := QeData.exists_decoded c hcs (h4 hv)
    have hs' : a4.certificationData.parsedDataSize.toNat = qe.bytes.length := by
      rw [← qe.decoded_bytes, ← hc]
      exact hs
    have hbytes : a4.bytes = authDataBytes version a4.ecdsa256BitSignature.signature
        a4.ecdsaAttestationKey.pubKey qe [] := by
      rw [authDataBytes, if_neg hv]
      simp only [Ecdsa256BitQuoteV4AuthData.bytes, CertificationData.bytes, h6 hv, hs', hc,
        qe.decoded_bytes, List.flatten_cons, List.flatten_nil, List.append_nil, List.append_assoc]
      rfl
    rw [hbytes] at he h1 h2
    exact ⟨_, _, qe, rest, he, h1, h2⟩

/-- The parts that were read make up a layout. -/
theorem exists_layout {raw : Bytes} (h : Header) (r : Report) {s k : ByteArr 64} {qe : QeData}
    {n : UInt32} {rest : Bytes} (hallowed : r.AllowedIn h.version)
    (hkey : h.attestationKeyType = 2) (htee : h.teeType = r.teeType)
    (hvendor : h.qeVendorId = intelQeVendorId)
    (he : raw = h.bytes ++ (descriptorBytes h.version r ++ (r.bytes ++ (leBytes 4 n.toNat ++
      (authDataBytes h.version s k qe [] ++ rest)))))
    (h1 : (authDataBytes h.version s k qe []).length ≤ n.toNat)
    (h2 : n.toNat ≤ (authDataBytes h.version s k qe []).length + rest.length) :
    ∃ l : QuoteLayout, raw = l.bytes := by
  have hn := n.toNat_lt
  have hlen : (authDataBytes h.version s k qe
      (rest.take (n.toNat - (authDataBytes h.version s k qe []).length))).length = n.toNat := by
    rw [authDataBytes_append, List.length_append, List.length_take]
    omega
  refine ⟨⟨h, r, s, k, qe, rest.take (n.toNat - (authDataBytes h.version s k qe []).length),
    rest.drop (n.toNat - (authDataBytes h.version s k qe []).length), hallowed, hkey, htee,
    hvendor, by rw [hlen]; exact hn⟩, ?_⟩
  simp only [QuoteLayout.bytes, QuoteLayout.signedBytes, QuoteLayout.bodyBytes,
    QuoteLayout.authBytes, hlen]
  rw [authDataBytes_append]
  simp only [List.append_assoc, List.take_append_drop]
  exact he

/-- The report that was read is one of the TEE that the header names. -/
theorem teeType_eq_of_body {h : Header} {r : Report} {bodyType : UInt16}
    (htee : h.teeType ∈ allowedTeeTypes) (hbody : h.version = 5 → bodyType = r.bodyType)
    (hold : h.version ≠ 5 → r.teeType = h.teeType)
    (hsgx : h.version = quoteVersion5 → h.teeType = teeTypeSgx →
      bodyType = bodySgxEnclaveReportType)
    (htdx : h.version = quoteVersion5 → h.teeType ≠ teeTypeSgx →
      bodyType ≠ bodySgxEnclaveReportType) : h.teeType = r.teeType := by
  by_cases h5 : h.version = 5
  · have hr := r.bodyType_sgx_iff
    rw [← hbody h5] at hr
    by_cases hs : h.teeType = teeTypeSgx
    · rw [hs, hr.mp (hsgx h5 hs)]
    · have h1 : h.teeType = teeTypeTdx := by
        simp only [allowedTeeTypes, List.mem_cons, List.not_mem_nil, or_false] at htee
        exact htee.resolve_left hs
      have h2 := r.teeType_mem
      simp only [allowedTeeTypes, List.mem_cons, List.not_mem_nil, or_false] at h2
      rw [h1, h2.resolve_left fun h' => htdx h5 hs (hr.mpr h')]
  · exact (hold h5).symm

/-- And one that the version allows. -/
theorem Report.allowedIn_of_old {version : UInt16} {r : Report}
    (hver : version ∈ allowedQuoteVersions) (hold : version ≠ 5 → r.AllowedIn quoteVersion4)
    (hsgx : version = quoteVersion3 → r.teeType = teeTypeSgx) : r.AllowedIn version := by
  rcases mem_allowedQuoteVersions.mp hver with h3 | h4 | h5
  · have ht := hsgx h3
    cases r with
    | sgx r => exact Or.inl h3
    | td10 r => exact absurd ht (show ¬ teeTypeTdx = teeTypeSgx by decide)
    | td15 r => exact absurd ht (show ¬ teeTypeTdx = teeTypeSgx by decide)
    | td15Ex r => exact absurd ht (show ¬ teeTypeTdx = teeTypeSgx by decide)
  · rw [h4]
    exact hold (by rw [h4]; decide)
  · rw [h5]
    cases r
    · exact Or.inr (Or.inr rfl)
    · exact Or.inr rfl
    · exact rfl
    · exact rfl

/-- **What parsing can do.** A quote is rejected or parsed; a parsed quote that
    `validate` accepts has a layout. -/
theorem parse_cases {raw : Bytes} (hsmall : raw.length < 2 ^ 32) (q : Quote) :
    (∃ q', Quote.parse raw q = (q', .error .rejected)) ∨
    ∃ q', Quote.parse raw q = (q', .ok ()) ∧
      (q'.validate = true → ∃ l : QuoteLayout, raw = l.bytes) := by
  unfold Quote.parse
  by_cases hmin : raw.length < quoteMinByteLen
  · rw [if_pos hmin]
    exact Or.inl ⟨q, rfl⟩
  rw [if_neg hmin]
  suffices hsteps : (∃ q', Quote.parseSteps raw q 0 = (q', .error .rejected)) ∨
      ∃ q' pos, Quote.parseSteps raw q 0 = (q', .ok ((), pos)) ∧
        (q'.validate = true → ∃ l : QuoteLayout, raw = l.bytes) by
    rcases hsteps with ⟨q', hrun⟩ | ⟨q', pos, hrun, hl⟩
    · exact Or.inl ⟨q', by rw [hrun]; rfl⟩
    · exact Or.inr ⟨q', by rw [hrun]; rfl, hl⟩
  unfold Quote.parseSteps
  rcases ParseStep.read_cases (copyAndAdvance_reads_fixed Header.insert_reads Header.length_bytes) q
    (Nat.zero_le _) hsmall with ⟨h, rest, he, -, hle, hrun⟩ | hrun
  swap
  · exact Or.inl ⟨q, ParseStep.bind_error hrun⟩
  rw [ParseStep.bind_ok hrun, ParseStep.modify_bind]
  rw [Header.length_bytes, Nat.zero_add] at hle ⊢
  have hrest := drop_after he
  rw [Header.length_bytes, Nat.zero_add] at hrest
  rcases parseReports_cases h { q with header := h } hle hsmall with
    ⟨q1, hrun1⟩ | ⟨q1, locals, pos, hrun1, hle1, hh1, hreports⟩
  · exact Or.inl ⟨q1, ParseStep.bind_error hrun1⟩
  rw [ParseStep.bind_ok hrun1]
  rcases ParseStep.read_cases insertAuthDataSize_reads q1 hle1 hsmall with
    ⟨n, rest2, he2, -, hle2, hrun2⟩ | hrun2
  swap
  · exact Or.inl ⟨q1, ParseStep.bind_error hrun2⟩
  rw [ParseStep.bind_ok hrun2]
  have hrest2 := drop_after he2
  rcases parseAuthData_cases h.version n q1 hle2 hsmall with
    ⟨q3, hrun3⟩ | ⟨q3, a3, a4, pos3, hrun3, hh3, hauth⟩
  · exact Or.inl ⟨q3, ParseStep.bind_error hrun3⟩
  rw [ParseStep.bind_ok hrun3]
  refine Or.inr ⟨_, _, rfl, fun hvalid => ?_⟩
  have hhead : q3.header = h := by rw [hh3, hh1]
  obtain ⟨hver, hkey, htee, hvendor, hv3, hc3, hc6, hc4, -, hs5, ht5⟩ := (validate_iff _).mp hvalid
  simp only [hhead] at hver hkey htee hvendor hv3 hc3 hc6 hc4 hs5 ht5
  obtain ⟨r, rest1, he1, hdrop1, hbody, hold⟩ := hreports hver htee
  have h45 : h.version ≠ 3 → h.version = quoteVersion4 ∨ h.version = quoteVersion5 := fun h3 =>
    (mem_allowedQuoteVersions.mp hver).resolve_left h3
  obtain ⟨s, k, qe, rest3, he3, hn1, hn2⟩ := (hauth hver).exists_qe hc3 (fun h3 => hc6 (h45 h3))
    fun h3 => hc4 (h45 h3)
  have hteeEq : h.teeType = r.teeType :=
    teeType_eq_of_body htee (fun h5 => congrArg Body.bodyType (hbody h5)) (fun h5 => (hold h5).2)
      hs5 ht5
  have hallowed : r.AllowedIn h.version :=
    Report.allowedIn_of_old hver (fun h5 => (hold h5).1) fun h3 => hteeEq.symm.trans (hv3 h3)
  refine exists_layout h r hallowed (List.mem_singleton.mp hkey) hteeEq hvendor
    ?_ hn1 hn2
  rw [← he3, hrest2, ← he2, hdrop1, ← he1, hrest, ← he, List.drop_zero]

/-! ## Every byte string of the right size is an enclave report -/

theorem EnclaveReport.bytes_surjective {w : Bytes} (h : w.length = enclaveReportByteLen) :
    ∃ r : EnclaveReport, r.bytes = w :=
  EnclaveReport.insert_reads.surjective EnclaveReport.insert_total (by decide)
    EnclaveReport.length_bytes h

/-! ## Acceptance -/

/-- `raw` is accepted by `parse` on the object `q` followed by `validate`, which
    leaves the object `q'`. -/
def Accepts (raw : Bytes) (q q' : Quote) : Prop :=
  Quote.parse raw q = (q', .ok ()) ∧ q'.validate = true

theorem accepts_layout (l : QuoteLayout) (hsmall : l.bytes.length < 2 ^ 32) (q : Quote) :
    Accepts l.bytes q l.quote := ⟨l.parse_layout hsmall q, l.validate_quote⟩

/-- An accepted quote has a layout, and the object is that of the layout. -/
theorem Accepts.exists_layout {raw : Bytes} {q q' : Quote} (h : Accepts raw q q')
    (hsmall : raw.length < 2 ^ 32) : ∃ l : QuoteLayout, raw = l.bytes ∧ q' = l.quote := by
  obtain ⟨hrun, hvalid⟩ := h
  rcases parse_cases hsmall q with ⟨q1, h1⟩ | ⟨q1, h1, hl⟩
  · rw [hrun] at h1
    cases h1
  · rw [hrun] at h1
    cases h1
    obtain ⟨l, rfl⟩ := hl hvalid
    have h2 := l.parse_layout hsmall q
    rw [hrun] at h2
    cases h2
    exact ⟨l, rfl, rfl⟩

/-- Parsing a quote never uses an iterator outside it. -/
theorem parse_inBounds {raw : Bytes} (hsmall : raw.length < 2 ^ 32) (q : Quote) :
    (Quote.parse raw q).2 ≠ .error .outOfRange := by
  rcases parse_cases hsmall q with ⟨q', h⟩ | ⟨q', h, -⟩ <;> rw [h] <;> exact fun h => by cases h

/-- **Acceptance of a quote.** For every quote shorter than `2^32` bytes and every
    prior object: no iterator is used outside the quote; the quote is accepted
    exactly when it has a layout; and the members of an accepted object are the
    parts of the layout. -/
theorem accepts_iff_layout {raw : Bytes} (hsmall : raw.length < 2 ^ 32) (q : Quote) :
    (Quote.parse raw q).2 ≠ .error .outOfRange ∧
    ((∃ q', Accepts raw q q') ↔ ∃ l : QuoteLayout, raw = l.bytes) ∧
    ∀ q', Accepts raw q q' → ∀ l : QuoteLayout, raw = l.bytes → q' = l.quote := by
  refine ⟨parse_inBounds hsmall q, ⟨fun ⟨q', h⟩ => ?_, ?_⟩, ?_⟩
  · obtain ⟨l, hl, -⟩ := h.exists_layout hsmall
    exact ⟨l, hl⟩
  · rintro ⟨l, rfl⟩
    exact ⟨l.quote, accepts_layout l hsmall q⟩
  · rintro q' h l rfl
    have h2 := l.parse_layout hsmall q
    rw [h.1] at h2
    cases h2
    rfl

/-- Quoting enclave data without data of variable size. -/
def QeData.blank (qeReport : EnclaveReport) (certType : UInt16)
    (h : 1 ≤ certType.toNat ∧ certType.toNat ≤ 5) : QeData :=
  ⟨qeReport, .zero 64, [], certType, [], by decide, h, by decide⟩

/-- The smallest quote: version 3, no data of variable size and all other fields zero. -/
def QuoteLayout.smallest : QuoteLayout where
  header := ⟨3, 2, 0, 0, 0, intelQeVendorId, .zero 20⟩
  report := .sgx .zero
  quoteSignature := .zero 64
  attestKey := .zero 64
  qe := .blank .zero 1 (by decide)
  slack := []
  trailing := []
  report_allowed := Or.inl rfl
  keyType_eq := rfl
  teeType_eq := rfl
  vendor_eq := rfl
  authData_lt := by decide +kernel

theorem QuoteLayout.smallest_length : smallest.bytes.length = quoteMinByteLen := by
  decide +kernel

/-- The smallest quote is accepted by a fresh object. -/
theorem accepts_smallest : ∃ q', Accepts QuoteLayout.smallest.bytes (Quote.initial 0) q' :=
  ((accepts_iff_layout (by rw [QuoteLayout.smallest_length]; decide) (Quote.initial 0)).2.1).mpr
    ⟨_, rfl⟩

end DcapQvl
