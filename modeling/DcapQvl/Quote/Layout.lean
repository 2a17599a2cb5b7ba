import DcapQvl.Quote.Quote

/-!
# The layout of an accepted quote

`QuoteLayout` says what an accepted quote is made of, for the versions 3, 4 and
5: its bytes are `QuoteLayout.bytes` and `QuoteLayout.quote` is the object that
parsing leaves.

Results:
* `parse_layout`: a quote of this layout is parsed, from any prior object, to
  `QuoteLayout.quote`, which `validate` accepts.
* `validate_iff`: what `validate` asks of the members.
-/

namespace DcapQvl

open Lib

/-! ## Reports -/

/-- The report a quote is about. -/
inductive Report where
  | sgx (r : EnclaveReport)
  | td10 (r : TDReport10)
  | td15 (r : TDReport15)
  | td15Ex (r : TDReport15Ex)
  deriving DecidableEq

/-- The body type that announces a report in version 5. -/
def Report.bodyType : Report → UInt16
  | .sgx _ => 1
  | .td10 _ => 2
  | .td15 _ => 3
  | .td15Ex _ => 4

/-- The TEE type that a report comes from. -/
def Report.teeType : Report → UInt32
  | .sgx _ => 0
  | _ => 0x81

/-- The size of a report. -/
def Report.size : Report → UInt32
  | .sgx _ => 384
  | .td10 _ => 584
  | .td15 _ => 648
  | .td15Ex _ => 885

/-- The bytes of a report. -/
def Report.bytes : Report → Bytes
  | .sgx r => r.bytes
  | .td10 r => r.bytes
  | .td15 r => r.bytes
  | .td15Ex r => r.bytes

@[simp] theorem Report.length_bytes (r : Report) : r.bytes.length = r.size.toNat := by
  cases r <;> simp [Report.bytes, Report.size, enclaveReportByteLen, tdReport10ByteLen,
    tdReport15ByteLen, tdReport15ExByteLen]

theorem Report.le_size (r : Report) : 384 ≤ r.size.toNat := by
  cases r <;> simp [Report.size]

theorem Report.teeType_mem (r : Report) : r.teeType ∈ allowedTeeTypes := by
  cases r <;> simp [Report.teeType, allowedTeeTypes, teeTypeSgx, teeTypeTdx]

theorem Report.bodyType_mem (r : Report) : r.bodyType ∈ allowedBodyTypes := by
  cases r <;> simp [Report.bodyType, allowedBodyTypes, bodySgxEnclaveReportType,
    bodyTdReport10Type, bodyTdReport15Type, bodyTdReport15ExType]

/-- The body type agrees with the TEE type. -/
theorem Report.bodyType_sgx_iff (r : Report) :
    r.bodyType = bodySgxEnclaveReportType ↔ r.teeType = teeTypeSgx := by
  cases r <;> simp [Report.bodyType, Report.teeType, bodySgxEnclaveReportType, teeTypeSgx]

/-- The reports that a version has: version 3 is for SGX only and only version 5
    has TD reports 1.5. -/
def Report.AllowedIn (version : UInt16) : Report → Prop
  | .sgx _ => version = 3 ∨ version = 4 ∨ version = 5
  | .td10 _ => version = 4 ∨ version = 5
  | .td15 _ => version = 5
  | .td15Ex _ => version = 5

theorem Report.AllowedIn.version {r : Report} {v : UInt16} (h : r.AllowedIn v) :
    v = 3 ∨ v = 4 ∨ v = 5 := by
  cases r
  · exact h
  · exact Or.inr h
  · exact Or.inr (Or.inr h)
  · exact Or.inr (Or.inr h)

/-- Version 3 is for SGX only. -/
theorem Report.AllowedIn.teeType {r : Report} {v : UInt16} (h : r.AllowedIn v) (hv : v = 3) :
    r.teeType = teeTypeSgx := by
  subst hv
  cases r with
  | sgx r => rfl
  | td10 r => exact absurd h (show ¬ ((3 : UInt16) = 4 ∨ (3 : UInt16) = 5) by decide)
  | td15 r => exact absurd h (show ¬ (3 : UInt16) = 5 by decide)
  | td15Ex r => exact absurd h (show ¬ (3 : UInt16) = 5 by decide)

/-- The body descriptor of a report. -/
def Report.body (r : Report) : Body := ⟨r.bodyType, r.size⟩

/-- The members for the reports; those of the other kinds are zero. -/
def Report.locals (body : Body) : Report → LocalReports
  | .sgx r => { LocalReports.zero with body := body, enclaveReport := r }
  | .td10 r => { LocalReports.zero with body := body, tdReport10 := r }
  | .td15 r => { LocalReports.zero with body := body, tdReport15 := r }
  | .td15Ex r => { LocalReports.zero with body := body, tdReport15Ex := r }

/-! ## Quotes -/

/-- The data that a quoting enclave vouches for a quote with. -/
structure QeData where
  qeReport : EnclaveReport
  qeReportSignature : ByteArr 64
  authData : Bytes
  certType : UInt16
  certData : Bytes
  authData_lt : authData.length < 2 ^ 16
  certType_mem : 1 ≤ certType.toNat ∧ certType.toNat ≤ 5
  certData_lt : certData.length < 2 ^ 32

/-- The bytes of the quoting enclave's data. -/
def QeData.bytes (d : QeData) : Bytes :=
  d.qeReport.bytes ++ d.qeReportSignature.toList ++ leBytes 2 d.authData.length ++ d.authData ++
    leBytes 2 d.certType.toNat ++ leBytes 4 d.certData.length ++ d.certData

/-- Authentication data: in version 3 the quoting enclave's data comes right
    after the key, in the later versions it is nested in certification data of
    type 6. -/
def authDataBytes (version : UInt16) (quoteSignature attestKey : ByteArr 64) (qe : QeData)
    (slack : Bytes) : Bytes :=
  quoteSignature.toList ++ attestKey.toList ++
    (if version = 3 then qe.bytes
      else leBytes 2 6 ++ leBytes 4 qe.bytes.length ++ qe.bytes) ++ slack

/-- The parts of an accepted quote. -/
structure QuoteLayout where
  header : Header
  report : Report
  quoteSignature : ByteArr 64
  attestKey : ByteArr 64
  qe : QeData
  slack : Bytes
  trailing : Bytes
  report_allowed : report.AllowedIn header.version
  keyType_eq : header.attestationKeyType = 2
  teeType_eq : header.teeType = report.teeType
  vendor_eq : header.qeVendorId = intelQeVendorId
  authData_lt : (authDataBytes header.version quoteSignature attestKey qe slack).length < 2 ^ 32

namespace QuoteLayout

/-- The authentication data with its slack. -/
def authBytes (l : QuoteLayout) : Bytes :=
  authDataBytes l.header.version l.quoteSignature l.attestKey l.qe l.slack

/-- The body descriptor, in version 5 only. -/
def bodyBytes (l : QuoteLayout) : Bytes :=
  if l.header.version = 5 then leBytes 2 l.report.bodyType.toNat ++ leBytes 4 l.report.bytes.length
  else []

/-- The signed part of a quote. -/
def signedBytes (l : QuoteLayout) : Bytes := l.header.bytes ++ l.bodyBytes ++ l.report.bytes

/-- The bytes of a quote. -/
def bytes (l : QuoteLayout) : Bytes :=
  l.signedBytes ++ leBytes 4 l.authBytes.length ++ l.authBytes ++ l.trailing

end QuoteLayout

/-- The decoded form of the quoting enclave's data. -/
def QeData.decoded (d : QeData) : QEReportCertificationData where
  qeReport := d.qeReport
  qeReportSignature := ⟨d.qeReportSignature⟩
  qeAuthData := ⟨UInt16.ofNat d.authData.length, d.authData⟩
  certificationData := ⟨d.certType, UInt32.ofNat d.certData.length, d.certData⟩

namespace QuoteLayout

/-- The version 3 authentication data, zero in the other versions. -/
def authDataV3 (l : QuoteLayout) : Ecdsa256BitQuoteV3AuthData :=
  if l.header.version = 3 then
    ⟨⟨l.quoteSignature⟩, ⟨l.attestKey⟩, l.qe.decoded.qeReport, l.qe.decoded.qeReportSignature,
      l.qe.decoded.qeAuthData, l.qe.decoded.certificationData⟩
  else .zero

/-- The version 4 and 5 authentication data, zero in version 3. -/
def authDataV4 (l : QuoteLayout) : Ecdsa256BitQuoteV4AuthData :=
  if l.header.version = 3 then .zero
  else ⟨⟨l.quoteSignature⟩, ⟨l.attestKey⟩, ⟨6, UInt32.ofNat l.qe.bytes.length, l.qe.bytes⟩⟩

/-- The reports with the body descriptor of version 5, zero in the other versions. -/
def locals (l : QuoteLayout) : LocalReports :=
  l.report.locals (if l.header.version = 5 then l.report.body else .zero)

/-- The object that parsing the quote leaves. -/
def quote (l : QuoteLayout) : Quote where
  header := l.header
  body := l.locals.body
  enclaveReport := l.locals.enclaveReport
  tdReport10 := l.locals.tdReport10
  tdReport15 := l.locals.tdReport15
  tdReport15Ex := l.locals.tdReport15Ex
  authDataSize := UInt32.ofNat l.authBytes.length
  signedData := l.signedBytes
  authDataV3 := l.authDataV3
  authDataV4 := l.authDataV4
  qeReportSignature := l.qe.qeReportSignature
  qeReport := l.qe.qeReport
  attestKeyData := l.attestKey
  qeAuthData := l.qe.authData
  certificationData := l.qe.decoded.certificationData
  quoteSignature := l.quoteSignature

end QuoteLayout

/-! ## The decoded form of the quoting enclave's data -/

theorem QeData.decoded_sizesMatch (d : QeData) : d.decoded.SizesMatch := by
  have ha := d.authData_lt
  have hc := d.certData_lt
  refine ⟨?_, ?_⟩
  · simp only [QeAuthData.SizeMatches, QeData.decoded, UInt16.toNat_ofNat']
    omega
  · simp only [CertificationData.SizeMatches, QeData.decoded, UInt32.toNat_ofNat']
    omega

theorem QeData.decoded_bytes (d : QeData) : d.decoded.bytes = d.bytes := by
  obtain ⟨ha, hc⟩ := d.decoded_sizesMatch
  unfold QeAuthData.SizeMatches at ha
  unfold CertificationData.SizeMatches at hc
  simp only [QEReportCertificationData.bytes, QeAuthData.bytes, CertificationData.bytes, ha, hc,
    List.flatten_cons, List.flatten_nil, QeData.bytes, List.append_assoc, List.append_nil]
  rfl

/-- Certification data with sizes that match and an allowed type is the decoded
    form of quoting enclave data. -/
theorem QeData.exists_decoded (c : QEReportCertificationData) (h : c.SizesMatch)
    (ht : 1 ≤ c.certificationData.type.toNat ∧ c.certificationData.type.toNat ≤ 5) :
    ∃ d : QeData, d.decoded = c := by
  obtain ⟨ha, hc⟩ := h
  unfold QeAuthData.SizeMatches at ha
  unfold CertificationData.SizeMatches at hc
  have h1 := c.qeAuthData.parsedDataSize.toNat_lt
  have h2 := c.certificationData.parsedDataSize.toNat_lt
  refine ⟨⟨c.qeReport, c.qeReportSignature.signature, c.qeAuthData.data, c.certificationData.type,
    c.certificationData.data, by omega, ht, by omega⟩, ?_⟩
  obtain ⟨r, s, ⟨an, ad⟩, ⟨ct, cn, cd⟩⟩ := c
  simp only [QeData.decoded, ← ha, ← hc, UInt16.ofNat_toNat, UInt32.ofNat_toNat]

/-! ## Steps of the parser -/

theorem drop_after {raw a rest : Bytes} {pos : ℕ} (h : raw.drop pos = a ++ rest) :
    raw.drop (pos + a.length) = rest := by
  rw [← List.drop_drop, h, List.drop_left]

theorem ParseStep.bind_ok {α β : Type} {m : ParseStep α} {f : α → ParseStep β} {raw : Bytes}
    {q q' : Quote} {pos pos' : ℕ} {a : α} (h : m raw q pos = (q', .ok (a, pos'))) :
    (m >>= f) raw q pos = f a raw q' pos' := by
  simp only [Bind.bind, h]

theorem ParseStep.bind_error {α β : Type} {m : ParseStep α} {f : α → ParseStep β} {raw : Bytes}
    {q q' : Quote} {pos : ℕ} {e : Halt} (h : m raw q pos = (q', .error e)) :
    (m >>= f) raw q pos = (q', .error e) := by
  simp only [Bind.bind, h]

theorem ParseStep.modify_bind {α : Type} (g : Quote → Quote) (f : Unit → ParseStep α) (raw : Bytes)
    (q : Quote) (pos : ℕ) : (ParseStep.modify g >>= f) raw q pos = f () raw (g q) pos := rfl

/-- A step that reads an encoding that is there. -/
theorem ParseStep.read_eq {α : Type} {r : ByteReader α} {enc : α → Bytes} {ok : α → Bytes → Prop}
    (hr : Reads r enc ok) {raw : Bytes} (q : Quote) {pos : ℕ} (hpos : pos ≤ raw.length)
    (hsmall : raw.length < 2 ^ 32) {v : α} {rest : Bytes} (he : raw.drop pos = enc v ++ rest)
    (hok : ok v rest) :
    ParseStep.read r raw q pos = (q, .ok (v, pos + (enc v).length)) := by
  rw [ParseStep.read, hr.run_eq hpos hsmall he hok]

/-- What a step that reads an encoding can do. -/
theorem ParseStep.read_cases {α : Type} {r : ByteReader α} {enc : α → Bytes}
    {ok : α → Bytes → Prop} (hr : Reads r enc ok) {raw : Bytes} (q : Quote) {pos : ℕ}
    (hpos : pos ≤ raw.length) (hsmall : raw.length < 2 ^ 32) :
    (∃ v rest, raw.drop pos = enc v ++ rest ∧ ok v rest ∧ pos + (enc v).length ≤ raw.length ∧
      ParseStep.read r raw q pos = (q, .ok (v, pos + (enc v).length))) ∨
    ParseStep.read r raw q pos = (q, .error .rejected) := by
  rcases hr.run hpos hsmall with ⟨v, rest, he, hok, hrun⟩ | ⟨hrun, -⟩
  · refine Or.inl ⟨v, rest, he, hok, ?_, by rw [ParseStep.read, hrun]⟩
    have hlen := congrArg List.length he
    rw [List.length_drop, List.length_append] at hlen
    omega
  · exact Or.inr (by rw [ParseStep.read, hrun])

theorem assignSignedData_eq {raw : Bytes} (q : Quote) {pos k : ℕ} (h : k ≤ raw.length) :
    assignSignedData k raw q pos = ({ q with signedData := raw.take k }, .ok ((), pos)) := by
  simp only [assignSignedData, Bind.bind, getDataToSignatureVerification, h, if_true,
    ParseStep.modify]

theorem insertAuthDataSize_reads :
    Reads insertAuthDataSize (fun v => leBytes 4 v.toNat) (fun v rest => v.toNat ≤ rest.length) :=
  (Reads.field id copyAndAdvance32_reads fun v =>
    reads_fits v v.toNat fun _ _ => ⟨fun ⟨h, hk⟩ => ⟨h, h ▸ hk⟩, fun ⟨h, hk⟩ => ⟨h, h ▸ hk⟩⟩).congr
    (fun _ _ => Iff.rfl) fun _ _ _ => List.append_nil _

/-- A report read in version 5: the descriptor declares its size. -/
theorem parseReport_cases {R : Type} {insert : ByteReader R} {enc : R → Bytes} {byteLen : ℕ}
    (hr : Reads insert enc fun _ _ => True) (henc : ∀ r, (enc r).length = byteLen)
    (declared : UInt32) {raw : Bytes} (q : Quote) {pos : ℕ} (hpos : pos ≤ raw.length)
    (hsmall : raw.length < 2 ^ 32) :
    (∃ r rest, declared.toNat = byteLen ∧ raw.drop pos = enc r ++ rest ∧
      pos + byteLen ≤ raw.length ∧
      parseReport declared insert byteLen (pos + byteLen) raw q pos =
        ({ q with signedData := raw.take (pos + byteLen) }, .ok (r, pos + byteLen))) ∨
    parseReport declared insert byteLen (pos + byteLen) raw q pos = (q, .error .rejected) := by
  unfold parseReport
  by_cases hd : declared.toNat = byteLen
  · rw [if_neg (by omega)]
    rcases ParseStep.read_cases (copyAndAdvance_reads_fixed hr henc) q hpos hsmall with
      ⟨r, rest, he, -, hle, hrun⟩ | hrun
    · rw [henc] at hle hrun
      refine Or.inl ⟨r, rest, hd, he, hle, ?_⟩
      rw [ParseStep.bind_ok hrun, ParseStep.bind_ok (assignSignedData_eq q hle)]
      rfl
    · exact Or.inr (ParseStep.bind_error hrun)
  · rw [if_pos hd]
    exact Or.inr rfl

theorem parseReport_eq {R : Type} {insert : ByteReader R} {enc : R → Bytes} {byteLen : ℕ}
    (hr : Reads insert enc fun _ _ => True) (henc : ∀ r, (enc r).length = byteLen)
    (declared : UInt32) (hd : declared.toNat = byteLen) {raw : Bytes} (q : Quote) {pos : ℕ}
    (hpos : pos + byteLen ≤ raw.length) (hsmall : raw.length < 2 ^ 32) {r : R} {rest : Bytes}
    (he : raw.drop pos = enc r ++ rest) :
    parseReport declared insert byteLen (pos + byteLen) raw q pos =
      ({ q with signedData := raw.take (pos + byteLen) }, .ok (r, pos + byteLen)) := by
  unfold parseReport
  rw [if_neg (by omega), ParseStep.bind_ok (ParseStep.read_eq (copyAndAdvance_reads_fixed hr henc) q
    (by omega) hsmall he trivial), henc, ParseStep.bind_ok (assignSignedData_eq q hpos)]
  rfl

/-- What the body and the report of version 5 are read as. -/
def ReadsBodyAndReport (m : ParseStep LocalReports) (raw : Bytes) (q : Quote) (pos : ℕ) : Prop :=
  (∃ (r : Report) (rest : Bytes), raw.drop headerByteLen = r.body.bytes ++ (r.bytes ++ rest) ∧
    headerByteLen + bodyByteSize + r.size.toNat ≤ raw.length ∧
    m raw q pos = ({ q with signedData := raw.take (headerByteLen + bodyByteSize + r.size.toNat) },
      .ok (r.locals r.body, headerByteLen + bodyByteSize + r.size.toNat))) ∨
  m raw q pos = (q, .error .rejected)

/-- One case of the switch on the body type, for the reports `mk`. -/
theorem parseReport_branch {R : Type} {insert : ByteReader R} {enc : R → Bytes} {byteLen : ℕ}
    (mk : R → Report) (hr : Reads insert enc fun _ _ => True) (henc : ∀ r, (mk r).bytes = enc r)
    (hsize : ∀ r, (mk r).size.toNat = byteLen) {b : Body} (hb : ∀ r, b.bodyType = (mk r).bodyType)
    {raw : Bytes} (q : Quote) {rest : Bytes} (he : raw.drop headerByteLen = b.bytes ++ rest)
    (hpos : headerByteLen + bodyByteSize ≤ raw.length) (hsmall : raw.length < 2 ^ 32)
    {make : R → LocalReports} (hmake : ∀ r, make r = (mk r).locals b) :
    ReadsBodyAndReport
      (parseReport b.size insert byteLen (headerByteLen + bodyByteSize + byteLen) >>= fun r =>
        pure (make r)) raw q (headerByteLen + bodyByteSize) := by
  have hlen : ∀ r, (enc r).length = byteLen := by
    intro r
    rw [← henc, Report.length_bytes, hsize]
  rcases parseReport_cases hr hlen b.size q hpos hsmall with ⟨r, rest', hd, he', hle, hrun⟩ | hrun
  · have hbody : (mk r).body = b := by
      obtain ⟨bt, bs⟩ := b
      simp only [Report.body, ← hb r, Body.mk.injEq, true_and]
      exact UInt32.toNat_inj.mp (by rw [hsize, ← hd])
    have hrest : rest = enc r ++ rest' := by
      rw [← he', ← Body.length_bytes b, drop_after he]
    refine Or.inl ⟨mk r, rest', by rw [hbody, henc, he, hrest], by rw [hsize]; exact hle, ?_⟩
    rw [ParseStep.bind_ok hrun, hmake, hsize, hbody]
    rfl
  · exact Or.inr (ParseStep.bind_error hrun)

/-- The body and the report of version 5, right after the header. -/
theorem parseBodyAndReport_cases {raw : Bytes} (q : Quote) (hpos : headerByteLen ≤ raw.length)
    (hsmall : raw.length < 2 ^ 32) : ReadsBodyAndReport parseBodyAndReport raw q headerByteLen := by
  unfold parseBodyAndReport
  rcases ParseStep.read_cases (copyAndAdvance_reads_fixed Body.insert_reads Body.length_bytes) q
    hpos hsmall with ⟨b, rest, he, -, hle, hrun⟩ | hrun
  · rw [Body.length_bytes] at hle hrun
    unfold ReadsBodyAndReport
    rw [ParseStep.bind_ok hrun]
    by_cases h1 : b.bodyType = bodySgxEnclaveReportType
    · rw [if_pos h1]
      exact parseReport_branch .sgx EnclaveReport.insert_reads (fun _ => rfl) (fun _ => rfl)
        (fun _ => h1) q he hle hsmall fun _ => rfl
    rw [if_neg h1]
    by_cases h2 : b.bodyType = bodyTdReport10Type
    · rw [if_pos h2]
      exact parseReport_branch .td10 TDReport10.insert_reads (fun _ => rfl) (fun _ => rfl)
        (fun _ => h2) q he hle hsmall fun _ => rfl
    rw [if_neg h2]
    by_cases h3 : b.bodyType = bodyTdReport15Type
    · rw [if_pos h3]
      exact parseReport_branch .td15 TDReport15.insert_reads (fun _ => rfl) (fun _ => rfl)
        (fun _ => h3) q he hle hsmall fun _ => rfl
    rw [if_neg h3]
    by_cases h4 : b.bodyType = bodyTdReport15ExType
    · rw [if_pos h4]
      exact parseReport_branch .td15Ex TDReport15Ex.insert_reads (fun _ => rfl) (fun _ => rfl)
        (fun _ => h4) q he hle hsmall fun _ => rfl
    rw [if_neg h4]
    exact Or.inr rfl
  · exact Or.inr (ParseStep.bind_error hrun)

/-- A body and a report that are there are read. -/
theorem parseBodyAndReport_eq {raw : Bytes} (q : Quote) (hsmall : raw.length < 2 ^ 32)
    (r : Report) {rest : Bytes} (he : raw.drop headerByteLen = r.body.bytes ++ (r.bytes ++ rest)) :
    parseBodyAndReport raw q headerByteLen =
      ({ q with signedData := raw.take (headerByteLen + bodyByteSize + r.size.toNat) },
        .ok (r.locals r.body, headerByteLen + bodyByteSize + r.size.toNat)) := by
  have hlen := congrArg List.length he
  rw [List.length_drop, List.length_append, List.length_append, Body.length_bytes,
    Report.length_bytes] at hlen
  have hb : 0 < bodyByteSize := by decide
  have he' := drop_after he
  rw [Body.length_bytes] at he'
  have hpos : headerByteLen + bodyByteSize + r.size.toNat ≤ raw.length := by omega
  unfold parseBodyAndReport
  rw [ParseStep.bind_ok (ParseStep.read_eq (copyAndAdvance_reads_fixed Body.insert_reads
    Body.length_bytes) q (by omega) hsmall he trivial), Body.length_bytes]
  cases r with
  | sgx r =>
    have h := parseReport_eq EnclaveReport.insert_reads EnclaveReport.length_bytes
      (Report.sgx r).size rfl q hpos hsmall he'
    exact ParseStep.bind_ok h
  | td10 r =>
    have h := parseReport_eq TDReport10.insert_reads TDReport10.length_bytes
      (Report.td10 r).size rfl q hpos hsmall he'
    exact ParseStep.bind_ok h
  | td15 r =>
    have h := parseReport_eq TDReport15.insert_reads TDReport15.length_bytes
      (Report.td15 r).size rfl q hpos hsmall he'
    exact ParseStep.bind_ok h
  | td15Ex r =>
    have h := parseReport_eq TDReport15Ex.insert_reads TDReport15Ex.length_bytes
      (Report.td15Ex r).size rfl q hpos hsmall he'
    exact ParseStep.bind_ok h

/-- What the report of the versions up to 4 is read as; a TEE type that is not
    known reads nothing. -/
theorem parseReportOnly_cases (teeType : UInt32) {raw : Bytes} (q : Quote)
    (hpos : headerByteLen ≤ raw.length) (hsmall : raw.length < 2 ^ 32) :
    (∃ (r : Report) (rest : Bytes), raw.drop headerByteLen = r.bytes ++ rest ∧
      r.AllowedIn quoteVersion4 ∧ r.teeType = teeType ∧
      headerByteLen + r.size.toNat ≤ raw.length ∧
      parseReportOnly teeType raw q headerByteLen =
        ({ q with signedData := raw.take (headerByteLen + r.size.toNat) },
          .ok (r.locals .zero, headerByteLen + r.size.toNat))) ∨
    parseReportOnly teeType raw q headerByteLen = (q, .error .rejected) ∨
    (teeType ∉ allowedTeeTypes ∧
      parseReportOnly teeType raw q headerByteLen = (q, .ok (.zero, headerByteLen))) := by
  unfold parseReportOnly
  by_cases h1 : teeType = teeTypeSgx
  · rw [if_pos h1]
    rcases ParseStep.read_cases (copyAndAdvance_reads_fixed EnclaveReport.insert_reads
      EnclaveReport.length_bytes) q hpos hsmall with ⟨r, rest, he, -, hle, hrun⟩ | hrun
    · rw [EnclaveReport.length_bytes] at hle hrun
      refine Or.inl ⟨.sgx r, rest, he, Or.inr (Or.inl rfl), h1.symm, hle, ?_⟩
      rw [ParseStep.bind_ok hrun]
      exact ParseStep.bind_ok (assignSignedData_eq q hle)
    · exact Or.inr (Or.inl (ParseStep.bind_error hrun))
  rw [if_neg h1]
  by_cases h2 : teeType = teeTypeTdx
  · rw [if_pos h2]
    rcases ParseStep.read_cases (copyAndAdvance_reads_fixed TDReport10.insert_reads
      TDReport10.length_bytes) q hpos hsmall with ⟨r, rest, he, -, hle, hrun⟩ | hrun
    · rw [TDReport10.length_bytes] at hle hrun
      refine Or.inl ⟨.td10 r, rest, he, Or.inl rfl, h2.symm, hle, ?_⟩
      rw [ParseStep.bind_ok hrun]
      exact ParseStep.bind_ok (assignSignedData_eq q hle)
    · exact Or.inr (Or.inl (ParseStep.bind_error hrun))
  rw [if_neg h2]
  refine Or.inr (Or.inr ⟨?_, rfl⟩)
  simp only [allowedTeeTypes, List.mem_cons, List.not_mem_nil, or_false, not_or]
  exact ⟨h1, h2⟩

/-- A report of version 3 or 4 that is there is read. -/
theorem parseReportOnly_eq {raw : Bytes} (q : Quote) (hsmall : raw.length < 2 ^ 32) (r : Report)
    (hr : r.AllowedIn quoteVersion4) {rest : Bytes}
    (he : raw.drop headerByteLen = r.bytes ++ rest) :
    parseReportOnly r.teeType raw q headerByteLen =
      ({ q with signedData := raw.take (headerByteLen + r.size.toNat) },
        .ok (r.locals .zero, headerByteLen + r.size.toNat)) := by
  have hlen := congrArg List.length he
  rw [List.length_drop, List.length_append, Report.length_bytes] at hlen
  have hh : headerByteLen = 48 := rfl
  unfold parseReportOnly
  cases r with
  | sgx r =>
    have hs : (Report.sgx r).size.toNat = enclaveReportByteLen := rfl
    have hb : 0 < enclaveReportByteLen := by decide
    rw [if_pos (show (Report.sgx r).teeType = teeTypeSgx from rfl),
      ParseStep.bind_ok (ParseStep.read_eq (copyAndAdvance_reads_fixed EnclaveReport.insert_reads
      EnclaveReport.length_bytes) q (by omega) hsmall he trivial), EnclaveReport.length_bytes]
    exact ParseStep.bind_ok (assignSignedData_eq q (show headerByteLen + qeReportByteLen ≤ _ by
      unfold qeReportByteLen; omega))
  | td10 r =>
    have hs : (Report.td10 r).size.toNat = tdReport10ByteLen := rfl
    have hb : 0 < tdReport10ByteLen := by decide
    have ht : (Report.td10 r).teeType = teeTypeTdx := rfl
    rw [if_neg (show ¬ (Report.td10 r).teeType = teeTypeSgx by rw [ht]; decide), if_pos ht,
      ParseStep.bind_ok (ParseStep.read_eq (copyAndAdvance_reads_fixed TDReport10.insert_reads
      TDReport10.length_bytes) q (by omega) hsmall he trivial), TDReport10.length_bytes]
    exact ParseStep.bind_ok (assignSignedData_eq q (by omega))
  | td15 r => exact absurd hr (show ¬ quoteVersion4 = 5 by decide)
  | td15Ex r => exact absurd hr (show ¬ quoteVersion4 = 5 by decide)

/-- The members that version 3 authentication data is copied to. -/
def Quote.withAuthV3 (q : Quote) (a : Ecdsa256BitQuoteV3AuthData) : Quote :=
  { q with
    qeReportSignature := a.qeReportSignature.signature
    qeReport := a.qeReport
    attestKeyData := a.ecdsaAttestationKey.pubKey
    qeAuthData := a.qeAuthData.data
    certificationData := a.certificationData
    quoteSignature := a.ecdsa256BitSignature.signature }

/-- The members that later authentication data is copied to. -/
def Quote.withAuthV4 (q : Quote) (a : Ecdsa256BitQuoteV4AuthData) (c : QEReportCertificationData) :
    Quote :=
  { q with
    qeReportSignature := c.qeReportSignature.signature
    qeReport := c.qeReport
    qeAuthData := c.qeAuthData.data
    attestKeyData := a.ecdsaAttestationKey.pubKey
    certificationData := c.certificationData
    quoteSignature := a.ecdsa256BitSignature.signature }

theorem parseAuthDataV3_cases (n : UInt32) {raw : Bytes} (q : Quote) {pos : ℕ}
    (hpos : pos ≤ raw.length) (hsmall : raw.length < 2 ^ 32) :
    (∃ a rest, raw.drop pos = a.bytes ++ rest ∧ a.SizesMatch ∧ a.bytes.length ≤ n.toNat ∧
      n.toNat ≤ a.bytes.length + rest.length ∧
      parseAuthDataV3 n raw q pos = (q.withAuthV3 a, .ok (a, pos + a.bytes.length))) ∨
    parseAuthDataV3 n raw q pos = (q, .error .rejected) := by
  unfold parseAuthDataV3
  rcases ParseStep.read_cases (copyAndAdvance_reads n.toNat Ecdsa256BitQuoteV3AuthData.insert_reads)
    q hpos hsmall with ⟨a, rest, he, ⟨h1, h2, h3⟩, -, hrun⟩ | hrun
  · refine Or.inl ⟨a, rest, he, h3, h1, h2, ?_⟩
    rw [ParseStep.bind_ok hrun]
    rfl
  · exact Or.inr (ParseStep.bind_error hrun)

theorem parseAuthDataV3_eq {n : UInt32} {raw : Bytes} (q : Quote) {pos : ℕ}
    (hpos : pos ≤ raw.length) (hsmall : raw.length < 2 ^ 32) {a : Ecdsa256BitQuoteV3AuthData}
    {rest : Bytes} (he : raw.drop pos = a.bytes ++ rest) (ha : a.SizesMatch)
    (h1 : a.bytes.length ≤ n.toNat) (h2 : n.toNat ≤ a.bytes.length + rest.length) :
    parseAuthDataV3 n raw q pos = (q.withAuthV3 a, .ok (a, pos + a.bytes.length)) := by
  unfold parseAuthDataV3
  rw [ParseStep.bind_ok (ParseStep.read_eq
    (copyAndAdvance_reads n.toNat Ecdsa256BitQuoteV3AuthData.insert_reads) q hpos hsmall he
    ⟨h1, h2, ha⟩)]
  rfl

theorem parseAuthDataV4_cases (n : UInt32) {raw : Bytes} (q : Quote) {pos : ℕ}
    (hpos : pos ≤ raw.length) (hsmall : raw.length < 2 ^ 32) :
    (∃ a rest c, raw.drop pos = a.bytes ++ rest ∧ a.SizesMatch ∧ a.bytes.length ≤ n.toNat ∧
      n.toNat ≤ a.bytes.length + rest.length ∧ a.certificationData.data = c.bytes ∧ c.SizesMatch ∧
      parseAuthDataV4 n raw q pos = (q.withAuthV4 a c, .ok (a, pos + a.bytes.length))) ∨
    parseAuthDataV4 n raw q pos = (q, .error .rejected) := by
  unfold parseAuthDataV4
  rcases ParseStep.read_cases (copyAndAdvance_reads n.toNat Ecdsa256BitQuoteV4AuthData.insert_reads)
    q hpos hsmall with ⟨a, rest, he, ⟨h1, h2, h3⟩, -, hrun⟩ | hrun
  · have hdata := a.certificationData.parsedDataSize.toNat_lt
    have hsize : a.certificationData.parsedDataSize.toNat = a.certificationData.data.length := h3
    rw [ParseStep.bind_ok hrun]
    rcases QEReportCertificationData.insert_reads.run a.certificationData.data.length.zero_le
      (by omega) with ⟨c, rest', hc, ⟨hsizes, rfl⟩, hread⟩ | ⟨hread, -⟩
    · rw [List.drop_zero, List.append_nil] at hc
      refine Or.inl ⟨a, rest, c, he, h3, h1, h2, hc, hsizes, ?_⟩
      rw [ParseStep.bind_ok (by rw [ParseStep.readFrom, hread]; rfl)]
      rfl
    · refine Or.inr (ParseStep.bind_error ?_)
      rw [ParseStep.readFrom, hread]
      rfl
  · exact Or.inr (ParseStep.bind_error hrun)

theorem parseAuthDataV4_eq {n : UInt32} {raw : Bytes} (q : Quote) {pos : ℕ}
    (hpos : pos ≤ raw.length) (hsmall : raw.length < 2 ^ 32) {a : Ecdsa256BitQuoteV4AuthData}
    {rest : Bytes} {c : QEReportCertificationData} (he : raw.drop pos = a.bytes ++ rest)
    (ha : a.SizesMatch) (h1 : a.bytes.length ≤ n.toNat)
    (h2 : n.toNat ≤ a.bytes.length + rest.length) (hc : a.certificationData.data = c.bytes)
    (hsizes : c.SizesMatch) :
    parseAuthDataV4 n raw q pos = (q.withAuthV4 a c, .ok (a, pos + a.bytes.length)) := by
  have hdata := a.certificationData.parsedDataSize.toNat_lt
  have hsize : a.certificationData.parsedDataSize.toNat = a.certificationData.data.length := ha
  unfold parseAuthDataV4
  rw [ParseStep.bind_ok (ParseStep.read_eq
    (copyAndAdvance_reads n.toNat Ecdsa256BitQuoteV4AuthData.insert_reads) q hpos hsmall he
    ⟨h1, h2, ha⟩)]
  have hread := QEReportCertificationData.insert_reads.run_eq
    a.certificationData.data.length.zero_le (by omega) (v := c)
    (by rw [List.drop_zero, hc]; exact (List.append_nil _).symm) ⟨hsizes, rfl⟩
  rw [ParseStep.bind_ok (by rw [ParseStep.readFrom, hread]; rfl)]
  rfl

/-! ## Validation -/

theorem if_false_eq_true {p : Prop} [Decidable p] {b : Bool} :
    (if p then false else b) = true ↔ ¬ p ∧ b = true := by
  by_cases h : p <;> simp [h]

theorem lt_one_or_gt_five (t : UInt16) : (t < 1 ∨ t > 5) ↔ ¬ (1 ≤ t.toNat ∧ t.toNat ≤ 5) := by
  rw [gt_iff_lt, UInt16.lt_iff_toNat_lt, UInt16.lt_iff_toNat_lt,
    show (1 : UInt16).toNat = 1 by rfl, show (5 : UInt16).toNat = 5 by rfl]
  omega

/-- `validate` accepts when none of its checks fails. -/
theorem validate_iff (q : Quote) : q.validate = true ↔
    q.header.version ∈ allowedQuoteVersions ∧
    q.header.attestationKeyType ∈ allowedAttestationKeyTypes ∧
    q.header.teeType ∈ allowedTeeTypes ∧ q.header.qeVendorId = intelQeVendorId ∧
    (q.header.version = quoteVersion3 → q.header.teeType = teeTypeSgx) ∧
    (q.header.version = quoteVersion3 →
      1 ≤ q.authDataV3.certificationData.type.toNat ∧
      q.authDataV3.certificationData.type.toNat ≤ 5) ∧
    (q.header.version = quoteVersion4 ∨ q.header.version = quoteVersion5 →
      q.authDataV4.certificationData.type = pckIdQeReportCertificationData) ∧
    (q.header.version = quoteVersion4 ∨ q.header.version = quoteVersion5 →
      1 ≤ q.certificationData.type.toNat ∧ q.certificationData.type.toNat ≤ 5) ∧
    (q.header.version = quoteVersion5 → q.body.bodyType ∈ allowedBodyTypes) ∧
    (q.header.version = quoteVersion5 → q.header.teeType = teeTypeSgx →
      q.body.bodyType = bodySgxEnclaveReportType) ∧
    (q.header.version = quoteVersion5 → q.header.teeType ≠ teeTypeSgx →
      q.body.bodyType ≠ bodySgxEnclaveReportType) := by
  simp only [Quote.validate, if_false_eq_true, lt_one_or_gt_five, not_and, Classical.not_imp,
    not_not, ne_eq, and_true]

/-! ## A quote of the layout is accepted -/

theorem length_authDataBytes (v : UInt16) (s k : ByteArr 64) (qe : QeData) (slack : Bytes) :
    128 + qe.bytes.length ≤ (authDataBytes v s k qe slack).length := by
  unfold authDataBytes
  split <;> simp <;> omega

theorem QeData.length_bytes (d : QeData) : 456 ≤ d.bytes.length := by
  simp only [QeData.bytes, List.length_append, EnclaveReport.length_bytes, length_leBytes,
    List.Vector.toList_length, enclaveReportByteLen]
  omega

namespace QuoteLayout

variable (l : QuoteLayout)

theorem length_bytes_ge : quoteMinByteLen ≤ l.bytes.length := by
  have h1 := l.qe.length_bytes
  have h2 : 128 + l.qe.bytes.length ≤ l.authBytes.length := length_authDataBytes _ _ _ _ _
  have h3 := l.report.le_size
  have h4 : quoteMinByteLen = 1020 := by decide
  have h5 : headerByteLen = 48 := rfl
  simp only [bytes, signedBytes, List.length_append, Header.length_bytes, Report.length_bytes,
    length_leBytes]
  omega

/-- The parsed quote passes validation. -/
theorem validate_quote : l.quote.validate = true := by
  have hcert := l.qe.certType_mem
  have hver := l.report_allowed.version
  have htee : l.quote.header.teeType = l.report.teeType := l.teeType_eq
  have hbody : l.quote.header.version = quoteVersion5 → l.quote.body = l.report.body := by
    intro hv
    simp only [quote, locals, if_pos (show l.header.version = 5 from hv)]
    cases l.report <;> rfl
  rw [validate_iff]
  refine ⟨?_, ?_, ?_, l.vendor_eq, ?_, ?_, ?_, fun _ => hcert, ?_, ?_, ?_⟩
  · simp only [allowedQuoteVersions, List.mem_cons, List.not_mem_nil, or_false]
    exact hver
  · simp only [allowedAttestationKeyTypes, List.mem_cons, List.not_mem_nil, or_false]
    exact l.keyType_eq
  · rw [htee]
    exact l.report.teeType_mem
  · intro hv
    rw [htee]
    exact l.report_allowed.teeType hv
  · intro hv
    have hauth : l.quote.authDataV3 = l.authDataV3 := rfl
    rw [hauth, authDataV3, if_pos (show l.header.version = 3 from hv)]
    exact hcert
  · intro hv
    have hne : ¬ l.header.version = 3 := by
      intro h
      rw [show l.quote.header.version = l.header.version from rfl, h] at hv
      exact absurd hv (by decide)
    have hauth : l.quote.authDataV4 = l.authDataV4 := rfl
    rw [hauth, authDataV4, if_neg hne]
    rfl
  · intro hv
    rw [hbody hv]
    exact l.report.bodyType_mem
  · intro hv ht
    rw [hbody hv]
    exact l.report.bodyType_sgx_iff.mpr (htee ▸ ht)
  · intro hv ht
    rw [hbody hv]
    exact fun h => ht (htee.trans (l.report.bodyType_sgx_iff.mp h))

/-- Where the authentication data size begins. -/
def signedLen : ℕ :=
  headerByteLen + (if l.header.version = 5 then bodyByteSize else 0) + l.report.size.toNat

theorem length_signedBytes : l.signedBytes.length = l.signedLen := by
  simp only [signedBytes, signedLen, bodyBytes, List.length_append, Header.length_bytes,
    Report.length_bytes]
  split <;> simp [bodyByteSize]

/-- Reading the reports of the layout, in each of the versions. -/
theorem reports_eq {raw : Bytes} (q : Quote) (hsmall : raw.length < 2 ^ 32) {rest : Bytes}
    (he : raw.drop headerByteLen = l.bodyBytes ++ (l.report.bytes ++ rest)) :
    parseReports l.header raw q headerByteLen =
      ({ q with signedData := raw.take l.signedLen }, .ok (l.locals, l.signedLen)) := by
  have hver := l.report_allowed.version
  unfold parseReports
  by_cases h5 : l.header.version = 5
  · have hbody : l.bodyBytes = l.report.body.bytes := by
      simp only [bodyBytes, h5, if_true, Report.body, Body.bytes, Report.length_bytes,
        List.flatten_cons, List.flatten_nil, List.append_nil]
    rw [hbody] at he
    rw [if_pos (by rw [h5]; decide), parseBodyAndReport_eq q hsmall l.report he]
    simp only [signedLen, locals, h5, if_true]
  · have hallowed : l.report.AllowedIn quoteVersion4 := by
      have h := l.report_allowed
      cases hr : l.report with
      | sgx r => exact Or.inr (Or.inl rfl)
      | td10 r => exact Or.inl rfl
      | td15 r => rw [hr] at h; exact absurd h h5
      | td15Ex r => rw [hr] at h; exact absurd h h5
    have hgt : ¬ l.header.version > quoteVersion4 := by
      rcases hver with h | h | h
      · rw [h]; decide
      · rw [h]; decide
      · exact absurd h h5
    simp only [bodyBytes, h5, if_false, List.nil_append] at he
    rw [if_neg hgt, l.teeType_eq, parseReportOnly_eq q hsmall l.report hallowed he]
    simp only [signedLen, locals, h5, if_false, Nat.add_zero]

/-- The object after the authentication data is read, in either form. -/
def withAuth (q : Quote) : Quote :=
  { q with
    qeReportSignature := l.qe.qeReportSignature
    qeReport := l.qe.qeReport
    attestKeyData := l.attestKey
    qeAuthData := l.qe.authData
    certificationData := l.qe.decoded.certificationData
    quoteSignature := l.quoteSignature }

theorem authDataV3_bytes (h : l.header.version = 3) :
    l.authBytes = l.authDataV3.bytes ++ l.slack := by
  have hqe := l.qe.decoded_bytes
  simp only [QEReportCertificationData.bytes, List.flatten_cons, List.flatten_nil,
    List.append_nil] at hqe
  simp only [authBytes, authDataBytes, authDataV3, h, if_true, Ecdsa256BitQuoteV3AuthData.bytes,
    List.flatten_cons, List.flatten_nil, List.append_nil, ← hqe, List.append_assoc]

theorem qe_bytes_lt : l.qe.bytes.length < 2 ^ 32 := by
  have h1 := l.authData_lt
  have h2 := length_authDataBytes l.header.version l.quoteSignature l.attestKey l.qe l.slack
  omega

theorem authDataV4_bytes (h : ¬ l.header.version = 3) :
    l.authBytes = l.authDataV4.bytes ++ l.slack := by
  have hlen : (UInt32.ofNat l.qe.bytes.length).toNat = l.qe.bytes.length := by
    have := l.qe_bytes_lt
    rw [UInt32.toNat_ofNat']
    omega
  simp only [authBytes, authDataBytes, authDataV4, h, if_false, Ecdsa256BitQuoteV4AuthData.bytes,
    CertificationData.bytes, hlen, List.flatten_cons, List.flatten_nil, List.append_nil,
    List.append_assoc]
  rfl

/-- Reading the authentication data of the layout, in each of the versions. -/
theorem parseAuthData_eq {raw : Bytes} (q : Quote) (hsmall : raw.length < 2 ^ 32) {pos : ℕ}
    (hpos : pos ≤ raw.length) (he : raw.drop pos = l.authBytes ++ l.trailing) :
    ∃ pos', parseAuthData l.header.version (UInt32.ofNat l.authBytes.length) raw q pos =
      (l.withAuth q, .ok ((l.authDataV3, l.authDataV4), pos')) := by
  have hn : (UInt32.ofNat l.authBytes.length).toNat = l.authBytes.length := by
    have h : l.authBytes.length < 2 ^ 32 := l.authData_lt
    rw [UInt32.toNat_ofNat']
    omega
  unfold parseAuthData
  by_cases h3 : l.header.version = 3
  · have hlen := congrArg List.length (l.authDataV3_bytes h3)
    rw [List.length_append] at hlen
    rw [l.authDataV3_bytes h3, List.append_assoc] at he
    have hread := parseAuthDataV3_eq (n := UInt32.ofNat l.authBytes.length) q hpos hsmall he
      (by simp only [authDataV3, h3, if_true]; exact l.qe.decoded_sizesMatch) (by omega)
      (by rw [List.length_append]; omega)
    rw [if_pos (show l.header.version = quoteVersion3 from h3), ParseStep.bind_ok hread]
    refine ⟨_, Prod.ext ?_ (by simp only [authDataV4, h3, if_true]; rfl)⟩
    simp only [authDataV3, h3, if_true]
    rfl
  · have hlen := congrArg List.length (l.authDataV4_bytes h3)
    rw [List.length_append] at hlen
    rw [l.authDataV4_bytes h3, List.append_assoc] at he
    have hgt : l.header.version > quoteVersion3 := by
      rcases l.report_allowed.version with h | h | h
      · exact absurd h h3
      · rw [h]; decide
      · rw [h]; decide
    have hsize : l.authDataV4.SizesMatch := by
      have := l.qe_bytes_lt
      simp only [authDataV4, h3, if_false, Ecdsa256BitQuoteV4AuthData.SizesMatch,
        CertificationData.SizeMatches, UInt32.toNat_ofNat']
      omega
    have hread := parseAuthDataV4_eq (n := UInt32.ofNat l.authBytes.length) (c := l.qe.decoded) q
      hpos hsmall he hsize (by omega) (by rw [List.length_append]; omega)
      (by rw [l.qe.decoded_bytes]; simp only [authDataV4, h3, if_false]) l.qe.decoded_sizesMatch
    rw [if_neg (show ¬ l.header.version = quoteVersion3 from h3), if_pos hgt,
      ParseStep.bind_ok hread]
    refine ⟨_, Prod.ext ?_ (by simp only [authDataV3, h3, if_false]; rfl)⟩
    simp only [authDataV4, h3, if_false]
    rfl

/-- **Completeness.** A quote of the layout is parsed, from any prior object. -/
theorem parse_layout (hsmall : l.bytes.length < 2 ^ 32) (q : Quote) :
    Quote.parse l.bytes q = (l.quote, .ok ()) := by
  have hmin := l.length_bytes_ge
  have h0 : l.bytes.drop 0 = l.header.bytes ++ (l.bodyBytes ++ (l.report.bytes ++
      (leBytes 4 l.authBytes.length ++ (l.authBytes ++ l.trailing)))) := by
    simp only [List.drop_zero, bytes, signedBytes, List.append_assoc]
  have h1 := drop_after h0
  rw [Header.length_bytes, Nat.zero_add] at h1
  have h2 : l.bytes.drop l.signedLen =
      leBytes 4 l.authBytes.length ++ (l.authBytes ++ l.trailing) := by
    rw [← length_signedBytes, bytes, List.append_assoc, List.append_assoc, List.drop_left]
  have htake : l.bytes.take l.signedLen = l.signedBytes := by
    rw [← length_signedBytes, bytes, List.append_assoc, List.append_assoc, List.take_left]
  have hlen2 := congrArg List.length h2
  rw [List.length_drop, List.length_append, length_leBytes] at hlen2
  have hn : (UInt32.ofNat l.authBytes.length).toNat = l.authBytes.length := by
    have h : l.authBytes.length < 2 ^ 32 := l.authData_lt
    rw [UInt32.toNat_ofNat']
    omega
  have h3 := drop_after h2
  rw [length_leBytes] at h3
  have hread := ParseStep.read_eq insertAuthDataSize_reads
    { q with header := l.header, signedData := l.bytes.take l.signedLen }
    (show l.signedLen ≤ l.bytes.length by omega) hsmall
    (show _ = leBytes 4 (UInt32.ofNat l.authBytes.length).toNat ++ _ by rw [hn]; exact h2)
    (by rw [hn, List.length_append]; omega)
  rw [length_leBytes] at hread
  obtain ⟨pos', hauth⟩ := l.parseAuthData_eq
    { q with header := l.header, signedData := l.bytes.take l.signedLen } hsmall
    (show l.signedLen + 4 ≤ l.bytes.length by omega) h3
  have hsteps : (Quote.parseSteps l.bytes q 0) = (l.quote, .ok ((), pos')) := by
    unfold Quote.parseSteps
    rw [ParseStep.bind_ok (ParseStep.read_eq (copyAndAdvance_reads_fixed Header.insert_reads
      Header.length_bytes) q (Nat.zero_le _) hsmall h0 trivial), ParseStep.modify_bind,
      Header.length_bytes, Nat.zero_add, ParseStep.bind_ok (l.reports_eq _ hsmall h1),
      ParseStep.bind_ok hread, ParseStep.bind_ok hauth, htake]
    rfl
  rw [Quote.parse, if_neg (by omega), hsteps]
  rfl

end QuoteLayout

end DcapQvl
