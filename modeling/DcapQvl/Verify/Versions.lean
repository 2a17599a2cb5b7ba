import DcapQvl.Quote.SignedData
import DcapQvl.Tcb.Relaunch

/-!
# The versions of the quote format

The same parts can be encoded in several versions: an enclave report in versions 3, 4
and 5, a TD report 1.0 in versions 4 and 5.

Results:
* `QuoteParts.accepts_iff`: which encodings are accepted does not depend on the version.
* `versions_agree`: neither do the values that are read and the TCB level check.
-/

namespace DcapQvl

open Lib

/-! ## The parts of a quote -/

/-- The parts of a quote. The version of the header is replaced. -/
structure QuoteParts where
  header : Header
  report : Report
  quoteSignature : ByteArr 64
  attestKey : ByteArr 64
  qe : QeData
  slack : Bytes
  trailing : Bytes

namespace QuoteParts

variable (p : QuoteParts)

/-- The header in a version. -/
def headerIn (version : UInt16) : Header := { p.header with version }

/-- The authentication data in a version. -/
def authBytes (version : UInt16) : Bytes :=
  authDataBytes version p.quoteSignature p.attestKey p.qe p.slack

/-- The quote in a version. -/
def encode (version : UInt16) : Bytes :=
  (p.headerIn version).bytes ++
    (if version = 5 then leBytes 2 p.report.bodyType.toNat ++ leBytes 4 p.report.bytes.length
      else []) ++
    p.report.bytes ++ leBytes 4 (p.authBytes version).length ++ p.authBytes version ++ p.trailing

/-- The fields of the header that are the same for all quotes. -/
def HeaderValid : Prop :=
  p.header.attestationKeyType = 2 ∧ p.header.qeVendorId = intelQeVendorId

variable {p} {version : UInt16} (hallowed : p.report.AllowedIn version)
  (htee : p.header.teeType = p.report.teeType) (hsmall : (p.encode version).length < 2 ^ 32)
include hallowed htee hsmall

/-- The layout of a valid encoding. -/
theorem exists_layout (hvalid : p.HeaderValid) :
    ∃ l : QuoteLayout, p.encode version = l.bytes ∧ l.header = p.headerIn version ∧
      l.report = p.report ∧ l.quoteSignature = p.quoteSignature ∧ l.attestKey = p.attestKey ∧
      l.qe = p.qe := by
  have hlen : (p.authBytes version).length < 2 ^ 32 := by
    refine lt_of_le_of_lt ?_ hsmall
    simp only [encode, List.length_append]
    omega
  exact ⟨⟨p.headerIn version, p.report, p.quoteSignature, p.attestKey, p.qe, p.slack, p.trailing,
    hallowed, hvalid.1, htee, hvalid.2, hlen⟩, rfl, rfl, rfl, rfl, rfl, rfl⟩

/-- An encoding is accepted exactly when the fields of its header are valid. -/
theorem accepts_iff (q : Quote) :
    (∃ q', Accepts (p.encode version) q q') ↔ p.HeaderValid := by
  constructor
  · rintro ⟨q', h⟩
    obtain ⟨l, hl, -⟩ := h.exists_layout hsmall
    have hheader : p.headerIn version = l.header := by
      obtain ⟨rest, hrest⟩ : ∃ rest, p.encode version = (p.headerIn version).bytes ++ rest :=
        ⟨_, by simp only [encode, List.append_assoc]; rfl⟩
      obtain ⟨rest', hrest'⟩ : ∃ rest, l.bytes = l.header.bytes ++ rest :=
        ⟨_, by simp only [QuoteLayout.bytes, QuoteLayout.signedBytes, List.append_assoc]; rfl⟩
      rw [hrest, hrest'] at hl
      exact Header.insert_reads.injective
        (List.append_inj hl (by rw [Header.length_bytes, Header.length_bytes])).1
    have hkey := congrArg Header.attestationKeyType hheader
    have hvendor := congrArg Header.qeVendorId hheader
    exact ⟨hkey.trans l.keyType_eq, hvendor.trans l.vendor_eq⟩
  · intro hvalid
    obtain ⟨l, hl, -⟩ := exists_layout hallowed htee hsmall hvalid
    rw [hl]
    exact ⟨l.quote, accepts_layout l (hl ▸ hsmall) q⟩

/-- What is read of an accepted encoding. -/
theorem accepts_quote {q q' : Quote} (h : Accepts (p.encode version) q q') :
    ∃ l : QuoteLayout, q' = l.quote ∧ l.header = p.headerIn version ∧ l.report = p.report ∧
      l.quoteSignature = p.quoteSignature ∧ l.attestKey = p.attestKey ∧ l.qe = p.qe := by
  have hvalid := (accepts_iff hallowed htee hsmall q).mp ⟨q', h⟩
  obtain ⟨l, hl, hparts⟩ := exists_layout hallowed htee hsmall hvalid
  refine ⟨l, ?_, hparts⟩
  have hlayout := accepts_layout l (hl ▸ hsmall) q
  rw [← hl, Accepts, h.1] at hlayout
  cases hlayout.1
  rfl

end QuoteParts

/-! ## What the versions have in common -/

/-- Two objects agree on the values of the parts. -/
structure SameParts (q1 q2 : Quote) : Prop where
  enclaveReport : q1.enclaveReport = q2.enclaveReport
  qeReport : q1.qeReport = q2.qeReport
  qeReportSignature : q1.qeReportSignature = q2.qeReportSignature
  attestKeyData : q1.attestKeyData = q2.attestKeyData
  qeAuthData : q1.qeAuthData = q2.qeAuthData
  certificationData : q1.certificationData = q2.certificationData
  quoteSignature : q1.quoteSignature = q2.quoteSignature
  teeTcbSvn : q1.header.teeType = teeTypeTdx → q1.getTeeTcbSvn = q2.getTeeTcbSvn
  mrSignerSeam : q1.header.teeType = teeTypeTdx → q1.getMrSignerSeam = q2.getMrSignerSeam
  seamAttributes : q1.header.teeType = teeTypeTdx → q1.getSeamAttributes = q2.getSeamAttributes

section Layouts

variable {l m : QuoteLayout} (hreport : l.report = m.report)
include hreport

theorem QuoteLayout.teeType_eq_of_report : l.header.teeType = m.header.teeType := by
  rw [l.teeType_eq, m.teeType_eq, hreport]

/-- The enclave report is the one of the layout, or zero. -/
theorem QuoteLayout.enclaveReport_eq : l.quote.enclaveReport = m.quote.enclaveReport := by
  simp only [quote, locals, hreport]
  cases m.report <;> rfl

/-- The accessors read the same part of the same report. -/
theorem QuoteLayout.exists_bases (h : l.header.teeType = teeTypeTdx) :
    ∃ base : TDReport10, l.quote.GettersRead base ∧ m.quote.GettersRead base := by
  have hm : m.header.teeType = teeTypeTdx := (teeType_eq_of_report hreport) ▸ h
  obtain ⟨base, hbase, hslice⟩ := l.exists_base h
  obtain ⟨base', hbase', hslice'⟩ := m.exists_base hm
  have heq : base = base' := by
    refine TDReport10.insert_reads.injective ?_
    have hl := hslice 0 tdReport10ByteLen (Nat.zero_add _).le
    have hm := hslice' 0 tdReport10ByteLen (Nat.zero_add _).le
    rw [slice_all (TDReport10.length_bytes _)] at hl hm
    rw [← hl, ← hm, hreport]
  exact ⟨base, hbase, heq ▸ hbase'⟩

end Layouts

/-- The check reads the TEE type, the QE report's ISV SVN and the TEE TCB SVNs only. -/
theorem quoteEvaluations_congr {tcbInfo : TcbInfo} {pckCert : PckCertificate} {q1 q2 : Quote}
    {enclaveIdentity : Option EnclaveIdentity} (htee : q1.header.teeType = q2.header.teeType)
    (hqe : q1.qeReport = q2.qeReport)
    (hsvn : q1.header.teeType = teeTypeTdx → q1.getTeeTcbSvn = q2.getTeeTcbSvn)
    (hbody : q1.body.bodyType ≥ bodyTdReport15Type ↔ q2.body.bodyType ≥ bodyTdReport15Type)
    (hsvn2 : q1.body.bodyType ≥ bodyTdReport15Type → q1.getTeeTcbSvn2 = q2.getTeeTcbSvn2) :
    quoteEvaluations tcbInfo pckCert q1 enclaveIdentity =
      quoteEvaluations tcbInfo pckCert q2 enclaveIdentity := by
  unfold quoteEvaluations
  rw [← htee, ← hqe]
  by_cases hsgx : q1.header.teeType = teeTypeSgx
  · simp only [if_pos hsgx]
  · by_cases htdx : q1.header.teeType = teeTypeTdx
    · simp only [if_neg hsgx, if_pos htdx, hsvn htdx]
      by_cases h : q1.body.bodyType ≥ bodyTdReport15Type
      · simp only [if_pos h, if_pos (hbody.mp h), hsvn2 h]
      · simp only [if_neg h, if_neg (fun h' => h (hbody.mpr h'))]
    · simp only [if_neg hsgx, if_neg htdx]

/-- The reports 1.5 have the body types from 3 on. -/
theorem QuoteLayout.bodyType_ge_iff (l : QuoteLayout) :
    l.quote.body.bodyType ≥ bodyTdReport15Type ↔
      (∃ r, l.report = .td15 r) ∨ ∃ r, l.report = .td15Ex r := by
  rcases l.report_cases with ⟨r, hr, -, -, hb⟩ | ⟨r, hr, -, -, hb⟩ | ⟨r, hr, -, -, -, hb⟩ |
    ⟨r, hr, -, -, -, hb⟩
  · refine iff_of_false ?_ (by simp [hr])
    rcases hb with hb | hb <;> rw [hb] <;> decide
  · refine iff_of_false ?_ (by simp [hr])
    rcases hb with ⟨-, hb⟩ | ⟨-, hb⟩ <;> rw [hb] <;> decide
  · refine iff_of_true ?_ (Or.inl ⟨r, hr⟩)
    rw [hb]
    decide
  · refine iff_of_true ?_ (Or.inr ⟨r, hr⟩)
    rw [hb]
    decide

theorem QuoteLayout.getTeeTcbSvn2_eq {l m : QuoteLayout} (hreport : l.report = m.report)
    (h : l.quote.body.bodyType ≥ bodyTdReport15Type) :
    l.quote.getTeeTcbSvn2 = m.quote.getTeeTcbSvn2 := by
  have hquote (l : QuoteLayout) {r : TDReport15} (hr : l.report = .td15 r) :
      l.quote.getTeeTcbSvn2 = r.teeTcbSvn2 := by
    rcases l.report_cases with ⟨_, h, -⟩ | ⟨_, h, -⟩ | ⟨r', h, -, hq, -, hb⟩ | ⟨_, h, -⟩
    · rw [hr] at h
      cases h
    · rw [hr] at h
      cases h
    · rw [hr] at h
      cases h
      have hbody : l.quote.body.bodyType = bodyTdReport15Type := hb
      rw [Quote.getTeeTcbSvn2, if_pos hbody, hq]
    · rw [hr] at h
      cases h
  have hquoteEx (l : QuoteLayout) {r : TDReport15Ex} (hr : l.report = .td15Ex r) :
      l.quote.getTeeTcbSvn2 = r.teeTcbSvn2 := by
    rcases l.report_cases with ⟨_, h, -⟩ | ⟨_, h, -⟩ | ⟨_, h, -⟩ | ⟨r', h, -, hq, -, hb⟩
    · rw [hr] at h
      cases h
    · rw [hr] at h
      cases h
    · rw [hr] at h
      cases h
    · rw [hr] at h
      cases h
      rw [Quote.getTeeTcbSvn2, if_neg (by rw [hb]; decide), hq]
  rcases l.bodyType_ge_iff.mp h with ⟨r, hr⟩ | ⟨r, hr⟩
  · rw [hquote l hr, hquote m (hreport ▸ hr)]
  · rw [hquoteEx l hr, hquoteEx m (hreport ▸ hr)]

/-- **The version does not matter.** The encodings of the same parts in two versions are
    both accepted or both rejected; the objects agree on the values of the parts, and
    the TCB level check returns and records the same for both. -/
theorem versions_agree (p : QuoteParts) (htee : p.header.teeType = p.report.teeType)
    {v w : UInt16} (hv : p.report.AllowedIn v) (hw : p.report.AllowedIn w)
    (hvsmall : (p.encode v).length < 2 ^ 32) (hwsmall : (p.encode w).length < 2 ^ 32)
    (q1 q2 : Quote) :
    ((∃ q', Accepts (p.encode v) q1 q') ↔ ∃ q', Accepts (p.encode w) q2 q') ∧
    ∀ q1' q2', Accepts (p.encode v) q1 q1' → Accepts (p.encode w) q2 q2' →
      SameParts q1' q2' ∧
      ∀ tcbInfo pckCert enclaveIdentity info,
        checkTcbLevel tcbInfo pckCert q1' enclaveIdentity info =
          checkTcbLevel tcbInfo pckCert q2' enclaveIdentity info := by
  refine ⟨?_, fun q1' q2' h1 h2 => ?_⟩
  · rw [QuoteParts.accepts_iff hv htee hvsmall, QuoteParts.accepts_iff hw htee hwsmall]
  · obtain ⟨l, rfl, -, hlr, hls, hlk, hlq⟩ := QuoteParts.accepts_quote hv htee hvsmall h1
    obtain ⟨m, rfl, -, hmr, hms, hmk, hmq⟩ := QuoteParts.accepts_quote hw htee hwsmall h2
    have hreport : l.report = m.report := hlr.trans hmr.symm
    have hqe : l.qe = m.qe := hlq.trans hmq.symm
    have hteeType : l.quote.header.teeType = m.quote.header.teeType :=
      QuoteLayout.teeType_eq_of_report hreport
    have hbases (h : l.quote.header.teeType = teeTypeTdx) :
        ∃ base, l.quote.GettersRead base ∧ m.quote.GettersRead base :=
      QuoteLayout.exists_bases hreport h
    have hsame : SameParts l.quote m.quote := by
      refine ⟨QuoteLayout.enclaveReport_eq hreport, ?_, ?_, hlk.trans hmk.symm, ?_, ?_,
        hls.trans hms.symm, fun h => ?_, fun h => ?_, fun h => ?_⟩
      · exact congrArg QeData.qeReport hqe
      · exact congrArg QeData.qeReportSignature hqe
      · exact congrArg QeData.authData hqe
      · exact congrArg (fun qe => qe.decoded.certificationData) hqe
      · obtain ⟨base, hl, hm⟩ := hbases h
        rw [hl.teeTcbSvn, hm.teeTcbSvn]
      · obtain ⟨base, hl, hm⟩ := hbases h
        rw [hl.mrSignerSeam, hm.mrSignerSeam]
      · obtain ⟨base, hl, hm⟩ := hbases h
        rw [hl.seamAttributes, hm.seamAttributes]
    refine ⟨hsame, fun tcbInfo pckCert enclaveIdentity info => ?_⟩
    rw [checkTcbLevel_eq, checkTcbLevel_eq, quoteEvaluations_congr hteeType hsame.qeReport
      hsame.teeTcbSvn ?_ (QuoteLayout.getTeeTcbSvn2_eq hreport)]
    rw [l.bodyType_ge_iff, m.bodyType_ge_iff, hreport]

/-- The parts of the smallest quote. -/
def QuoteParts.smallest : QuoteParts :=
  { header := QuoteLayout.smallest.header, report := QuoteLayout.smallest.report
    quoteSignature := .zero 64, attestKey := .zero 64, qe := QuoteLayout.smallest.qe
    slack := [], trailing := [] }

/-- They are accepted in version 5 too. -/
theorem versions_agree_smallest : ∃ q', Accepts (QuoteParts.smallest.encode 5) (.initial 0) q' := by
  have hlen : (QuoteParts.smallest.encode 3).length < 2 ^ 32 := by decide +kernel
  have hlen' : (QuoteParts.smallest.encode 5).length < 2 ^ 32 := by decide +kernel
  have hallowed : QuoteParts.smallest.report.AllowedIn 3 := Or.inl rfl
  have hallowed' : QuoteParts.smallest.report.AllowedIn 5 := Or.inr (Or.inr rfl)
  refine (versions_agree QuoteParts.smallest rfl hallowed hallowed' hlen hlen'
    (.initial 0) (.initial 0)).1.mp ?_
  exact (QuoteParts.accepts_iff hallowed rfl hlen _).mpr ⟨rfl, rfl⟩

end DcapQvl
