import DcapQvl.Quote.Accepted

/-!
# Signed data

What the quote signature covers. `getSignedData()` is the prefix of an accepted
quote in front of the authentication data size, and every value the verifier
reads from the header, the body descriptor and the reports is a slice of it
(`signedData_covers`). Two accepted quotes with equal signed data therefore
agree on these values. The reports and their bytes determine each other
(`reports_roundTrip`).
-/

namespace DcapQvl

open Lib

/-- The `n` bytes of `bs` from the offset `pos`. -/
def slice (bs : Bytes) (pos n : ℕ) : Bytes := (bs.drop pos).take n

theorem slice_left {a b : Bytes} {pos n : ℕ} (h : pos + n ≤ a.length) :
    slice (a ++ b) pos n = slice a pos n := by
  rw [slice, List.drop_append_of_le_length (by omega), List.take_append_of_le_length]
  · rfl
  · rw [List.length_drop]
    omega

theorem slice_right {a b : Bytes} {pos n : ℕ} (h : a.length ≤ pos) :
    slice (a ++ b) pos n = slice b (pos - a.length) n := by
  rw [slice, List.drop_append, List.drop_of_length_le h, List.nil_append]
  rfl

theorem slice_all {a : Bytes} {n : ℕ} (h : a.length = n) : slice a 0 n = a := by
  rw [slice, List.drop_zero, List.take_of_length_le h.le]

/-! ## Fields of the structures -/

theorem Header.slice_version (h : Header) : leNat (slice h.bytes 0 2) = h.version.toNat := by
  have hv := h.version.toNat_lt
  rw [bytes, List.flatten_cons, slice_left (by simp), slice_all (by simp),
    leNat_leBytes_of_lt (by omega)]

theorem Header.slice_teeType (h : Header) : leNat (slice h.bytes 4 4) = h.teeType.toNat := by
  have hv := h.teeType.toNat_lt
  rw [bytes, List.flatten_cons, slice_right (by simp), List.flatten_cons, slice_right (by simp),
    List.flatten_cons, slice_left (by simp)]
  simp only [length_leBytes, Nat.reduceSub]
  rw [slice_all (by simp), leNat_leBytes_of_lt (by omega)]

theorem TDReport10.slice_teeTcbSvn (r : TDReport10) :
    slice r.bytes 0 16 = r.teeTcbSvn.toList := by
  rw [bytes, List.flatten_cons, slice_left (by simp), slice_all (by simp)]

theorem TDReport10.slice_mrSignerSeam (r : TDReport10) :
    slice r.bytes 64 48 = r.mrSignerSeam.toList := by
  rw [bytes, List.flatten_cons, slice_right (by simp), List.flatten_cons, slice_right (by simp),
    List.flatten_cons, slice_left (by simp)]
  simp only [List.Vector.toList_length, Nat.reduceSub]
  rw [slice_all (by simp)]

theorem TDReport10.slice_seamAttributes (r : TDReport10) :
    slice r.bytes 112 8 = r.seamAttributes.toList := by
  rw [bytes, List.flatten_cons, slice_right (by simp), List.flatten_cons, slice_right (by simp),
    List.flatten_cons, slice_right (by simp), List.flatten_cons, slice_left (by simp)]
  simp only [List.Vector.toList_length, Nat.reduceSub]
  rw [slice_all (by simp)]

theorem TDReport15.slice_base (r : TDReport15) {pos n : ℕ} (h : pos + n ≤ tdReport10ByteLen) :
    slice r.bytes pos n = slice r.toTDReport10.bytes pos n := by
  rw [bytes, List.flatten_cons, slice_left (by simpa using h)]

theorem TDReport15.slice_teeTcbSvn2 (r : TDReport15) :
    slice r.bytes 584 16 = r.teeTcbSvn2.toList := by
  rw [bytes, List.flatten_cons, slice_right (by simp [tdReport10ByteLen]), List.flatten_cons,
    slice_left (by simp [tdReport10ByteLen])]
  simp only [TDReport10.length_bytes, tdReport10ByteLen, Nat.reduceSub]
  rw [slice_all (by simp)]

theorem TDReport15Ex.slice_base (r : TDReport15Ex) {pos n : ℕ} (h : pos + n ≤ tdReport15ByteLen) :
    slice r.bytes pos n = slice r.toTDReport15.bytes pos n := by
  rw [bytes, List.flatten_cons, slice_left (by simpa using h)]

/-! ## Which report the accessors read -/

/-- The accessors for TDX read the report `r`. -/
structure Quote.GettersRead (q : Quote) (r : TDReport10) : Prop where
  teeTcbSvn : q.getTeeTcbSvn = r.teeTcbSvn
  mrSignerSeam : q.getMrSignerSeam = r.mrSignerSeam
  seamAttributes : q.getSeamAttributes = r.seamAttributes

theorem gettersRead_version4 {q : Quote} (h : q.header.version = 4) :
    q.GettersRead q.tdReport10 := by
  constructor <;>
    simp [Quote.getTeeTcbSvn, Quote.getMrSignerSeam, Quote.getSeamAttributes, h, quoteVersion4]

theorem gettersRead_td10 {q : Quote} (h : q.header.version = 5) (hb : q.body.bodyType = 2) :
    q.GettersRead q.tdReport10 := by
  constructor <;>
    simp [Quote.getTeeTcbSvn, Quote.getMrSignerSeam, Quote.getSeamAttributes, h, hb,
      quoteVersion4, bodyTdReport10Type]

theorem gettersRead_td15 {q : Quote} (h : q.header.version = 5) (hb : q.body.bodyType = 3) :
    q.GettersRead q.tdReport15.toTDReport10 := by
  constructor <;>
    simp [Quote.getTeeTcbSvn, Quote.getMrSignerSeam, Quote.getSeamAttributes, h, hb,
      quoteVersion4, bodyTdReport10Type, bodyTdReport15Type]

theorem gettersRead_td15Ex {q : Quote} (h : q.header.version = 5) (hb : q.body.bodyType = 4) :
    q.GettersRead q.tdReport15Ex.toTDReport10 := by
  constructor <;>
    simp [Quote.getTeeTcbSvn, Quote.getMrSignerSeam, Quote.getSeamAttributes, h, hb,
      quoteVersion4, bodyTdReport10Type, bodyTdReport15Type]

/-! ## The values the verifier reads -/

/-- Where the report begins. -/
def reportOffset (version : UInt16) : ℕ :=
  headerByteLen + if version = 5 then bodyByteSize else 0

/-- Each value that the verifier reads from the object `q` is the slice of `sd`
    at its offset. -/
structure ReadFrom (sd : Bytes) (q : Quote) : Prop where
  header : slice sd 0 headerByteLen = q.header.bytes
  version : leNat (slice sd 0 2) = q.header.version.toNat
  teeType : leNat (slice sd 4 4) = q.header.teeType.toNat
  body : q.header.version = 5 → slice sd headerByteLen bodyByteSize = q.body.bytes
  bodyType : q.header.version = 5 → leNat (slice sd headerByteLen 2) = q.body.bodyType.toNat
  enclaveReport : q.header.teeType = teeTypeSgx →
    slice sd (reportOffset q.header.version) enclaveReportByteLen = q.enclaveReport.bytes
  tdReport10 : q.header.teeType = teeTypeTdx →
    q.header.version = 4 ∨ q.body.bodyType = bodyTdReport10Type →
    slice sd (reportOffset q.header.version) tdReport10ByteLen = q.tdReport10.bytes
  tdReport15 : q.body.bodyType = bodyTdReport15Type →
    slice sd (reportOffset q.header.version) tdReport15ByteLen = q.tdReport15.bytes
  tdReport15Ex : q.body.bodyType = bodyTdReport15ExType →
    slice sd (reportOffset q.header.version) tdReport15ExByteLen = q.tdReport15Ex.bytes
  teeTcbSvn : q.header.teeType = teeTypeTdx →
    slice sd (reportOffset q.header.version) 16 = q.getTeeTcbSvn.toList
  mrSignerSeam : q.header.teeType = teeTypeTdx →
    slice sd (reportOffset q.header.version + 64) 48 = q.getMrSignerSeam.toList
  seamAttributes : q.header.teeType = teeTypeTdx →
    slice sd (reportOffset q.header.version + 112) 8 = q.getSeamAttributes.toList
  teeTcbSvn2 : q.body.bodyType = bodyTdReport15Type ∨ q.body.bodyType = bodyTdReport15ExType →
    slice sd (reportOffset q.header.version + 584) 16 = q.getTeeTcbSvn2.toList

/-- Two objects agree on every value that the verifier reads from the header, the
    body descriptor and the reports. -/
structure SameSignedValues (q1 q2 : Quote) : Prop where
  header : q1.header = q2.header
  body : q1.body = q2.body
  enclaveReport : q1.enclaveReport = q2.enclaveReport
  tdReport10 : q1.tdReport10 = q2.tdReport10
  tdReport15 : q1.tdReport15 = q2.tdReport15
  tdReport15Ex : q1.tdReport15Ex = q2.tdReport15Ex
  teeTcbSvn : q1.getTeeTcbSvn = q2.getTeeTcbSvn
  teeTcbSvn2 : q1.getTeeTcbSvn2 = q2.getTeeTcbSvn2
  mrSignerSeam : q1.getMrSignerSeam = q2.getMrSignerSeam
  seamAttributes : q1.getSeamAttributes = q2.getSeamAttributes

/-- The accessors look at the members only. -/
theorem SameSignedValues.of_members {q1 q2 : Quote} (hh : q1.header = q2.header)
    (hb : q1.body = q2.body) (he : q1.enclaveReport = q2.enclaveReport)
    (h10 : q1.tdReport10 = q2.tdReport10) (h15 : q1.tdReport15 = q2.tdReport15)
    (h15Ex : q1.tdReport15Ex = q2.tdReport15Ex) : SameSignedValues q1 q2 := by
  cases q1
  cases q2
  simp only at hh hb he h10 h15 h15Ex
  subst hh hb he h10 h15 h15Ex
  constructor <;> rfl

namespace QuoteLayout

variable (l : QuoteLayout)

theorem length_descriptor : (l.header.bytes ++ l.bodyBytes).length = reportOffset l.header.version := by
  rw [List.length_append, Header.length_bytes, reportOffset, bodyBytes]
  split <;> simp [bodyByteSize]

/-- A slice of the report is a slice of the signed data. -/
theorem slice_report (pos n : ℕ) :
    slice l.signedBytes (reportOffset l.header.version + pos) n = slice l.report.bytes pos n := by
  rw [signedBytes, slice_right (by rw [length_descriptor]; omega), length_descriptor,
    Nat.add_sub_cancel_left]

/-- A slice of the header is a slice of the signed data. -/
theorem slice_header {pos n : ℕ} (h : pos + n ≤ headerByteLen) :
    slice l.signedBytes pos n = slice l.header.bytes pos n := by
  rw [signedBytes, List.append_assoc, slice_left (by rw [Header.length_bytes]; exact h)]

/-- A slice of the body descriptor is a slice of the signed data. -/
theorem slice_body (h5 : l.header.version = 5) (pos n : ℕ) (h : pos + n ≤ bodyByteSize) :
    slice l.signedBytes (headerByteLen + pos) n = slice l.report.body.bytes pos n := by
  have hbody : l.bodyBytes = l.report.body.bytes := by
    rw [bodyBytes, if_pos h5, body_bytes]
  rw [signedBytes, List.append_assoc, slice_right (by rw [Header.length_bytes]; omega), hbody,
    slice_left (by simpa using h), Header.length_bytes, Nat.add_sub_cancel_left]

theorem quote_body_of_eq (h5 : l.header.version = 5) : l.quote.body = l.report.body := by
  simp only [quote, locals, if_pos h5]
  cases l.report <;> rfl

theorem quote_body_of_ne (h5 : l.header.version ≠ 5) : l.quote.body = .zero := by
  simp only [quote, locals, if_neg h5]
  cases l.report <;> rfl

/-- Which report the object holds, by the fields that the accessors look at. -/
theorem report_cases :
    (∃ r, l.report = .sgx r ∧ l.header.teeType = teeTypeSgx ∧ l.quote.enclaveReport = r ∧
      (l.quote.body.bodyType = 1 ∨ l.quote.body.bodyType = 0)) ∨
    (∃ r, l.report = .td10 r ∧ l.header.teeType = teeTypeTdx ∧ l.quote.tdReport10 = r ∧
      (l.header.version = 4 ∧ l.quote.body.bodyType = 0 ∨
        l.header.version = 5 ∧ l.quote.body.bodyType = 2)) ∨
    (∃ r, l.report = .td15 r ∧ l.header.teeType = teeTypeTdx ∧ l.quote.tdReport15 = r ∧
      l.header.version = 5 ∧ l.quote.body.bodyType = 3) ∨
    (∃ r, l.report = .td15Ex r ∧ l.header.teeType = teeTypeTdx ∧ l.quote.tdReport15Ex = r ∧
      l.header.version = 5 ∧ l.quote.body.bodyType = 4) := by
  have htee := l.teeType_eq
  have hallowed := l.report_allowed
  cases hr : l.report with
  | sgx r =>
    rw [hr] at htee
    refine Or.inl ⟨r, rfl, htee, by simp only [quote, locals, hr]; rfl, ?_⟩
    by_cases h5 : l.header.version = 5
    · exact Or.inl (by rw [l.quote_body_of_eq h5, hr]; rfl)
    · exact Or.inr (by rw [l.quote_body_of_ne h5]; rfl)
  | td10 r =>
    rw [hr] at htee hallowed
    refine Or.inr (Or.inl ⟨r, rfl, htee, by simp only [quote, locals, hr]; rfl, ?_⟩)
    rcases hallowed with h4 | h5
    · have h5 : l.header.version ≠ 5 := by rw [h4]; decide
      exact Or.inl ⟨h4, by rw [l.quote_body_of_ne h5]; rfl⟩
    · exact Or.inr ⟨h5, by rw [l.quote_body_of_eq h5, hr]; rfl⟩
  | td15 r =>
    rw [hr] at htee hallowed
    exact Or.inr (Or.inr (Or.inl ⟨r, rfl, htee, by simp only [quote, locals, hr]; rfl, hallowed,
      by rw [l.quote_body_of_eq hallowed, hr]; rfl⟩))
  | td15Ex r =>
    rw [hr] at htee hallowed
    exact Or.inr (Or.inr (Or.inr ⟨r, rfl, htee, by simp only [quote, locals, hr]; rfl, hallowed,
      by rw [l.quote_body_of_eq hallowed, hr]; rfl⟩))

/-- The part that all TD reports have, with the accessors that read it. -/
theorem exists_base (h : l.header.teeType = teeTypeTdx) :
    ∃ base : TDReport10, l.quote.GettersRead base ∧
      ∀ pos n, pos + n ≤ tdReport10ByteLen →
        slice l.report.bytes pos n = slice base.bytes pos n := by
  rcases l.report_cases with ⟨r, hr, ht, hq, -⟩ | ⟨r, hr, -, hq, hv⟩ | ⟨r, hr, -, hq, hv, hb⟩ |
    ⟨r, hr, -, hq, hv, hb⟩
  · rw [h] at ht
    exact absurd ht (by decide)
  · refine ⟨r, ?_, fun pos n _ => by rw [hr]; rfl⟩
    rcases hv with ⟨hv, -⟩ | ⟨hv, hb⟩
    · exact hq ▸ gettersRead_version4 (show l.quote.header.version = 4 from hv)
    · exact hq ▸ gettersRead_td10 (show l.quote.header.version = 5 from hv) hb
  · refine ⟨r.toTDReport10, ?_, fun pos n hpos => by rw [hr]; exact r.slice_base hpos⟩
    exact hq ▸ gettersRead_td15 (show l.quote.header.version = 5 from hv) hb
  · refine ⟨r.toTDReport10, ?_, fun pos n hpos => ?_⟩
    · exact hq ▸ gettersRead_td15Ex (show l.quote.header.version = 5 from hv) hb
    · rw [hr]
      have h1 : tdReport10ByteLen ≤ tdReport15ByteLen := by decide
      exact (r.slice_base (hpos.trans h1)).trans (r.toTDReport15.slice_base hpos)

/-- The object of a layout reads its signed values from the signed data. -/
theorem readFrom : ReadFrom l.signedBytes l.quote where
  header := by
    rw [l.slice_header (by simp), slice_all (Header.length_bytes _)]
    rfl
  version := by
    rw [l.slice_header (by decide)]
    exact l.header.slice_version
  teeType := by
    rw [l.slice_header (by decide)]
    exact l.header.slice_teeType
  body h5 := by
    have h := l.slice_body h5 0 bodyByteSize (by simp)
    rw [Nat.add_zero] at h
    rw [h, slice_all (Body.length_bytes _), l.quote_body_of_eq h5]
  bodyType h5 := by
    have hb := l.report.body.bodyType.toNat_lt
    have h := l.slice_body h5 0 2 (by decide)
    rw [Nat.add_zero] at h
    rw [h, l.quote_body_of_eq h5, Body.bytes, List.flatten_cons, slice_left (by simp),
      slice_all (by simp), leNat_leBytes_of_lt (by omega)]
  enclaveReport h := by
    rcases l.report_cases with ⟨r, hr, -, hq, -⟩ | ⟨r, -, ht, -⟩ | ⟨r, -, ht, -⟩ | ⟨r, -, ht, -⟩
    · rw [hq, ← Nat.add_zero (reportOffset _)]
      refine (l.slice_report 0 enclaveReportByteLen).trans ?_
      rw [hr]
      exact slice_all r.length_bytes
    all_goals
      rw [show l.quote.header.teeType = l.header.teeType from rfl, ht] at h
      exact absurd h (by decide)
  tdReport10 h hv := by
    rcases l.report_cases with ⟨r, hr, ht, -⟩ | ⟨r, hr, -, hq, -⟩ | ⟨r, -, -, -, h5, hb⟩ |
      ⟨r, -, -, -, h5, hb⟩
    · rw [show l.quote.header.teeType = l.header.teeType from rfl, ht] at h
      exact absurd h (by decide)
    · rw [hq, ← Nat.add_zero (reportOffset _)]
      refine (l.slice_report 0 tdReport10ByteLen).trans ?_
      rw [hr]
      exact slice_all r.length_bytes
    all_goals
      rw [show l.quote.header.version = l.header.version from rfl, h5, hb] at hv
      exact absurd hv (by decide)
  tdReport15 hb := by
    rcases l.report_cases with ⟨r, -, -, -, h⟩ | ⟨r, -, -, -, h⟩ | ⟨r, hr, -, hq, -, -⟩ |
      ⟨r, -, -, -, -, h⟩
    · rw [hb] at h
      exact absurd h (by decide)
    · rw [hb] at h
      exact absurd (h.imp And.right And.right) (by decide)
    · rw [hq, ← Nat.add_zero (reportOffset _)]
      refine (l.slice_report 0 tdReport15ByteLen).trans ?_
      rw [hr]
      exact slice_all r.length_bytes
    · rw [hb] at h
      exact absurd h (by decide)
  tdReport15Ex hb := by
    rcases l.report_cases with ⟨r, -, -, -, h⟩ | ⟨r, -, -, -, h⟩ | ⟨r, -, -, -, -, h⟩ |
      ⟨r, hr, -, hq, -, -⟩
    · rw [hb] at h
      exact absurd h (by decide)
    · rw [hb] at h
      exact absurd (h.imp And.right And.right) (by decide)
    · rw [hb] at h
      exact absurd h (by decide)
    · rw [hq, ← Nat.add_zero (reportOffset _)]
      refine (l.slice_report 0 tdReport15ExByteLen).trans ?_
      rw [hr]
      exact slice_all r.length_bytes
  teeTcbSvn h := by
    obtain ⟨base, hget, hslice⟩ := l.exists_base h
    have hs := l.slice_report 0 16
    rw [Nat.add_zero] at hs
    exact hs.trans ((hslice 0 16 (by decide)).trans (base.slice_teeTcbSvn.trans
      (congrArg _ hget.teeTcbSvn.symm)))
  mrSignerSeam h := by
    obtain ⟨base, hget, hslice⟩ := l.exists_base h
    exact (l.slice_report 64 48).trans ((hslice 64 48 (by decide)).trans
      (base.slice_mrSignerSeam.trans (congrArg _ hget.mrSignerSeam.symm)))
  seamAttributes h := by
    obtain ⟨base, hget, hslice⟩ := l.exists_base h
    exact (l.slice_report 112 8).trans ((hslice 112 8 (by decide)).trans
      (base.slice_seamAttributes.trans (congrArg _ hget.seamAttributes.symm)))
  teeTcbSvn2 hb := by
    refine (l.slice_report 584 16).trans ?_
    rcases l.report_cases with ⟨r, -, -, -, h⟩ | ⟨r, -, -, -, h⟩ | ⟨r, hr, -, hq, -, h⟩ |
      ⟨r, hr, -, hq, -, h⟩
    · rcases hb with hb | hb <;> rw [hb] at h <;> exact absurd h (by decide)
    · rcases hb with hb | hb <;> rw [hb] at h <;>
        exact absurd (h.imp And.right And.right) (by decide)
    · rw [Quote.getTeeTcbSvn2, if_pos (show _ = bodyTdReport15Type from h), hq, hr]
      exact r.slice_teeTcbSvn2
    · rw [Quote.getTeeTcbSvn2, if_neg (by rw [h]; decide), hq, hr]
      exact (r.slice_base (by decide)).trans r.toTDReport15.slice_teeTcbSvn2

end QuoteLayout

/-! ## The signed data determines the signed values -/

/-- The kinds of reports have different sizes. -/
theorem Report.bytes_injective {r1 r2 : Report} (h : r1.bytes = r2.bytes) : r1 = r2 := by
  have hlen := congrArg List.length h
  rw [Report.length_bytes, Report.length_bytes] at hlen
  cases r1 <;> cases r2
  case sgx.sgx => exact congrArg _ (EnclaveReport.insert_reads.injective h)
  case td10.td10 => exact congrArg _ (TDReport10.insert_reads.injective h)
  case td15.td15 => exact congrArg _ (TDReport15.insert_reads.injective h)
  case td15Ex.td15Ex => exact congrArg _ (TDReport15Ex.insert_reads.injective h)
  all_goals exact absurd hlen (by simp [Report.size])

theorem QuoteLayout.signedBytes_injective {l1 l2 : QuoteLayout}
    (h : l1.signedBytes = l2.signedBytes) : l1.header = l2.header ∧ l1.report = l2.report := by
  have hheader : l1.header = l2.header := by
    have h1 := l1.readFrom.header
    rw [h, l2.readFrom.header] at h1
    exact (Header.insert_reads.injective h1).symm
  refine ⟨hheader, Report.bytes_injective ?_⟩
  refine (List.append_inj h ?_).2
  rw [l1.length_descriptor, l2.length_descriptor, hheader]

theorem QuoteLayout.sameSignedValues {l1 l2 : QuoteLayout}
    (h : l1.signedBytes = l2.signedBytes) : SameSignedValues l1.quote l2.quote := by
  obtain ⟨hheader, hreport⟩ := signedBytes_injective h
  have hlocals : l1.locals = l2.locals := by
    rw [locals, locals, hheader, hreport]
  exact .of_members hheader (by rw [quote, quote, hlocals]) (by rw [quote, quote, hlocals])
    (by rw [quote, quote, hlocals]) (by rw [quote, quote, hlocals]) (by rw [quote, quote, hlocals])

/-- **The signature covers what the verifier reads.** The signed data of an
    accepted quote is its prefix up to the authentication data size, every value
    the verifier reads is a slice of it, and any other accepted quote with the
    same signed data has the same values. -/
theorem signedData_covers {raw : Bytes} (hsmall : raw.length < 2 ^ 32) {q q' : Quote}
    (h : Accepts raw q q') :
    (∃ l : QuoteLayout, q'.signedData = l.header.bytes ++ l.bodyBytes ++ l.report.bytes ∧
      raw = q'.signedData ++ leBytes 4 l.authBytes.length ++ l.authBytes ++ l.trailing ∧
      q'.authDataSize.toNat = l.authBytes.length) ∧
    ReadFrom q'.signedData q' ∧
    ∀ raw2 q2 q2', raw2.length < 2 ^ 32 → Accepts raw2 q2 q2' →
      q2'.signedData = q'.signedData → SameSignedValues q2' q' := by
  obtain ⟨l, rfl, rfl⟩ := h.exists_layout hsmall
  refine ⟨⟨l, rfl, rfl, ?_⟩, l.readFrom, fun raw2 q2 q2' hsmall2 h2 heq => ?_⟩
  · have hlt : l.authBytes.length < 2 ^ 32 := l.authData_lt
    rw [show l.quote.authDataSize = UInt32.ofNat l.authBytes.length from rfl, UInt32.toNat_ofNat']
    omega
  · obtain ⟨l2, rfl, rfl⟩ := h2.exists_layout hsmall2
    exact QuoteLayout.sameSignedValues heq

/-- The smallest quote is signed over its first 432 bytes. -/
theorem signedData_covers_smallest :
    ReadFrom QuoteLayout.smallest.quote.signedData QuoteLayout.smallest.quote :=
  (signedData_covers (by rw [QuoteLayout.smallest_length]; decide)
    (accepts_layout _ (by rw [QuoteLayout.smallest_length]; decide) (Quote.initial 0))).2.1

/-! ## Reports and their bytes -/

/-- `insert` consumes a block of `k` bytes, and `rawBlob` is its inverse. -/
structure RoundTrip {T : Type} {k : ℕ} (insert : ByteReader T) (rawBlob : T → ByteArr k) :
    Prop where
  rawBlob_insert : ∀ block : ByteArr k,
    ∃ v, insert block.toList 0 k = .ok (v, k) ∧ rawBlob v = block
  insert_rawBlob : ∀ v, insert (rawBlob v).toList 0 k = .ok (v, k)

theorem RoundTrip.of_reads {T : Type} {k : ℕ} {insert : ByteReader T} {enc : T → Bytes}
    {rawBlob : T → ByteArr k} (h : Reads insert enc fun _ _ => True) (ht : Total insert k)
    (hk : k < 2 ^ 32) (hblob : ∀ v, (rawBlob v).toList = enc v) : RoundTrip insert rawBlob := by
  have henc : ∀ v, (enc v).length = k := fun v => by
    rw [← hblob, List.Vector.toList_length]
  have hinsert : ∀ v, insert (rawBlob v).toList 0 k = .ok (v, k) := by
    intro v
    have hlen : (rawBlob v).toList.length = k := (rawBlob v).toList_length
    have hread : (rawBlob v).toList.drop 0 = enc v ++ [] := by
      rw [List.drop_zero, hblob, List.append_nil]
    have hrun := h.run_eq (Nat.zero_le _) (by rw [hlen]; exact hk) hread trivial
    rw [hlen, henc, Nat.zero_add] at hrun
    exact hrun
  refine ⟨fun block => ?_, hinsert⟩
  obtain ⟨v, hv⟩ := h.surjective ht hk henc block.toList_length
  have hblock : rawBlob v = block := List.Vector.eq _ _ (by rw [hblob, hv])
  exact ⟨v, hblock ▸ hinsert v, hblock⟩

/-- Where the QE report is in an accepted quote. -/
def Quote.qeReportOffset (q : Quote) : ℕ :=
  q.signedData.length + authDataSizeByteLen + ecdsaSignatureByteLen + ecdsaPubkeyByteLen +
    if q.header.version = quoteVersion3 then 0
    else certificationDataTypeByteLen + certificationDataSizeByteLen

/-- The bytes that the QE report signature is checked over are those of the quote. -/
theorem Accepts.qeReport_slice {raw : Bytes} (hsmall : raw.length < 2 ^ 32) {q q' : Quote}
    (h : Accepts raw q q') :
    slice raw q'.qeReportOffset qeReportByteLen = q'.qeReport.rawBlob.toList := by
  obtain ⟨l, rfl, rfl⟩ := h.exists_layout hsmall
  obtain ⟨tail, htail⟩ : ∃ tail, l.qe.bytes = l.qe.qeReport.bytes ++ tail :=
    ⟨_, by simp only [QeData.bytes, List.append_assoc]; rfl⟩
  obtain ⟨pre, post, hbytes, hpre⟩ : ∃ pre post, l.bytes = pre ++ (l.qe.qeReport.bytes ++ post) ∧
      pre.length = l.quote.qeReportOffset := by
    by_cases h3 : l.header.version = 3
    · refine ⟨l.signedBytes ++ leBytes 4 l.authBytes.length ++ l.quoteSignature.toList ++
        l.attestKey.toList, tail ++ (l.slack ++ l.trailing), ?_, ?_⟩
      · simp only [QuoteLayout.bytes, QuoteLayout.authBytes, authDataBytes, if_pos h3, htail,
          List.append_assoc]
      · simp only [List.length_append, length_leBytes, List.Vector.toList_length]
        rw [Quote.qeReportOffset, if_pos (show l.quote.header.version = quoteVersion3 from h3)]
        rfl
    · refine ⟨l.signedBytes ++ leBytes 4 l.authBytes.length ++ l.quoteSignature.toList ++
        l.attestKey.toList ++ leBytes 2 6 ++ leBytes 4 l.qe.bytes.length,
        tail ++ (l.slack ++ l.trailing), ?_, ?_⟩
      · simp only [QuoteLayout.bytes, QuoteLayout.authBytes, authDataBytes, if_neg h3, htail,
          List.append_assoc]
      · simp only [List.length_append, length_leBytes, List.Vector.toList_length]
        rw [Quote.qeReportOffset, if_neg (show ¬ l.quote.header.version = quoteVersion3 from h3)]
        rfl
  rw [hbytes, slice_right (by omega), hpre, Nat.sub_self, slice_left (by simp [qeReportByteLen]),
    slice_all (by simp [qeReportByteLen]), EnclaveReport.rawBlob_eq]
  rfl

/-- `insert` and `rawBlob` undo each other for all four reports, and the QE report
    of an accepted quote gives back the bytes it was read from. -/
theorem reports_roundTrip :
    RoundTrip EnclaveReport.insert EnclaveReport.rawBlob ∧
    RoundTrip TDReport10.insert TDReport10.rawBlob ∧
    RoundTrip TDReport15.insert TDReport15.rawBlob ∧
    RoundTrip TDReport15Ex.insert TDReport15Ex.rawBlob ∧
    ∀ raw q q', raw.length < 2 ^ 32 → Accepts raw q q' →
      slice raw q'.qeReportOffset qeReportByteLen = q'.qeReport.rawBlob.toList :=
  ⟨.of_reads EnclaveReport.insert_reads EnclaveReport.insert_total (by decide)
      EnclaveReport.rawBlob_eq,
    .of_reads TDReport10.insert_reads TDReport10.insert_total (by decide) TDReport10.rawBlob_eq,
    .of_reads TDReport15.insert_reads TDReport15.insert_total (by decide) TDReport15.rawBlob_eq,
    .of_reads TDReport15Ex.insert_reads TDReport15Ex.insert_total (by decide)
      TDReport15Ex.rawBlob_eq,
    fun _ _ _ hsmall h => h.qeReport_slice hsmall⟩

/-- The QE report of the smallest quote is at offset 564. -/
theorem reports_roundTrip_smallest :
    slice QuoteLayout.smallest.bytes 564 qeReportByteLen =
      QuoteLayout.smallest.quote.qeReport.rawBlob.toList := by
  have hsmall : QuoteLayout.smallest.bytes.length < 2 ^ 32 := by
    rw [QuoteLayout.smallest_length]
    decide
  have hoffset : QuoteLayout.smallest.quote.qeReportOffset = 564 := by decide +kernel
  rw [← hoffset]
  exact reports_roundTrip.2.2.2.2 _ (Quote.initial 0) _ hsmall (accepts_layout _ hsmall _)

end DcapQvl
