import DcapQvl.Quote.SignedData

/-!
# The object after a rejected quote

`Quote::parse` decodes into local variables, but assigns `header` as soon as it
is read and `signedData` with the report, in front of later failure exits. The
other members are assigned after the last of them.

Results:
* `parse_rejected`: what a run that rejects a quote leaves of the object.
* `unchanged_iff`: the object is left as it was exactly when the header is not
  reached, or the header and the signed prefix are those of the object.
-/

namespace DcapQvl

open Lib

/-! ## Steps that keep the object -/

namespace ParseStep

variable {α β : Type}

/-- The step assigns nothing. -/
def ReadOnly (m : ParseStep α) : Prop := ∀ raw q pos, (m raw q pos).1 = q

/-- The step does not fail. -/
def Succeeds (m : ParseStep α) : Prop := ∀ raw q pos, ∃ r, (m raw q pos).2 = .ok r

/-- The step has assigned nothing when it fails. -/
def KeepsOnFailure (m : ParseStep α) : Prop :=
  ∀ raw q pos, (m raw q pos).1 = q ∨ ∃ r, (m raw q pos).2 = .ok r

theorem readOnly_read (r : ByteReader α) : ReadOnly (read r) := fun _ _ _ => rfl

theorem readOnly_readFrom (buf : Bytes) (r : ByteReader α) : ReadOnly (readFrom buf r) :=
  fun _ _ _ => rfl

theorem readOnly_pure (a : α) : ReadOnly (pure a : ParseStep α) := fun _ _ _ => rfl

theorem succeeds_modify (f : Quote → Quote) : Succeeds (modify f) := fun _ _ _ => ⟨_, rfl⟩

theorem succeeds_pure (a : α) : Succeeds (pure a : ParseStep α) := fun _ _ _ => ⟨_, rfl⟩

theorem Succeeds.keeps {m : ParseStep α} (h : Succeeds m) : KeepsOnFailure m :=
  fun raw q pos => Or.inr (h raw q pos)

theorem Succeeds.bind {m : ParseStep α} {f : α → ParseStep β} (hm : Succeeds m)
    (hf : ∀ a, Succeeds (f a)) : Succeeds (m >>= f) := by
  intro raw q pos
  obtain ⟨⟨a, pos'⟩, h⟩ := hm raw q pos
  rw [bind_ok (Prod.ext rfl h)]
  exact hf a raw _ pos'

theorem ReadOnly.bind_keeps {m : ParseStep α} {f : α → ParseStep β} (hm : ReadOnly m)
    (hf : ∀ a, KeepsOnFailure (f a)) : KeepsOnFailure (m >>= f) := by
  intro raw q pos
  have hq := hm raw q pos
  rcases h : m raw q pos with ⟨q', e | ⟨a, pos'⟩⟩
  · rw [h] at hq
    rw [bind_error h]
    exact Or.inl hq
  · rw [h] at hq
    rw [bind_ok h, show q' = q from hq]
    exact hf a raw q pos'

theorem KeepsOnFailure.bind_succeeds {m : ParseStep α} {f : α → ParseStep β}
    (hm : KeepsOnFailure m) (hf : ∀ a, Succeeds (f a)) : KeepsOnFailure (m >>= f) := by
  intro raw q pos
  have hq := hm raw q pos
  rcases h : m raw q pos with ⟨q', e | ⟨a, pos'⟩⟩
  · rw [h] at hq
    rw [bind_error h]
    rcases hq with hq | ⟨r, hr⟩
    · exact Or.inl hq
    · cases hr
  · rw [bind_ok h]
    exact Or.inr (hf a raw q' pos')

/-- What follows a step and assigns nothing does not change what the step leaves. -/
theorem bind_fst {m : ParseStep α} {f : α → ParseStep β} (hf : ∀ a, ReadOnly (f a)) (raw : Bytes)
    (q : Quote) (pos : ℕ) : ((m >>= f) raw q pos).1 = (m raw q pos).1 := by
  rcases h : m raw q pos with ⟨q', e | ⟨a, pos'⟩⟩
  · rw [bind_error h]
  · rw [bind_ok h]
    exact hf a raw q' pos'

end ParseStep

open ParseStep

theorem parseAuthDataV3_keeps (n : UInt32) : KeepsOnFailure (parseAuthDataV3 n) :=
  (readOnly_read _).bind_keeps fun _ =>
    ((succeeds_modify _).bind fun _ => succeeds_pure _).keeps

theorem parseAuthDataV4_keeps (n : UInt32) : KeepsOnFailure (parseAuthDataV4 n) :=
  (readOnly_read _).bind_keeps fun _ => (readOnly_readFrom _ _).bind_keeps fun _ =>
    ((succeeds_modify _).bind fun _ => succeeds_pure _).keeps

theorem parseAuthData_keeps (version : UInt16) (n : UInt32) :
    KeepsOnFailure (parseAuthData version n) := by
  unfold parseAuthData
  split
  · exact (parseAuthDataV3_keeps n).bind_succeeds fun _ => succeeds_pure _
  · split
    · exact (parseAuthDataV4_keeps n).bind_succeeds fun _ => succeeds_pure _
    · exact (succeeds_pure _).keeps

/-! ## The report -/

/-- `copyAndAdvance` finds `n` bytes from `pos` on: the remaining distance, converted to
    `unsigned`, is not below `n`. -/
def Available (raw : Bytes) (pos n : ℕ) : Prop := n ≤ toUnsigned ((raw.length : ℤ) - pos)

instance (raw : Bytes) (pos n : ℕ) : Decidable (Available raw pos n) :=
  inferInstanceAs (Decidable (_ ≤ _))

theorem Available.le_length {raw : Bytes} {pos n : ℕ} (h : Available raw pos n)
    (hpos : pos ≤ raw.length) : pos + n ≤ raw.length := by
  unfold Available toUnsigned at h
  omega

/-- `copyAndAdvance` of a structure of `k` bytes. -/
theorem copyAndAdvance_run {T : Type} {insert : ByteReader T} {enc : T → Bytes} {k : ℕ}
    (hr : Reads insert enc fun _ _ => True) (ht : Total insert k)
    (henc : ∀ v, (enc v).length = k) {raw : Bytes} {pos : ℕ} (hpos : pos ≤ raw.length)
    (hsmall : pos + k < 2 ^ 32) :
    (Available raw pos k ∧ ∃ v, enc v = slice raw pos k ∧
      copyAndAdvance insert k raw pos raw.length = .ok (v, pos + k)) ∨
    (¬ Available raw pos k ∧ copyAndAdvance insert k raw pos raw.length = .error .rejected) := by
  rw [copyAndAdvance, Reader.distance_bind]
  by_cases h : Available raw pos k
  · have hle := h.le_length hpos
    obtain ⟨v, he, hv⟩ := hr.run_total ht henc ⟨by omega, hle, hsmall⟩
    refine Or.inl ⟨h, v, ?_, ?_⟩
    · rw [he, slice, take_drop_eq_window]
    · unfold Available at h
      rw [if_neg (by omega), Reader.within, if_pos hle, hv]
  · refine Or.inr ⟨h, ?_⟩
    unfold Available at h
    rw [if_pos (by omega)]
    rfl

/-- The length of the report of a body type. -/
def bodyReportLen (bodyType : UInt16) : Option ℕ :=
  if bodyType = bodySgxEnclaveReportType then some enclaveReportByteLen
  else if bodyType = bodyTdReport10Type then some tdReport10ByteLen
  else if bodyType = bodyTdReport15Type then some tdReport15ByteLen
  else if bodyType = bodyTdReport15ExType then some tdReport15ExByteLen
  else none

/-- The length of the report of a TEE type in versions up to 4. -/
def teeReportLen (teeType : UInt32) : Option ℕ :=
  if teeType = teeTypeSgx then some enclaveReportByteLen
  else if teeType = teeTypeTdx then some tdReport10ByteLen
  else none

/-- Where the report of a quote ends if `Quote::parse` reads one: the length of the
    prefix that it assigns to `signedData`. -/
def signedPrefix (raw : Bytes) : Option ℕ :=
  let version := leNat (slice raw 0 2)
  let teeType := UInt32.ofNat (leNat (slice raw 4 4))
  let bodyType := UInt16.ofNat (leNat (slice raw headerByteLen 2))
  let size := leNat (slice raw (headerByteLen + 2) 4)
  if version > 4 then
    (bodyReportLen bodyType).bind fun k =>
      if Available raw headerByteLen bodyByteSize ∧ size = k ∧
          Available raw (headerByteLen + bodyByteSize) k then
        some (headerByteLen + bodyByteSize + k)
      else none
  else
    (teeReportLen teeType).bind fun k =>
      if Available raw headerByteLen k then some (headerByteLen + k) else none

/-- The object with `signedData` assigned the first `n` bytes, if at all. -/
def Quote.withSignedPrefix (q : Quote) (raw : Bytes) (n : Option ℕ) : Quote :=
  { q with signedData := n.elim q.signedData raw.take }

@[simp] theorem Quote.withSignedPrefix_none (q : Quote) (raw : Bytes) :
    q.withSignedPrefix raw none = q := rfl

@[simp] theorem Quote.withSignedPrefix_some (q : Quote) (raw : Bytes) (n : ℕ) :
    q.withSignedPrefix raw (some n) = { q with signedData := raw.take n } := rfl

theorem slice_slice (bs : Bytes) {pos n i k : ℕ} (h : i + k ≤ n) :
    slice (slice bs pos n) i k = slice bs (pos + i) k := by
  rw [slice, slice, slice, List.drop_take, List.take_take, List.drop_drop,
    Nat.min_eq_left (by omega)]

theorem Body.slice_bodyType (b : Body) : leNat (slice b.bytes 0 2) = b.bodyType.toNat := by
  have hb := b.bodyType.toNat_lt
  rw [bytes, List.flatten_cons, slice_left (by simp), slice_all (by simp),
    leNat_leBytes_of_lt (by omega)]

theorem Body.slice_size (b : Body) : leNat (slice b.bytes 2 4) = b.size.toNat := by
  have hb := b.size.toNat_lt
  rw [bytes, List.flatten_cons, slice_right (by simp), List.flatten_cons, slice_left (by simp),
    length_leBytes, slice_all (by simp), leNat_leBytes_of_lt (by omega)]

section Branches

variable {T : Type} {insert : ByteReader T} {enc : T → Bytes} {k : ℕ}
  (hr : Reads insert enc fun _ _ => True) (ht : Total insert k) (henc : ∀ v, (enc v).length = k)
  {raw : Bytes} (q : Quote) {pos : ℕ} (hpos : pos ≤ raw.length) (hsmall : pos + k < 2 ^ 32)

include hr ht henc hpos hsmall

/-- A report that is read stores the signed prefix up to its end. -/
theorem readReport_fst {β : Type} (g : T → β) :
    ((do
      let r ← ParseStep.read (copyAndAdvance insert k)
      assignSignedData (pos + k)
      pure (g r) : ParseStep β) raw q pos).1 =
      q.withSignedPrefix raw (if Available raw pos k then some (pos + k) else none) := by
  rcases copyAndAdvance_run hr ht henc hpos hsmall with ⟨h, v, -, hv⟩ | ⟨h, hv⟩
  · have hread : ParseStep.read (copyAndAdvance insert k) raw q pos = (q, .ok (v, pos + k)) :=
      congrArg (Prod.mk q) hv
    rw [bind_ok hread, bind_fst fun _ => readOnly_pure _, if_pos h,
      assignSignedData_eq q (h.le_length hpos), Quote.withSignedPrefix_some]
  · have hread : ParseStep.read (copyAndAdvance insert k) raw q pos = (q, .error .rejected) :=
      congrArg (Prod.mk q) hv
    rw [bind_error hread, if_neg h, Quote.withSignedPrefix_none]

theorem parseReport_fst (declared : UInt32) :
    (parseReport declared insert k (pos + k) raw q pos).1 =
      q.withSignedPrefix raw
        (if declared.toNat = k ∧ Available raw pos k then some (pos + k) else none) := by
  unfold parseReport
  by_cases hd : declared.toNat = k
  · rw [if_neg (not_not.mpr hd), readReport_fst hr ht henc q hpos hsmall]
    simp only [hd, true_and]
  · rw [if_pos hd, if_neg fun h => hd h.1]
    rfl

end Branches

theorem parseBodyAndReport_fst {raw : Bytes} (q : Quote) (hpos : headerByteLen ≤ raw.length)
    (hversion : leNat (slice raw 0 2) > 4) :
    (parseBodyAndReport raw q headerByteLen).1 = q.withSignedPrefix raw (signedPrefix raw) := by
  simp only [signedPrefix, if_pos hversion]
  unfold parseBodyAndReport
  rcases copyAndAdvance_run Body.insert_reads Body.insert_total Body.length_bytes hpos (by decide)
    with ⟨h, b, he, hb⟩ | ⟨h, hb⟩
  · have hread : ParseStep.read (copyAndAdvance Body.insert bodyByteSize) raw q headerByteLen =
        (q, .ok (b, headerByteLen + bodyByteSize)) := congrArg (Prod.mk q) hb
    have htype : leNat (slice raw headerByteLen 2) = b.bodyType.toNat := by
      rw [← b.slice_bodyType, he, slice_slice _ (by decide), Nat.add_zero]
    have hsize : leNat (slice raw (headerByteLen + 2) 4) = b.size.toNat := by
      rw [← b.slice_size, he, slice_slice _ (by decide)]
    have hle := h.le_length hpos
    rw [bind_ok hread, htype, hsize, UInt16.ofNat_toNat, bodyReportLen]
    simp only [h, true_and]
    split
    · rw [bind_fst fun _ => readOnly_pure _]
      exact parseReport_fst EnclaveReport.insert_reads EnclaveReport.insert_total
        EnclaveReport.length_bytes q hle (by decide) b.size
    · split
      · rw [bind_fst fun _ => readOnly_pure _]
        exact parseReport_fst TDReport10.insert_reads TDReport10.insert_total
          TDReport10.length_bytes q hle (by decide) b.size
      · split
        · rw [bind_fst fun _ => readOnly_pure _]
          exact parseReport_fst TDReport15.insert_reads TDReport15.insert_total
            TDReport15.length_bytes q hle (by decide) b.size
        · split
          · rw [bind_fst fun _ => readOnly_pure _]
            exact parseReport_fst TDReport15Ex.insert_reads TDReport15Ex.insert_total
              TDReport15Ex.length_bytes q hle (by decide) b.size
          · rfl
  · have hread : ParseStep.read (copyAndAdvance Body.insert bodyByteSize) raw q headerByteLen =
        (q, .error .rejected) := congrArg (Prod.mk q) hb
    rw [bind_error hread]
    simp only [h, false_and, if_false]
    cases bodyReportLen (UInt16.ofNat (leNat (slice raw headerByteLen 2))) <;> rfl

theorem parseReportOnly_fst {raw : Bytes} (q : Quote) (hpos : headerByteLen ≤ raw.length)
    (hversion : ¬ leNat (slice raw 0 2) > 4) {teeType : UInt32}
    (htee : leNat (slice raw 4 4) = teeType.toNat) :
    (parseReportOnly teeType raw q headerByteLen).1 =
      q.withSignedPrefix raw (signedPrefix raw) := by
  simp only [signedPrefix, if_neg hversion, htee, UInt32.ofNat_toNat, teeReportLen]
  unfold parseReportOnly
  split
  · exact readReport_fst EnclaveReport.insert_reads EnclaveReport.insert_total
      EnclaveReport.length_bytes q hpos (by decide) _
  · split
    · exact readReport_fst TDReport10.insert_reads TDReport10.insert_total
        TDReport10.length_bytes q hpos (by decide) _
    · rfl

/-- What the reading of the reports leaves of the object, whether it fails or not. -/
theorem parseReports_fst {raw : Bytes} {header : Header} (hh : header.bytes = slice raw 0 headerByteLen)
    (q : Quote) (hpos : headerByteLen ≤ raw.length) :
    (parseReports header raw q headerByteLen).1 = q.withSignedPrefix raw (signedPrefix raw) := by
  have hversion : leNat (slice raw 0 2) = header.version.toNat := by
    rw [← header.slice_version, hh, slice_slice _ (by decide)]
  have htee : leNat (slice raw 4 4) = header.teeType.toNat := by
    rw [← header.slice_teeType, hh, slice_slice _ (by decide), Nat.zero_add]
  have hgt : header.version > quoteVersion4 ↔ leNat (slice raw 0 2) > 4 := by
    rw [hversion]
    exact UInt16.lt_iff_toNat_lt
  unfold parseReports
  by_cases hv : header.version > quoteVersion4
  · rw [if_pos hv]
    exact parseBodyAndReport_fst q hpos (hgt.mp hv)
  · rw [if_neg hv]
    exact parseReportOnly_fst q hpos (fun h => hv (hgt.mpr h)) htee

/-! ## The object -/

/-- The steps of `Quote::parse` after the reports. -/
def Quote.parseAfterReports (header : Header) (reports : LocalReports) : ParseStep Unit := do
  let authDataSize ← ParseStep.read insertAuthDataSize
  let auth ← parseAuthData header.version authDataSize
  ParseStep.modify fun q => { q with
    body := reports.body
    enclaveReport := reports.enclaveReport
    tdReport10 := reports.tdReport10
    tdReport15 := reports.tdReport15
    tdReport15Ex := reports.tdReport15Ex
    authDataSize := authDataSize
    authDataV3 := auth.1
    authDataV4 := auth.2 }

theorem parseSteps_eq :
    Quote.parseSteps = (do
      let header ← ParseStep.read (copyAndAdvance Header.insert headerByteLen)
      ParseStep.modify fun q => { q with header := header }
      let reports ← parseReports header
      Quote.parseAfterReports header reports) := rfl

theorem parseAfterReports_keeps (header : Header) (reports : LocalReports) :
    KeepsOnFailure (Quote.parseAfterReports header reports) :=
  (readOnly_read _).bind_keeps fun _ =>
    (parseAuthData_keeps _ _).bind_succeeds fun _ => succeeds_modify _

/-- `Quote::parse` comes to the assignment of `header`. -/
def AssignsHeader (raw : Bytes) : Prop :=
  quoteMinByteLen ≤ raw.length ∧ Available raw 0 headerByteLen

/-- What a run that rejects a quote leaves: the header and the signed prefix are assigned
    as soon as they are read, and nothing else. -/
theorem parse_rejected {raw : Bytes} {q : Quote}
    (h : (Quote.parse raw q).2 = .error .rejected) :
    (¬ AssignsHeader raw ∧ (Quote.parse raw q).1 = q) ∨
    (AssignsHeader raw ∧ ∃ header : Header, header.bytes = raw.take headerByteLen ∧
      (Quote.parse raw q).1 =
        { q with header := header }.withSignedPrefix raw (signedPrefix raw)) := by
  unfold Quote.parse at h ⊢
  by_cases hmin : raw.length < quoteMinByteLen
  · rw [if_pos hmin]
    exact Or.inl ⟨fun ha => absurd ha.1 (by omega), rfl⟩
  rw [if_neg hmin] at h ⊢
  rw [parseSteps_eq] at h ⊢
  dsimp only at h ⊢
  rcases copyAndAdvance_run Header.insert_reads Header.insert_total Header.length_bytes
    (Nat.zero_le raw.length) (by decide) with ⟨ha, header, he, hb⟩ | ⟨ha, hb⟩
  · refine Or.inr ⟨⟨by omega, ha⟩, header, he, ?_⟩
    have hread : ParseStep.read (copyAndAdvance Header.insert headerByteLen) raw q 0 =
        (q, .ok (header, headerByteLen)) := by
      rw [ParseStep.read, hb, Nat.zero_add]
    rw [bind_ok hread, modify_bind] at h ⊢
    have hle : headerByteLen ≤ raw.length := by
      have := ha.le_length (Nat.zero_le _)
      omega
    have hreports := parseReports_fst he { q with header := header } hle
    rcases hp : parseReports header raw { q with header := header } headerByteLen with
      ⟨q₁, e | ⟨reports, pos⟩⟩
    · rw [bind_error hp]
      rw [hp] at hreports
      exact hreports
    · rw [bind_ok hp] at h ⊢
      rw [hp] at hreports
      rcases parseAfterReports_keeps header reports raw q₁ pos with hq | ⟨r, hr⟩
      · rw [hq]
        exact hreports
      · rw [hr] at h
        cases h
  · have hread : ParseStep.read (copyAndAdvance Header.insert headerByteLen) raw q 0 =
        (q, .error .rejected) := congrArg (Prod.mk q) hb
    rw [bind_error hread]
    exact Or.inl ⟨fun h' => ha h'.2, rfl⟩

/-- A rejected quote leaves the object as it was exactly when the header is not assigned,
    or what is assigned is what the object has. -/
theorem unchanged_iff {raw : Bytes} {q : Quote} (h : (Quote.parse raw q).2 = .error .rejected) :
    (Quote.parse raw q).1 = q ↔
      (AssignsHeader raw → raw.take headerByteLen = q.header.bytes ∧
        ∀ n ∈ signedPrefix raw, raw.take n = q.signedData) := by
  rcases parse_rejected h with ⟨ha, hq⟩ | ⟨ha, header, he, hq⟩
  · exact iff_of_true hq fun h' => absurd h' ha
  rw [hq, ← he]
  constructor
  · intro heq _
    have hheader : header = q.header := congrArg Quote.header heq
    refine ⟨by rw [hheader], fun n hn => ?_⟩
    rw [Option.mem_def.mp hn] at heq
    exact congrArg Quote.signedData heq
  · intro hsame
    obtain ⟨hbytes, hprefix⟩ := hsame ha
    rw [Header.insert_reads.injective hbytes]
    cases hn : signedPrefix raw with
    | none => rfl
    | some n =>
      rw [Quote.withSignedPrefix_some, hprefix n hn]

/-- A version 3 quote that declares no authentication data. -/
def withoutAuthData : Bytes := 3 :: List.replicate 1019 0

/-- The object is left as it was if it has the header and the report of the quote. -/
theorem unchanged_iff_withoutAuthData :
    (Quote.parse withoutAuthData (Quote.initial 0)).1 = Quote.initial 0 ↔
      (AssignsHeader withoutAuthData →
        withoutAuthData.take headerByteLen = (Quote.initial 0).header.bytes ∧
          ∀ n ∈ signedPrefix withoutAuthData,
            withoutAuthData.take n = (Quote.initial 0).signedData) :=
  unchanged_iff (by decide +kernel)

/-- A rejected quote changes the header and the signed data of a new object. -/
theorem withoutAuthData_changes :
    (Quote.parse withoutAuthData (Quote.initial 0)).2 = .error .rejected ∧
      (Quote.parse withoutAuthData (Quote.initial 0)).1.header.version = 3 ∧
      (Quote.parse withoutAuthData (Quote.initial 0)).1.signedData = withoutAuthData.take 432 ∧
      (Quote.parse withoutAuthData (Quote.initial 0)).1 ≠ Quote.initial 0 := by
  decide +kernel

end DcapQvl
