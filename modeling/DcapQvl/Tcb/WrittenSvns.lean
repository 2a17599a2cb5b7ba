import DcapQvl.Tcb.Selection
import DcapQvl.X509.SgxExtensions

/-!
# Written and stored SVNs

The integers that a TCB Info text and the SGX extension of a certificate write for
the SVNs, and what the parsers store for them. Component SVNs are cut to a byte and
the PCE SVN of a certificate to 32 bits, without a check.

Results:
* `TcbInfo.exists_written`, `PckCertificate.exists_written`: what is stored for the integers.
* `comparesAsWritten_iff`: the comparisons are those of the integers exactly when these
  are in range.
-/

namespace DcapQvl

open Lib

/-! ## What is written -/

/-- The integers for the SVNs of a platform. -/
structure WrittenPlatform where
  components : List ℤ
  pceSvn : ℤ
  deriving DecidableEq, Repr

/-- The integers for the SVNs of a TCB level. -/
structure WrittenLevel extends WrittenPlatform where
  tdxComponents : List ℤ
  deriving DecidableEq, Repr

/-- The integer that a JSON value writes. -/
def Json.integer? : Json → Option ℤ
  | .int n => some n
  | _ => none

/-- The integer that a member writes. -/
def Json.written (v : Json) (name : Bytes) : Option ℤ := (v.member? name).bind Json.integer?

/-- The SVNs in an array of components. -/
def writtenComponents (tcb : Json) (name : Bytes) : Option (List ℤ) := do
  let elems ← (← tcb.member? name).elems?
  elems.mapM fun component => component.written (str "svn")

/-- The SVNs in a TCB level. -/
def writtenLevel (version : UInt32) (id : Bytes) (tcbLevel : Json) : Option WrittenLevel := do
  let tcb ← tcbLevel.member? (str "tcb")
  let pceSvn ← tcb.written (str "pcesvn")
  if version = versionV2 then do
    let components ← TcbLevel.sgxTcbSvnComponentsNames.mapM tcb.written
    pure { components, pceSvn, tdxComponents := [] }
  else do
    let components ← writtenComponents tcb (str "sgxtcbcomponents")
    let tdxComponents ←
      if id = tdxId then writtenComponents tcb (str "tdxtcbcomponents") else pure []
    pure { components, pceSvn, tdxComponents }

/-- The elements of the `[tcbLevels]` array of a text. -/
def levelElements (env : JsonEnv) (jsonString : Bytes) : Option (List Json) := do
  let tcbInfo ← (← env.parse jsonString).member? (str "tcbInfo")
  (← tcbInfo.member? (str "tcbLevels")).elems?

/-- A text writes a level with these SVNs. -/
def WritesLevel (env : JsonEnv) (jsonString : Bytes) (info : TcbInfo) (l : TcbLevel)
    (w : WrittenLevel) : Prop :=
  ∃ elems, levelElements env jsonString = some elems ∧ ∃ v ∈ elems,
    TcbLevel.parse env info.version info.id v = .ok l ∧
      writtenLevel info.version info.id v = some w

/-- The integer that an ASN.1 value writes. -/
def Asn1.integer? : Asn1 → Option ℤ
  | .integer _ value => some value
  | _ => none

/-- The value of the last pair of an identifier, the one that counts. -/
def lastValue (oid : Bytes) (pairs : List (Bytes × Asn1)) : Option Asn1 := pairs.reverse.lookup oid

/-- The pairs that a sequence holds. -/
def sequencePairs (env : X509Env) (name : Bytes) (stack : List Asn1) :
    Option (List (Bytes × Asn1)) :=
  (stack.mapM (oidTuple env name)).toOption

/-- The SVNs in the value of the `TCB` identifier. -/
def writtenTcb (env : X509Env) (tcbSeq : Asn1) : Option WrittenPlatform := do
  let stack ← (validateSequence tcbOid tcbSeq >>= oidToStack env).toOption
  let pairs ← sequencePairs env tcbOid stack
  let components ← (List.finRange 16).mapM fun i =>
    (lastValue (sgxTcbCompSvnOid i) pairs).bind Asn1.integer?
  let pceSvn ← (lastValue pceSvnOid pairs).bind Asn1.integer?
  pure { components, pceSvn }

/-- The SVNs in the SGX extension of a certificate. -/
def writtenPlatform (env : X509Env) (cert : Certificate) : Option WrittenPlatform := do
  let stack ← (getSgxExtensions env cert).toOption
  let pairs ← sequencePairs env sgxExtensionOid stack
  writtenTcb env (← lastValue tcbOid pairs)

/-! ## Ranges -/

/-- The integers that a component SVN can have. -/
def IsComponentSvn (n : ℤ) : Prop := 0 ≤ n ∧ n ≤ 255

/-- The integers that a PCE SVN can have. -/
def IsPceSvn (n : ℤ) : Prop := 0 ≤ n ∧ n ≤ 2 ^ 32 - 1

/-- The written SVNs are in range. -/
def WrittenPlatform.InRange (c : WrittenPlatform) : Prop :=
  (∀ n ∈ c.components, IsComponentSvn n) ∧ IsPceSvn c.pceSvn

def WrittenLevel.InRange (w : WrittenLevel) : Prop :=
  w.toWrittenPlatform.InRange ∧ ∀ n ∈ w.tdxComponents, IsComponentSvn n

/-! ## What is compared -/

/-- The bytes as integers. -/
def integers (svns : List UInt8) : List ℤ := svns.map fun svn => (svn.toNat : ℤ)

/-- The required integers are at most the available ones. -/
abbrev CoveredIntegers (required available : List ℤ) : Prop :=
  List.Forall₂ (· ≤ ·) required available

/-- The comparisons of a platform with a level are those of the integers, and no integer
    is stored as another. -/
structure ComparesAsWritten (tcb : Tcb) (c : WrittenPlatform) (l : TcbLevel) (w : WrittenLevel) :
    Prop where
  components : (l.getSgxTcbComponents >>= fun components =>
      areSvnsHigherOrEqual tcb.cpuSvnComponents.toList components 0) =
    .ok (decide (CoveredIntegers w.components c.components))
  pceSvn : tcb.pceSvn ≥ l.pceSvn ↔ c.pceSvn ≥ w.pceSvn
  tdxComponents : l.version = versionV3 → l.id = tdxId → ∀ teeTcbSvns : ByteArr 16,
    ∀ startIndex ≤ cpusvnByteLen, (l.getTdxTcbComponents >>= fun components =>
      areSvnsHigherOrEqual teeTcbSvns.toList components startIndex) =
    .ok (decide (CoveredIntegers (w.tdxComponents.drop startIndex)
      ((integers teeTcbSvns.toList).drop startIndex)))
  stored_level : integers l.cpuSvn = w.components ∧ integers l.tdxSvns = w.tdxComponents ∧
    (l.pceSvn.toNat : ℤ) = w.pceSvn
  stored_platform : integers tcb.cpuSvnComponents.toList = c.components ∧
    (tcb.pceSvn.toNat : ℤ) = c.pceSvn

/-! ## What is stored -/

/-- An integer that is in range is stored as it is. -/
def StoresComponent (svn : UInt8) (n : ℤ) : Prop := IsComponentSvn n → (svn.toNat : ℤ) = n

/-- Stored components are the integers exactly when these are in range. -/
theorem integers_eq_iff {svns : List UInt8} {ns : List ℤ}
    (h : List.Forall₂ StoresComponent svns ns) :
    integers svns = ns ↔ ∀ n ∈ ns, IsComponentSvn n := by
  induction h with
  | nil => simp [integers]
  | @cons svn n svns ns hn _ ih =>
    have hcons : integers (svn :: svns) = (svn.toNat : ℤ) :: integers svns := rfl
    rw [hcons, List.cons.injEq, ih, List.forall_mem_cons]
    refine and_congr_left fun _ => ⟨fun heq => ?_, hn⟩
    have := svn.toNat_lt
    unfold IsComponentSvn
    omega

theorem coveredIntegers_iff {xs ys : List UInt8} :
    CoveredIntegers (integers xs) (integers ys) ↔ Covered xs ys := by
  rw [CoveredIntegers, integers, integers, List.forall₂_map_left_iff, List.forall₂_map_right_iff,
    Covered]
  simp only [Int.ofNat_le, UInt8.le_iff_toNat_le]

theorem integers_drop (xs : List UInt8) (n : ℕ) : integers (xs.drop n) = (integers xs).drop n :=
  List.map_drop

/-- `ComparesAsWritten` from what is stored. -/
theorem ComparesAsWritten.of_stored {tcb : Tcb} {c : WrittenPlatform} {l : TcbLevel}
    {w : WrittenLevel} {version : UInt32} {id : Bytes} (hl : l.WellFormed version id)
    (hlevel : integers l.cpuSvn = w.components ∧ integers l.tdxSvns = w.tdxComponents ∧
      (l.pceSvn.toNat : ℤ) = w.pceSvn)
    (hplatform : integers tcb.cpuSvnComponents.toList = c.components ∧
      (tcb.pceSvn.toNat : ℤ) = c.pceSvn) :
    ComparesAsWritten tcb c l w := by
  refine ⟨?_, ?_, fun hversion hid tee startIndex hstart => ?_, hlevel, hplatform⟩
  · have hlen : l.cpuSvnComponents.length = cpusvnByteLen := by
      rw [← hl.cpuSvn_length, ← hl.component_svns, List.length_map]
    rw [hl.components, ok_bind, areSvnsHigherOrEqual_eq tcb.cpuSvnComponents.toList_length hlen
      (Nat.zero_le _), hl.component_svns, List.drop_zero, List.drop_zero, ← hlevel.1,
      ← hplatform.1]
    simp only [coveredIntegers_iff]
  · rw [ge_iff_le, ge_iff_le, UInt32.le_iff_toNat_le, ← hlevel.2.2, ← hplatform.2, Int.ofNat_le]
  · have hv : version = versionV3 := hl.version_eq.symm.trans hversion
    have hi : id = tdxId := hl.id_eq.symm.trans hid
    subst hv
    rw [hl.getTdxTcbComponents hi, ok_bind, areSvnsHigherOrEqual_eq tee.toList_length
      (hl.tdx_length rfl hi) hstart, ← hlevel.2.1, ← integers_drop, ← integers_drop]
    simp only [coveredIntegers_iff, TcbLevel.tdxSvns]

/-! ## Levels -/

theorem getUintFieldOf_written {v : Json} {name : Bytes} {n : UInt32}
    (h : getUintFieldOf v name = .ok (n, .ok)) : v.written name = some (n.toNat : ℤ) := by
  rw [getUintFieldOf, getFieldOf] at h
  split_ifs at h
  unfold Json.written
  cases hv : v.member? name with
  | none => rw [hv] at h; cases h
  | some property =>
    rw [hv] at h
    cases property with
    | int m =>
      have h : readField 0 Json.uint? (.int m) = (n, ParseStatus.ok) := Except.ok.inj h
      by_cases hrange : 0 ≤ m ∧ m < 2 ^ 32
      · have huint : Json.uint? (.int m) = some (UInt32.ofNat m.toNat) := if_pos hrange
        simp only [readField, huint, Prod.mk.injEq, and_true] at h
        subst h
        simp only [Option.bind_some, Json.integer?, UInt32.toNat_ofNat']
        congr 1
        omega
      · have huint : Json.uint? (.int m) = none := if_neg hrange
        simp [readField, huint] at h
    | _ => cases h

/-- A JSON integer that is cut to a byte. -/
theorem storesComponent_toUInt8 (n : UInt32) : StoresComponent n.toUInt8 (n.toNat : ℤ) := by
  intro h
  unfold IsComponentSvn at h
  rw [UInt32.toNat_toUInt8]
  omega

theorem TcbComponent.parse_written {v : Json} {component : TcbComponent}
    (h : TcbComponent.parse v = .ok component) :
    ∃ n, v.written (str "svn") = some n ∧ StoresComponent component.svn n := by
  obtain ⟨_, _, h⟩ := bind_eq_ok.mp h
  obtain ⟨r, hr, h⟩ := bind_eq_ok.mp h
  obtain ⟨n, hn, h⟩ := bind_eq_ok.mp h
  obtain ⟨_, _, h⟩ := bind_eq_ok.mp h
  obtain ⟨_, _, h⟩ := bind_eq_ok.mp h
  obtain ⟨_, _, h⟩ := bind_eq_ok.mp h
  obtain ⟨_, _, h⟩ := bind_eq_ok.mp h
  cases h
  rw [required_eq_ok.mp hn] at hr
  exact ⟨_, getUintFieldOf_written hr, storesComponent_toUInt8 n⟩

theorem TcbLevel.cpuSvnComponent_written {tcb : Json} {name : Bytes} {svn : UInt8}
    (h : cpuSvnComponent tcb name = .ok svn) :
    ∃ n, tcb.written name = some n ∧ StoresComponent svn n := by
  obtain ⟨r, hr, h⟩ := bind_eq_ok.mp h
  obtain ⟨n, hn, h⟩ := bind_eq_ok.mp h
  cases h
  rw [required_eq_ok.mp hn] at hr
  exact ⟨_, getUintFieldOf_written hr, storesComponent_toUInt8 n⟩

theorem TcbLevel.tcbComponentsOf_written {tcb : Json} {name : Bytes} {missing : Exn}
    {components : List TcbComponent} (h : tcbComponentsOf tcb name missing = .ok components) :
    ∃ ns, writtenComponents tcb name = some ns ∧
      List.Forall₂ StoresComponent (components.map TcbComponent.svn) ns := by
  obtain ⟨array, harray, h⟩ := bind_eq_ok.mp h
  obtain ⟨elems, helems, h⟩ := bind_eq_ok.mp h
  obtain ⟨_, _, h⟩ := bind_eq_ok.mp h
  obtain ⟨ns, hns, hstores⟩ := exists_mapM (fun _ _ => TcbComponent.parse_written) h
  refine ⟨ns, ?_, List.forall₂_map_left_iff.mpr hstores⟩
  rw [writtenComponents, memberOrThrow_eq_ok.mp harray]
  show (array.elems?.bind _) = _
  rw [elemsOrThrow_eq_ok.mp helems]
  exact hns

/-- What a level stores for the integers. -/
structure StoresLevel (l : TcbLevel) (w : WrittenLevel) : Prop where
  components : List.Forall₂ StoresComponent l.cpuSvn w.components
  tdxComponents : List.Forall₂ StoresComponent l.tdxSvns w.tdxComponents
  pceSvn : (l.pceSvn.toNat : ℤ) = w.pceSvn

theorem TcbLevel.parsePceSvn_written {tcb : Json} {self l : TcbLevel}
    (h : parsePceSvn tcb self = .ok l) :
    ∃ pceSvn : UInt32, tcb.written (str "pcesvn") = some (pceSvn.toNat : ℤ) ∧
      l = { self with pceSvn } := by
  obtain ⟨r, hr, h⟩ := bind_eq_ok.mp h
  obtain ⟨pceSvn, hn, h⟩ := bind_eq_ok.mp h
  cases h
  rw [required_eq_ok.mp hn] at hr
  exact ⟨pceSvn, getUintFieldOf_written hr, rfl⟩

theorem TcbLevel.parse_written {env : JsonEnv} {version : UInt32} {id : Bytes} {v : Json}
    {l : TcbLevel} (h : parse env version id v = .ok l) :
    ∃ w, writtenLevel version id v = some w ∧ StoresLevel l w := by
  rw [parse] at h
  split_ifs at h with h2 h3
  · obtain ⟨l₁, h₁, h⟩ := bind_eq_ok.mp h
    obtain ⟨_, _, _, _, rfl⟩ := parseTcbLevelCommon_eq_ok h₁
    obtain ⟨tcb, htcb, h⟩ := bind_eq_ok.mp h
    obtain ⟨l₂, h₂, h⟩ := bind_eq_ok.mp h
    obtain ⟨_, _, h₂⟩ := bind_eq_ok.mp h₂
    obtain ⟨cpuSvn, hcpuSvn, h₂⟩ := bind_eq_ok.mp h₂
    cases h₂
    obtain ⟨pceSvn, hpce, rfl⟩ := parsePceSvn_written h
    obtain ⟨ns, hns, hstores⟩ := exists_mapM (fun _ _ => cpuSvnComponent_written) hcpuSvn
    refine ⟨⟨⟨ns, pceSvn.toNat⟩, []⟩, ?_, ⟨hstores, List.Forall₂.nil, rfl⟩⟩
    simp only [writtenLevel, memberOrThrow_eq_ok.mp htcb, Option.bind_eq_bind, Option.bind_some,
      hpce, if_pos (show version = versionV2 from h2), hns, Option.pure_def]
  · obtain ⟨l₁, h₁, h⟩ := bind_eq_ok.mp h
    obtain ⟨_, _, _, _, rfl⟩ := parseTcbLevelCommon_eq_ok h₁
    obtain ⟨tcb, htcb, h⟩ := bind_eq_ok.mp h
    obtain ⟨_, _, h⟩ := bind_eq_ok.mp h
    obtain ⟨l₂, h₂, h⟩ := bind_eq_ok.mp h
    obtain ⟨pceSvn, hpce, rfl⟩ := parsePceSvn_written h₂
    obtain ⟨sgx, hsgx, h⟩ := bind_eq_ok.mp h
    obtain ⟨ns, hns, hstores⟩ := tcbComponentsOf_written hsgx
    have h2 : ¬ version = versionV2 := h2
    by_cases hid : id = tdxId
    · rw [if_pos (show (TcbLevel.initial id version).id = tdxId from hid)] at h
      obtain ⟨tdx, htdx, h⟩ := bind_eq_ok.mp h
      cases h
      obtain ⟨ms, hms, hstores'⟩ := tcbComponentsOf_written htdx
      refine ⟨⟨⟨ns, pceSvn.toNat⟩, ms⟩, ?_, ⟨hstores, hstores', rfl⟩⟩
      simp only [writtenLevel, memberOrThrow_eq_ok.mp htcb, Option.bind_eq_bind, Option.bind_some,
        hpce, if_neg h2, hns, if_pos hid, hms, Option.pure_def]
    · rw [if_neg (show ¬ (TcbLevel.initial id version).id = tdxId from hid)] at h
      cases h
      refine ⟨⟨⟨ns, pceSvn.toNat⟩, []⟩, ?_, ⟨hstores, List.Forall₂.nil, rfl⟩⟩
      simp only [writtenLevel, memberOrThrow_eq_ok.mp htcb, Option.bind_eq_bind, Option.bind_some,
        hpce, if_neg h2, hns, if_neg hid, Option.pure_def]

/-! ## Certificates -/

theorem lastValue_append (oid : Bytes) (pairs : List (Bytes × Asn1)) (pair : Bytes × Asn1) :
    lastValue oid (pairs ++ [pair]) =
      if oid = pair.1 then some pair.2 else lastValue oid pairs := by
  rw [lastValue, List.reverse_append]
  show List.lookup oid (pair :: pairs.reverse) = _
  rw [List.lookup_cons]
  by_cases h : oid = pair.1
  · rw [if_pos h, h]
    simp
  · rw [if_neg h, beq_false_of_ne h]
    rfl

/-- An ASN.1 integer that is cut to a byte; one that is too large for a `long` is −1. -/
theorem storesComponent_oidToByte (n : ℤ) : StoresComponent (oidToByte n) n := by
  intro h
  unfold IsComponentSvn at h
  have hget : asn1IntegerGet n = n := if_pos ⟨by omega, by omega⟩
  rw [oidToByte, hget, UInt8.toNat_ofNat']
  omega

theorem oidToUInt_eq_iff (n : ℤ) : ((oidToUInt n).toNat : ℤ) = n ↔ IsPceSvn n := by
  have := (oidToUInt n).toNat_lt
  unfold IsPceSvn
  constructor
  · intro h
    omega
  · intro h
    have hget : asn1IntegerGet n = n := if_pos ⟨by omega, by omega⟩
    rw [oidToUInt, hget, UInt32.toNat_ofNat']
    omega

theorem validateInteger_eq_ok {name : Bytes} {value : Asn1} {n : ℤ}
    (h : validateInteger name value = .ok n) : value.integer? = some n := by
  cases value with
  | integer length m =>
    cases h
    rfl
  | _ => cases h

/-- What the loop of `Tcb::Tcb` has stored of the pairs so far: every SVN that is no
    longer expected. -/
structure TcbStores (pairs : List (Bytes × Asn1)) (tcb : Tcb)
    (expected : List SgxExtensionType) : Prop where
  component : ∀ i, SgxExtensionType.comp i ∉ expected →
    ∃ n, (lastValue (sgxTcbCompSvnOid i) pairs).bind Asn1.integer? = some n ∧
      tcb.cpuSvnComponents.get i = oidToByte n
  pceSvn : SgxExtensionType.pceSvn ∉ expected →
    ∃ n, (lastValue pceSvnOid pairs).bind Asn1.integer? = some n ∧ tcb.pceSvn = oidToUInt n

theorem TcbStores.insertEntry {pairs : List (Bytes × Asn1)} {self self' : Tcb}
    {expected expected' : List SgxExtensionType} {oid : Bytes} {value : Asn1}
    (hs : TcbStores pairs self expected)
    (h : self.insertEntry expected oid value = .ok (self', expected')) :
    TcbStores (pairs ++ [(oid, value)]) self' expected' := by
  rw [Tcb.insertEntry] at h
  cases hindex : compIndex oid with
  | some j =>
    have hoid := compIndex_eq_some hindex
    rw [hindex] at h
    obtain ⟨n, hn, h⟩ := bind_eq_ok.mp h
    cases h
    refine ⟨fun i hi => ?_, fun hi => ?_⟩
    · rw [lastValue_append]
      by_cases hij : i = j
      · subst hij
        rw [if_pos hoid.symm]
        exact ⟨n, validateInteger_eq_ok hn, List.Vector.get_set_same _ _ _⟩
      · rw [if_neg fun heq => hij (sgxTcbCompSvnOid_inj i j (heq.trans hoid))]
        obtain ⟨m, hm, hget⟩ := hs.component i (by simpa [hij] using hi)
        exact ⟨m, hm, by rw [← hget]; exact List.Vector.get_set_of_ne (Ne.symm hij) _⟩
    · rw [lastValue_append, if_neg fun heq => sgxTcbCompSvnOid_ne_pceSvnOid j (hoid ▸ heq.symm)]
      exact hs.pceSvn (by simpa using hi)
  | none =>
    have hcomp (i : Fin 16) : lastValue (sgxTcbCompSvnOid i) (pairs ++ [(oid, value)]) =
        lastValue (sgxTcbCompSvnOid i) pairs := by
      rw [lastValue_append, if_neg (compIndex_eq_none hindex i)]
    rw [hindex] at h
    by_cases hpce : oid = pceSvnOid
    · rw [if_pos hpce] at h
      obtain ⟨n, hn, h⟩ := bind_eq_ok.mp h
      cases h
      refine ⟨fun i hi => ?_, fun _ => ?_⟩
      · rw [hcomp]
        exact hs.component i (by simpa using hi)
      · rw [lastValue_append, if_pos hpce.symm]
        exact ⟨n, validateInteger_eq_ok hn, rfl⟩
    · have hother : lastValue pceSvnOid (pairs ++ [(oid, value)]) = lastValue pceSvnOid pairs := by
        rw [lastValue_append, if_neg (Ne.symm hpce)]
      rw [if_neg hpce] at h
      by_cases hcpu : oid = cpuSvnOid
      · rw [if_pos hcpu] at h
        obtain ⟨bytes, _, h⟩ := bind_eq_ok.mp h
        cases h
        refine ⟨fun i hi => ?_, fun hi => ?_⟩
        · rw [hcomp]
          exact hs.component i (by simpa using hi)
        · rw [hother]
          exact hs.pceSvn (by simpa using hi)
      · rw [if_neg hcpu] at h
        cases h
        refine ⟨fun i hi => ?_, fun hi => ?_⟩
        · rw [hcomp]
          exact hs.component i hi
        · rw [hother]
          exact hs.pceSvn hi

/-- What every entry keeps, the loop over the entries keeps. -/
theorem entries_invariant {σ : Type} {env : X509Env} {name : Bytes}
    {insertEntry : σ → List SgxExtensionType → Bytes → Asn1 →
      Except CertificateExn (σ × List SgxExtensionType)}
    {loop : List Asn1 → σ → List SgxExtensionType →
      Except CertificateExn (σ × List SgxExtensionType)}
    (hnil : ∀ self expected, loop [] self expected = .ok (self, expected))
    (hcons : ∀ wrapper wrappers self expected, loop (wrapper :: wrappers) self expected = do
      let (oid, value) ← oidTuple env name wrapper
      let (self, expected) ← insertEntry self expected oid value
      loop wrappers self expected)
    {Stores : List (Bytes × Asn1) → σ → List SgxExtensionType → Prop}
    (hstep : ∀ {pairs self expected oid value self' expected'}, Stores pairs self expected →
      insertEntry self expected oid value = .ok (self', expected') →
      Stores (pairs ++ [(oid, value)]) self' expected')
    {wrappers : List Asn1} {before : List (Bytes × Asn1)} {self self' : σ}
    {expected expected' : List SgxExtensionType} (hs : Stores before self expected)
    (h : loop wrappers self expected = .ok (self', expected')) :
    ∃ pairs, wrappers.mapM (oidTuple env name) = .ok pairs ∧
      Stores (before ++ pairs) self' expected' := by
  induction wrappers generalizing before self expected with
  | nil =>
    rw [hnil] at h
    cases h
    exact ⟨[], rfl, by rwa [List.append_nil]⟩
  | cons wrapper wrappers ih =>
    rw [hcons] at h
    obtain ⟨⟨oid, value⟩, hpair, h⟩ := bind_eq_ok.mp h
    obtain ⟨⟨self₁, expected₁⟩, hentry, h⟩ := bind_eq_ok.mp h
    obtain ⟨pairs, hpairs, hstores⟩ := ih (hstep hs hentry) h
    refine ⟨(oid, value) :: pairs, ?_, ?_⟩
    · rw [List.mapM_cons, hpair, ok_bind, hpairs]
      rfl
    · rwa [List.append_assoc] at hstores

theorem TcbStores.insertEntries {env : X509Env} {wrappers : List Asn1}
    {before : List (Bytes × Asn1)} {self self' : Tcb} {expected expected' : List SgxExtensionType}
    (hs : TcbStores before self expected)
    (h : Tcb.insertEntries env wrappers self expected = .ok (self', expected')) :
    ∃ pairs, wrappers.mapM (oidTuple env tcbOid) = .ok pairs ∧
      TcbStores (before ++ pairs) self' expected' := by
  exact entries_invariant (fun _ _ => rfl) (fun _ _ _ _ => rfl) (fun hs h => hs.insertEntry h) hs h

/-- What a platform stores for the integers. -/
structure StoresPlatform (tcb : Tcb) (c : WrittenPlatform) : Prop where
  components : List.Forall₂ StoresComponent tcb.cpuSvnComponents.toList c.components
  pceSvn : (tcb.pceSvn.toNat : ℤ) = c.pceSvn ↔ IsPceSvn c.pceSvn

/-- The TCB of a certificate. -/
theorem Tcb.parse_written {env : X509Env} {tcbSeq : Asn1} {tcb : Tcb}
    (h : parse env tcbSeq = .ok tcb) :
    ∃ c, writtenTcb env tcbSeq = some c ∧ StoresPlatform tcb c := by
  obtain ⟨der, hder, h⟩ := bind_eq_ok.mp h
  obtain ⟨stack, hstack, h⟩ := bind_eq_ok.mp h
  obtain ⟨_, _, h⟩ := bind_eq_ok.mp h
  obtain ⟨⟨self, expected⟩, hloop, h⟩ := bind_eq_ok.mp h
  obtain ⟨_, hnone, h⟩ := bind_eq_ok.mp h
  cases h
  cases requireNone_eq_ok hnone
  have hstart : TcbStores [] Tcb.initial tcbRequiredSgxExtensions :=
    ⟨fun i hi => absurd (by simp [tcbRequiredSgxExtensions]) hi,
      fun hi => absurd (by simp [tcbRequiredSgxExtensions]) hi⟩
  obtain ⟨pairs, hpairs, hstores⟩ := hstart.insertEntries hloop
  rw [List.nil_append] at hstores
  choose n hn hcomponents using fun i => hstores.component i List.not_mem_nil
  obtain ⟨pceSvn, hpceSvn, hstored⟩ := hstores.pceSvn List.not_mem_nil
  have hwritten : (List.finRange 16).mapM (fun i =>
      (lastValue (sgxTcbCompSvnOid i) pairs).bind Asn1.integer?) =
        some ((List.finRange 16).map n) := by
    rw [funext hn]
    exact List.mapM_pure
  refine ⟨⟨(List.finRange 16).map n, pceSvn⟩, ?_, ?_, ?_⟩
  · simp only [writtenTcb, hder, ok_bind, hstack, Except.toOption, sequencePairs, hpairs,
      Option.bind_eq_bind, Option.bind_some, hwritten, hpceSvn, Option.pure_def]
  · have hlist : tcb.cpuSvnComponents.toList = (List.finRange 16).map fun i => oidToByte (n i) := by
      rw [← List.Vector.ofFn_get tcb.cpuSvnComponents, List.Vector.toList_ofFn, List.ofFn_eq_map]
      exact List.map_congr_left fun i _ => hcomponents i
    rw [hlist, List.forall₂_map_left_iff, List.forall₂_map_right_iff, List.forall₂_same]
    exact fun i _ => storesComponent_oidToByte (n i)
  · rw [hstored]
    exact oidToUInt_eq_iff pceSvn

/-- The loop of `setMembers` has stored the TCB, once it is no longer expected. -/
def StoresTcb (env : X509Env) (pairs : List (Bytes × Asn1)) (members : SgxMembers)
    (expected : List SgxExtensionType) : Prop :=
  SgxExtensionType.tcb ∉ expected →
    ∃ value, lastValue tcbOid pairs = some value ∧ Tcb.parse env value = .ok members.tcb

theorem StoresTcb.insertEntry {env : X509Env} {pairs : List (Bytes × Asn1)}
    {self self' : SgxMembers} {expected expected' : List SgxExtensionType} {oid : Bytes}
    {value : Asn1} (hs : StoresTcb env pairs self expected)
    (h : self.insertEntry env expected oid value = .ok (self', expected')) :
    StoresTcb env (pairs ++ [(oid, value)]) self' expected' := by
  intro hexpected
  rw [lastValue_append]
  unfold SgxMembers.insertEntry at h
  split_ifs at h with hppid htcb
  · obtain ⟨_, _, h⟩ := bind_eq_ok.mp h
    cases h
    have hne : tcbOid ≠ oid := by
      rw [hppid]
      decide +kernel
    rw [if_neg hne]
    exact hs (by simpa using hexpected)
  · obtain ⟨tcb, htcb', h⟩ := bind_eq_ok.mp h
    cases h
    rw [if_pos htcb.symm]
    exact ⟨value, rfl, htcb'⟩
  all_goals rw [if_neg (Ne.symm htcb)]
  · obtain ⟨_, _, h⟩ := bind_eq_ok.mp h
    cases h
    exact hs (by simpa using hexpected)
  · obtain ⟨_, _, h⟩ := bind_eq_ok.mp h
    cases h
    exact hs (by simpa using hexpected)
  · obtain ⟨_, _, h⟩ := bind_eq_ok.mp h
    cases h
    exact hs (by simpa using hexpected)
  · cases h
    exact hs hexpected

theorem StoresTcb.insertEntries {env : X509Env} {wrappers : List Asn1}
    {before : List (Bytes × Asn1)} {self self' : SgxMembers}
    {expected expected' : List SgxExtensionType} (hs : StoresTcb env before self expected)
    (h : SgxMembers.insertEntries env wrappers self expected = .ok (self', expected')) :
    ∃ pairs, wrappers.mapM (oidTuple env sgxExtensionOid) = .ok pairs ∧
      StoresTcb env (before ++ pairs) self' expected' := by
  exact entries_invariant (fun _ _ => rfl) (fun _ _ _ _ => rfl) (fun hs h => hs.insertEntry h) hs h

/-- The integers in the SGX extension of a certificate, and what is stored for them. -/
theorem PckCertificate.exists_written {env : X509Env} {pem : Bytes} {pck : PckCertificate}
    (h : parse env pem = .ok pck) :
    ∃ c, writtenPlatform env pck.toCertificate = some c ∧ StoresPlatform pck.members.tcb c := by
  obtain ⟨certificate, _, h⟩ := bind_eq_ok.mp h
  rw [ofCertificate_toCertificate h]
  obtain ⟨stack, hstack, h⟩ := bind_eq_ok.mp h
  obtain ⟨members, hmembers, h⟩ := bind_eq_ok.mp h
  cases h
  obtain ⟨_, _, h⟩ := bind_eq_ok.mp hmembers
  obtain ⟨⟨self, expected⟩, hloop, h⟩ := bind_eq_ok.mp h
  obtain ⟨_, hnone, h⟩ := bind_eq_ok.mp h
  cases h
  cases requireNone_eq_ok hnone
  have hstart : StoresTcb env [] .initial pckRequiredSgxExtensions :=
    fun hi => absurd (by simp [pckRequiredSgxExtensions]) hi
  obtain ⟨pairs, hpairs, hstores⟩ := hstart.insertEntries hloop
  obtain ⟨value, hvalue, htcb⟩ := hstores List.not_mem_nil
  obtain ⟨c, hc, hstored⟩ := Tcb.parse_written htcb
  refine ⟨c, ?_, hstored⟩
  rw [List.nil_append] at hvalue
  simp only [writtenPlatform, hstack, Except.toOption, sequencePairs, hpairs,
    Option.bind_eq_bind, Option.bind_some, hvalue, hc]

/-! ## The comparisons -/

/-- The levels of a TCB Info are those that its text writes, in some order. -/
theorem TcbInfo.parse_levelElements {env : JsonEnv} {jsonString : Bytes} {info : TcbInfo}
    (h : parse env jsonString = .ok info) :
    ∃ elems ls, levelElements env jsonString = some elems ∧
      elems.mapM (TcbLevel.parse env info.version info.id) = .ok ls ∧ info.tcbLevels.Perm ls := by
  obtain ⟨⟨v, sig⟩, hdocument, h⟩ := bind_eq_ok.mp h
  obtain ⟨⟨t₃, tcbs⟩, h₃, h⟩ := bind_eq_ok.mp h
  obtain ⟨t₄, h₄, h⟩ := bind_eq_ok.mp h
  obtain ⟨_, _, h⟩ := bind_eq_ok.mp h
  cases h
  obtain ⟨elems, helems, h₄⟩ := bind_eq_ok.mp h₄
  obtain ⟨levels, hlevels, h₄⟩ := bind_eq_ok.mp h₄
  obtain ⟨_, _, h₄⟩ := bind_eq_ok.mp h₄
  cases h₄
  obtain ⟨ls, hls, _, hperm⟩ := (emplaceEach_nil_eq_ok
    (TcbLevel.comparesKeys t₃.version t₃.id) fun _ _ => TcbLevel.parse_wellFormed).mp hlevels
  refine ⟨elems, ls, ?_, hls, hperm⟩
  obtain ⟨⟨t₂, tcbs'⟩, h₂, h₃⟩ := bind_eq_ok.mp h₃
  obtain ⟨_, _, h₃⟩ := bind_eq_ok.mp h₃
  cases h₃
  obtain ⟨_, _, h₂⟩ := bind_eq_ok.mp h₂
  obtain ⟨_, _, h₂⟩ := bind_eq_ok.mp h₂
  obtain ⟨_, htcbs, h₂⟩ := bind_eq_ok.mp h₂
  obtain ⟨_, _, h₂⟩ := bind_eq_ok.mp h₂
  cases h₂
  obtain ⟨document, hread, htcbInfo, -⟩ := parseDocument_eq_ok hdocument
  simp only [levelElements, hread, htcbInfo, memberOrThrow_eq_ok.mp htcbs,
    elemsOrThrow_eq_ok.mp helems, Option.bind_eq_bind, Option.bind_some]

/-- The text writes every level of a TCB Info. -/
theorem TcbInfo.exists_written {env : JsonEnv} {jsonString : Bytes} {info : TcbInfo}
    (h : parse env jsonString = .ok info) :
    ∀ l ∈ info.tcbLevels, ∃ w, WritesLevel env jsonString info l w ∧ StoresLevel l w := by
  obtain ⟨elems, ls, helems, hls, hperm⟩ := parse_levelElements h
  intro l hl
  obtain ⟨v, hv, hparse⟩ := exists_of_mem_mapM hls l (hperm.mem_iff.mp hl)
  obtain ⟨w, hw, hstores⟩ := TcbLevel.parse_written hparse
  exact ⟨w, ⟨elems, helems, v, hv, hparse, hw⟩, hstores⟩

/-- **What is compared.** The comparisons of a certificate, or of a TD report, with the
    TCB levels are those of the integers that are written, exactly when all written
    component SVNs are from 0 to 255 and the PCE SVN of the certificate from 0 to 2³² − 1. -/
theorem comparesAsWritten_iff {jsonEnv : JsonEnv} {x509Env : X509Env} {jsonString pem : Bytes}
    {info : TcbInfo} {pck : PckCertificate} (hinfo : TcbInfo.parse jsonEnv jsonString = .ok info)
    (hpck : PckCertificate.parse x509Env pem = .ok pck) :
    (∀ l ∈ info.tcbLevels, ∃ w, WritesLevel jsonEnv jsonString info l w) ∧
    ∃ c, writtenPlatform x509Env pck.toCertificate = some c ∧
      ((∀ l w, WritesLevel jsonEnv jsonString info l w →
          ComparesAsWritten pck.members.tcb c l w) ↔
        c.InRange ∧ ∀ l w, WritesLevel jsonEnv jsonString info l w → w.InRange) := by
  have hlevels := TcbInfo.exists_written hinfo
  obtain ⟨c, hc, hplatform⟩ := PckCertificate.exists_written hpck
  refine ⟨fun l hl => (hlevels l hl).imp fun _ => And.left, c, hc, ?_⟩
  have hcomponents := integers_eq_iff hplatform.components
  have hstored (l : TcbLevel) (w : WrittenLevel) (hw : WritesLevel jsonEnv jsonString info l w) :
      l.WellFormed info.version info.id ∧ StoresLevel l w := by
    obtain ⟨_, _, v, _, hparse, hwritten⟩ := hw
    obtain ⟨w', hw', hstores⟩ := TcbLevel.parse_written hparse
    rw [hwritten] at hw'
    cases hw'
    exact ⟨TcbLevel.parse_wellFormed hparse, hstores⟩
  constructor
  · intro h
    obtain ⟨l, hl⟩ := List.exists_mem_of_ne_nil _ (TcbInfo.parse_wellFormed hinfo).levels_ne_nil
    obtain ⟨w, hw, _⟩ := hlevels l hl
    have hpce := (h l w hw).stored_platform
    refine ⟨⟨hcomponents.mp hpce.1, hplatform.pceSvn.mp hpce.2⟩, fun l w hw => ?_⟩
    have hl := (h l w hw).stored_level
    have hs := (hstored l w hw).2
    refine ⟨⟨(integers_eq_iff hs.components).mp hl.1, ?_⟩,
      (integers_eq_iff hs.tdxComponents).mp hl.2.1⟩
    have := l.pceSvn.toNat_lt
    rw [← hs.pceSvn]
    unfold IsPceSvn
    omega
  · rintro ⟨hrange, hranges⟩ l w hw
    obtain ⟨hwf, hs⟩ := hstored l w hw
    obtain ⟨⟨hlevel, _⟩, htdx⟩ := hranges l w hw
    exact .of_stored hwf ⟨(integers_eq_iff hs.components).mpr hlevel,
      (integers_eq_iff hs.tdxComponents).mpr htdx, hs.pceSvn⟩
      ⟨hcomponents.mpr hrange.1, hplatform.pceSvn.mpr hrange.2⟩

/-! ## A component SVN of 256 -/

/-- The PCK certificate of `sampleX509`, with one SVN for the components and one for the PCE. -/
def samplePckWith (componentSvn : UInt8) (pceSvn : UInt32) : PckCertificate :=
  { sampleCertificate with
    members := {
      ppid := List.replicate 16 0, pceId := List.replicate 2 0, fmspc := List.replicate 6 0
      sgxType := 0
      tcb := { cpuSvn := List.replicate 16 1, cpuSvnComponents := .replicate 16 componentSvn
               pceSvn } } }

/-- Any revocation list. -/
def sampleEmptyCrl : CrlStore :=
  { crl := [], issuer := sampleName [], validity := ⟨0, 0⟩, revoked := [], extensions := [] }

theorem samplePckWith_parse :
    PckCertificate.parse (sampleX509 0 256 sampleEmptyCrl) [] = .ok (samplePckWith 0 256) := by
  decide +kernel

/-- A certificate whose SVNs are in range, with levels whose SVNs are in range. -/
theorem comparesAsWritten_iff_sample :
    ∃ c, writtenPlatform (sampleX509 0 256 sampleEmptyCrl) (samplePckWith 0 256).toCertificate =
        some c ∧
      ((∀ l w, WritesLevel sampleDocuments sampleTcbInfoDocument.render sampleInfo l w →
          ComparesAsWritten (samplePckWith 0 256).members.tcb c l w) ↔
        c.InRange ∧ ∀ l w, WritesLevel sampleDocuments sampleTcbInfoDocument.render sampleInfo l w →
          w.InRange) :=
  (comparesAsWritten_iff sampleInfo_parse samplePckWith_parse).2

/-- A level that requires the component SVN 256. -/
def sampleReducedDocument : Json :=
  sampleTcbInfo [sampleLevel 256 (str "UpToDate") []] [sampleIsvLevel 2 (str "UpToDate") []]

def sampleReducedLevel : TcbLevel := { sampleParsedLevel 0 (str "UpToDate") [] with pceSvn := 256 }

def sampleReducedInfo : TcbInfo :=
  { sampleInfo with
    tcbLevels := [sampleReducedLevel]
    infoBody := ((sampleReducedDocument.member? (str "tcbInfo")).map Json.render).getD [] }

/-- The integers that the level writes. -/
def sampleReducedWritten : WrittenLevel :=
  { components := List.replicate 16 256, pceSvn := 256, tdxComponents := List.replicate 16 256 }

/-- The level is parsed, and it is satisfied by a certificate whose component SVNs are 0:
    256 is stored as 0. -/
theorem component_svn_reduced :
    TcbInfo.parse (sampleEnv [sampleReducedDocument]) sampleReducedDocument.render =
        .ok sampleReducedInfo ∧
      PckCertificate.parse (sampleX509 0 256 sampleEmptyCrl) [] = .ok (samplePckWith 0 256) ∧
      WritesLevel (sampleEnv [sampleReducedDocument]) sampleReducedDocument.render
        sampleReducedInfo sampleReducedLevel sampleReducedWritten ∧
      writtenPlatform (sampleX509 0 256 sampleEmptyCrl) (samplePckWith 0 256).toCertificate =
        some ⟨List.replicate 16 0, 256⟩ ∧
      sgxLevelSatisfied (samplePckWith 0 256).members.tcb.cpuSvnComponents.toList
        (samplePckWith 0 256).members.tcb.pceSvn sampleReducedLevel = .ok true ∧
      ¬ CoveredIntegers sampleReducedWritten.components (List.replicate 16 0) ∧
      ¬ ComparesAsWritten (samplePckWith 0 256).members.tcb ⟨List.replicate 16 0, 256⟩
        sampleReducedLevel sampleReducedWritten := by
  refine ⟨by decide +kernel, samplePckWith_parse, ?_, by decide +kernel, by decide +kernel,
    by decide +kernel, fun h => ?_⟩
  · refine ⟨[sampleLevel 256 (str "UpToDate") []], ?_, _, List.mem_singleton_self _,
      by decide +kernel, by decide +kernel⟩
    have hparse : (sampleEnv [sampleReducedDocument]).parse sampleReducedDocument.render =
        some sampleReducedDocument :=
      sampleEnv_parse (by decide +kernel) (by decide +kernel) rfl
        (List.find?_cons_of_pos (by simp))
    rw [levelElements, hparse]
    rfl
  · have hcomponents := h.stored_level.1
    revert hcomponents
    decide +kernel

end DcapQvl
