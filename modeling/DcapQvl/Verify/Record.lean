import DcapQvl.Json.DateField
import DcapQvl.Tcb.Record
import DcapQvl.Verify.Verdicts

/-!
# The objects that verification fills

Every collateral object that `QuoteVerifier::verify` fills from parsed texts is one of
those whose record `filled_record` describes.

Results:
* `TcbInfo.parse_recordable`, `EnclaveIdentity.parse_recordable`: dates are values of a
  `time_t`, and advisories end before a NUL.
* `verify_fills`: a filled object is built by calls of its methods on such values.
* `verify_record`: the record that is made of it tells the verdict, both evaluations of the
  quote, and the dates of the collateral.
-/

namespace DcapQvl

open Lib QuoteVerifier

/-! ## What the parsers give -/

/-- The date and the advisories of a level can be recorded. -/
def Recordable (date : ℤ) (advisories : List Bytes) : Prop :=
  IsTimeT date ∧ ∀ advisory ∈ advisories, 0 ∉ advisory

theorem cStr_noNul (s : Bytes) : 0 ∉ cStr s := by
  intro h
  have := List.mem_takeWhile_imp h
  simp at this

theorem stringVec_noNul {elems : List Json} {advisoryIDs : List Bytes}
    (h : ∀ advisory ∈ advisoryIDs, 0 ∉ advisory) :
    ∀ advisory ∈ (stringVec advisoryIDs elems).1, 0 ∉ advisory := by
  induction elems generalizing advisoryIDs with
  | nil => exact h
  | cons elem elems ih =>
    rw [stringVec]
    cases elem.string? with
    | none => exact h
    | some s =>
      apply ih
      intro advisory hadvisory
      rcases List.mem_append.mp hadvisory with hadvisory | hadvisory
      · exact h advisory hadvisory
      · rw [List.mem_singleton.mp hadvisory]
        exact cStr_noNul s

/-- A field is either the empty value or what is read from a member. -/
theorem getFieldOf_cases {T : Type} {empty : T} {read : Json → T × ParseStatus} {v : Json}
    {name : Bytes} {r : T × ParseStatus} (h : getFieldOf empty read v name = .ok r) :
    r = (empty, .missing) ∨ ∃ property, r = read property := by
  rw [getFieldOf] at h
  split_ifs at h
  cases hv : v.member? name with
  | none =>
    rw [hv] at h
    cases h
    exact Or.inl rfl
  | some property =>
    rw [hv] at h
    cases h
    exact Or.inr ⟨property, rfl⟩

theorem getStringVecFieldOf_noNul {v : Json} {name : Bytes} {r : List Bytes × ParseStatus}
    (h : getStringVecFieldOf v name = .ok r) : ∀ advisory ∈ r.1, 0 ∉ advisory := by
  rcases getFieldOf_cases h with rfl | ⟨property, rfl⟩
  · simp
  · cases property.elems? with
    | none => simp
    | some elems => exact stringVec_noNul (by simp)

theorem optionalField_eq_ok {T : Type} {invalid : Exn} {r : T × ParseStatus} {value : T}
    (h : optionalField invalid r = .ok value) : value = r.1 := by
  rcases r with ⟨v, _ | _ | _⟩ <;> cases h <;> rfl

section Dates

variable {env : JsonEnv} (htime : ∀ s, IsTimeT (env.getEpochTimeFromString s))
include htime

theorem getDateFieldOf_isTimeT {v : Json} {name : Bytes} {r : ℤ × ParseStatus}
    (h : getDateFieldOf env v name = .ok r) : IsTimeT r.1 := by
  have hzero : IsTimeT 0 := ⟨by decide, by decide⟩
  rcases getFieldOf_cases h with rfl | ⟨property, rfl⟩
  · exact hzero
  · unfold readField
    split
    · rename_i value hread
      obtain ⟨s, _, hs⟩ := Option.bind_eq_some_iff.mp hread
      split_ifs at hs
      cases hs
      exact htime s
    · exact hzero

theorem TcbLevel.parseTcbLevelCommon_recordable {v : Json} {self l : TcbLevel}
    (h : parseTcbLevelCommon env v self = .ok l) : Recordable l.tcbDate l.advisoryIDs := by
  obtain ⟨_, _, h⟩ := bind_eq_ok.mp h
  obtain ⟨_, hdate, h⟩ := bind_eq_ok.mp h
  obtain ⟨tcbDate, hrequired, h⟩ := bind_eq_ok.mp h
  obtain ⟨_, hadvisories, h⟩ := bind_eq_ok.mp h
  obtain ⟨advisoryIDs, hoptional, h⟩ := bind_eq_ok.mp h
  obtain ⟨_, _, rfl⟩ := parseStatus_eq_ok h
  cases required_eq_ok.mp hrequired
  cases optionalField_eq_ok hoptional
  exact ⟨getDateFieldOf_isTimeT htime hdate, getStringVecFieldOf_noNul hadvisories⟩

theorem TcbLevel.parse_recordable {version : UInt32} {id : Bytes} {v : Json} {l : TcbLevel}
    (h : parse env version id v = .ok l) : Recordable l.tcbDate l.advisoryIDs := by
  rw [parse] at h
  split_ifs at h with h2 h3
  · obtain ⟨l₁, h₁, h⟩ := bind_eq_ok.mp h
    have hcommon := parseTcbLevelCommon_recordable htime h₁
    obtain ⟨_, _, h⟩ := bind_eq_ok.mp h
    obtain ⟨l₂, h₂, h⟩ := bind_eq_ok.mp h
    obtain ⟨_, _, rfl⟩ := setCpuSvn_eq_ok h₂
    obtain ⟨_, rfl⟩ := parsePceSvn_eq_ok h
    exact hcommon
  · obtain ⟨l₁, h₁, h⟩ := bind_eq_ok.mp h
    have hcommon := parseTcbLevelCommon_recordable htime h₁
    obtain ⟨_, _, h⟩ := bind_eq_ok.mp h
    obtain ⟨_, _, h⟩ := bind_eq_ok.mp h
    obtain ⟨l₂, h₂, h⟩ := bind_eq_ok.mp h
    obtain ⟨_, rfl⟩ := parsePceSvn_eq_ok h₂
    obtain ⟨_, _, _, _, _, rfl⟩ := setTcbComponents_eq_ok h
    exact hcommon

theorem TdxModuleTcbLevel.parse_recordable {v : Json} {l : TdxModuleTcbLevel}
    (h : parse env v = .ok l) : Recordable l.tcbDate l.advisoryIDs := by
  obtain ⟨_, _, h⟩ := bind_eq_ok.mp h
  obtain ⟨_, _, h⟩ := bind_eq_ok.mp h
  obtain ⟨_, _, h⟩ := bind_eq_ok.mp h
  obtain ⟨_, hdate, h⟩ := bind_eq_ok.mp h
  obtain ⟨_, _, h⟩ := bind_eq_ok.mp h
  obtain ⟨_, hadvisories, h⟩ := bind_eq_ok.mp h
  obtain ⟨_, hoptional, h⟩ := bind_eq_ok.mp h
  cases h
  have htimeT := getDateFieldOf_isTimeT htime (fieldOrThrow_eq_ok.mp hdate)
  cases optionalField_eq_ok hoptional
  exact ⟨htimeT, getStringVecFieldOf_noNul hadvisories⟩

theorem IdentityTcbLevel.parse_recordable {v : Json} {l : IdentityTcbLevel}
    (h : parse env v = .ok l) : Recordable l.tcbDate l.advisoryIds := by
  obtain ⟨_, _, h⟩ := bind_eq_ok.mp h
  obtain ⟨_, _, h⟩ := bind_eq_ok.mp h
  obtain ⟨_, _, h⟩ := bind_eq_ok.mp h
  obtain ⟨_, _, h⟩ := bind_eq_ok.mp h
  obtain ⟨_, hdate, h⟩ := bind_eq_ok.mp h
  obtain ⟨_, hrequired, h⟩ := bind_eq_ok.mp h
  obtain ⟨_, _, h⟩ := bind_eq_ok.mp h
  obtain ⟨_, _, h⟩ := bind_eq_ok.mp h
  obtain ⟨_, _, h⟩ := bind_eq_ok.mp h
  obtain ⟨_, _, h⟩ := bind_eq_ok.mp h
  obtain ⟨_, hadvisories, h⟩ := bind_eq_ok.mp h
  obtain ⟨_, hoptional, h⟩ := bind_eq_ok.mp h
  cases h
  cases required_eq_ok.mp hrequired
  cases optionalField_eq_ok hoptional
  exact ⟨getDateFieldOf_isTimeT htime hdate, getStringVecFieldOf_noNul hadvisories⟩

theorem TdxModuleIdentity.parse_recordable {v : Json} {i : TdxModuleIdentity}
    (h : parse env v = .ok i) : ∀ l ∈ i.tcbLevels, Recordable l.tcbDate l.advisoryIDs := by
  obtain ⟨_, _, h⟩ := bind_eq_ok.mp h
  obtain ⟨_, _, h⟩ := bind_eq_ok.mp h
  obtain ⟨_, hlevels, h⟩ := bind_eq_ok.mp h
  obtain ⟨_, _, h⟩ := bind_eq_ok.mp h
  cases h
  obtain ⟨ls, hls, _, hperm⟩ := (emplaceEach_nil_eq_ok TdxModuleTcbLevel.comparesKeys
    fun _ _ _ => trivial).mp hlevels
  intro l hl
  exact mapM_forall (fun _ _ => TdxModuleTcbLevel.parse_recordable htime) hls l
    (hperm.mem_iff.mp hl)

end Dates

/-- The dates and the advisories of a TCB Info can be recorded. -/
structure TcbInfo.Recordable (t : TcbInfo) : Prop where
  issueDate : IsTimeT t.issueDate
  nextUpdate : IsTimeT t.nextUpdate
  levels : ∀ l ∈ t.tcbLevels, DcapQvl.Recordable l.tcbDate l.advisoryIDs
  moduleLevels : ∀ i ∈ t.tdxModuleIdentities, ∀ l ∈ i.tcbLevels,
    DcapQvl.Recordable l.tcbDate l.advisoryIDs

/-- The dates and the advisories of an identity can be recorded. -/
structure EnclaveIdentity.Recordable (i : EnclaveIdentity) : Prop where
  issueDate : IsTimeT i.issueDate
  nextUpdate : IsTimeT i.nextUpdate
  levels : ∀ l ∈ i.identityTcbLevels, DcapQvl.Recordable l.tcbDate l.advisoryIds

section Parse

variable {env : JsonEnv} (htime : ∀ s, IsTimeT (env.getEpochTimeFromString s))
include htime

theorem TcbInfo.parseFields_recordable {v sig : Json} {self t : TcbInfo}
    (h : parseFields env v sig self = .ok t) : IsTimeT t.issueDate ∧ IsTimeT t.nextUpdate := by
  obtain ⟨_, hissueDate, h⟩ := bind_eq_ok.mp h
  obtain ⟨_, hnextUpdate, h⟩ := bind_eq_ok.mp h
  obtain ⟨_, _, h⟩ := bind_eq_ok.mp h
  obtain ⟨_, _, h⟩ := bind_eq_ok.mp h
  obtain ⟨_, _, h⟩ := bind_eq_ok.mp h
  cases h
  exact ⟨getDateFieldOf_isTimeT htime (requiredField_eq_ok.mp hissueDate),
    getDateFieldOf_isTimeT htime (requiredField_eq_ok.mp hnextUpdate)⟩

theorem TcbInfo.parsePartV3_recordable {v : Json} {self t : TcbInfo}
    (h : parsePartV3 env v self = .ok t) (hself : self.tdxModuleIdentities = []) :
    ∀ i ∈ t.tdxModuleIdentities, ∀ l ∈ i.tcbLevels,
      DcapQvl.Recordable l.tcbDate l.advisoryIDs := by
  rw [parsePartV3] at h
  split_ifs at h
  · obtain ⟨_, _, h⟩ := bind_eq_ok.mp h
    obtain ⟨_, _, h⟩ := bind_eq_ok.mp h
    cases h
    simp [hself]
  · obtain ⟨_, _, h⟩ := bind_eq_ok.mp h
    cases hids : v.member? (str "tdxModuleIdentities") with
    | none =>
      rw [hids] at h
      cases h
      simp [hself]
    | some identitiesJson =>
      rw [hids] at h
      obtain ⟨is, his, h⟩ := bind_eq_ok.mp h
      cases h
      obtain ⟨_, _, his⟩ := bind_eq_ok.mp his
      obtain ⟨_, hidentities, his⟩ := bind_eq_ok.mp his
      obtain ⟨_, _, his⟩ := bind_eq_ok.mp his
      cases his
      intro i hi
      obtain ⟨_, _, hparse⟩ := exists_of_mem_mapM hidentities i hi
      exact TdxModuleIdentity.parse_recordable htime hparse
  · cases h
    simp [hself]

/-- Every TCB Info that is parsed can be recorded. -/
theorem TcbInfo.parse_recordable {jsonString : Bytes} {t : TcbInfo}
    (h : parse env jsonString = .ok t) : t.Recordable := by
  obtain ⟨⟨v, sig⟩, _, h⟩ := bind_eq_ok.mp h
  obtain ⟨⟨t₃, tcbs⟩, h₃, h⟩ := bind_eq_ok.mp h
  obtain ⟨t₄, h₄, h⟩ := bind_eq_ok.mp h
  obtain ⟨_, _, h⟩ := bind_eq_ok.mp h
  cases h
  obtain ⟨⟨t₂, tcbs'⟩, h₂, h₃⟩ := bind_eq_ok.mp h₃
  obtain ⟨t₃', h₃', h₃⟩ := bind_eq_ok.mp h₃
  cases h₃
  obtain ⟨t₀, h₀, h₂⟩ := bind_eq_ok.mp h₂
  obtain ⟨t₁, h₁, h₂⟩ := bind_eq_ok.mp h₂
  obtain ⟨_, _, h₂⟩ := bind_eq_ok.mp h₂
  obtain ⟨t₂', h₂', h₂⟩ := bind_eq_ok.mp h₂
  cases h₂
  obtain ⟨version, id, rfl, _⟩ := parseVersionAndId_eq_ok h₀
  have hdates := parseFields_recordable htime h₁
  have hnil₁ : t₁.tdxModuleIdentities = [] := by
    obtain ⟨_, _, _, _, _, rfl, _⟩ := parseFields_eq_ok h₁
    rfl
  have hpart₂ : t₂.issueDate = t₁.issueDate ∧ t₂.nextUpdate = t₁.nextUpdate ∧
      t₂.tdxModuleIdentities = [] := by
    rw [partSince] at h₂'
    split_ifs at h₂'
    · obtain ⟨_, _, rfl⟩ := parsePartV2_eq_ok h₂'
      exact ⟨rfl, rfl, hnil₁⟩
    · cases h₂'
      exact ⟨rfl, rfl, hnil₁⟩
  have hpart₃ : t₃.issueDate = t₁.issueDate ∧ t₃.nextUpdate = t₁.nextUpdate ∧
      ∀ i ∈ t₃.tdxModuleIdentities, ∀ l ∈ i.tcbLevels,
        DcapQvl.Recordable l.tcbDate l.advisoryIDs := by
    rw [partSince] at h₃'
    split_ifs at h₃'
    · have hlevels := parsePartV3_recordable htime h₃' hpart₂.2.2
      obtain ⟨_, _, rfl, _⟩ := parsePartV3_eq_ok h₃'
      exact ⟨hpart₂.1, hpart₂.2.1, hlevels⟩
    · cases h₃'
      exact ⟨hpart₂.1, hpart₂.2.1, by simp [hpart₂.2.2]⟩
  obtain ⟨_, _, h₄⟩ := bind_eq_ok.mp h₄
  obtain ⟨_, hlevels, h₄⟩ := bind_eq_ok.mp h₄
  obtain ⟨_, _, h₄⟩ := bind_eq_ok.mp h₄
  cases h₄
  obtain ⟨ls, hls, _, hperm⟩ := (emplaceEach_nil_eq_ok
    (TcbLevel.comparesKeys t₃.version t₃.id) fun _ _ => TcbLevel.parse_wellFormed).mp hlevels
  exact {
    issueDate := hpart₃.1 ▸ hdates.1
    nextUpdate := hpart₃.2.1 ▸ hdates.2
    levels := fun l hl => mapM_forall (fun _ _ => TcbLevel.parse_recordable htime) hls l
      (hperm.mem_iff.mp hl)
    moduleLevels := hpart₃.2.2 }

/-- Every identity that is parsed can be recorded. -/
theorem EnclaveIdentity.parse_recordable {jsonString : Bytes} {i : EnclaveIdentity}
    (h : parse env jsonString = .ok i) : i.Recordable := by
  obtain ⟨⟨v, sig⟩, _, h⟩ := bind_eq_ok.mp h
  obtain ⟨self, hself, h⟩ := bind_eq_ok.mp h
  obtain ⟨elems, _, h⟩ := bind_eq_ok.mp h
  obtain ⟨levels, hlevels, h⟩ := bind_eq_ok.mp h
  obtain ⟨_, _, h⟩ := bind_eq_ok.mp h
  obtain ⟨_, _, h⟩ := bind_eq_ok.mp h
  cases h
  obtain ⟨_, _, hself⟩ := bind_eq_ok.mp hself
  obtain ⟨_, _, hself⟩ := bind_eq_ok.mp hself
  obtain ⟨_, _, hself⟩ := bind_eq_ok.mp hself
  obtain ⟨_, _, hself⟩ := bind_eq_ok.mp hself
  obtain ⟨_, hissueDate, hself⟩ := bind_eq_ok.mp hself
  obtain ⟨_, hnextUpdate, hself⟩ := bind_eq_ok.mp hself
  obtain ⟨_, _, hself⟩ := bind_eq_ok.mp hself
  obtain ⟨_, _, hself⟩ := bind_eq_ok.mp hself
  obtain ⟨_, _, hself⟩ := bind_eq_ok.mp hself
  obtain ⟨_, _, hself⟩ := bind_eq_ok.mp hself
  obtain ⟨_, _, hself⟩ := bind_eq_ok.mp hself
  obtain ⟨_, _, hself⟩ := bind_eq_ok.mp hself
  obtain ⟨_, _, hself⟩ := bind_eq_ok.mp hself
  obtain ⟨_, _, hself⟩ := bind_eq_ok.mp hself
  cases hself
  obtain ⟨ls, hls, _, hperm⟩ := (emplaceEach_nil_eq_ok IdentityTcbLevel.comparesKeys
    fun _ _ _ => trivial).mp hlevels
  exact {
    issueDate := getDateFieldOf_isTimeT htime (fieldOrThrow_eq_ok.mp hissueDate)
    nextUpdate := getDateFieldOf_isTimeT htime (fieldOrThrow_eq_ok.mp hnextUpdate)
    levels := fun l hl => mapM_forall (fun _ _ => IdentityTcbLevel.parse_recordable htime) hls l
      (hperm.mem_iff.mp hl) }

end Parse

/-! ## What verification records -/

section Verify

variable {tcbInfo : TcbInfo} {enclaveIdentity : Option EnclaveIdentity}

/-- Whatever levels are selected, their earliest date and their advisories can be recorded. -/
theorem Selects.recordable {svns : PlatformSvns} {s : Selection} (hinfo : tcbInfo.Recordable)
    (hidentity : ∀ i ∈ enclaveIdentity, i.Recordable)
    (hs : Selects tcbInfo enclaveIdentity svns s) : Recordable s.earliest s.advisories := by
  obtain ⟨hplatform, hmodule, hqe⟩ := hs
  have hlevel := hinfo.levels _ hplatform.1
  have hmoduleLevel : ∀ l ∈ s.tdxModule, Recordable l.tcbDate l.advisoryIDs := by
    intro l hl
    unfold SelectsModule at hmodule
    cases htee : svns.teeTcbSvns with
    | none =>
      rw [htee] at hmodule
      rw [show s.tdxModule = none from hmodule] at hl
      cases hl
    | some tee =>
      rw [htee] at hmodule
      by_cases hmajor : majorSvn tee = 0
      · rw [show s.tdxModule = none by simpa [hmajor] using hmodule] at hl
        cases hl
      · simp only [if_neg hmajor] at hmodule
        obtain ⟨identity, level, hfind, hlevel, hfirst⟩ := hmodule
        rw [hlevel] at hl
        cases hl
        exact hinfo.moduleLevels identity (List.mem_of_find?_eq_some hfind) _ hfirst.1
  have hqeLevel : ∀ l ∈ s.qe, Recordable l.tcbDate l.advisoryIds := by
    intro l hl
    cases enclaveIdentity with
    | none =>
      rw [show s.qe = none from hqe] at hl
      cases hl
    | some i =>
      obtain ⟨level, hlevel, hfirst⟩ := hqe
      rw [hlevel] at hl
      cases hl
      exact (hidentity i rfl).levels _ hfirst.1
  constructor
  · have hmem : s.earliest ∈ s.dates := List.min_mem _
    rcases List.mem_cons.mp hmem with h | h
    · rw [h]
      exact hlevel.1
    · rcases List.mem_append.mp h with h | h
      · obtain ⟨l, hl, h⟩ := List.mem_map.mp h
        exact h ▸ (hmoduleLevel l (Option.mem_toList.mp hl)).1
      · obtain ⟨l, hl, h⟩ := List.mem_map.mp h
        exact h ▸ (hqeLevel l (Option.mem_toList.mp hl)).1
  · intro advisory hadvisory
    rcases List.mem_append.mp hadvisory with h | h
    · rcases List.mem_append.mp h with h | h
      · exact hlevel.2 advisory h
      · obtain ⟨l, hl, h⟩ := List.mem_flatMap.mp h
        exact (hqeLevel l (Option.mem_toList.mp hl)).2 advisory h
    · obtain ⟨l, hl, h⟩ := List.mem_flatMap.mp h
      exact (hmoduleLevel l (Option.mem_toList.mp hl)).2 advisory h

/-- The evaluations of a quote are made from selected levels. -/
theorem quoteEvaluations_recordable {pckCert : PckCertificate} {quote : Quote}
    {launch current : TcbEvaluation} (hinfo : tcbInfo.WellFormed)
    (hidentity : ∀ i ∈ enclaveIdentity, i.WellFormed) (htee : ForTee quote tcbInfo)
    (hinfoR : tcbInfo.Recordable) (hidentityR : ∀ i ∈ enclaveIdentity, i.Recordable)
    (h : quoteEvaluations tcbInfo pckCert quote enclaveIdentity = .ok (launch, current)) :
    Recordable launch.tcbDate launch.advisoryIds ∧
      Recordable current.tcbDate current.advisoryIds := by
  rcases htee with ⟨hsgx, -⟩ | ⟨htdx, hversion, hid⟩
  · rw [quoteEvaluations_sgx hsgx] at h
    obtain ⟨_, heval, h⟩ := bind_eq_ok.mp h
    cases h
    obtain ⟨s, hs, -, rfl⟩ := sgxEvaluation_ok hinfo hidentity heval
    have hrecordable := hs.recordable hinfoR hidentityR
    exact ⟨hrecordable, hrecordable⟩
  · rw [quoteEvaluations_tdx htdx] at h
    obtain ⟨evaluation, heval, h⟩ := bind_eq_ok.mp h
    obtain ⟨s, hs, -, rfl⟩ := tdxEvaluation_ok hinfo hidentity hversion hid heval
    have hrecordable := hs.recordable hinfoR hidentityR
    by_cases hbody : quote.body.bodyType ≥ bodyTdReport15Type
    · rw [if_pos hbody] at h
      obtain ⟨_, hcurrent, h⟩ := bind_eq_ok.mp h
      cases h
      obtain ⟨s', hs', -, rfl⟩ := tdxEvaluation_ok hinfo hidentity hversion hid hcurrent
      exact ⟨hrecordable, hs'.recordable hinfoR hidentityR⟩
    · rw [if_neg hbody] at h
      cases h
      exact ⟨hrecordable, hrecordable⟩

/-- The calls that verification makes. -/
def verifyUpdates (tcbInfo : TcbInfo) (enclaveIdentity : Option EnclaveIdentity)
    (launch current : TcbEvaluation) (launchName currentName : Bytes) : List Update :=
  enclaveIdentity.toList.map .enclaveIdentityData ++
    [.currentInfo current.tcbDate current.advisoryIds currentName,
      .launchInfo launch.tcbDate launch.advisoryIds launchName, .tcbInfoData tcbInfo, .filled]

theorem afterUpdates_verifyUpdates (tcbInfo : TcbInfo) (enclaveIdentity : Option EnclaveIdentity)
    (launch current : TcbEvaluation) (launchName currentName : Bytes) :
    afterUpdates (verifyUpdates tcbInfo enclaveIdentity launch current launchName currentName) =
      (withIdentityData .initial enclaveIdentity).recorded tcbInfo launch current launchName
        currentName := by
  cases enclaveIdentity with
  | none => rfl
  | some _ => rfl

/-- What these calls add. -/
theorem verifyUpdates_adds (tcbInfo : TcbInfo) (enclaveIdentity : Option EnclaveIdentity)
    (launch current : TcbEvaluation) (launchName currentName : Bytes) :
    let updates := verifyUpdates tcbInfo enclaveIdentity launch current launchName currentName
    updates.flatMap Update.tcbDates = [current.tcbDate, launch.tcbDate] ∧
      updates.flatMap Update.issueDates =
        enclaveIdentity.toList.map EnclaveIdentity.issueDate ++ [tcbInfo.issueDate] ∧
      updates.flatMap Update.nextUpdates =
        enclaveIdentity.toList.map EnclaveIdentity.nextUpdate ++ [tcbInfo.nextUpdate] ∧
      updates.flatMap Update.tcbEvalNumbers =
        enclaveIdentity.toList.map EnclaveIdentity.tcbEvaluationDataNumber ++
          [tcbInfo.tcbEvaluationDataNumber] ∧
      updates.flatMap Update.statuses = [currentName, launchName] ∧
      updates.flatMap Update.launchAdvisories = launch.advisoryIds ∧
      updates.flatMap Update.currentAdvisories = current.advisoryIds := by
  cases enclaveIdentity <;>
    simp [verifyUpdates, Update.tcbDates, Update.issueDates, Update.nextUpdates,
      Update.tcbEvalNumbers, Update.statuses, Update.launchAdvisories, Update.currentAdvisories]

theorem fills_verifyUpdates {launch current : TcbEvaluation} {launchName currentName : Bytes}
    (hinfo : tcbInfo.Recordable) (hidentity : ∀ i ∈ enclaveIdentity, i.Recordable)
    (hlaunch : Recordable launch.tcbDate launch.advisoryIds)
    (hcurrent : Recordable current.tcbDate current.advisoryIds)
    (hlaunchName : (launch.tcbStatus, launchName) ∈ statusToTcbStringMap)
    (hcurrentName : (current.tcbStatus, currentName) ∈ statusToTcbStringMap) :
    Fills (verifyUpdates tcbInfo enclaveIdentity launch current launchName currentName) := by
  obtain ⟨htcbDates, hissueDates, hnextUpdates, -, hstatuses, hlaunchIds, hcurrentIds⟩ :=
    verifyUpdates_adds tcbInfo enclaveIdentity launch current launchName currentName
  constructor
  · rw [afterUpdates_verifyUpdates]
    rfl
  · exact ⟨tcbInfo, by simp [verifyUpdates]⟩
  · rw [hstatuses]
    intro name hname
    rcases List.mem_pair.mp hname with rfl | rfl
    · exact ⟨_, hcurrentName⟩
    · exact ⟨_, hlaunchName⟩
  · rw [hlaunchIds, hcurrentIds]
    intro advisory hadvisory
    exact (List.mem_append.mp hadvisory).elim (hlaunch.2 advisory) (hcurrent.2 advisory)
  · rw [htcbDates, hissueDates, hnextUpdates]
    intro t ht
    rcases List.mem_append.mp ht with ht | ht
    · rcases List.mem_pair.mp ht with rfl | rfl
      · exact hcurrent.1
      · exact hlaunch.1
    · simp only [List.mem_append, List.mem_map, Option.mem_toList, List.mem_singleton] at ht
      rcases ht with (⟨i, hi, rfl⟩ | rfl) | ⟨i, hi, rfl⟩ | rfl
      · exact (hidentity i hi).issueDate
      · exact hinfo.issueDate
      · exact (hidentity i hi).nextUpdate
      · exact hinfo.nextUpdate

/-- A status, a date and an advisory string of a record tell an evaluation. -/
structure Tells (evaluation : TcbEvaluation) (status : Bytes) (date : ℤ) (advisories : Bytes) :
    Prop where
  status : (evaluation.tcbStatus, status) ∈ statusToTcbStringMap
  date : date = evaluation.tcbDate
  advisories : ∃ ids, Enumerates ids evaluation.advisoryIds ∧ advisories = joined ids

/-- The dates and the data number of a record are those of the collateral. -/
structure DatesCollateral (tcbInfo : TcbInfo) (enclaveIdentity : Option EnclaveIdentity)
    (r : CollateralRecord) : Prop where
  issueDateMin : IsLeast {t | t ∈ enclaveIdentity.toList.map EnclaveIdentity.issueDate ++
    [tcbInfo.issueDate]} r.issueDateMin
  issueDateMax : IsGreatest {t | t ∈ enclaveIdentity.toList.map EnclaveIdentity.issueDate ++
    [tcbInfo.issueDate]} r.issueDateMax
  expirationDate : IsLeast {t | t ∈ enclaveIdentity.toList.map EnclaveIdentity.nextUpdate ++
    [tcbInfo.nextUpdate]} r.expirationDate
  tcbEvaluationDataNumber : IsLeast {n | n ∈
    (enclaveIdentity.toList.map EnclaveIdentity.tcbEvaluationDataNumber ++
      [tcbInfo.tcbEvaluationDataNumber]).map UInt32.toNat} r.tcbEvaluationDataNumber

section Filled

variable {Key : Type} {env : JsonEnv} (htime : ∀ s, IsTimeT (env.getEpochTimeFromString s))
  {quote : Quote} (htee : quote.header.teeType ∈ allowedTeeTypes) {text : Bytes}
  (hinfo : TcbInfo.parse env text = .ok tcbInfo)
  (hidentity : ∀ i ∈ enclaveIdentity, ∃ text, EnclaveIdentity.parse env text = .ok i)
  (crypto : Crypto Key) (pckCert : PckCertificate) (crl : CrlStore)
  (hfilled : (verify crypto quote pckCert crl tcbInfo enclaveIdentity .initial).2.isFilled = true)
include htime htee hinfo hidentity hfilled

/-- What verification fills is one of the objects whose record is described. -/
theorem verify_fills :
    ∃ launch current launchName currentName,
      quoteEvaluations tcbInfo pckCert quote enclaveIdentity = .ok (launch, current) ∧
      (launch.tcbStatus, launchName) ∈ statusToTcbStringMap ∧
      (current.tcbStatus, currentName) ∈ statusToTcbStringMap ∧
      Fills (verifyUpdates tcbInfo enclaveIdentity launch current launchName currentName) ∧
      verify crypto quote pckCert crl tcbInfo enclaveIdentity .initial =
        (.ok launch.tcbStatus, afterUpdates
          (verifyUpdates tcbInfo enclaveIdentity launch current launchName currentName)) := by
  have hwf := TcbInfo.parse_wellFormed hinfo
  have hidentityWf : ∀ i ∈ enclaveIdentity, i.WellFormed := by
    intro i hi
    obtain ⟨_, hparse⟩ := hidentity i hi
    exact EnclaveIdentity.parse_wellFormed hparse
  have hidentityR : ∀ i ∈ enclaveIdentity, i.Recordable := by
    intro i hi
    obtain ⟨_, hparse⟩ := hidentity i hi
    exact EnclaveIdentity.parse_recordable htime hparse
  have hinfoR := TcbInfo.parse_recordable htime hinfo
  rcases verify_cases crypto quote pckCert crl tcbInfo enclaveIdentity
      (show VerificationCollateralInfo.initial.isFilled = false from rfl) with
    ⟨launch, current, launchName, currentName, hlaunchName, hcurrentName, hresult⟩ |
      ⟨hnot, _⟩
  · have hverdict : launch.tcbStatus.IsTcbVerdict := List.mem_map_of_mem hlaunchName
    have hchecks : ChecksPass crypto quote pckCert crl tcbInfo enclaveIdentity :=
      ChecksPass.of_status (Or.inl hverdict) (congrArg Prod.fst hresult)
    obtain ⟨_, _, hrest⟩ := bind_eq_ok.mp hchecks.1
    obtain ⟨_, htcb, _⟩ := bind_eq_ok.mp hrest
    have hfor := (checkTcbInfo_ok hwf htee htcb).1
    have hcheck : verify crypto quote pckCert crl tcbInfo enclaveIdentity .initial = _ :=
      verify_eq hchecks
    cases heval : quoteEvaluations tcbInfo pckCert quote enclaveIdentity with
    | error status =>
      rw [hcheck, checkTcbLevel_of_error heval, withIdentityData_isFilled] at hfilled
      cases hfilled
    | ok evaluations =>
      obtain ⟨launch, current⟩ := evaluations
      obtain ⟨launchName, currentName, hlaunchName, hcurrentName, hrecorded⟩ :=
        @checkTcbLevel_of_evaluations _ _ _ _ (withIdentityData .initial enclaveIdentity) _ _ heval
      obtain ⟨hlaunchR, hcurrentR⟩ :=
        quoteEvaluations_recordable hwf hidentityWf hfor hinfoR hidentityR heval
      refine ⟨launch, current, launchName, currentName, rfl, hlaunchName, hcurrentName,
        fills_verifyUpdates hinfoR hidentityR hlaunchR hcurrentR hlaunchName hcurrentName, ?_⟩
      rw [hcheck, hrecorded, afterUpdates_verifyUpdates]
  · rw [hnot] at hfilled
    cases hfilled

/-- **The record of a verification.** Verification that fills its object returns the verdict
    of the launch evaluation, and a record that is made of the object has 1048 bytes and tells
    the launch and the current evaluation of the quote, the earliest and the latest issue date
    of the collateral, when the first of it expires and its lowest data number. -/
theorem verify_record :
    ∃ launch current,
      quoteEvaluations tcbInfo pckCert quote enclaveIdentity = .ok (launch, current) ∧
      (verify crypto quote pckCert crl tcbInfo enclaveIdentity .initial).1 =
        .ok launch.tcbStatus ∧
      ∀ record, (verify crypto quote pckCert crl tcbInfo enclaveIdentity
          .initial).2.aggregateDataAndParseToVec = .ok record →
        record.length = 1048 ∧
        Tells launch (readRecord record).launchTcbStatus (readRecord record).launchTcbDate
          (readRecord record).launchAdvisoryIds ∧
        Tells current (readRecord record).currentTcbStatus (readRecord record).currentTcbDate
          (readRecord record).currentAdvisoryIds ∧
        DatesCollateral tcbInfo enclaveIdentity (readRecord record) := by
  obtain ⟨launch, current, launchName, currentName, heval, hlaunchName, hcurrentName, hfills,
    hverify⟩ := verify_fills htime htee hinfo hidentity crypto pckCert crl hfilled
  refine ⟨launch, current, heval, congrArg Prod.fst hverify, fun record hrecord => ?_⟩
  rw [hverify] at hrecord
  obtain ⟨hlength, hreads⟩ := hfills.reads_record hrecord
  have hcollected := collected_afterUpdates
    (verifyUpdates tcbInfo enclaveIdentity launch current launchName currentName)
  obtain ⟨-, hissueDates, hnextUpdates, hnumbers, -, hlaunchIds, hcurrentIds⟩ :=
    verifyUpdates_adds tcbInfo enclaveIdentity launch current launchName currentName
  have hlaunch := hcollected.launchAdvisories
  have hcurrent := hcollected.currentAdvisories
  rw [hlaunchIds] at hlaunch
  rw [hcurrentIds] at hcurrent
  have hinfoMembers :=
    afterUpdates_verifyUpdates tcbInfo enclaveIdentity launch current launchName currentName
  refine ⟨hlength, ⟨?_, ?_, _, hlaunch, hreads.launchAdvisoryIds⟩,
    ⟨?_, ?_, _, hcurrent, hreads.currentAdvisoryIds⟩, ⟨?_, ?_, ?_, ?_⟩⟩
  · rw [hreads.launchTcbStatus, hinfoMembers]
    exact hlaunchName
  · rw [hreads.launchTcbDate, hinfoMembers]
    rfl
  · rw [hreads.currentTcbStatus, hinfoMembers]
    exact hcurrentName
  · rw [hreads.currentTcbDate, hinfoMembers]
    rfl
  · rw [← hissueDates]
    exact hreads.issueDateMin
  · rw [← hissueDates]
    exact hreads.issueDateMax
  · rw [← hnextUpdates]
    exact hreads.expirationDate
  · rw [← hnumbers]
    exact hreads.tcbEvaluationDataNumber

end Filled

theorem sampleQeIdentity_parse_inEnclave :
    EnclaveIdentity.parse sampleDocuments.inEnclave sampleIdentityDocument.render =
      .ok sampleQeIdentity := by
  decide +kernel

/-- What the enclave verifies of a quote that is up to date is recorded as up to date. -/
theorem verify_record_sample :
    ∃ record, (verify sampleCrypto QuoteLayout.sampleUpToDate.quote samplePckCertificate sampleCrl
        sampleInfo (some sampleQeIdentity) .initial).2.aggregateDataAndParseToVec = .ok record ∧
      record.length = 1048 ∧ (readRecord record).launchTcbStatus = str "UpToDate" ∧
      DatesCollateral sampleInfo (some sampleQeIdentity) (readRecord record) := by
  have hidentity : ∀ i ∈ some sampleQeIdentity,
      ∃ text, EnclaveIdentity.parse sampleDocuments.inEnclave text = .ok i := by
    intro i hi
    rw [← Option.mem_some_iff.mp hi]
    exact ⟨_, sampleQeIdentity_parse_inEnclave⟩
  have hfilled : (verify sampleCrypto QuoteLayout.sampleUpToDate.quote samplePckCertificate
      sampleCrl sampleInfo (some sampleQeIdentity) .initial).2.isFilled = true := by decide +kernel
  obtain ⟨launch, current, -, hverdict, hrecord⟩ := verify_record inEnclave_isTimeT
    (by decide +kernel) sampleInfo_parse_inEnclave hidentity sampleCrypto samplePckCertificate
    sampleCrl hfilled
  have hok : ((verify sampleCrypto QuoteLayout.sampleUpToDate.quote samplePckCertificate sampleCrl
      sampleInfo (some sampleQeIdentity) .initial).2.aggregateDataAndParseToVec).toOption.isSome =
      true := by decide +kernel
  cases hresult : (verify sampleCrypto QuoteLayout.sampleUpToDate.quote samplePckCertificate
      sampleCrl sampleInfo (some sampleQeIdentity) .initial).2.aggregateDataAndParseToVec with
  | error e =>
    rw [hresult] at hok
    cases hok
  | ok record =>
    obtain ⟨hlength, hlaunch, -, hdates⟩ := hrecord record hresult
    have hstatus : launch.tcbStatus = .ok := by
      have hcheck : (verify sampleCrypto QuoteLayout.sampleUpToDate.quote samplePckCertificate
          sampleCrl sampleInfo (some sampleQeIdentity) .initial).1 = .ok .ok := by decide +kernel
      rw [hcheck] at hverdict
      exact (Except.ok.inj hverdict).symm
    have hname : ∀ p ∈ statusToTcbStringMap, p.1 = .ok → p.2 = str "UpToDate" := by decide
    exact ⟨record, rfl, hlength, hname _ hlaunch.status hstatus, hdates⟩

end Verify

end DcapQvl
