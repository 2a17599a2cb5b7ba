import DcapQvl.Json.TcbLevel

/-!
# TCB Info

Models of `TdxModule.cpp`, `TdxModuleTcb.cpp`, `TdxModuleTcbLevel.cpp`,
`TdxModuleIdentity.cpp` and `TcbInfo.cpp`. A `std::set` of levels is the list of
its elements in iteration order, the greatest first.

Results:
* `TcbInfo.parse_eq_ok`: what holds of every parsed TCB Info.
* `TcbInfo.parse_eq_duplicate`, `TdxModuleIdentity.parse_eq_duplicate`: when
  duplicated levels are reported.
-/

namespace DcapQvl

open Lib

/-- `constants::FMSPC_BYTE_LEN` and `PCEID_BYTE_LEN`. -/
def fmspcByteLen : ℕ := 6
def pceidByteLen : ℕ := 2

/-- `MAX_TCB_INFO_JSON_DEPTH`. -/
def maxTcbInfoJsonDepth : ℕ := 32

/-! ## TDX module -/

structure TdxModule where
  mrsigner : Bytes
  attributes : Bytes
  attributesMask : Bytes
  deriving DecidableEq, Repr

/-- `TdxModule::TdxModule(tdxModule)`. -/
def TdxModule.parse (tdxModule : Json) : Except Exn TdxModule := do
  throwUnless tdxModule.isObject (.format (str "TDX Module should be an object"))
  let mrsigner ← fieldOrThrow (.format (str
    "TDX Module JSON should have [mrsigner] field and it should be 48 bytes encoded as hexstring"))
    (getBytesFieldOf 96 tdxModule (str "mrsigner"))
  let attributes ← fieldOrThrow (.format (str
    "TDX Module JSON should have [attributes] field and it should be 8 bytes encoded as hexstring"))
    (getBytesFieldOf 16 tdxModule (str "attributes"))
  let attributesMask ← fieldOrThrow (.format (str
    "TDX Module JSON should have [attributesMask] field and it should be 8 bytes encoded as hexstring"))
    (getBytesFieldOf 16 tdxModule (str "attributesMask"))
  pure { mrsigner, attributes, attributesMask }

/-! ## TDX module identities -/

structure TdxModuleTcb where
  isvsvn : UInt16
  deriving DecidableEq, Repr

/-- `TdxModuleTcb::TdxModuleTcb(tdxModuleTcb)`. -/
def TdxModuleTcb.parse (tdxModuleTcb : Json) : Except Exn TdxModuleTcb := do
  let isvsvn ← fieldOrThrow (.format (str
    "TDX Module TCB JSON's [isvsvn] field should be an unsigned integer"))
    (getIntFieldOf tdxModuleTcb (str "isvsvn"))
  throwUnless (¬ (isvsvn < 0 ∨ isvsvn > 65535)) (.format (str
    "TDX Module TCB JSON's [isvsvn] field value should be within 0 and " ++ toStr 65535))
  pure { isvsvn := UInt16.ofNat isvsvn.toNat }

structure TdxModuleTcbLevel where
  tcb : TdxModuleTcb
  tcbDate : ℤ
  tcbStatus : Bytes
  advisoryIDs : List Bytes
  deriving DecidableEq, Repr

/-- `TdxModuleTcbLevel::TdxModuleTcbLevel(tdxModuleTcbLevel)`; any status is taken. -/
def TdxModuleTcbLevel.parse (env : JsonEnv) (tdxModuleTcbLevel : Json) :
    Except Exn TdxModuleTcbLevel := do
  throwUnless tdxModuleTcbLevel.isObject
    (.format (str "TDX Module TCB level should be a JSON object"))
  let tcb ← TdxModuleTcb.parse (← memberOrThrow tdxModuleTcbLevel (str "tcb")
    (.format (str "TDX Module TCB level JSON should have [tcb] field")))
  let tcbDate ← fieldOrThrow (.format (str
    "TDX Module TCB Level JSON's [tcbDate] field should be a string compliant to ISO 8601"))
    (getDateFieldOf env tdxModuleTcbLevel (str "tcbDate"))
  let tcbStatus ← fieldOrThrow (.format (str
    "TDX Module TCB Level JSON's [tcbStatus] field should be a string"))
    (getStringFieldOf tdxModuleTcbLevel (str "tcbStatus"))
  let advisoryIDs ← optionalField (.format (str
    "TDX Module TCB Level JSON's [advisoryIDs] field should be a string array"))
    (← getStringVecFieldOf tdxModuleTcbLevel (str "advisoryIDs"))
  pure { tcb, tcbDate, tcbStatus, advisoryIDs }

/-- `TdxModuleTcbLevel::operator>`. -/
def TdxModuleTcbLevel.greater (l other : TdxModuleTcbLevel) : Bool :=
  l.tcb.isvsvn > other.tcb.isvsvn

structure TdxModuleIdentity where
  id : Bytes
  mrsigner : Bytes
  attributes : Bytes
  attributesMask : Bytes
  tcbLevels : List TdxModuleTcbLevel
  deriving DecidableEq, Repr

/-- The exception for a duplicated level of a module identity. -/
def TdxModuleIdentity.duplicatedLevels : Exn :=
  .format (str "Detected duplicated TDX Module Identity TCB levels")

/-- The fields of an identity before its levels. -/
def TdxModuleIdentity.parseFields (tdxModuleIdentity : Json) : Except Exn TdxModuleIdentity := do
  let id ← fieldOrThrow (.format (str
    "TDX Module Identity JSON's [id] field should be a string"))
    (getStringFieldOf tdxModuleIdentity (str "id"))
  let mrsigner ← fieldOrThrow (.format (str
    "TDX Module Identity JSON's [mrsigner] field should be a hex encoded string"))
    (getBytesFieldOf 96 tdxModuleIdentity (str "mrsigner"))
  let attributes ← fieldOrThrow (.format (str
    "TDX Module Identity JSON's [attributes] field should be a hex encoded string"))
    (getBytesFieldOf 16 tdxModuleIdentity (str "attributes"))
  let attributesMask ← fieldOrThrow (.format (str
    "TDX Module Identity JSON's [attributesMask] field should be a hex encoded string"))
    (getBytesFieldOf 16 tdxModuleIdentity (str "attributesMask"))
  pure { id, mrsigner, attributes, attributesMask, tcbLevels := [] }

/-- The array of levels of an identity. -/
def TdxModuleIdentity.levelsOf (tdxModuleIdentity : Json) : Except Exn (List Json) := do
  let tcbLevels ← memberOrThrow tdxModuleIdentity (str "tcbLevels")
    (.format (str "TDX Module Identity JSON should have a [tcbLevels] field"))
  elemsOrThrow tcbLevels
    (.format (str "[tcbLevels] field of TDX Module Identity JSON should be a nonempty array"))

/-- `TdxModuleIdentity::TdxModuleIdentity(tdxModuleIdentity)`. -/
def TdxModuleIdentity.parse (env : JsonEnv) (tdxModuleIdentity : Json) :
    Except Exn TdxModuleIdentity := do
  let self ← parseFields tdxModuleIdentity
  let elems ← levelsOf tdxModuleIdentity
  let tcbLevels ← emplaceEach TdxModuleTcbLevel.greater (TdxModuleTcbLevel.parse env)
    duplicatedLevels elems []
  throwUnless (tcbLevels ≠ []) (.format (str "Number of parsed [tcbLevels] should not be 0"))
  pure { self with tcbLevels }

/-! ## TCB Info -/

structure TcbInfo where
  id : Bytes
  version : UInt32
  issueDate : ℤ
  nextUpdate : ℤ
  fmspc : Bytes
  pceId : Bytes
  tcbLevels : List TcbLevel
  signature : Bytes
  infoBody : Bytes
  tcbType : ℤ
  tcbEvaluationDataNumber : UInt32
  tdxModule : TdxModule
  tdxModuleIdentities : List TdxModuleIdentity
  deriving DecidableEq, Repr

namespace TcbInfo

/-- The exception for a duplicated level. -/
def duplicatedLevels : Exn := .invalidExtension (str "Detected duplicated TCB levels")

/-- `getId()`. -/
def getId (t : TcbInfo) : Except Exn Bytes :=
  if t.version = versionV3 then .ok t.id
  else .error (.format (str "TCB identifier is not a valid field in TCB Info V2 structure"))

/-- `getTdxModule()`. -/
def getTdxModule (t : TcbInfo) : Except Exn TdxModule := do
  throwUnless (¬ t.version < versionV3) (.format (str
    "TdxModule is not a valid field in TCB Info V1 and V2 structure"))
  throwUnless (t.id = tdxId) (.format (str "TdxModule is only valid for TDX TCB Info"))
  pure t.tdxModule

/-- `getTdxModuleIdentities()`. -/
def getTdxModuleIdentities (t : TcbInfo) : Except Exn (List TdxModuleIdentity) := do
  throwUnless (¬ t.version < versionV3) (.format (str
    "TdxModuleIdentities is not a valid field in TCB Info V1 and V2 structure"))
  throwUnless (t.id = tdxId) (.format (str
    "TdxModuleIdentities is only valid for TDX TCB Info"))
  pure t.tdxModuleIdentities

/-- The default members of a TCB Info. -/
def initial : TcbInfo :=
  { id := [], version := versionV2, issueDate := 0, nextUpdate := 0, fmspc := [], pceId := [],
    tcbLevels := [], signature := [], infoBody := [], tcbType := 0,
    tcbEvaluationDataNumber := 0,
    tdxModule := { mrsigner := [], attributes := [], attributesMask := [] },
    tdxModuleIdentities := [] }

/-- A field of the TCB Info that must be there. -/
def requiredField {T : Type} (name invalid : Bytes) (field : Except Exn (T × ParseStatus)) :
    Except Exn T := do
  required (.format (str "TCB Info JSON should has [" ++ name ++ str "] field"))
    (.invalidExtension invalid) (← field)

/-- The version and the identifier. -/
def parseVersionAndId (tcbInfo : Json) (self : TcbInfo) : Except Exn TcbInfo := do
  let version ← requiredField (str "version")
    (str "Could not parse [version] field of TCB info JSON to integer")
    (getUintFieldOf tcbInfo (str "version"))
  throwUnless (version = versionV2 ∨ version = versionV3) (.invalidExtension
    (str "Unsupported version[" ++ toStr version.toNat ++
      str "] value for field of TCB info JSON. Supported versions are [" ++
      toStr versionV2.toNat ++ str " | " ++ toStr versionV3.toNat ++ str "]"))
  if version = versionV3 then do
    let id ← requiredField (str "id") (str "Could not parse [id] field of TCB info JSON to string")
      (getStringFieldOf tcbInfo (str "id"))
    throwUnless (id = sgxId ∨ id = tdxId) (.invalidExtension
      (str "Unsupported id[" ++ id ++
        str "] value for field of TCB info JSON. Supported identifiers are [" ++
        sgxId ++ str " | " ++ tdxId ++ str "]"))
    pure { self with version, id }
  else pure { self with version, id := sgxId }

/-- The fields from the issue date to the signature. -/
def parseFields (env : JsonEnv) (tcbInfo signatureField : Json) (self : TcbInfo) :
    Except Exn TcbInfo := do
  let issueDate ← requiredField (str "issueDate")
    (str "Could not parse [issueDate] field of TCB info JSON to date. [issueDate] should be ISO formatted date")
    (getDateFieldOf env tcbInfo (str "issueDate"))
  let nextUpdate ← requiredField (str "nextUpdate")
    (str "Could not parse [nextUpdate] field of TCB info JSON to date. [nextUpdate] should be ISO formatted date")
    (getDateFieldOf env tcbInfo (str "nextUpdate"))
  let fmspc ← requiredField (str "fmspc")
    (str "Could not parse [fmspc] field of TCB info JSON to bytes")
    (getBytesFieldOf (fmspcByteLen * 2) tcbInfo (str "fmspc"))
  let pceId ← requiredField (str "pceId")
    (str "Could not parse [pceId] field of TCB info JSON to bytes")
    (getBytesFieldOf (pceidByteLen * 2) tcbInfo (str "pceId"))
  let signature ← parseSignature (str
    "Could not parse [signature] field of TCB info JSON to bytes") signatureField
  pure { self with issueDate, nextUpdate, fmspc, pceId, signature }

/-- `parsePartV2`. -/
def parsePartV2 (tcbInfo : Json) (self : TcbInfo) : Except Exn TcbInfo := do
  let tcbType ← requiredField (str "tcbType")
    (str "Could not parse [tcbType] field of TCB Info JSON to number")
    (getIntFieldOf tcbInfo (str "tcbType"))
  throwUnless (tcbType = 0) (.invalidExtension
    (str "TcbInfo TCB Type (" ++ str (toString tcbType) ++
      str ") is not supported. Supported types are: [0]"))
  let tcbEvaluationDataNumber ← requiredField (str "tcbEvaluationDataNumber")
    (str "Could not parse [tcbEvaluationDataNumber] field of TCB Info JSON to number")
    (getUintFieldOf tcbInfo (str "tcbEvaluationDataNumber"))
  pure { self with tcbType, tcbEvaluationDataNumber }

/-- The array of module identities, read with `emplace_back`. -/
def parseTdxModuleIdentities (env : JsonEnv) (tdxModuleIdentities : Json) :
    Except Exn (List TdxModuleIdentity) := do
  let elems ← elemsOrThrow tdxModuleIdentities (.invalidExtension (str
    "[tdxModuleIdentities] field of TCB info JSON should be a nonempty array"))
  let identities ← elems.mapM (TdxModuleIdentity.parse env)
  throwUnless (identities ≠ []) (.invalidExtension (str
    "Number of parsed [tdxModuleIdentities] should not be 0"))
  pure identities

/-- The `[tdxModule]` field. -/
def parseTdxModule (tcbInfo : Json) : Except Exn TdxModule := do
  let tdxModuleJson ← memberOrThrow tcbInfo (str "tdxModule") (.invalidExtension (str
    "TCB Info JSON for TDX should have [tdxModule] field"))
  throwUnless tdxModuleJson.isObject (.format (str "[tdxModule] field should be an object"))
  TdxModule.parse tdxModuleJson

/-- `parsePartV3`. -/
def parsePartV3 (env : JsonEnv) (tcbInfo : Json) (self : TcbInfo) : Except Exn TcbInfo := do
  if self.id = sgxId then do
    throwUnless (¬ tcbInfo.hasMember (str "tdxModule")) (.invalidExtension (str
      "TCB Info JSON for SGX should not have [tdxModule] field"))
    throwUnless (¬ tcbInfo.hasMember (str "tdxModuleIdentities")) (.invalidExtension (str
      "TCB Info JSON for SGX should not have [tdxModuleIdentities] field"))
    pure self
  else if self.id = tdxId then do
    let tdxModule ← parseTdxModule tcbInfo
    match tcbInfo.member? (str "tdxModuleIdentities") with
    | none => pure { self with tdxModule }
    | some identitiesJson => do
      let tdxModuleIdentities ← parseTdxModuleIdentities env identitiesJson
      pure { self with tdxModule, tdxModuleIdentities }
  else pure self

/-- The loop over `[tcbLevels]`. -/
def parseTcbLevels (env : JsonEnv) (tcbs : Json) (self : TcbInfo) : Except Exn TcbInfo := do
  let elems ← elemsOrThrow tcbs (.invalidExtension (str
    "[tcbLevels] field of TCB info JSON should be a nonempty array"))
  let tcbLevels ← emplaceEach TcbLevel.greater (TcbLevel.parse env self.version self.id)
    duplicatedLevels elems []
  throwUnless (tcbLevels ≠ []) (.invalidExtension (str
    "Number of parsed [tcbLevels] should not be 0"))
  pure { self with tcbLevels }

/-- The document, its `[tcbInfo]` object and its `[signature]` field. -/
def parseDocument (env : JsonEnv) (jsonString : Bytes) : Except Exn (Json × Json) := do
  let document ← documentOrThrow env jsonString (.format (str "Could not parse TCB info JSON"))
  let tcbInfo ← memberOrThrow document (str "tcbInfo")
    (.format (str "Missing [tcbInfo] field of TCB info JSON"))
  throwUnless tcbInfo.isObject
    (.format (str "[tcbInfo] field of TCB info JSON should be an object"))
  let signatureField ← memberOrThrow document (str "signature")
    (.invalidExtension (str "Missing [signature] field of TCB info JSON"))
  pure (tcbInfo, signatureField)

/-- A part that is there from some version on. -/
def partSince (version : UInt32) (part : TcbInfo → Except Exn TcbInfo) (self : TcbInfo) :
    Except Exn TcbInfo :=
  if self.version ≥ version then part self else .ok self

/-- Everything before `parsePartV3`; the second component is the `[tcbLevels]` field. -/
def parseUntilPartV3 (env : JsonEnv) (tcbInfo signatureField : Json) :
    Except Exn (TcbInfo × Json) := do
  let self ← parseVersionAndId tcbInfo initial
  let self ← parseFields env tcbInfo signatureField self
  let tcbs ← memberOrThrow tcbInfo (str "tcbLevels")
    (.invalidExtension (str "Missing [tcbLevels] field of TCB info JSON"))
  let self ← partSince versionV2 (parsePartV2 tcbInfo) self
  pure (self, tcbs)

/-- Everything before the levels. -/
def parseUntilLevels (env : JsonEnv) (tcbInfo signatureField : Json) :
    Except Exn (TcbInfo × Json) := do
  let (self, tcbs) ← parseUntilPartV3 env tcbInfo signatureField
  let self ← partSince versionV3 (parsePartV3 env tcbInfo) self
  pure (self, tcbs)

/-- `TcbInfo::TcbInfo(jsonString)`. -/
def parse (env : JsonEnv) (jsonString : Bytes) : Except Exn TcbInfo := do
  let (tcbInfo, signatureField) ← parseDocument env jsonString
  let (self, tcbs) ← parseUntilLevels env tcbInfo signatureField
  let self ← parseTcbLevels env tcbs self
  throwUnless (isWithinJsonDepthLimit tcbInfo maxTcbInfoJsonDepth) (.invalidExtension (str
    "[tcbInfo] field of TCB info JSON is nested too deeply"))
  pure { self with infoBody := env.write 25 tcbInfo }

end TcbInfo

/-! ## What is parsed -/

/-- The order of module levels: by ISV SVN, the greatest first. -/
def TdxModuleTcbLevel.key (l : TdxModuleTcbLevel) : ℕᵒᵈ := OrderDual.toDual l.tcb.isvsvn.toNat

theorem TdxModuleTcbLevel.comparesKeys : ComparesKeys (fun _ => True) greater key := by
  intro l m _ _
  rw [greater, decide_eq_true_iff, GT.gt, UInt16.lt_iff_toNat_lt, key, key,
    OrderDual.toDual_lt_toDual]

/-- What holds of every module identity that is parsed. -/
structure TdxModuleIdentity.WellFormed (i : TdxModuleIdentity) : Prop where
  mrsigner_length : i.mrsigner.length = 48
  attributes_length : i.attributes.length = 8
  attributesMask_length : i.attributesMask.length = 8
  levels_sorted : KeysIncrease TdxModuleTcbLevel.key i.tcbLevels
  levels_ne_nil : i.tcbLevels ≠ []

theorem TdxModuleIdentity.parse_wellFormed {env : JsonEnv} {v : Json} {i : TdxModuleIdentity}
    (h : parse env v = .ok i) : i.WellFormed := by
  obtain ⟨self, hself, h⟩ := bind_eq_ok.mp h
  obtain ⟨elems, _, h⟩ := bind_eq_ok.mp h
  obtain ⟨levels, hlevels, h⟩ := bind_eq_ok.mp h
  obtain ⟨_, hne, h⟩ := bind_eq_ok.mp h
  cases h
  obtain ⟨id, _, hself⟩ := bind_eq_ok.mp hself
  obtain ⟨mrsigner, hmrsigner, hself⟩ := bind_eq_ok.mp hself
  obtain ⟨attributes, hattributes, hself⟩ := bind_eq_ok.mp hself
  obtain ⟨mask, hmask, hself⟩ := bind_eq_ok.mp hself
  cases hself
  obtain ⟨_, _, hsorted, _⟩ := (emplaceEach_nil_eq_ok TdxModuleTcbLevel.comparesKeys
    fun _ _ _ => trivial).mp hlevels
  exact {
    mrsigner_length := getBytesFieldOf_length (fieldOrThrow_eq_ok.mp hmrsigner)
    attributes_length := getBytesFieldOf_length (fieldOrThrow_eq_ok.mp hattributes)
    attributesMask_length := getBytesFieldOf_length (fieldOrThrow_eq_ok.mp hmask)
    levels_sorted := hsorted
    levels_ne_nil := throwUnless_eq_ok.mp hne }

namespace TcbInfo

/-- What holds of every TCB Info that is parsed. -/
structure WellFormed (t : TcbInfo) : Prop where
  version_mem : t.version = versionV2 ∨ t.version = versionV3
  id_mem : t.id = sgxId ∨ t.id = tdxId
  id_V2 : t.version = versionV2 → t.id = sgxId
  fmspc_length : t.fmspc.length = fmspcByteLen
  pceId_length : t.pceId.length = pceidByteLen
  levels_wellFormed : ∀ l ∈ t.tcbLevels, l.WellFormed t.version t.id
  levels_sorted : KeysIncrease TcbLevel.key t.tcbLevels
  levels_ne_nil : t.tcbLevels ≠ []
  identities_wellFormed : ∀ i ∈ t.tdxModuleIdentities, i.WellFormed

theorem requiredField_eq_ok {T : Type} {name invalid : Bytes}
    {field : Except Exn (T × ParseStatus)} {value : T} :
    requiredField name invalid field = .ok value ↔ field = .ok (value, .ok) := by
  rw [requiredField, bind_eq_ok]
  constructor
  · rintro ⟨r, hr, h⟩
    rw [hr, required_eq_ok.mp h]
  · intro h
    exact ⟨_, h, rfl⟩

/-- The members of the document that are read. -/
theorem parseDocument_eq_ok {env : JsonEnv} {jsonString : Bytes} {v sig : Json}
    (h : parseDocument env jsonString = .ok (v, sig)) :
    ∃ document, env.parse jsonString = some document ∧
      document.member? (str "tcbInfo") = some v ∧ v.isObject ∧
      document.member? (str "signature") = some sig := by
  obtain ⟨document, hdocument, h⟩ := bind_eq_ok.mp h
  obtain ⟨_, hmember, h⟩ := bind_eq_ok.mp h
  obtain ⟨_, hobject, h⟩ := bind_eq_ok.mp h
  obtain ⟨_, hsignature, h⟩ := bind_eq_ok.mp h
  cases h
  exact ⟨document, documentOrThrow_eq_ok.mp hdocument, memberOrThrow_eq_ok.mp hmember,
    throwUnless_eq_ok.mp hobject, memberOrThrow_eq_ok.mp hsignature⟩

theorem parseVersionAndId_eq_ok {v : Json} {self t : TcbInfo}
    (h : parseVersionAndId v self = .ok t) :
    ∃ version id, t = { self with version, id } ∧ (version = versionV2 ∧ id = sgxId ∨
      version = versionV3 ∧ (id = sgxId ∨ id = tdxId)) := by
  obtain ⟨version, _, h⟩ := bind_eq_ok.mp h
  obtain ⟨_, hversion, h⟩ := bind_eq_ok.mp h
  have hversion := throwUnless_eq_ok.mp hversion
  by_cases hv : version = versionV3
  · rw [if_pos hv] at h
    obtain ⟨id, _, h⟩ := bind_eq_ok.mp h
    obtain ⟨_, hid, h⟩ := bind_eq_ok.mp h
    cases h
    exact ⟨version, id, rfl, Or.inr ⟨hv, throwUnless_eq_ok.mp hid⟩⟩
  · rw [if_neg hv] at h
    cases h
    exact ⟨version, sgxId, rfl, Or.inl ⟨hversion.resolve_right hv, rfl⟩⟩

theorem parseFields_eq_ok {env : JsonEnv} {v sig : Json} {self t : TcbInfo}
    (h : parseFields env v sig self = .ok t) :
    ∃ issueDate nextUpdate fmspc pceId signature,
      t = { self with issueDate, nextUpdate, fmspc, pceId, signature } ∧
      fmspc.length = fmspcByteLen ∧ pceId.length = pceidByteLen := by
  obtain ⟨issueDate, _, h⟩ := bind_eq_ok.mp h
  obtain ⟨nextUpdate, _, h⟩ := bind_eq_ok.mp h
  obtain ⟨fmspc, hfmspc, h⟩ := bind_eq_ok.mp h
  obtain ⟨pceId, hpceId, h⟩ := bind_eq_ok.mp h
  obtain ⟨signature, _, h⟩ := bind_eq_ok.mp h
  cases h
  exact ⟨issueDate, nextUpdate, fmspc, pceId, signature, rfl,
    getBytesFieldOf_length (requiredField_eq_ok.mp hfmspc),
    getBytesFieldOf_length (requiredField_eq_ok.mp hpceId)⟩

theorem parsePartV2_eq_ok {v : Json} {self t : TcbInfo} (h : parsePartV2 v self = .ok t) :
    ∃ tcbType tcbEvaluationDataNumber, t = { self with tcbType, tcbEvaluationDataNumber } := by
  obtain ⟨tcbType, _, h⟩ := bind_eq_ok.mp h
  obtain ⟨_, _, h⟩ := bind_eq_ok.mp h
  obtain ⟨number, _, h⟩ := bind_eq_ok.mp h
  cases h
  exact ⟨tcbType, number, rfl⟩

theorem parseTdxModuleIdentities_eq_ok {env : JsonEnv} {v : Json} {is : List TdxModuleIdentity}
    (h : parseTdxModuleIdentities env v = .ok is) : ∀ i ∈ is, i.WellFormed := by
  obtain ⟨elems, _, h⟩ := bind_eq_ok.mp h
  obtain ⟨ids, hids, h⟩ := bind_eq_ok.mp h
  obtain ⟨_, _, h⟩ := bind_eq_ok.mp h
  cases h
  exact mapM_forall (fun _ _ => TdxModuleIdentity.parse_wellFormed) hids

theorem parsePartV3_eq_ok {env : JsonEnv} {v : Json} {self t : TcbInfo}
    (h : parsePartV3 env v self = .ok t) :
    ∃ tdxModule tdxModuleIdentities, t = { self with tdxModule, tdxModuleIdentities } ∧
      (tdxModuleIdentities = self.tdxModuleIdentities ∨
        ∀ i ∈ tdxModuleIdentities, i.WellFormed) := by
  rw [parsePartV3] at h
  split_ifs at h
  · obtain ⟨_, _, h⟩ := bind_eq_ok.mp h
    obtain ⟨_, _, h⟩ := bind_eq_ok.mp h
    cases h
    exact ⟨_, _, rfl, Or.inl rfl⟩
  · obtain ⟨tdxModule, _, h⟩ := bind_eq_ok.mp h
    cases hids : v.member? (str "tdxModuleIdentities") with
    | none =>
      rw [hids] at h
      cases h
      exact ⟨tdxModule, _, rfl, Or.inl rfl⟩
    | some identitiesJson =>
      rw [hids] at h
      obtain ⟨is, his, h⟩ := bind_eq_ok.mp h
      cases h
      exact ⟨tdxModule, is, rfl, Or.inr (parseTdxModuleIdentities_eq_ok his)⟩
  · cases h
    exact ⟨_, _, rfl, Or.inl rfl⟩

theorem parseTcbLevels_eq_ok {env : JsonEnv} {tcbs : Json} {self t : TcbInfo}
    (h : parseTcbLevels env tcbs self = .ok t) :
    ∃ tcbLevels, t = { self with tcbLevels } ∧ tcbLevels ≠ [] ∧
      (∀ l ∈ tcbLevels, l.WellFormed self.version self.id) ∧
      KeysIncrease TcbLevel.key tcbLevels := by
  obtain ⟨elems, _, h⟩ := bind_eq_ok.mp h
  obtain ⟨levels, hlevels, h⟩ := bind_eq_ok.mp h
  obtain ⟨_, hne, h⟩ := bind_eq_ok.mp h
  cases h
  obtain ⟨ls, hls, hsorted, hperm⟩ := (emplaceEach_nil_eq_ok
    (TcbLevel.comparesKeys self.version self.id) fun _ _ => TcbLevel.parse_wellFormed).mp hlevels
  have hwf := mapM_forall (fun _ _ => TcbLevel.parse_wellFormed) hls
  exact ⟨levels, rfl, throwUnless_eq_ok.mp hne, fun l hl => hwf l (hperm.mem_iff.mp hl), hsorted⟩

/-- Every TCB Info that is parsed is well formed. -/
theorem parse_wellFormed {env : JsonEnv} {jsonString : Bytes} {t : TcbInfo}
    (h : parse env jsonString = .ok t) : t.WellFormed := by
  obtain ⟨⟨v, sig⟩, _, h⟩ := bind_eq_ok.mp h
  obtain ⟨⟨t₃, tcbs⟩, h₃, h⟩ := bind_eq_ok.mp h
  obtain ⟨t₄, h₄, h⟩ := bind_eq_ok.mp h
  obtain ⟨_, _, h⟩ := bind_eq_ok.mp h
  cases h
  obtain ⟨⟨t₂, tcbs'⟩, h₂, h₃⟩ := bind_eq_ok.mp h₃
  obtain ⟨t₃', h₃', h₃⟩ := bind_eq_ok.mp h₃
  cases h₃
  obtain ⟨t₀, h₀, h₂⟩ := bind_eq_ok.mp h₂
  obtain ⟨t₁, h₁, h₂⟩ := bind_eq_ok.mp h₂
  obtain ⟨_, _, h₂⟩ := bind_eq_ok.mp h₂
  obtain ⟨t₂', h₂', h₂⟩ := bind_eq_ok.mp h₂
  cases h₂
  obtain ⟨version, id, rfl, hids⟩ := parseVersionAndId_eq_ok h₀
  obtain ⟨issueDate, nextUpdate, fmspc, pceId, signature, rfl, hfmspc, hpceId⟩ :=
    parseFields_eq_ok h₁
  have hV2 : version ≥ versionV2 := by
    rcases hids with ⟨rfl, _⟩ | ⟨rfl, _⟩ <;> decide
  rw [partSince, if_pos (show (_ : TcbInfo).version ≥ versionV2 from hV2)] at h₂'
  obtain ⟨tcbType, number, rfl⟩ := parsePartV2_eq_ok h₂'
  have hpart : ∃ tdxModule is, t₃ = { initial with
      version, id, issueDate, nextUpdate, fmspc, pceId, signature, tcbType,
      tcbEvaluationDataNumber := number, tdxModule, tdxModuleIdentities := is } ∧
      ∀ i ∈ is, TdxModuleIdentity.WellFormed i := by
    rw [partSince] at h₃'
    split_ifs at h₃'
    · obtain ⟨tdxModule, is, rfl, his⟩ := parsePartV3_eq_ok h₃'
      refine ⟨tdxModule, is, rfl, ?_⟩
      rcases his with rfl | his
      · intro i hi
        cases hi
      · exact his
    · cases h₃'
      exact ⟨_, [], rfl, fun i hi => by cases hi⟩
  obtain ⟨tdxModule, is, rfl, his⟩ := hpart
  obtain ⟨levels, rfl, hne, hwf, hsorted⟩ := parseTcbLevels_eq_ok h₄
  exact {
    version_mem := hids.imp And.left And.left
    id_mem := hids.elim (fun h => Or.inl h.2) And.right
    id_V2 := by
      rintro rfl
      exact hids.elim And.right fun h => absurd h.1 (by decide)
    fmspc_length := hfmspc
    pceId_length := hpceId
    levels_wellFormed := hwf
    levels_sorted := hsorted
    levels_ne_nil := hne
    identities_wellFormed := his }

end TcbInfo

end DcapQvl
