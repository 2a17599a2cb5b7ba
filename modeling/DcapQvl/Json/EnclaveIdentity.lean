import DcapQvl.Json.Value
import DcapQvl.Lib.OrderedSet

/-!
# Enclave Identity

Models of `IdentityTcbLevel.cpp`, `EnclaveIdentity.cpp` and
`parseStringToTcbStatus` of `TcbStatus.h`.

Results:
* `EnclaveIdentity.parse_wellFormed`: what holds of every parsed identity.
* `EnclaveIdentity.getTcbLevel_eq_ok`: the level that `getTcbLevel` selects.
-/

namespace DcapQvl

open Lib

/-- `constants::MISCSELECT_BYTE_LEN`, `ATTRIBUTES_BYTE_LEN`, `MRSIGNER_BYTE_LEN`. -/
def miscselectByteLen : ℕ := 4
def attributesByteLen : ℕ := 16
def mrsignerByteLen : ℕ := 32

/-- `MAX_ENCLAVE_IDENTITY_JSON_DEPTH`. -/
def maxEnclaveIdentityJsonDepth : ℕ := 32

/-- `enum EnclaveID`. -/
inductive EnclaveID
  | qe
  | qve
  | tdQe
  deriving DecidableEq, Repr

/-- `enum class TcbStatus`. -/
inductive TcbStatus
  | upToDate
  | configurationNeeded
  | outOfDate
  | outOfDateConfigurationNeeded
  | revoked
  deriving DecidableEq, Repr

/-- `parseStringToTcbStatus(status)`. -/
def parseStringToTcbStatus (status : Bytes) : Except Exn TcbStatus :=
  if status = str "UpToDate" then .ok .upToDate
  else if status = str "ConfigurationNeeded" then .ok .configurationNeeded
  else if status = str "OutOfDate" then .ok .outOfDate
  else if status = str "OutOfDateConfigurationNeeded" then .ok .outOfDateConfigurationNeeded
  else if status = str "Revoked" then .ok .revoked
  else .error (.runtimeError (str "Cannot parse TCB status - unknown value"))

/-! ## Levels -/

structure IdentityTcbLevel where
  isvSvn : UInt32
  tcbDate : ℤ
  tcbStatus : TcbStatus
  advisoryIds : List Bytes
  deriving DecidableEq, Repr

namespace IdentityTcbLevel

/-- The `validStatuses` of the constructor. -/
def validStatuses : List Bytes := ["UpToDate", "OutOfDate", "Revoked"].map str

/-- `IdentityTcbLevel::IdentityTcbLevel(tcbLevel)`. -/
def parse (env : JsonEnv) (tcbLevel : Json) : Except Exn IdentityTcbLevel := do
  throwUnless tcbLevel.isObject (.format (str "TCB level should be a JSON object"))
  let tcb ← memberOrThrow tcbLevel (str "tcb")
    (.format (str "TCB level JSON should has [tcb] field"))
  let isvSvn ← required
    (.format (str "EnclaveIdentity JSON should have [isvsvn] field"))
    (.invalidExtension (str "Could not parse [isvsvn] field of EnclaveIdentity JSON to integer"))
    (← getUintFieldOf tcb (str "isvsvn"))
  let tcbDate ← required
    (.format (str "TCB level JSON should has [tcbDate] field"))
    (.invalidExtension (str
      "Could not parse [tcbDate] field of EnclaveIdentity JSON to date. [tcbDate] should be ISO formatted date"))
    (← getDateFieldOf env tcbLevel (str "tcbDate"))
  let tcbStatusStr ← required
    (.format (str "TCB level JSON should has [tcbStatus] field"))
    (.invalidExtension (str
      "Could not parse [tcbStatus] field of EnclaveIdentity JSON to date. [tcbDate] should be ISO formatted date"))
    (← getStringFieldOf tcbLevel (str "tcbStatus"))
  throwUnless (tcbStatusStr ∈ validStatuses) (.invalidExtension (str
    "TCB level [tcbStatus] JSON field has invalid value [" ++ tcbStatusStr ++ str "]"))
  let tcbStatus ← parseStringToTcbStatus tcbStatusStr
  let advisoryIds ← optionalField
    (.invalidExtension (str
      "Could not parse [advisoryIDs] field of EnclaveIdentity JSON to an array."))
    (← getStringVecFieldOf tcbLevel (str "advisoryIDs"))
  pure { isvSvn, tcbDate, tcbStatus, advisoryIds }

/-- `IdentityTcbLevel::operator>`. -/
def greater (l other : IdentityTcbLevel) : Bool :=
  if l.isvSvn = other.isvSvn then l.tcbDate > other.tcbDate else l.isvSvn > other.isvSvn

/-- The order of identity levels: by ISV SVN, then date, the greatest first. -/
def key (l : IdentityTcbLevel) : (ℕ ×ₗ ℤ)ᵒᵈ :=
  OrderDual.toDual (toLex (l.isvSvn.toNat, l.tcbDate))

theorem key_eq_iff {l m : IdentityTcbLevel} :
    l.key = m.key ↔ l.isvSvn = m.isvSvn ∧ l.tcbDate = m.tcbDate := by
  simp only [key, OrderDual.toDual_inj, toLex_inj, Prod.mk.injEq, UInt32.toNat_inj]

theorem comparesKeys : ComparesKeys (fun _ => True) greater key := by
  intro l m _ _
  rw [key, key, OrderDual.toDual_lt_toDual, Prod.Lex.toLex_lt_toLex, greater]
  by_cases h : l.isvSvn = m.isvSvn
  · rw [if_pos h, h]
    simp [GT.gt]
  · rw [if_neg h, decide_eq_true_iff, GT.gt, UInt32.lt_iff_toNat_lt]
    have hne : m.isvSvn.toNat ≠ l.isvSvn.toNat := fun heq => h (UInt32.toNat_inj.mp heq).symm
    simp [hne]

/-- The statuses of identity levels. -/
theorem parse_tcbStatus {env : JsonEnv} {v : Json} {l : IdentityTcbLevel}
    (h : parse env v = .ok l) :
    l.tcbStatus = .upToDate ∨ l.tcbStatus = .outOfDate ∨ l.tcbStatus = .revoked := by
  obtain ⟨_, _, h⟩ := bind_eq_ok.mp h
  obtain ⟨_, _, h⟩ := bind_eq_ok.mp h
  obtain ⟨_, _, h⟩ := bind_eq_ok.mp h
  obtain ⟨_, _, h⟩ := bind_eq_ok.mp h
  obtain ⟨_, _, h⟩ := bind_eq_ok.mp h
  obtain ⟨_, _, h⟩ := bind_eq_ok.mp h
  obtain ⟨_, _, h⟩ := bind_eq_ok.mp h
  obtain ⟨s, _, h⟩ := bind_eq_ok.mp h
  obtain ⟨_, hs, h⟩ := bind_eq_ok.mp h
  obtain ⟨status, hstatus, h⟩ := bind_eq_ok.mp h
  obtain ⟨_, _, h⟩ := bind_eq_ok.mp h
  obtain ⟨_, _, h⟩ := bind_eq_ok.mp h
  cases h
  have hs := throwUnless_eq_ok.mp hs
  simp only [validStatuses, List.map_cons, List.map_nil, List.mem_cons, List.not_mem_nil,
    or_false] at hs
  rcases hs with rfl | rfl | rfl
  · cases hstatus
    exact Or.inl rfl
  · cases hstatus
    exact Or.inr (Or.inl rfl)
  · cases hstatus
    exact Or.inr (Or.inr rfl)

end IdentityTcbLevel

/-! ## Identities -/

structure EnclaveIdentity where
  id : EnclaveID
  version : UInt32
  issueDate : ℤ
  nextUpdate : ℤ
  tcbEvaluationDataNumber : UInt32
  attributes : Bytes
  attributesMask : Bytes
  miscselect : Bytes
  miscselectMask : Bytes
  mrSigner : Bytes
  isvProdId : UInt32
  identityTcbLevels : List IdentityTcbLevel
  body : Bytes
  signature : Bytes
  deriving DecidableEq, Repr

namespace EnclaveIdentity

/-- `EnclaveIdentity::V2`. -/
def v2 : UInt32 := 2

/-- `getTcbLevel(p_isvSvn)`. -/
def getTcbLevel (identity : EnclaveIdentity) (isvSvn : UInt32) : Except Exn IdentityTcbLevel :=
  match identity.identityTcbLevels.find? fun tcbLevel => tcbLevel.isvSvn ≤ isvSvn with
  | some tcbLevel => .ok tcbLevel
  | none => .error (.statusNotSupported (str "Non-existent tcb status exception"))

/-- A field that `checkParseStatus` checks. -/
def checkedField {T : Type} (fieldName : Bytes)
    (field : Json → Bytes → Except Exn (T × ParseStatus)) (enclaveIdentity : Json) :
    Except Exn T :=
  fieldOrThrow (.invalidExtension
    (str "Could not parse [" ++ fieldName ++ str "] field of EnclaveIdentity JSON"))
    (field enclaveIdentity fieldName)

/-- `stringToIdMap.find(idStr)`. -/
def idOfString (idStr : Bytes) : Except Exn EnclaveID :=
  if idStr = str "QE" then .ok .qe
  else if idStr = str "QVE" then .ok .qve
  else if idStr = str "TD_QE" then .ok .tdQe
  else .error (.invalidExtension
    (str "EnclaveIdentity [id] field is not a valid value of enclaveId"))

/-- The exception for a duplicated level. -/
def duplicatedLevels : Exn := .invalidExtension (str "Detected duplicated TCB levels")

/-- The fields from the identifier to the signature. -/
def parseFields (env : JsonEnv) (enclaveIdentity signatureField : Json) :
    Except Exn EnclaveIdentity := do
  let idStr ← checkedField (str "id") getStringFieldOf enclaveIdentity
  let id ← idOfString idStr
  let version ← checkedField (str "version") getUintFieldOf enclaveIdentity
  throwUnless (version = v2)
    (.invalidVersion (str "EnclaveIdentity [version] field is not supported"))
  let issueDate ← checkedField (str "issueDate") (getDateFieldOf env) enclaveIdentity
  let nextUpdate ← checkedField (str "nextUpdate") (getDateFieldOf env) enclaveIdentity
  let tcbEvaluationDataNumber ← checkedField (str "tcbEvaluationDataNumber") getUintFieldOf
    enclaveIdentity
  let miscselect ← checkedField (str "miscselect") (getBytesFieldOf (2 * miscselectByteLen))
    enclaveIdentity
  let miscselectMask ← checkedField (str "miscselectMask")
    (getBytesFieldOf (2 * miscselectByteLen)) enclaveIdentity
  let attributes ← checkedField (str "attributes") (getBytesFieldOf (2 * attributesByteLen))
    enclaveIdentity
  let attributesMask ← checkedField (str "attributesMask")
    (getBytesFieldOf (2 * attributesByteLen)) enclaveIdentity
  let mrSigner ← checkedField (str "mrsigner") (getBytesFieldOf (2 * mrsignerByteLen))
    enclaveIdentity
  let isvProdId ← checkedField (str "isvprodid") getUintFieldOf enclaveIdentity
  let signature ← parseSignature (str
    "Could not parse [signature] field of EnclaveIdentity JSON to bytes") signatureField
  pure { id, version, issueDate, nextUpdate, tcbEvaluationDataNumber, attributes, attributesMask,
         miscselect, miscselectMask, mrSigner, isvProdId, identityTcbLevels := [], body := [],
         signature }

/-- The document, its `[enclaveIdentity]` object and its `[signature]` field. -/
def parseDocument (env : JsonEnv) (jsonString : Bytes) : Except Exn (Json × Json) := do
  let document ← documentOrThrow env jsonString
    (.format (str "Could not parse EnclaveIdentity JSON"))
  let enclaveIdentity ← memberOrThrow document (str "enclaveIdentity")
    (.format (str "Missing [enclaveIdentity] field of EnclaveIdentity JSON"))
  throwUnless enclaveIdentity.isObject
    (.format (str "[enclaveIdentity] field of EnclaveIdentity JSON should be an object"))
  let signatureField ← memberOrThrow document (str "signature")
    (.format (str "Missing [signature] field of EnclaveIdentity JSON"))
  pure (enclaveIdentity, signatureField)

/-- The elements of `[tcbLevels]`. -/
def levelsOf (enclaveIdentity : Json) : Except Exn (List Json) := do
  let identityTcbs ← memberOrThrow enclaveIdentity (str "tcbLevels")
    (.invalidExtension (str "Missing [tcbLevels] field of EnclaveIdentity JSON"))
  elemsOrThrow identityTcbs (.invalidExtension (str
    "[tcbLevels] field of EnclaveIdentity JSON should be a nonempty array"))

/-- `EnclaveIdentity::EnclaveIdentity(jsonString)`. -/
def parse (env : JsonEnv) (jsonString : Bytes) : Except Exn EnclaveIdentity := do
  let (enclaveIdentity, signatureField) ← parseDocument env jsonString
  let self ← parseFields env enclaveIdentity signatureField
  let elems ← levelsOf enclaveIdentity
  let identityTcbLevels ← emplaceEach IdentityTcbLevel.greater (IdentityTcbLevel.parse env)
    duplicatedLevels elems []
  throwUnless (identityTcbLevels ≠ []) (.invalidExtension (str
    "Number of parsed [tcbLevels] should not be 0"))
  throwUnless (isWithinJsonDepthLimit enclaveIdentity maxEnclaveIdentityJsonDepth)
    (.invalidExtension (str
      "[enclaveIdentity] field of EnclaveIdentity JSON is nested too deeply"))
  pure { self with
    identityTcbLevels, body := env.write defaultMaxDecimalPlaces enclaveIdentity }

/-! ## What is parsed -/

/-- What holds of every identity that is parsed. -/
structure WellFormed (i : EnclaveIdentity) : Prop where
  version_eq : i.version = v2
  miscselect_length : i.miscselect.length = miscselectByteLen
  miscselectMask_length : i.miscselectMask.length = miscselectByteLen
  attributes_length : i.attributes.length = attributesByteLen
  attributesMask_length : i.attributesMask.length = attributesByteLen
  mrSigner_length : i.mrSigner.length = mrsignerByteLen
  levels_sorted : KeysIncrease IdentityTcbLevel.key i.identityTcbLevels
  levels_ne_nil : i.identityTcbLevels ≠ []
  levels_status : ∀ l ∈ i.identityTcbLevels,
    l.tcbStatus = .upToDate ∨ l.tcbStatus = .outOfDate ∨ l.tcbStatus = .revoked

theorem checkedField_length {n : ℕ} {fieldName bytes : Bytes} {v : Json}
    (h : checkedField fieldName (getBytesFieldOf (2 * n)) v = .ok bytes) : bytes.length = n :=
  getBytesFieldOf_length (fieldOrThrow_eq_ok.mp h)

/-- The members of the document that are read. -/
theorem parseDocument_eq_ok {env : JsonEnv} {jsonString : Bytes} {v sig : Json}
    (h : parseDocument env jsonString = .ok (v, sig)) :
    ∃ document, env.parse jsonString = some document ∧
      document.member? (str "enclaveIdentity") = some v ∧ v.isObject ∧
      document.member? (str "signature") = some sig := by
  obtain ⟨document, hdocument, h⟩ := bind_eq_ok.mp h
  obtain ⟨_, hmember, h⟩ := bind_eq_ok.mp h
  obtain ⟨_, hobject, h⟩ := bind_eq_ok.mp h
  obtain ⟨_, hsignature, h⟩ := bind_eq_ok.mp h
  cases h
  exact ⟨document, documentOrThrow_eq_ok.mp hdocument, memberOrThrow_eq_ok.mp hmember,
    throwUnless_eq_ok.mp hobject, memberOrThrow_eq_ok.mp hsignature⟩

/-- Every identity that is parsed is well formed. -/
theorem parse_wellFormed {env : JsonEnv} {jsonString : Bytes} {i : EnclaveIdentity}
    (h : parse env jsonString = .ok i) : i.WellFormed := by
  obtain ⟨⟨v, sig⟩, _, h⟩ := bind_eq_ok.mp h
  obtain ⟨self, hself, h⟩ := bind_eq_ok.mp h
  obtain ⟨elems, _, h⟩ := bind_eq_ok.mp h
  obtain ⟨levels, hlevels, h⟩ := bind_eq_ok.mp h
  obtain ⟨_, hne, h⟩ := bind_eq_ok.mp h
  obtain ⟨_, _, h⟩ := bind_eq_ok.mp h
  cases h
  obtain ⟨_, _, hself⟩ := bind_eq_ok.mp hself
  obtain ⟨_, _, hself⟩ := bind_eq_ok.mp hself
  obtain ⟨_, _, hself⟩ := bind_eq_ok.mp hself
  obtain ⟨_, hversion, hself⟩ := bind_eq_ok.mp hself
  obtain ⟨_, _, hself⟩ := bind_eq_ok.mp hself
  obtain ⟨_, _, hself⟩ := bind_eq_ok.mp hself
  obtain ⟨_, _, hself⟩ := bind_eq_ok.mp hself
  obtain ⟨_, hmiscselect, hself⟩ := bind_eq_ok.mp hself
  obtain ⟨_, hmiscselectMask, hself⟩ := bind_eq_ok.mp hself
  obtain ⟨_, hattributes, hself⟩ := bind_eq_ok.mp hself
  obtain ⟨_, hattributesMask, hself⟩ := bind_eq_ok.mp hself
  obtain ⟨_, hmrSigner, hself⟩ := bind_eq_ok.mp hself
  obtain ⟨_, _, hself⟩ := bind_eq_ok.mp hself
  obtain ⟨_, _, hself⟩ := bind_eq_ok.mp hself
  cases hself
  obtain ⟨ls, hls, hsorted, hperm⟩ := (emplaceEach_nil_eq_ok IdentityTcbLevel.comparesKeys
    fun _ _ _ => trivial).mp hlevels
  have hstatus := mapM_forall (fun _ _ => IdentityTcbLevel.parse_tcbStatus) hls
  exact {
    version_eq := throwUnless_eq_ok.mp hversion
    miscselect_length := checkedField_length hmiscselect
    miscselectMask_length := checkedField_length hmiscselectMask
    attributes_length := checkedField_length hattributes
    attributesMask_length := checkedField_length hattributesMask
    mrSigner_length := checkedField_length hmrSigner
    levels_sorted := hsorted
    levels_ne_nil := throwUnless_eq_ok.mp hne
    levels_status := fun l hl => hstatus l (hperm.mem_iff.mp hl) }

/-- `getTcbLevel` selects the level with the greatest ISV SVN that is not above
    the given one, and the latest date among these. -/
theorem getTcbLevel_eq_ok {i : EnclaveIdentity} (hi : i.WellFormed) {isvSvn : UInt32}
    {l : IdentityTcbLevel} :
    i.getTcbLevel isvSvn = .ok l ↔
      IsFirst IdentityTcbLevel.key (fun l => l.isvSvn ≤ isvSvn) i.identityTcbLevels l := by
  rw [getTcbLevel, ← find?_eq_some_iff hi.levels_sorted]
  cases i.identityTcbLevels.find? fun tcbLevel => tcbLevel.isvSvn ≤ isvSvn <;> simp

end EnclaveIdentity

end DcapQvl
