import DcapQvl.Tcb.Selection

/-!
# The strings that decide acceptance

The parsers read the strings of a document with `GetString()`, which ends at the
first NUL, and only the length of `[signature]` with `GetStringLength()`. What
follows a NUL is therefore not compared, and neither are the characters of the
signature.

Results:
* `TcbInfo.parse_accepts`, `EnclaveIdentity.parse_accepts`: what a parsed
  document says of its strings.
* `compared_iff`: the strings of a parsed document are as they should be in
  full exactly when no string contains a NUL and the signature is hexadecimal.
-/

namespace DcapQvl

open Lib

/-! ## Checks -/

/-- Identifiers that a string is compared with; none of them contains a NUL. -/
structure Identifiers where
  values : List Bytes
  no_nul : ∀ s ∈ values, (0 : UInt8) ∉ s

/-- What a string of a document has to be. -/
inductive Check
  | oneOf (allowed : Identifiers)
  | date
  | hex (length : ℕ)
  | signature

namespace Check

/-- The string is what it has to be, to its last character. -/
def Holds (env : JsonEnv) (s : Bytes) : Check → Prop
  | .oneOf allowed => s ∈ allowed.values
  | .date => (0 : UInt8) ∉ s ∧ env.isValidTimeString s = true
  | .hex length => s.length = length ∧ isValidHexstring s = true
  | .signature => s.length = ecdsaP256SignatureByteLen * 2 ∧ isValidHexstring s = true

/-- The string passes the check of its reader. -/
def Accepts (env : JsonEnv) (s : Bytes) : Check → Prop
  | .oneOf allowed => cStr s ∈ allowed.values
  | .date => env.isValidTimeString (cStr s) = true
  | .hex length => (cStr s).length = length ∧ isValidHexstring (cStr s) = true
  | .signature => s.length = ecdsaP256SignatureByteLen * 2

/-- The reader looks at all of the string that matters. -/
def Complete (s : Bytes) : Check → Prop
  | .signature => isValidHexstring s = true
  | _ => (0 : UInt8) ∉ s

end Check

theorem cStr_eq_self_iff {s : Bytes} : cStr s = s ↔ (0 : UInt8) ∉ s := by
  rw [cStr, List.takeWhile_eq_self_iff]
  constructor
  · intro h hmem
    simpa using h 0 hmem
  · intro h c hc
    rw [decide_eq_true_iff]
    rintro rfl
    exact h hc

theorem zero_notMem_of_isValidHexstring {s : Bytes} (h : isValidHexstring s = true) :
    (0 : UInt8) ∉ s := by
  intro hmem
  have := List.all_eq_true.mp h 0 hmem
  simp [isxdigit] at this

/-- A string that passes is what it has to be when its reader sees all of it. -/
theorem Check.holds_iff_complete {env : JsonEnv} {s : Bytes} {c : Check} (h : c.Accepts env s) :
    c.Holds env s ↔ c.Complete s := by
  cases c with
  | oneOf allowed =>
    constructor
    · exact fun hmem => allowed.no_nul s hmem
    · intro hnul
      rwa [Accepts, cStr_eq_self_iff.mpr hnul] at h
  | date =>
    constructor
    · exact fun hdate => hdate.1
    · intro hnul
      rw [Accepts, cStr_eq_self_iff.mpr hnul] at h
      exact ⟨hnul, h⟩
  | hex length =>
    constructor
    · exact fun hhex => zero_notMem_of_isValidHexstring hhex.2
    · intro hnul
      rwa [Accepts, cStr_eq_self_iff.mpr hnul] at h
  | signature => exact and_iff_right h

/-! ## Fields -/

/-- A field of a document that decides acceptance. -/
structure DecidingField where
  value : Option Json
  check : Check

namespace DecidingField

/-- The field is a string that is what it has to be. -/
def ComparedInFull (env : JsonEnv) (f : DecidingField) : Prop :=
  ∃ s, f.value.bind Json.string? = some s ∧ f.check.Holds env s

/-- The field is a string that passes. -/
def Accepted (env : JsonEnv) (f : DecidingField) : Prop :=
  ∃ s, f.value.bind Json.string? = some s ∧ f.check.Accepts env s

/-- If the field is a string, its reader looks at all of it that matters. -/
def Complete (f : DecidingField) : Prop :=
  ∀ s, f.value.bind Json.string? = some s → f.check.Complete s

/-- The member of that name of an object. -/
def ofMember (v : Json) (name : Bytes) (check : Check) : DecidingField := ⟨v.member? name, check⟩

theorem Accepted.comparedInFull_iff {env : JsonEnv} {f : DecidingField} (h : f.Accepted env) :
    f.ComparedInFull env ↔ f.Complete := by
  obtain ⟨s, hs, haccepts⟩ := h
  constructor
  · rintro ⟨s', hs', hholds⟩ s'' hs''
    rw [hs'] at hs''
    cases hs''
    rw [hs] at hs'
    cases hs'
    exact (Check.holds_iff_complete haccepts).mp hholds
  · intro hcomplete
    exact ⟨s, hs, (Check.holds_iff_complete haccepts).mpr (hcomplete s hs)⟩

end DecidingField

open DecidingField

/-- The elements of an array that is a member of an object. -/
def elemsOf (v : Json) (name : Bytes) : List Json := ((v.member? name).bind Json.elems?).getD []

/-- The identifiers of TCB Info. -/
def tcbInfoIds : Identifiers := ⟨[sgxId, tdxId], by decide⟩

/-- The statuses of platform levels. -/
def platformLevelStatuses : Identifiers := ⟨TcbLevel.validStatuses, by decide⟩

/-- The identifiers of enclave identities. -/
def enclaveIds : Identifiers := ⟨["QE", "QVE", "TD_QE"].map str, by decide⟩

/-- The statuses of identity levels. -/
def identityLevelStatuses : Identifiers := ⟨IdentityTcbLevel.validStatuses, by decide⟩

def TcbLevel.decidingFields (v : Json) : List DecidingField :=
  [ofMember v (str "tcbDate") .date, ofMember v (str "tcbStatus") (.oneOf platformLevelStatuses)]

def TdxModule.decidingFields (v : Json) : List DecidingField :=
  [ofMember v (str "mrsigner") (.hex 96), ofMember v (str "attributes") (.hex 16),
    ofMember v (str "attributesMask") (.hex 16)]

/-- The `[tcbStatus]` of a module level decides nothing. -/
def TdxModuleTcbLevel.decidingFields (v : Json) : List DecidingField :=
  [ofMember v (str "tcbDate") .date]

def TdxModuleIdentity.decidingFields (v : Json) : List DecidingField :=
  TdxModule.decidingFields v ++
    (elemsOf v (str "tcbLevels")).flatMap TdxModuleTcbLevel.decidingFields

/-- The `[version]` of a TCB Info is 3. -/
def TcbInfo.HasIdField (v : Json) : Prop :=
  (v.member? (str "version")).bind Json.uint? = some versionV3

instance (v : Json) : Decidable (TcbInfo.HasIdField v) := inferInstanceAs (Decidable (_ = _))

/-- The `[id]` of a TCB Info is read as that of TDX. -/
def TcbInfo.ReadsTdxId (v : Json) : Prop :=
  ((v.member? (str "id")).bind Json.string?).map cStr = some tdxId

instance (v : Json) : Decidable (TcbInfo.ReadsTdxId v) := inferInstanceAs (Decidable (_ = _))

/-- The fields of the module and of the module identities. -/
def TcbInfo.tdxFields (v : Json) : List DecidingField :=
  TdxModule.decidingFields ((v.member? (str "tdxModule")).getD .null) ++
    (elemsOf v (str "tdxModuleIdentities")).flatMap TdxModuleIdentity.decidingFields

/-- The strings that decide whether a TCB Info is accepted. -/
def TcbInfo.decidingFields (v signatureField : Json) : List DecidingField :=
  (if HasIdField v then [ofMember v (str "id") (.oneOf tcbInfoIds)] else []) ++
    [ofMember v (str "issueDate") .date, ofMember v (str "nextUpdate") .date,
      ofMember v (str "fmspc") (.hex (fmspcByteLen * 2)),
      ofMember v (str "pceId") (.hex (pceidByteLen * 2)), ⟨some signatureField, .signature⟩] ++
    (if HasIdField v ∧ ReadsTdxId v then tdxFields v else []) ++
    (elemsOf v (str "tcbLevels")).flatMap TcbLevel.decidingFields

def IdentityTcbLevel.decidingFields (v : Json) : List DecidingField :=
  [ofMember v (str "tcbDate") .date, ofMember v (str "tcbStatus") (.oneOf identityLevelStatuses)]

/-- The strings that decide whether an enclave identity is accepted. -/
def EnclaveIdentity.decidingFields (v signatureField : Json) : List DecidingField :=
  [ofMember v (str "id") (.oneOf enclaveIds), ofMember v (str "issueDate") .date,
    ofMember v (str "nextUpdate") .date,
    ofMember v (str "miscselect") (.hex (2 * miscselectByteLen)),
    ofMember v (str "miscselectMask") (.hex (2 * miscselectByteLen)),
    ofMember v (str "attributes") (.hex (2 * attributesByteLen)),
    ofMember v (str "attributesMask") (.hex (2 * attributesByteLen)),
    ofMember v (str "mrsigner") (.hex (2 * mrsignerByteLen)), ⟨some signatureField, .signature⟩] ++
    (elemsOf v (str "tcbLevels")).flatMap IdentityTcbLevel.decidingFields

/-! ## Readers -/

theorem accepted_oneOf {env : JsonEnv} {v : Json} {name x : Bytes} {allowed : Identifiers}
    (h : getStringFieldOf v name = .ok (x, .ok)) (hx : x ∈ allowed.values) :
    (ofMember v name (.oneOf allowed)).Accepted env := by
  obtain ⟨s, hs, rfl⟩ := getStringFieldOf_eq_ok h
  exact ⟨s, hs, hx⟩

theorem accepted_hex {env : JsonEnv} {v : Json} {name x : Bytes} {length : ℕ}
    (h : getBytesFieldOf length v name = .ok (x, .ok)) :
    (ofMember v name (.hex length)).Accepted env := by
  obtain ⟨s, hs, hread⟩ := readString_eq_ok h
  split_ifs at hread with hok
  exact ⟨s, hs, hok⟩

theorem accepted_date {env : JsonEnv} {v : Json} {name : Bytes} {x : ℤ}
    (h : getDateFieldOf env v name = .ok (x, .ok)) : (ofMember v name .date).Accepted env := by
  obtain ⟨s, hs, hread⟩ := readString_eq_ok h
  split_ifs at hread with hok
  exact ⟨s, hs, hok⟩

theorem accepted_signature {env : JsonEnv} {signatureField : Json} {invalid x : Bytes}
    (h : parseSignature invalid signatureField = .ok x) :
    DecidingField.Accepted env ⟨some signatureField, .signature⟩ := by
  rw [parseSignature] at h
  cases hs : signatureField.string? with
  | none => rw [hs] at h; cases h
  | some s =>
    rw [hs] at h
    refine ⟨s, hs, ?_⟩
    by_contra hnot
    simp only [if_pos (show s.length ≠ ecdsaP256SignatureByteLen * 2 from hnot)] at h
    cases h

/-! ## Parsed documents -/

/-- Every field of the list is a string that passes. -/
def AllAccepted (env : JsonEnv) (fields : List DecidingField) : Prop :=
  ∀ f ∈ fields, f.Accepted env

section Lists

variable {env : JsonEnv}

theorem allAccepted_nil : AllAccepted env [] := by simp [AllAccepted]

theorem AllAccepted.cons {f : DecidingField} {fs : List DecidingField} (h : f.Accepted env)
    (hs : AllAccepted env fs) : AllAccepted env (f :: fs) :=
  List.forall_mem_cons.mpr ⟨h, hs⟩

theorem AllAccepted.append {fs gs : List DecidingField} (hf : AllAccepted env fs)
    (hg : AllAccepted env gs) : AllAccepted env (fs ++ gs) :=
  List.forall_mem_append.mpr ⟨hf, hg⟩

/-- Each element of an array that is parsed has been accepted. -/
theorem AllAccepted.of_mapM {T : Type} {parse : Json → Except Exn T}
    {fields : Json → List DecidingField}
    (hparse : ∀ v x, parse v = .ok x → AllAccepted env (fields v)) {elems : List Json}
    {xs : List T} (h : elems.mapM parse = .ok xs) : AllAccepted env (elems.flatMap fields) := by
  intro f hf
  obtain ⟨v, hv, hf⟩ := List.mem_flatMap.mp hf
  obtain ⟨x, -, hx⟩ := exists_mem_of_mapM h v hv
  exact hparse v x hx f hf

theorem elemsOf_eq {v tcbs : Json} {name : Bytes} {elems : List Json}
    (hmember : v.member? name = some tcbs) (helems : tcbs.elems? = some elems) :
    elemsOf v name = elems := by
  rw [elemsOf, hmember, Option.bind_some, helems, Option.getD_some]

end Lists

theorem TcbLevel.parseTcbLevelCommon_accepts {env : JsonEnv} {v : Json} {self l : TcbLevel}
    (h : parseTcbLevelCommon env v self = .ok l) : AllAccepted env (decidingFields v) := by
  obtain ⟨_, _, h⟩ := bind_eq_ok.mp h
  obtain ⟨date, hdate, h⟩ := bind_eq_ok.mp h
  obtain ⟨_, hrequired, h⟩ := bind_eq_ok.mp h
  rw [required_eq_ok.mp hrequired] at hdate
  obtain ⟨_, _, h⟩ := bind_eq_ok.mp h
  obtain ⟨_, _, h⟩ := bind_eq_ok.mp h
  obtain ⟨status, hstatus, h⟩ := bind_eq_ok.mp h
  refine .cons (accepted_date hdate) (.cons ?_ allAccepted_nil)
  rw [memberOrThrow_eq_ok] at hstatus
  cases hs : status.string? with
  | none => rw [hs] at h; cases h
  | some s =>
    rw [hs] at h
    obtain ⟨_, hvalid, _⟩ := bind_eq_ok.mp h
    have hvalid := throwUnless_eq_ok.mp hvalid
    exact ⟨s, by rw [ofMember, hstatus, Option.bind_some, hs], hvalid⟩

theorem TcbLevel.parse_accepts {env : JsonEnv} {version : UInt32} {id : Bytes} (v : Json)
    (l : TcbLevel) (h : parse env version id v = .ok l) : AllAccepted env (decidingFields v) := by
  rw [parse] at h
  split_ifs at h
  · obtain ⟨_, hcommon, _⟩ := bind_eq_ok.mp h
    exact parseTcbLevelCommon_accepts hcommon
  · obtain ⟨_, hcommon, _⟩ := bind_eq_ok.mp h
    exact parseTcbLevelCommon_accepts hcommon

theorem TdxModule.fields_accepted {env : JsonEnv} {v : Json} {mrsigner attributes mask : Bytes}
    (hmrsigner : getBytesFieldOf 96 v (str "mrsigner") = .ok (mrsigner, .ok))
    (hattributes : getBytesFieldOf 16 v (str "attributes") = .ok (attributes, .ok))
    (hmask : getBytesFieldOf 16 v (str "attributesMask") = .ok (mask, .ok)) :
    AllAccepted env (decidingFields v) :=
  .cons (accepted_hex hmrsigner) (.cons (accepted_hex hattributes)
    (.cons (accepted_hex hmask) allAccepted_nil))

theorem TdxModule.parse_accepts {env : JsonEnv} {v : Json} {m : TdxModule}
    (h : parse v = .ok m) : AllAccepted env (decidingFields v) := by
  obtain ⟨_, _, h⟩ := bind_eq_ok.mp h
  obtain ⟨_, hmrsigner, h⟩ := bind_eq_ok.mp h
  obtain ⟨_, hattributes, h⟩ := bind_eq_ok.mp h
  obtain ⟨_, hmask, _⟩ := bind_eq_ok.mp h
  exact fields_accepted (fieldOrThrow_eq_ok.mp hmrsigner) (fieldOrThrow_eq_ok.mp hattributes)
    (fieldOrThrow_eq_ok.mp hmask)

theorem TdxModuleTcbLevel.parse_accepts {env : JsonEnv} (v : Json) (l : TdxModuleTcbLevel)
    (h : parse env v = .ok l) : AllAccepted env (decidingFields v) := by
  obtain ⟨_, _, h⟩ := bind_eq_ok.mp h
  obtain ⟨_, _, h⟩ := bind_eq_ok.mp h
  obtain ⟨_, _, h⟩ := bind_eq_ok.mp h
  obtain ⟨_, hdate, _⟩ := bind_eq_ok.mp h
  exact .cons (accepted_date (fieldOrThrow_eq_ok.mp hdate)) allAccepted_nil

theorem TdxModuleIdentity.parse_accepts {env : JsonEnv} (v : Json) (i : TdxModuleIdentity)
    (h : parse env v = .ok i) : AllAccepted env (decidingFields v) := by
  obtain ⟨_, hfields, h⟩ := bind_eq_ok.mp h
  obtain ⟨elems, helems, h⟩ := bind_eq_ok.mp h
  obtain ⟨levels, hlevels, _⟩ := bind_eq_ok.mp h
  obtain ⟨_, _, hfields⟩ := bind_eq_ok.mp hfields
  obtain ⟨_, hmrsigner, hfields⟩ := bind_eq_ok.mp hfields
  obtain ⟨_, hattributes, hfields⟩ := bind_eq_ok.mp hfields
  obtain ⟨_, hmask, _⟩ := bind_eq_ok.mp hfields
  obtain ⟨tcbs, hmember, helems⟩ := bind_eq_ok.mp helems
  obtain ⟨ls, hls, _⟩ := (emplaceEach_nil_eq_ok TdxModuleTcbLevel.comparesKeys
    fun _ _ _ => trivial).mp hlevels
  rw [decidingFields, elemsOf_eq (memberOrThrow_eq_ok.mp hmember) (elemsOrThrow_eq_ok.mp helems)]
  refine .append ?_ (.of_mapM TdxModuleTcbLevel.parse_accepts hls)
  exact TdxModule.fields_accepted (fieldOrThrow_eq_ok.mp hmrsigner)
    (fieldOrThrow_eq_ok.mp hattributes) (fieldOrThrow_eq_ok.mp hmask)

theorem IdentityTcbLevel.parse_accepts {env : JsonEnv} (v : Json) (l : IdentityTcbLevel)
    (h : parse env v = .ok l) : AllAccepted env (decidingFields v) := by
  obtain ⟨_, _, h⟩ := bind_eq_ok.mp h
  obtain ⟨_, _, h⟩ := bind_eq_ok.mp h
  obtain ⟨_, _, h⟩ := bind_eq_ok.mp h
  obtain ⟨_, _, h⟩ := bind_eq_ok.mp h
  obtain ⟨_, hdate, h⟩ := bind_eq_ok.mp h
  obtain ⟨_, hrequired, h⟩ := bind_eq_ok.mp h
  rw [required_eq_ok.mp hrequired] at hdate
  obtain ⟨_, hstatus, h⟩ := bind_eq_ok.mp h
  obtain ⟨_, hrequired, h⟩ := bind_eq_ok.mp h
  rw [required_eq_ok.mp hrequired] at hstatus
  obtain ⟨_, hvalid, _⟩ := bind_eq_ok.mp h
  exact .cons (accepted_date hdate)
    (.cons (accepted_oneOf hstatus (throwUnless_eq_ok.mp hvalid)) allAccepted_nil)

theorem mem_enclaveIds {s : Bytes} {id : EnclaveID} (h : EnclaveIdentity.idOfString s = .ok id) :
    s ∈ enclaveIds.values := by
  rw [EnclaveIdentity.idOfString] at h
  split_ifs at h with h1 h2 h3 <;> simp [enclaveIds, *]

/-- Every deciding string of a parsed identity passes the check of its reader. -/
theorem EnclaveIdentity.parse_accepts {env : JsonEnv} {jsonString : Bytes} {v signatureField : Json}
    {i : EnclaveIdentity} (hdocument : parseDocument env jsonString = .ok (v, signatureField))
    (h : parse env jsonString = .ok i) : AllAccepted env (decidingFields v signatureField) := by
  rw [parse, hdocument, ok_bind] at h
  obtain ⟨_, hfields, h⟩ := bind_eq_ok.mp h
  obtain ⟨elems, helems, h⟩ := bind_eq_ok.mp h
  obtain ⟨levels, hlevels, _⟩ := bind_eq_ok.mp h
  obtain ⟨id, hid, hfields⟩ := bind_eq_ok.mp hfields
  obtain ⟨_, hids, hfields⟩ := bind_eq_ok.mp hfields
  obtain ⟨_, _, hfields⟩ := bind_eq_ok.mp hfields
  obtain ⟨_, _, hfields⟩ := bind_eq_ok.mp hfields
  obtain ⟨_, hissue, hfields⟩ := bind_eq_ok.mp hfields
  obtain ⟨_, hnext, hfields⟩ := bind_eq_ok.mp hfields
  obtain ⟨_, _, hfields⟩ := bind_eq_ok.mp hfields
  obtain ⟨_, hmisc, hfields⟩ := bind_eq_ok.mp hfields
  obtain ⟨_, hmiscMask, hfields⟩ := bind_eq_ok.mp hfields
  obtain ⟨_, hattr, hfields⟩ := bind_eq_ok.mp hfields
  obtain ⟨_, hattrMask, hfields⟩ := bind_eq_ok.mp hfields
  obtain ⟨_, hsigner, hfields⟩ := bind_eq_ok.mp hfields
  obtain ⟨_, _, hfields⟩ := bind_eq_ok.mp hfields
  obtain ⟨_, hsignature, _⟩ := bind_eq_ok.mp hfields
  obtain ⟨tcbs, hmember, helems⟩ := bind_eq_ok.mp helems
  obtain ⟨ls, hls, _⟩ := (emplaceEach_nil_eq_ok IdentityTcbLevel.comparesKeys
    fun _ _ _ => trivial).mp hlevels
  rw [decidingFields, elemsOf_eq (memberOrThrow_eq_ok.mp hmember) (elemsOrThrow_eq_ok.mp helems)]
  refine .append ?_ (.of_mapM IdentityTcbLevel.parse_accepts hls)
  refine .cons (accepted_oneOf (fieldOrThrow_eq_ok.mp hid) (mem_enclaveIds hids)) ?_
  refine .cons (accepted_date (fieldOrThrow_eq_ok.mp hissue)) ?_
  refine .cons (accepted_date (fieldOrThrow_eq_ok.mp hnext)) ?_
  refine .cons (accepted_hex (fieldOrThrow_eq_ok.mp hmisc)) ?_
  refine .cons (accepted_hex (fieldOrThrow_eq_ok.mp hmiscMask)) ?_
  refine .cons (accepted_hex (fieldOrThrow_eq_ok.mp hattr)) ?_
  refine .cons (accepted_hex (fieldOrThrow_eq_ok.mp hattrMask)) ?_
  refine .cons (accepted_hex (fieldOrThrow_eq_ok.mp hsigner)) ?_
  exact .cons (accepted_signature hsignature) allAccepted_nil

namespace TcbInfo

variable {env : JsonEnv}

variable (env) in
/-- The version and the identifier, with the strings that they are read from. -/
theorem parseVersionAndId_accepts {v : Json} {self t : TcbInfo}
    (h : parseVersionAndId v self = .ok t) :
    (HasIdField v ↔ t.version = versionV3) ∧ (HasIdField v →
      (ReadsTdxId v ↔ t.id = tdxId) ∧
        (ofMember v (str "id") (.oneOf tcbInfoIds)).Accepted env) := by
  obtain ⟨version, hversion, h⟩ := bind_eq_ok.mp h
  obtain ⟨_, _, h⟩ := bind_eq_ok.mp h
  obtain ⟨property, hproperty, hread⟩ :=
    getFieldOf_readField_eq_ok (requiredField_eq_ok.mp hversion)
  have hfield : HasIdField v ↔ version = versionV3 := by
    rw [HasIdField, hproperty, Option.bind_some, hread, Option.some.injEq]
  by_cases hv : version = versionV3
  · rw [if_pos hv] at h
    obtain ⟨id, hid, h⟩ := bind_eq_ok.mp h
    obtain ⟨_, hids, h⟩ := bind_eq_ok.mp h
    cases h
    have hids := throwUnless_eq_ok.mp hids
    have hid := requiredField_eq_ok.mp hid
    refine ⟨hfield, fun _ => ⟨?_, accepted_oneOf hid ?_⟩⟩
    · obtain ⟨s, hs, rfl⟩ := getStringFieldOf_eq_ok hid
      rw [ReadsTdxId, hs, Option.map_some, Option.some.injEq]
    · simpa [tcbInfoIds] using hids
  · rw [if_neg hv] at h
    cases h
    exact ⟨hfield, fun hf => absurd (hfield.mp hf) hv⟩

theorem parseFields_accepts {v signatureField : Json} {self t : TcbInfo}
    (h : parseFields env v signatureField self = .ok t) :
    t.version = self.version ∧ t.id = self.id ∧
      AllAccepted env [ofMember v (str "issueDate") .date, ofMember v (str "nextUpdate") .date,
        ofMember v (str "fmspc") (.hex (fmspcByteLen * 2)),
        ofMember v (str "pceId") (.hex (pceidByteLen * 2)), ⟨some signatureField, .signature⟩] := by
  obtain ⟨_, hissue, h⟩ := bind_eq_ok.mp h
  obtain ⟨_, hnext, h⟩ := bind_eq_ok.mp h
  obtain ⟨_, hfmspc, h⟩ := bind_eq_ok.mp h
  obtain ⟨_, hpceId, h⟩ := bind_eq_ok.mp h
  obtain ⟨_, hsignature, h⟩ := bind_eq_ok.mp h
  cases h
  refine ⟨rfl, rfl, ?_⟩
  refine .cons (accepted_date (requiredField_eq_ok.mp hissue)) ?_
  refine .cons (accepted_date (requiredField_eq_ok.mp hnext)) ?_
  refine .cons (accepted_hex (requiredField_eq_ok.mp hfmspc)) ?_
  refine .cons (accepted_hex (requiredField_eq_ok.mp hpceId)) ?_
  exact .cons (accepted_signature hsignature) allAccepted_nil

theorem partSince_parsePartV2 {v : Json} {self t : TcbInfo}
    (h : partSince versionV2 (parsePartV2 v) self = .ok t) :
    t.version = self.version ∧ t.id = self.id := by
  rw [partSince] at h
  split_ifs at h
  · obtain ⟨_, _, rfl⟩ := parsePartV2_eq_ok h
    exact ⟨rfl, rfl⟩
  · cases h
    exact ⟨rfl, rfl⟩

theorem parseTdxModule_accepts {v : Json} {m : TdxModule} (h : parseTdxModule v = .ok m) :
    AllAccepted env (TdxModule.decidingFields ((v.member? (str "tdxModule")).getD .null)) := by
  obtain ⟨moduleJson, hmember, h⟩ := bind_eq_ok.mp h
  obtain ⟨_, _, h⟩ := bind_eq_ok.mp h
  rw [memberOrThrow_eq_ok.mp hmember, Option.getD_some]
  exact TdxModule.parse_accepts h

theorem parsePartV3_accepts {v : Json} {self t : TcbInfo} (h : parsePartV3 env v self = .ok t)
    (hid : self.id = tdxId) : AllAccepted env (tdxFields v) := by
  rw [parsePartV3, if_neg (by rw [hid]; decide), if_pos hid] at h
  obtain ⟨_, hmodule, h⟩ := bind_eq_ok.mp h
  refine .append (parseTdxModule_accepts hmodule) ?_
  cases hids : v.member? (str "tdxModuleIdentities") with
  | none =>
    rw [elemsOf, hids]
    exact allAccepted_nil
  | some identitiesJson =>
    rw [hids] at h
    obtain ⟨_, hidentities, _⟩ := bind_eq_ok.mp h
    obtain ⟨elems, helems, hidentities⟩ := bind_eq_ok.mp hidentities
    obtain ⟨is, his, _⟩ := bind_eq_ok.mp hidentities
    rw [elemsOf_eq hids (elemsOrThrow_eq_ok.mp helems)]
    exact .of_mapM TdxModuleIdentity.parse_accepts his

theorem parseTcbLevels_accepts {v tcbs : Json} {self t : TcbInfo}
    (hmember : v.member? (str "tcbLevels") = some tcbs)
    (h : parseTcbLevels env tcbs self = .ok t) :
    AllAccepted env ((elemsOf v (str "tcbLevels")).flatMap TcbLevel.decidingFields) := by
  obtain ⟨elems, helems, h⟩ := bind_eq_ok.mp h
  obtain ⟨levels, hlevels, _⟩ := bind_eq_ok.mp h
  obtain ⟨ls, hls, _⟩ := (emplaceEach_nil_eq_ok (TcbLevel.comparesKeys self.version self.id)
    fun _ _ => TcbLevel.parse_wellFormed).mp hlevels
  rw [elemsOf_eq hmember (elemsOrThrow_eq_ok.mp helems)]
  exact .of_mapM TcbLevel.parse_accepts hls

/-- Every deciding string of a parsed TCB Info passes the check of its reader. -/
theorem parse_accepts {jsonString : Bytes} {v signatureField : Json} {t : TcbInfo}
    (hdocument : parseDocument env jsonString = .ok (v, signatureField))
    (h : parse env jsonString = .ok t) : AllAccepted env (decidingFields v signatureField) := by
  rw [parse, hdocument, ok_bind] at h
  obtain ⟨⟨t₃, tcbs⟩, h₃, h⟩ := bind_eq_ok.mp h
  obtain ⟨t₄, h₄, _⟩ := bind_eq_ok.mp h
  obtain ⟨⟨t₂, tcbs'⟩, h₂, h₃⟩ := bind_eq_ok.mp h₃
  obtain ⟨t₃', h₃', h₃⟩ := bind_eq_ok.mp h₃
  cases h₃
  obtain ⟨t₀, h₀, h₂⟩ := bind_eq_ok.mp h₂
  obtain ⟨t₁, h₁, h₂⟩ := bind_eq_ok.mp h₂
  obtain ⟨_, hmember, h₂⟩ := bind_eq_ok.mp h₂
  obtain ⟨t₂', h₂', h₂⟩ := bind_eq_ok.mp h₂
  cases h₂
  obtain ⟨hversion, hid⟩ := parseVersionAndId_accepts env h₀
  obtain ⟨hversion₁, hid₁, hfields⟩ := parseFields_accepts h₁
  obtain ⟨hversion₂, hid₂⟩ := partSince_parsePartV2 h₂'
  refine .append (.append (.append ?_ hfields) ?_)
    (parseTcbLevels_accepts (memberOrThrow_eq_ok.mp hmember) h₄)
  · split_ifs with hf
    · exact .cons (hid hf).2 allAccepted_nil
    · exact allAccepted_nil
  · split_ifs with hf
    · have hV3 : t₂.version ≥ versionV3 := by
        rw [hversion₂, hversion₁, hversion.mp hf.1]
        exact UInt32.le_refl versionV3
      have hTdx : t₂.id = tdxId := by
        rw [hid₂, hid₁, ← (hid hf.1).1]
        exact hf.2
      rw [partSince, if_pos hV3] at h₃'
      exact parsePartV3_accepts h₃' hTdx
    · exact allAccepted_nil

end TcbInfo

/-! ## What is compared in full -/

theorem AllAccepted.comparedInFull_iff {env : JsonEnv} {fields : List DecidingField}
    (h : AllAccepted env fields) :
    (∀ f ∈ fields, f.ComparedInFull env) ↔ ∀ f ∈ fields, f.Complete :=
  forall₂_congr fun f hf => (h f hf).comparedInFull_iff

/-- The deciding strings of an accepted document have been compared in full if and only if
    none of them contains a NUL and the signature consists of hexadecimal digits. -/
theorem compared_iff (env : JsonEnv) (jsonString : Bytes) :
    (∀ v signatureField t, TcbInfo.parseDocument env jsonString = .ok (v, signatureField) →
      TcbInfo.parse env jsonString = .ok t →
      ((∀ f ∈ TcbInfo.decidingFields v signatureField, f.ComparedInFull env) ↔
        ∀ f ∈ TcbInfo.decidingFields v signatureField, f.Complete)) ∧
    (∀ v signatureField i, EnclaveIdentity.parseDocument env jsonString = .ok (v, signatureField) →
      EnclaveIdentity.parse env jsonString = .ok i →
      ((∀ f ∈ EnclaveIdentity.decidingFields v signatureField, f.ComparedInFull env) ↔
        ∀ f ∈ EnclaveIdentity.decidingFields v signatureField, f.Complete)) := by
  constructor
  · intro v signatureField t hdocument h
    exact (TcbInfo.parse_accepts hdocument h).comparedInFull_iff
  · intro v signatureField i hdocument h
    exact (EnclaveIdentity.parse_accepts hdocument h).comparedInFull_iff

/-! ## Samples -/

theorem sampleIdentity_document {env : JsonEnv} {text id : Bytes} {tcbLevels : List Json}
    (h : env.parse text = some (sampleIdentity id tcbLevels)) :
    ∃ v signatureField, EnclaveIdentity.parseDocument env text = .ok (v, signatureField) ∧
      v.member? (str "id") = some (.string id) := by
  let member (name : String) := ((sampleIdentity id tcbLevels).member? (str name)).getD .null
  refine ⟨member "enclaveIdentity", member "signature", ?_, rfl⟩
  rw [EnclaveIdentity.parseDocument, documentOrThrow, h]
  rfl

theorem sampleDocuments_identity :
    sampleDocuments.parse sampleIdentityDocument.render = some sampleIdentityDocument := by
  refine sampleEnv_parse (by decide +kernel) (by decide +kernel) rfl ?_
  have hother : decide (sampleTcbInfoDocument.render = sampleIdentityDocument.render) = false := by
    decide +kernel
  rw [List.find?_cons_of_neg (by simp [hother]), List.find?_cons_of_pos (by simp)]

theorem sampleTcbInfo_document : ∃ v signatureField,
    TcbInfo.parseDocument sampleDocuments sampleTcbInfoDocument.render =
      .ok (v, signatureField) := by
  let member (name : String) := (sampleTcbInfoDocument.member? (str name)).getD .null
  refine ⟨member "tcbInfo", member "signature", ?_⟩
  rw [TcbInfo.parseDocument, documentOrThrow, sampleDocuments_tcbInfo]
  rfl

/-- The two documents of the samples. -/
theorem compared_iff_sample :
    (∃ v signatureField,
      TcbInfo.parseDocument sampleDocuments sampleTcbInfoDocument.render =
        .ok (v, signatureField) ∧
      ((∀ f ∈ TcbInfo.decidingFields v signatureField, f.ComparedInFull sampleDocuments) ↔
        ∀ f ∈ TcbInfo.decidingFields v signatureField, f.Complete)) ∧
    ∃ v signatureField,
      EnclaveIdentity.parseDocument sampleDocuments sampleIdentityDocument.render =
        .ok (v, signatureField) ∧
      ((∀ f ∈ EnclaveIdentity.decidingFields v signatureField,
          f.ComparedInFull sampleDocuments) ↔
        ∀ f ∈ EnclaveIdentity.decidingFields v signatureField, f.Complete) := by
  constructor
  · obtain ⟨v, signatureField, hdocument⟩ := sampleTcbInfo_document
    exact ⟨v, signatureField, hdocument,
      (compared_iff sampleDocuments sampleTcbInfoDocument.render).1 v signatureField
        sampleInfo hdocument sampleInfo_parse⟩
  · obtain ⟨v, signatureField, hdocument, -⟩ := sampleIdentity_document sampleDocuments_identity
    exact ⟨v, signatureField, hdocument,
      (compared_iff sampleDocuments sampleIdentityDocument.render).2 v signatureField
        sampleQeIdentity hdocument sampleQeIdentity_parse⟩

/-- An identity whose `[id]` goes on after a NUL; in its text the NUL is escaped. -/
def sampleNulIdentity (nul : Bytes) : Json :=
  sampleIdentity (str "TD_QE" ++ nul ++ str "x")
    [sampleIsvLevel 0 (str "OutOfDate") [], sampleIsvLevel 4 (str "UpToDate") []]

def sampleNulText : Bytes := (sampleNulIdentity (str "\\u0000")).render

def sampleNulBody : Bytes :=
  (((sampleNulIdentity (str "\\u0000")).member? (str "enclaveIdentity")).map Json.render).getD []

/-- An environment that reads this text and writes its body. -/
def sampleNulDocuments : JsonEnv := { sampleDocuments with
  read := fun text => if text = sampleNulText then some (sampleNulIdentity [0]) else none
  write := fun _ _ => sampleNulBody }

theorem sampleNulDocuments_parse :
    sampleNulDocuments.parse sampleNulText = some (sampleNulIdentity [0]) := by
  have hread : sampleNulDocuments.read sampleNulText = some (sampleNulIdentity [0]) := by
    simp only [sampleNulDocuments, if_true]
  have hcStr : cStr sampleNulText = sampleNulText := by decide +kernel
  have hne : sampleNulText.isEmpty = false := by decide +kernel
  unfold JsonEnv.parse
  rw [hne, hcStr, hread]
  rfl

/-- An identity is accepted whose `[id]` is none of the identifiers. -/
theorem sampleNul_accepted :
    EnclaveIdentity.parse sampleNulDocuments sampleNulText =
        .ok { sampleQeIdentity with body := sampleNulBody } ∧
      ∃ v signatureField,
        EnclaveIdentity.parseDocument sampleNulDocuments sampleNulText =
          .ok (v, signatureField) ∧
        v.member? (str "id") = some (.string (str "TD_QE" ++ [0] ++ str "x")) ∧
        ¬ ∀ f ∈ EnclaveIdentity.decidingFields v signatureField,
          f.ComparedInFull sampleNulDocuments := by
  obtain ⟨v, signatureField, hdocument, hid⟩ := sampleIdentity_document sampleNulDocuments_parse
  have hother : str "TD_QE" ++ [0] ++ str "x" ∉ enclaveIds.values := by decide
  refine ⟨by decide +kernel, v, signatureField, hdocument, hid, fun h => ?_⟩
  obtain ⟨s, hs, hmem⟩ := h (ofMember v (str "id") (.oneOf enclaveIds))
    (List.mem_append_left _ List.mem_cons_self)
  rw [ofMember, hid] at hs
  cases hs
  exact hother hmem

end DcapQvl
