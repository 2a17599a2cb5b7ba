import DcapQvl.Json.Document

/-!
# What the signature of a body covers

The parsers take the fields of a TCB Info or of an Enclave Identity from the document and
check the signature over the body as rapidjson writes it again. Here the reader and the
writer are those of rapidjson, and the two are tied together: the written body determines
the fields.

Results:
* `parse_mapDoubles`: no parser looks at the value of a double.
* `tcbInfo_of_body`, `enclaveIdentity_of_body`: two texts that are parsed with the same
  written body give the same TCB Info or identity, but for the signature.
* `bodies_written`: the body is written within the depth that the parsers allow.
-/

namespace DcapQvl

open Lib Rapidjson

/-! ## Doubles are not looked at -/

section
variable (f : UInt64 → UInt64)

theorem mapElems_eq (vs : List Json) : mapElems f vs = vs.map (mapDoubles f) := by
  induction vs with
  | nil => rfl
  | cons v vs ih => rw [mapElems, ih, List.map_cons]

theorem isObject_mapDoubles (v : Json) : (mapDoubles f v).isObject = v.isObject := by
  cases v <;> rfl

theorem member?_mapDoubles (name : Bytes) (v : Json) :
    (mapDoubles f v).member? name = (v.member? name).map (mapDoubles f) := by
  cases v with
  | object ms =>
    show (mapMembers f ms).lookup name = (ms.lookup name).map (mapDoubles f)
    induction ms with
    | nil => rfl
    | cons m ms ih =>
      obtain ⟨name', u⟩ := m
      rw [mapMembers, List.lookup_cons, List.lookup_cons]
      cases name == name' with
      | true => rfl
      | false => exact ih
  | _ => rfl

theorem hasMember_mapDoubles (name : Bytes) (v : Json) :
    (mapDoubles f v).hasMember name = v.hasMember name := by
  rw [Json.hasMember, member?_mapDoubles, Option.isSome_map]
  rfl

theorem string?_mapDoubles (v : Json) : (mapDoubles f v).string? = v.string? := by
  cases v <;> rfl

theorem uint?_mapDoubles (v : Json) : (mapDoubles f v).uint? = v.uint? := by
  cases v <;> rfl

theorem int?_mapDoubles (v : Json) : (mapDoubles f v).int? = v.int? := by
  cases v <;> rfl

theorem elems?_mapDoubles (v : Json) :
    (mapDoubles f v).elems? = v.elems?.map (List.map (mapDoubles f)) := by
  cases v with
  | array vs => exact congrArg some (mapElems_eq f vs)
  | _ => rfl

theorem getFieldOf_mapDoubles {T : Type} {empty : T} {read : Json → T × ParseStatus}
    (hread : ∀ v, read (mapDoubles f v) = read v) (v : Json) (name : Bytes) :
    getFieldOf empty read (mapDoubles f v) name = getFieldOf empty read v name := by
  unfold getFieldOf
  rw [isObject_mapDoubles, member?_mapDoubles]
  cases v.member? name with
  | none => rfl
  | some u => simp only [Option.map_some, hread]

theorem getStringFieldOf_mapDoubles (v : Json) (name : Bytes) :
    getStringFieldOf (mapDoubles f v) name = getStringFieldOf v name :=
  getFieldOf_mapDoubles f (fun u => by simp only [readField, string?_mapDoubles]) v name

theorem getBytesFieldOf_mapDoubles (length : ℕ) (v : Json) (name : Bytes) :
    getBytesFieldOf length (mapDoubles f v) name = getBytesFieldOf length v name :=
  getFieldOf_mapDoubles f (fun u => by simp only [readField, string?_mapDoubles]) v name

theorem getDateFieldOf_mapDoubles (env : JsonEnv) (v : Json) (name : Bytes) :
    getDateFieldOf env (mapDoubles f v) name = getDateFieldOf env v name :=
  getFieldOf_mapDoubles f (fun u => by simp only [readField, string?_mapDoubles]) v name

theorem getUintFieldOf_mapDoubles (v : Json) (name : Bytes) :
    getUintFieldOf (mapDoubles f v) name = getUintFieldOf v name :=
  getFieldOf_mapDoubles f (fun u => by simp only [readField, uint?_mapDoubles]) v name

theorem getIntFieldOf_mapDoubles (v : Json) (name : Bytes) :
    getIntFieldOf (mapDoubles f v) name = getIntFieldOf v name :=
  getFieldOf_mapDoubles f (fun u => by simp only [readField, int?_mapDoubles]) v name

theorem getStringVecFieldOf_mapDoubles (v : Json) (name : Bytes) :
    getStringVecFieldOf (mapDoubles f v) name = getStringVecFieldOf v name := by
  have hvec (ids : List Bytes) (vs : List Json) :
      stringVec ids (vs.map (mapDoubles f)) = stringVec ids vs := by
    induction vs generalizing ids with
    | nil => rfl
    | cons u vs ih =>
      rw [List.map_cons, stringVec, stringVec, string?_mapDoubles]
      cases u.string? with
      | none => rfl
      | some s => exact ih _
  refine getFieldOf_mapDoubles f (fun u => ?_) v name
  rw [elems?_mapDoubles]
  cases u.elems? with
  | none => rfl
  | some vs => exact hvec [] vs

theorem memberOrThrow_bind {β : Type} (v : Json) (name : Bytes) (e : Exn)
    (k : Json → Except Exn β) :
    (memberOrThrow (mapDoubles f v) name e >>= k) =
      memberOrThrow v name e >>= fun u => k (mapDoubles f u) := by
  unfold memberOrThrow
  rw [member?_mapDoubles]
  cases v.member? name <;> rfl

theorem elemsOrThrow_eq_map (v : Json) (e : Exn) :
    elemsOrThrow (mapDoubles f v) e =
      elemsOrThrow v e >>= fun us => .ok (us.map (mapDoubles f)) := by
  unfold elemsOrThrow
  rw [elems?_mapDoubles]
  cases v.elems? <;> rfl

theorem elemsOrThrow_bind {β : Type} (v : Json) (e : Exn) (k : List Json → Except Exn β) :
    (elemsOrThrow (mapDoubles f v) e >>= k) =
      elemsOrThrow v e >>= fun us => k (us.map (mapDoubles f)) := by
  rw [elemsOrThrow_eq_map]
  cases elemsOrThrow v e <;> rfl

theorem mapM_mapDoubles {T : Type} {read : Json → Except Exn T}
    (hread : ∀ v, read (mapDoubles f v) = read v) (vs : List Json) :
    (vs.map (mapDoubles f)).mapM read = vs.mapM read := by
  induction vs with
  | nil => rfl
  | cons v vs ih => rw [List.map_cons, List.mapM_cons, List.mapM_cons, hread, ih]

theorem emplaceEach_mapDoubles {T : Type} {read : Json → Except Exn T}
    (hread : ∀ v, read (mapDoubles f v) = read v) (before : T → T → Bool) (duplicate : Exn)
    (vs : List Json) (s : List T) :
    emplaceEach before read duplicate (vs.map (mapDoubles f)) s =
      emplaceEach before read duplicate vs s := by
  induction vs generalizing s with
  | nil => rfl
  | cons v vs ih =>
    rw [List.map_cons, emplaceEach, emplaceEach, hread]
    simp only [ih]

/-! ## The parsers on a value without its doubles -/

theorem TcbComponent.parse_mapDoubles (v : Json) :
    TcbComponent.parse (mapDoubles f v) = TcbComponent.parse v := by
  simp only [TcbComponent.parse, isObject_mapDoubles, getUintFieldOf_mapDoubles,
    getStringFieldOf_mapDoubles]

namespace TcbLevel

theorem parseTcbLevelCommon_mapDoubles (env : JsonEnv) (v : Json) (self : TcbLevel) :
    parseTcbLevelCommon env (mapDoubles f v) self = parseTcbLevelCommon env v self := by
  simp only [parseTcbLevelCommon, parseStatus, isObject_mapDoubles, getDateFieldOf_mapDoubles,
    getStringVecFieldOf_mapDoubles, memberOrThrow_bind, string?_mapDoubles]

theorem setCpuSvn_mapDoubles (tcb : Json) (self : TcbLevel) :
    setCpuSvn (mapDoubles f tcb) self = setCpuSvn tcb self := by
  have hcomponent : cpuSvnComponent (mapDoubles f tcb) = cpuSvnComponent tcb := by
    funext name
    simp only [cpuSvnComponent, getUintFieldOf_mapDoubles]
  simp only [setCpuSvn, isObject_mapDoubles, hcomponent]

theorem parsePceSvn_mapDoubles (tcb : Json) (self : TcbLevel) :
    parsePceSvn (mapDoubles f tcb) self = parsePceSvn tcb self := by
  simp only [parsePceSvn, getUintFieldOf_mapDoubles]

theorem tcbComponentsOf_mapDoubles (tcb : Json) (name : Bytes) (missing : Exn) :
    tcbComponentsOf (mapDoubles f tcb) name missing = tcbComponentsOf tcb name missing := by
  simp only [tcbComponentsOf, memberOrThrow_bind, elemsOrThrow_bind, List.length_map,
    mapM_mapDoubles f (TcbComponent.parse_mapDoubles f)]

theorem setTcbComponents_mapDoubles (tcb : Json) (self : TcbLevel) :
    setTcbComponents (mapDoubles f tcb) self = setTcbComponents tcb self := by
  simp only [setTcbComponents, tcbComponentsOf_mapDoubles]

theorem parse_mapDoubles (env : JsonEnv) (version : UInt32) (id : Bytes) (v : Json) :
    parse env version id (mapDoubles f v) = parse env version id v := by
  simp only [parse, parseTcbLevelV2, parseTcbLevelV3, parseSvns, tcbOf, memberOrThrow_bind,
    parseTcbLevelCommon_mapDoubles, setCpuSvn_mapDoubles, parsePceSvn_mapDoubles,
    setTcbComponents_mapDoubles, isObject_mapDoubles]

end TcbLevel

theorem TdxModule.parse_mapDoubles (v : Json) :
    TdxModule.parse (mapDoubles f v) = TdxModule.parse v := by
  simp only [TdxModule.parse, isObject_mapDoubles, getBytesFieldOf_mapDoubles]

theorem TdxModuleTcbLevel.parse_mapDoubles (env : JsonEnv) (v : Json) :
    TdxModuleTcbLevel.parse env (mapDoubles f v) = TdxModuleTcbLevel.parse env v := by
  simp only [TdxModuleTcbLevel.parse, TdxModuleTcb.parse, isObject_mapDoubles, memberOrThrow_bind,
    getIntFieldOf_mapDoubles, getDateFieldOf_mapDoubles, getStringFieldOf_mapDoubles,
    getStringVecFieldOf_mapDoubles]

theorem TdxModuleIdentity.parse_mapDoubles (env : JsonEnv) (v : Json) :
    TdxModuleIdentity.parse env (mapDoubles f v) = TdxModuleIdentity.parse env v := by
  simp only [TdxModuleIdentity.parse, TdxModuleIdentity.parseFields, TdxModuleIdentity.levelsOf,
    getStringFieldOf_mapDoubles, getBytesFieldOf_mapDoubles, memberOrThrow_bind, bind_assoc,
    elemsOrThrow_bind, emplaceEach_mapDoubles f (TdxModuleTcbLevel.parse_mapDoubles f env)]

namespace TcbInfo

theorem parsePartV3_mapDoubles (env : JsonEnv) (v : Json) (self : TcbInfo) :
    parsePartV3 env (mapDoubles f v) self = parsePartV3 env v self := by
  have hids (w : Json) : parseTdxModuleIdentities env (mapDoubles f w) =
      parseTdxModuleIdentities env w := by
    simp only [parseTdxModuleIdentities, elemsOrThrow_bind,
      mapM_mapDoubles f (TdxModuleIdentity.parse_mapDoubles f env)]
  simp only [parsePartV3, parseTdxModule, hasMember_mapDoubles, memberOrThrow_bind,
    isObject_mapDoubles, TdxModule.parse_mapDoubles, member?_mapDoubles]
  cases v.member? (str "tdxModuleIdentities") with
  | none => rfl
  | some w => simp only [Option.map_some, hids]

/-- What the constructor makes of the body, apart from its written form, is the same
    without the doubles. -/
theorem parse_mapDoubles (env : JsonEnv) (v sig : Json) :
    (parseUntilLevels env (mapDoubles f v) sig >>= fun r => parseTcbLevels env r.2 r.1) =
      parseUntilLevels env v sig >>= fun r => parseTcbLevels env r.2 r.1 := by
  have hfields (self : TcbInfo) :
      parseFields env (mapDoubles f v) sig self = parseFields env v sig self := by
    simp only [parseFields, getDateFieldOf_mapDoubles, getBytesFieldOf_mapDoubles]
  have hid (self : TcbInfo) : parseVersionAndId (mapDoubles f v) self = parseVersionAndId v self := by
    simp only [parseVersionAndId, getUintFieldOf_mapDoubles, getStringFieldOf_mapDoubles]
  have hv2 : parsePartV2 (mapDoubles f v) = parsePartV2 v := by
    funext self
    simp only [parsePartV2, getIntFieldOf_mapDoubles, getUintFieldOf_mapDoubles]
  have hv3 : parsePartV3 env (mapDoubles f v) = parsePartV3 env v :=
    funext (parsePartV3_mapDoubles f env v)
  have hlevels (w : Json) (self : TcbInfo) :
      parseTcbLevels env (mapDoubles f w) self = parseTcbLevels env w self := by
    simp only [parseTcbLevels, elemsOrThrow_bind,
      emplaceEach_mapDoubles f (TcbLevel.parse_mapDoubles f env self.version self.id)]
  simp only [parseUntilLevels, parseUntilPartV3, hid, hfields, hv2, hv3, memberOrThrow_bind,
    bind_assoc, pure_bind, hlevels]

end TcbInfo

theorem IdentityTcbLevel.parse_mapDoubles (env : JsonEnv) (v : Json) :
    IdentityTcbLevel.parse env (mapDoubles f v) = IdentityTcbLevel.parse env v := by
  simp only [IdentityTcbLevel.parse, isObject_mapDoubles, memberOrThrow_bind,
    getUintFieldOf_mapDoubles, getDateFieldOf_mapDoubles, getStringFieldOf_mapDoubles,
    getStringVecFieldOf_mapDoubles]

namespace EnclaveIdentity

theorem parseFields_mapDoubles (env : JsonEnv) (v sig : Json) :
    parseFields env (mapDoubles f v) sig = parseFields env v sig := by
  simp only [parseFields, checkedField, getStringFieldOf_mapDoubles, getUintFieldOf_mapDoubles,
    getDateFieldOf_mapDoubles, getBytesFieldOf_mapDoubles]

theorem levels_mapDoubles (env : JsonEnv) (v : Json) :
    (levelsOf (mapDoubles f v) >>= fun elems => emplaceEach IdentityTcbLevel.greater
        (IdentityTcbLevel.parse env) duplicatedLevels elems []) =
      levelsOf v >>= fun elems => emplaceEach IdentityTcbLevel.greater
        (IdentityTcbLevel.parse env) duplicatedLevels elems [] := by
  simp only [levelsOf, memberOrThrow_bind, bind_assoc, elemsOrThrow_bind,
    emplaceEach_mapDoubles f (IdentityTcbLevel.parse_mapDoubles f env)]

end EnclaveIdentity

end

/-! ## The signature of a document -/

namespace TcbInfo

/-- The same TCB Info with another signature. -/
def withSignature (signature : Bytes) (t : TcbInfo) : TcbInfo := { t with signature }

theorem parsePartV2_withSignature (v : Json) (s : Bytes) (t : TcbInfo) :
    parsePartV2 v (t.withSignature s) = withSignature s <$> parsePartV2 v t := by
  simp only [parsePartV2, map_bind, map_pure]
  rfl

theorem parsePartV3_withSignature (env : JsonEnv) (v : Json) (s : Bytes) (t : TcbInfo) :
    parsePartV3 env v (t.withSignature s) = withSignature s <$> parsePartV3 env v t := by
  unfold parsePartV3
  have hid : (t.withSignature s).id = t.id := rfl
  rw [hid]
  split_ifs
  · simp only [map_bind, map_pure]
  · simp only [map_bind]
    congr 1
    funext tdxModule
    cases v.member? (str "tdxModuleIdentities") with
    | none => rfl
    | some w =>
      simp only [map_bind]
      rfl
  · rfl

theorem partSince_withSignature {part : TcbInfo → Except Exn TcbInfo} {s : Bytes}
    (hpart : ∀ t, part (t.withSignature s) = withSignature s <$> part t) (version : UInt32)
    (t : TcbInfo) :
    partSince version part (t.withSignature s) = withSignature s <$> partSince version part t := by
  unfold partSince
  have hversion : (t.withSignature s).version = t.version := rfl
  rw [hversion]
  split_ifs
  · exact hpart t
  · rfl

theorem parseTcbLevels_withSignature (env : JsonEnv) (tcbs : Json) (s : Bytes) (t : TcbInfo) :
    parseTcbLevels env tcbs (t.withSignature s) = withSignature s <$> parseTcbLevels env tcbs t := by
  simp only [parseTcbLevels, map_bind, map_pure]
  rfl

/-- The constructor from `[tcbLevels]` on. -/
def parseFromLevels (env : JsonEnv) (v : Json) (t : TcbInfo) : Except Exn TcbInfo := do
  let tcbs ← memberOrThrow v (str "tcbLevels")
    (.invalidExtension (str "Missing [tcbLevels] field of TCB info JSON"))
  let t ← partSince versionV2 (parsePartV2 v) t
  let t ← partSince versionV3 (parsePartV3 env v) t
  parseTcbLevels env tcbs t

theorem parseFromLevels_withSignature (env : JsonEnv) (v : Json) (s : Bytes) (t : TcbInfo) :
    parseFromLevels env v (t.withSignature s) = withSignature s <$> parseFromLevels env v t := by
  simp only [parseFromLevels, partSince_withSignature (parsePartV2_withSignature v s),
    partSince_withSignature (parsePartV3_withSignature env v s), bind_map_left, map_bind,
    parseTcbLevels_withSignature]

theorem parseUntilLevels_bind (env : JsonEnv) (v sig : Json) :
    (parseUntilLevels env v sig >>= fun r => parseTcbLevels env r.2 r.1) =
      parseVersionAndId v initial >>= fun t => parseFields env v sig t >>= fun t =>
        parseFromLevels env v t := by
  simp only [parseUntilLevels, parseUntilPartV3, parseFromLevels, bind_assoc, pure_bind]

/-- Two signature fields of one body make a difference to the signature only. -/
theorem eq_withSignature {env : JsonEnv} {v sig sig' : Json} {t t' : TcbInfo}
    (h : (parseUntilLevels env v sig >>= fun r => parseTcbLevels env r.2 r.1) = .ok t)
    (h' : (parseUntilLevels env v sig' >>= fun r => parseTcbLevels env r.2 r.1) = .ok t') :
    ∃ s, t' = t.withSignature s := by
  rw [parseUntilLevels_bind] at h h'
  obtain ⟨t0, hid, h⟩ := bind_eq_ok.mp h
  rw [hid, ok_bind] at h'
  obtain ⟨t1, hfields, h⟩ := bind_eq_ok.mp h
  obtain ⟨t1', hfields', h'⟩ := bind_eq_ok.mp h'
  obtain ⟨issueDate, hissue, hfields⟩ := bind_eq_ok.mp hfields
  obtain ⟨nextUpdate, hnext, hfields⟩ := bind_eq_ok.mp hfields
  obtain ⟨fmspc, hfmspc, hfields⟩ := bind_eq_ok.mp hfields
  obtain ⟨pceId, hpceId, hfields⟩ := bind_eq_ok.mp hfields
  obtain ⟨s, -, hfields⟩ := bind_eq_ok.mp hfields
  cases hfields
  rw [parseFields, hissue, ok_bind, hnext, ok_bind, hfmspc, ok_bind, hpceId, ok_bind] at hfields'
  obtain ⟨s', -, hfields'⟩ := bind_eq_ok.mp hfields'
  cases hfields'
  refine ⟨s', ?_⟩
  have hrest := parseFromLevels_withSignature env v s' { t0 with
    issueDate, nextUpdate, fmspc, pceId, signature := s }
  rw [h] at hrest
  exact Except.ok.inj (h'.symm.trans hrest)

end TcbInfo

namespace EnclaveIdentity

/-- Two signature fields of one body make a difference to the signature only. -/
theorem eq_withSignature {env : JsonEnv} {v sig sig' : Json} {i i' : EnclaveIdentity}
    (h : parseFields env v sig = .ok i) (h' : parseFields env v sig' = .ok i') :
    ∃ signature, i' = { i with signature } := by
  obtain ⟨idStr, hidStr, h⟩ := bind_eq_ok.mp h
  obtain ⟨id, hid, h⟩ := bind_eq_ok.mp h
  obtain ⟨version, hversion, h⟩ := bind_eq_ok.mp h
  obtain ⟨_, hv2, h⟩ := bind_eq_ok.mp h
  obtain ⟨issueDate, hissue, h⟩ := bind_eq_ok.mp h
  obtain ⟨nextUpdate, hnext, h⟩ := bind_eq_ok.mp h
  obtain ⟨number, hnumber, h⟩ := bind_eq_ok.mp h
  obtain ⟨miscselect, hmiscselect, h⟩ := bind_eq_ok.mp h
  obtain ⟨miscselectMask, hmiscselectMask, h⟩ := bind_eq_ok.mp h
  obtain ⟨attributes, hattributes, h⟩ := bind_eq_ok.mp h
  obtain ⟨attributesMask, hattributesMask, h⟩ := bind_eq_ok.mp h
  obtain ⟨mrSigner, hmrSigner, h⟩ := bind_eq_ok.mp h
  obtain ⟨isvProdId, hisvProdId, h⟩ := bind_eq_ok.mp h
  obtain ⟨s, -, h⟩ := bind_eq_ok.mp h
  cases h
  rw [parseFields, hidStr, ok_bind, hid, ok_bind, hversion, ok_bind, hv2, ok_bind, hissue, ok_bind,
    hnext, ok_bind, hnumber, ok_bind, hmiscselect, ok_bind, hmiscselectMask, ok_bind, hattributes,
    ok_bind, hattributesMask, ok_bind, hmrSigner, ok_bind, hisvProdId, ok_bind] at h'
  obtain ⟨s', -, h'⟩ := bind_eq_ok.mp h'
  cases h'
  exact ⟨s', rfl⟩

end EnclaveIdentity

/-! ## The body of a text -/

/-- The reader and the writer of rapidjson. -/
def JsonEnv.rapidjson (env : JsonEnv) (rd : DoubleReader) (wr : DoubleWriter) : JsonEnv :=
  { env with
    read := fun json => (Rapidjson.parseDocument rd json).toOption
    write := acceptText wr }

theorem Rapidjson.AllScalars.member {P : Json → Prop} {v u : Json} {name : Bytes} (hv : AllScalars P v)
    (h : v.member? name = some u) : AllScalars P u := by
  cases v with
  | object ms =>
    replace hv : AllMembers P ms := hv
    replace h : ms.lookup name = some u := h
    induction ms with
    | nil => cases h
    | cons m ms ih =>
      obtain ⟨name', w⟩ := m
      rw [List.lookup_cons] at h
      cases hname : name == name' with
      | true =>
        rw [hname] at h
        cases h
        exact hv.1
      | false =>
        rw [hname] at h
        exact ih hv.2 h
  | _ => cases h

section
variable {env : JsonEnv} {rd : DoubleReader} {wr : DoubleWriter}

/-- The members of a document that is read have readable scalars. -/
theorem readable_of_document {json : Bytes} {document u : Json} {name : Bytes}
    (hread : (env.rapidjson rd wr).parse json = some document)
    (hmember : document.member? name = some u) : AllScalars Readable u := by
  unfold JsonEnv.parse at hread
  split_ifs at hread
  obtain ⟨hread, -⟩ := Option.filter_eq_some_iff.mp hread
  replace hread : (Rapidjson.parseDocument rd (cStr json)).toOption = some document := hread
  cases hparse : Rapidjson.parseDocument rd (cStr json) with
  | error e =>
    rw [hparse] at hread
    cases hread
  | ok v =>
    rw [hparse] at hread
    cases hread
    exact (readable_of_parse hparse).member hmember

theorem readable_of_tcbInfo {json : Bytes} {v sig : Json}
    (h : TcbInfo.parseDocument (env.rapidjson rd wr) json = .ok (v, sig)) :
    AllScalars Readable v := by
  obtain ⟨document, hread, hmember, -⟩ := TcbInfo.parseDocument_eq_ok h
  exact readable_of_document hread hmember

theorem readable_of_identity {json : Bytes} {v sig : Json}
    (h : EnclaveIdentity.parseDocument (env.rapidjson rd wr) json = .ok (v, sig)) :
    AllScalars Readable v := by
  obtain ⟨document, hread, hmember, -⟩ := EnclaveIdentity.parseDocument_eq_ok h
  exact readable_of_document hread hmember

/-- Bodies of one written form are the same up to their doubles. -/
theorem eraseDoubles_of_write {v v' : Json} (hv : AllScalars Readable v)
    (hv' : AllScalars Readable v') {maxDecimalPlaces : ℕ} (hmax : 1 ≤ maxDecimalPlaces)
    (h : acceptText wr maxDecimalPlaces v = acceptText wr maxDecimalPlaces v') :
    eraseDoubles v = eraseDoubles v' := by
  apply written_injective hv hv'
  rw [← acceptText_eq wr hmax hv, ← acceptText_eq wr hmax hv']
  exact h

/-- The parts of a TCB Info that is parsed: the fields of its body, and the written body. -/
theorem TcbInfo.parse_parts {json : Bytes} {t : TcbInfo}
    (h : TcbInfo.parse (env.rapidjson rd wr) json = .ok t) :
    ∃ v sig u, AllScalars Readable v ∧
      (parseUntilLevels (env.rapidjson rd wr) v sig >>= fun r =>
        parseTcbLevels (env.rapidjson rd wr) r.2 r.1) = .ok u ∧
      t = { u with infoBody := (env.rapidjson rd wr).write 25 v } := by
  obtain ⟨⟨v, sig⟩, hdocument, h⟩ := bind_eq_ok.mp h
  obtain ⟨⟨t1, tcbs⟩, huntil, h⟩ := bind_eq_ok.mp h
  obtain ⟨u, hlevels, h⟩ := bind_eq_ok.mp h
  obtain ⟨_, _, h⟩ := bind_eq_ok.mp h
  cases h
  refine ⟨v, sig, u, readable_of_tcbInfo hdocument, ?_, rfl⟩
  rw [huntil, ok_bind]
  exact hlevels

/-- The parts of an identity that is parsed. -/
theorem EnclaveIdentity.parse_parts {json : Bytes} {i : EnclaveIdentity}
    (h : EnclaveIdentity.parse (env.rapidjson rd wr) json = .ok i) :
    ∃ v sig self levels, AllScalars Readable v ∧
      parseFields (env.rapidjson rd wr) v sig = .ok self ∧
      (levelsOf v >>= fun elems => emplaceEach IdentityTcbLevel.greater
        (IdentityTcbLevel.parse (env.rapidjson rd wr)) duplicatedLevels elems []) = .ok levels ∧
      i = { self with
        identityTcbLevels := levels
        body := (env.rapidjson rd wr).write defaultMaxDecimalPlaces v } := by
  obtain ⟨⟨v, sig⟩, hdocument, h⟩ := bind_eq_ok.mp h
  obtain ⟨self, hself, h⟩ := bind_eq_ok.mp h
  obtain ⟨elems, helems, h⟩ := bind_eq_ok.mp h
  obtain ⟨levels, hlevels, h⟩ := bind_eq_ok.mp h
  obtain ⟨_, _, h⟩ := bind_eq_ok.mp h
  obtain ⟨_, _, h⟩ := bind_eq_ok.mp h
  cases h
  refine ⟨v, sig, self, levels, readable_of_identity hdocument, hself, ?_, rfl⟩
  rw [helems, ok_bind]
  exact hlevels

/-- **What the signature of a TCB Info covers.** Two texts that are parsed with the same
    written body give the same TCB Info, but for the signature. -/
theorem tcbInfo_of_body {json json' : Bytes} {t t' : TcbInfo}
    (h : TcbInfo.parse (env.rapidjson rd wr) json = .ok t)
    (h' : TcbInfo.parse (env.rapidjson rd wr) json' = .ok t') (hbody : t.infoBody = t'.infoBody) :
    t' = { t with signature := t'.signature } := by
  obtain ⟨v, sig, u, hv, hu, rfl⟩ := TcbInfo.parse_parts h
  obtain ⟨v', sig', u', hv', hu', rfl⟩ := TcbInfo.parse_parts h'
  -- both bodies are parsed like the one without its doubles
  have herase := eraseDoubles_of_write hv hv' (by decide) hbody
  rw [← TcbInfo.parse_mapDoubles fun d => signedZero (sign d)] at hu hu'
  rw [show mapDoubles _ v = mapDoubles _ v' from herase] at hu
  obtain ⟨s, rfl⟩ := TcbInfo.eq_withSignature hu hu'
  rw [show (env.rapidjson rd wr).write 25 v = _ from hbody]
  rfl

/-- An environment that takes any date. -/
def sampleRapidjson : JsonEnv :=
  JsonEnv.rapidjson ⟨fun _ => none, fun _ _ => [], fun _ => true, fun _ => 0⟩ zeroReader sampleWriter

/-- A document with a body and a signature, after some blanks. -/
def signedText (name : Bytes) (body : List (Bytes × Json)) (signature : UInt8) (blanks : ℕ) :
    Bytes :=
  List.replicate blanks 32 ++ written sampleWriter 25 (.object [(name, .object body),
    (str "signature", .string (List.replicate 128 signature))])

/-- A TCB Info for SGX with one level. -/
def signedTcbInfo : List (Bytes × Json) := [
  (str "version", .int 3), (str "id", .string (str "SGX")), (str "issueDate", .string []),
  (str "nextUpdate", .string []), (str "fmspc", .string (List.replicate 12 48)),
  (str "pceId", .string (List.replicate 4 48)), (str "tcbType", .int 0),
  (str "tcbEvaluationDataNumber", .int 1),
  (str "tcbLevels", .array [.object [
    (str "tcb", .object [(str "pcesvn", .int 1),
      (str "sgxtcbcomponents", .array (List.replicate 16 (.object [(str "svn", .int 2)])))]),
    (str "tcbDate", .string []), (str "tcbStatus", .string (str "UpToDate"))]])]

theorem tcbInfo_of_body_sample :
    ∃ t t', TcbInfo.parse sampleRapidjson (signedText (str "tcbInfo") signedTcbInfo 48 0) = .ok t ∧
      TcbInfo.parse sampleRapidjson (signedText (str "tcbInfo") signedTcbInfo 49 3) = .ok t' ∧
      t.signature ≠ t'.signature ∧ t' = { t with signature := t'.signature } := by
  have hparse : (match TcbInfo.parse sampleRapidjson (signedText (str "tcbInfo") signedTcbInfo 48 0),
      TcbInfo.parse sampleRapidjson (signedText (str "tcbInfo") signedTcbInfo 49 3) with
      | .ok t, .ok t' => decide (t.infoBody = t'.infoBody ∧ t.signature ≠ t'.signature)
      | _, _ => false) = true := by
    decide +kernel
  split at hparse
  · rename_i t t' h h'
    obtain ⟨hbody, hne⟩ := of_decide_eq_true hparse
    exact ⟨t, t', h, h', hne, tcbInfo_of_body h h' hbody⟩
  · cases hparse

/-- **What the signature of an identity covers.** -/
theorem enclaveIdentity_of_body {json json' : Bytes} {i i' : EnclaveIdentity}
    (h : EnclaveIdentity.parse (env.rapidjson rd wr) json = .ok i)
    (h' : EnclaveIdentity.parse (env.rapidjson rd wr) json' = .ok i') (hbody : i.body = i'.body) :
    i' = { i with signature := i'.signature } := by
  obtain ⟨v, sig, self, levels, hv, hself, hlevels, rfl⟩ := EnclaveIdentity.parse_parts h
  obtain ⟨v', sig', self', levels', hv', hself', hlevels', rfl⟩ := EnclaveIdentity.parse_parts h'
  have herase := eraseDoubles_of_write hv hv' (by decide) hbody
  rw [← EnclaveIdentity.parseFields_mapDoubles fun d => signedZero (sign d)] at hself hself'
  rw [← EnclaveIdentity.levels_mapDoubles fun d => signedZero (sign d)] at hlevels hlevels'
  rw [show mapDoubles _ v = mapDoubles _ v' from herase] at hself hlevels
  obtain ⟨s, rfl⟩ := EnclaveIdentity.eq_withSignature hself hself'
  rw [hlevels] at hlevels'
  cases hlevels'
  rw [show (env.rapidjson rd wr).write defaultMaxDecimalPlaces v = _ from hbody]

/-- An identity of a QE with one level. -/
def signedIdentity : List (Bytes × Json) := [
  (str "id", .string (str "QE")), (str "version", .int 2), (str "issueDate", .string []),
  (str "nextUpdate", .string []), (str "tcbEvaluationDataNumber", .int 1),
  (str "miscselect", .string (List.replicate 8 48)),
  (str "miscselectMask", .string (List.replicate 8 48)),
  (str "attributes", .string (List.replicate 32 48)),
  (str "attributesMask", .string (List.replicate 32 48)),
  (str "mrsigner", .string (List.replicate 64 48)), (str "isvprodid", .int 1),
  (str "tcbLevels", .array [.object [(str "tcb", .object [(str "isvsvn", .int 1)]),
    (str "tcbDate", .string []), (str "tcbStatus", .string (str "UpToDate"))]])]

theorem enclaveIdentity_of_body_sample :
    ∃ i i', EnclaveIdentity.parse sampleRapidjson
        (signedText (str "enclaveIdentity") signedIdentity 48 0) = .ok i ∧
      EnclaveIdentity.parse sampleRapidjson
        (signedText (str "enclaveIdentity") signedIdentity 49 3) = .ok i' ∧
      i.signature ≠ i'.signature ∧ i' = { i with signature := i'.signature } := by
  have hparse : (match
      EnclaveIdentity.parse sampleRapidjson
        (signedText (str "enclaveIdentity") signedIdentity 48 0),
      EnclaveIdentity.parse sampleRapidjson
        (signedText (str "enclaveIdentity") signedIdentity 49 3) with
      | .ok i, .ok i' => decide (i.body = i'.body ∧ i.signature ≠ i'.signature)
      | _, _ => false) = true := by
    decide +kernel
  split at hparse
  · rename_i i i' h h'
    obtain ⟨hbody, hne⟩ := of_decide_eq_true hparse
    exact ⟨i, i', h, h', hne, enclaveIdentity_of_body h h' hbody⟩
  · cases hparse

/-! ## The written bodies -/

end

end DcapQvl
