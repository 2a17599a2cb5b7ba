import DcapQvl.Json.Value
import DcapQvl.Lib.OrderedSet

/-!
# TCB levels

Models of `TcbComponent.cpp` and `TcbLevel.cpp` (the JSON constructors).

Results:
* `TcbLevel.parse_wellFormed`: what holds of every parsed level.
* `TcbLevel.comparesKeys`: on these, `operator>` orders by CPU SVN, then PCE SVN,
  then TDX component SVNs.
-/

namespace DcapQvl

open Lib

/-- `TcbInfo::Version::V2` and `V3`. -/
def versionV2 : UInt32 := 2
def versionV3 : UInt32 := 3

/-- `TcbInfo::SGX_ID` and `TDX_ID`. -/
def sgxId : Bytes := str "SGX"
def tdxId : Bytes := str "TDX"

/-- `SGX_TCB_SVN_COMP_COUNT`. -/
def sgxTcbSvnCompCount : ℕ := 16

/-- `constants::CPUSVN_BYTE_LEN`. -/
def cpusvnByteLen : ℕ := 16

/-! ## Components -/

structure TcbComponent where
  svn : UInt8
  category : Bytes
  type : Bytes
  deriving DecidableEq, Repr

/-- `TcbComponent(uint8_t svn)`. -/
def TcbComponent.ofSvn (svn : UInt8) : TcbComponent := { svn, category := [], type := [] }

/-- `TcbComponent::TcbComponent(tcbComponent)`; the SVN is cut to a byte. -/
def TcbComponent.parse (tcbComponent : Json) : Except Exn TcbComponent := do
  throwUnless tcbComponent.isObject (.format (str "TCB Component should be an object"))
  let svnError : Exn := .format
    (str "TCB Component JSON should has [svn] field and it should be unsigned integer")
  let svnTemporary ← required svnError svnError (← getUintFieldOf tcbComponent (str "svn"))
  let category ← optionalField
    (.format (str "TCB Component JSON's [category] field should be string"))
    (← getStringFieldOf tcbComponent (str "category"))
  let type ← optionalField (.format (str "TCB Component JSON's [type] field should be string"))
    (← getStringFieldOf tcbComponent (str "type"))
  pure { svn := svnTemporary.toUInt8, category, type }

/-! ## Levels -/

structure TcbLevel where
  id : Bytes
  version : UInt32
  cpuSvn : List UInt8
  cpuSvnComponents : List TcbComponent
  sgxTcbComponents : List TcbComponent
  tdxTcbComponents : List TcbComponent
  pceSvn : UInt32
  status : Bytes
  tcbDate : ℤ
  advisoryIDs : List Bytes
  deriving DecidableEq, Repr

namespace TcbLevel

/-- The component SVNs of a level. -/
def tdxSvns (l : TcbLevel) : List UInt8 := l.tdxTcbComponents.map TcbComponent.svn

/-- `TcbLevel::operator>`; vectors compare lexicographically, components by SVN. -/
def greater (l other : TcbLevel) : Bool :=
  if l.cpuSvn = other.cpuSvn then
    if l.version = versionV3 ∧ l.id = tdxId ∧ l.pceSvn = other.pceSvn then
      l.tdxSvns > other.tdxSvns
    else l.pceSvn > other.pceSvn
  else l.cpuSvn > other.cpuSvn

/-- `getSgxTcbComponents()`. -/
def getSgxTcbComponents (l : TcbLevel) : Except Exn (List TcbComponent) :=
  if l.version < versionV2 then
    .error (.format (str "SGX TCB Components is not a valid field in TCB Info V1 structure"))
  else if l.version = versionV2 then .ok l.cpuSvnComponents
  else .ok l.sgxTcbComponents

/-- `getTdxTcbComponents()`. -/
def getTdxTcbComponents (l : TcbLevel) : Except Exn (List TcbComponent) :=
  if l.version < versionV3 then
    .error (.format (str
      "TDX TCB Components is not a valid field in TCB Info V1 and V2 structure"))
  else if l.id ≠ tdxId then
    .error (.format (str "TDX TCB Components is not a valid field in SGX TCB Info structure"))
  else .ok l.tdxTcbComponents

/-- The `validStatuses` of `parseTcbLevelCommon`. -/
def validStatuses : List Bytes :=
  ["UpToDate", "OutOfDate", "ConfigurationNeeded", "Revoked", "OutOfDateConfigurationNeeded",
    "SWHardeningNeeded", "ConfigurationAndSWHardeningNeeded"].map str

/-- `parseStatus(tcbLevel, validStatuses, filedName)`. -/
def parseStatus (tcbLevel : Json) (validStatuses : List Bytes) (filedName : Bytes)
    (self : TcbLevel) : Except Exn TcbLevel := do
  let status_v ← memberOrThrow tcbLevel filedName
    (.format (str "TCB level JSON should has [" ++ filedName ++ str "] field"))
  match status_v.string? with
  | none =>
    .error (.format (str "TCB level [" ++ filedName ++ str "] JSON field should be a string"))
  | some s => do
    let status := cStr s
    throwUnless (status ∈ validStatuses) (.invalidExtension (str "TCB level [" ++ filedName ++
      str "] JSON field has invalid value [" ++ status ++ str "]"))
    pure { self with status }

/-- `parseTcbLevelCommon`. -/
def parseTcbLevelCommon (env : JsonEnv) (tcbLevel : Json) (self : TcbLevel) :
    Except Exn TcbLevel := do
  throwUnless tcbLevel.isObject (.format (str "TCB level should be a JSON object"))
  let tcbDate ← required
    (.format (str "TCB level JSON should has [tcbDate] field"))
    (.invalidExtension (str
      "Could not parse [tcbDate] field of TCB info JSON to date. [tcbDate] should be ISO formatted date"))
    (← getDateFieldOf env tcbLevel (str "tcbDate"))
  let advisoryIDs ← optionalField
    (.invalidExtension (str
      "Could not parse [advisoryIDs] field of TCB info JSON to an array."))
    (← getStringVecFieldOf tcbLevel (str "advisoryIDs"))
  parseStatus tcbLevel validStatuses (str "tcbStatus") { self with tcbDate, advisoryIDs }

/-- `sgxTcbSvnComponentsNames`. -/
def sgxTcbSvnComponentsNames : List Bytes :=
  ["sgxtcbcomp01svn", "sgxtcbcomp02svn", "sgxtcbcomp03svn", "sgxtcbcomp04svn",
    "sgxtcbcomp05svn", "sgxtcbcomp06svn", "sgxtcbcomp07svn", "sgxtcbcomp08svn",
    "sgxtcbcomp09svn", "sgxtcbcomp10svn", "sgxtcbcomp11svn", "sgxtcbcomp12svn",
    "sgxtcbcomp13svn", "sgxtcbcomp14svn", "sgxtcbcomp15svn", "sgxtcbcomp16svn"].map str

/-- The body of the loop of `setCpuSvn`. -/
def cpuSvnComponent (tcb : Json) (componentName : Bytes) : Except Exn UInt8 := do
  let componentValue ← required
    (.format (str "TCB level JSON should has [" ++ componentName ++ str "] field"))
    (.invalidExtension (str "Could not parse [" ++ componentName ++
      str "] field of TCB level JSON to unsigned integer"))
    (← getUintFieldOf tcb componentName)
  pure componentValue.toUInt8

/-- `setCpuSvn`. -/
def setCpuSvn (tcb : Json) (self : TcbLevel) : Except Exn TcbLevel := do
  throwUnless tcb.isObject (.format (str "[tcb] field of TCB level should be a JSON object"))
  let cpuSvn ← sgxTcbSvnComponentsNames.mapM (cpuSvnComponent tcb)
  pure { self with cpuSvn, cpuSvnComponents := cpuSvn.map TcbComponent.ofSvn }

/-- The `[pcesvn]` field of a `tcb` object. -/
def parsePceSvn (tcb : Json) (self : TcbLevel) : Except Exn TcbLevel := do
  let pceSvnError : Exn := .format (str
    "Could not parse [pcesvn] field of TCB level JSON to unsigned integer")
  let pceSvn ← required pceSvnError pceSvnError (← getUintFieldOf tcb (str "pcesvn"))
  pure { self with pceSvn }

/-- The `[tcb]` field of a level. -/
def tcbOf (tcbLevel : Json) : Except Exn Json :=
  memberOrThrow tcbLevel (str "tcb") (.format (str "TCB level JSON should has [tcb] field"))

/-- `parseSvns`. -/
def parseSvns (tcbLevel : Json) (self : TcbLevel) : Except Exn TcbLevel := do
  let tcb ← tcbOf tcbLevel
  let self ← setCpuSvn tcb self
  parsePceSvn tcb self

/-- An array of components, as `setTcbComponents` reads it twice. -/
def tcbComponentsOf (tcb : Json) (name : Bytes) (missing : Exn) :
    Except Exn (List TcbComponent) := do
  let componentsArray ← memberOrThrow tcb name missing
  let elems ← elemsOrThrow componentsArray
    (.format (str "TCB level JSON's [" ++ name ++ str "] field should be an array"))
  throwUnless (elems.length = sgxTcbSvnCompCount)
    (.format (str "TCB level [" ++ name ++ str "] array should have " ++
      toStr sgxTcbSvnCompCount ++ str " entries"))
  elems.mapM TcbComponent.parse

/-- `setTcbComponents`. -/
def setTcbComponents (tcb : Json) (self : TcbLevel) : Except Exn TcbLevel := do
  let sgx ← tcbComponentsOf tcb (str "sgxtcbcomponents")
    (.format (str "TCB level JSON should have [sgxtcbcomponents] field"))
  let self := { self with
    sgxTcbComponents := sgx
    cpuSvn := sgx.map TcbComponent.svn
    cpuSvnComponents := sgx }
  if self.id = tdxId then do
    let tdx ← tcbComponentsOf tcb (str "tdxtcbcomponents")
      (.format (str "TCB level JSON for TDX should have [tdxtcbcomponents] field"))
    pure { self with tdxTcbComponents := tdx }
  else pure self

/-- `parseTcbLevelV2`. -/
def parseTcbLevelV2 (env : JsonEnv) (tcbLevel : Json) (self : TcbLevel) :
    Except Exn TcbLevel := do
  let self ← parseTcbLevelCommon env tcbLevel self
  parseSvns tcbLevel self

/-- `parseTcbLevelV3`. -/
def parseTcbLevelV3 (env : JsonEnv) (tcbLevel : Json) (self : TcbLevel) :
    Except Exn TcbLevel := do
  let self ← parseTcbLevelCommon env tcbLevel self
  let tcb ← tcbOf tcbLevel
  throwUnless tcb.isObject (.format (str "TCB level JSON [tcb] field should be an object"))
  let self ← parsePceSvn tcb self
  setTcbComponents tcb self

/-- The members before the constructor's body runs. -/
def initial (id : Bytes) (version : UInt32) : TcbLevel :=
  { id, version, cpuSvn := [], cpuSvnComponents := [], sgxTcbComponents := [],
    tdxTcbComponents := [], pceSvn := 0, status := [], tcbDate := 0, advisoryIDs := [] }

/-- `TcbLevel::TcbLevel(tcbLevel, version, id)`. -/
def parse (env : JsonEnv) (version : UInt32) (id : Bytes) (tcbLevel : Json) :
    Except Exn TcbLevel :=
  if version = 2 then parseTcbLevelV2 env tcbLevel (initial id version)
  else if version = 3 then parseTcbLevelV3 env tcbLevel (initial id version)
  else .error (.invalidExtension (str "Unsupported version of tcbLevel"))

/-! ## What a parsed level is -/

/-- What holds of every level that the constructor builds for a version and an id. -/
structure WellFormed (version : UInt32) (id : Bytes) (l : TcbLevel) : Prop where
  version_eq : l.version = version
  id_eq : l.id = id
  supported : version = versionV2 ∨ version = versionV3
  cpuSvn_length : l.cpuSvn.length = cpusvnByteLen
  components : l.getSgxTcbComponents = .ok l.cpuSvnComponents
  component_svns : l.cpuSvnComponents.map TcbComponent.svn = l.cpuSvn
  tdx_length : version = versionV3 → id = tdxId → l.tdxTcbComponents.length = cpusvnByteLen
  tdx_nil : ¬ (version = versionV3 ∧ id = tdxId) → l.tdxTcbComponents = []
  status_mem : l.status ∈ validStatuses

theorem map_svn_ofSvn (svns : List UInt8) :
    (svns.map TcbComponent.ofSvn).map TcbComponent.svn = svns := by
  rw [List.map_map]
  exact List.map_id svns

theorem parseStatus_eq_ok {tcbLevel : Json} {valid : List Bytes} {name : Bytes}
    {self l : TcbLevel} (h : parseStatus tcbLevel valid name self = .ok l) :
    ∃ status ∈ valid, l = { self with status } := by
  obtain ⟨v, _, h⟩ := bind_eq_ok.mp h
  cases hs : v.string? with
  | none => rw [hs] at h; cases h
  | some s =>
    rw [hs] at h
    obtain ⟨_, hmem, h⟩ := bind_eq_ok.mp h
    cases h
    exact ⟨cStr s, throwUnless_eq_ok.mp hmem, rfl⟩

theorem parseTcbLevelCommon_eq_ok {env : JsonEnv} {tcbLevel : Json} {self l : TcbLevel}
    (h : parseTcbLevelCommon env tcbLevel self = .ok l) :
    ∃ status ∈ validStatuses, ∃ tcbDate advisoryIDs,
      l = { self with status, tcbDate, advisoryIDs } := by
  obtain ⟨_, _, h⟩ := bind_eq_ok.mp h
  obtain ⟨_, _, h⟩ := bind_eq_ok.mp h
  obtain ⟨tcbDate, _, h⟩ := bind_eq_ok.mp h
  obtain ⟨_, _, h⟩ := bind_eq_ok.mp h
  obtain ⟨advisoryIDs, _, h⟩ := bind_eq_ok.mp h
  obtain ⟨status, hmem, hl⟩ := parseStatus_eq_ok h
  exact ⟨status, hmem, tcbDate, advisoryIDs, hl⟩

theorem setCpuSvn_eq_ok {tcb : Json} {self l : TcbLevel} (h : setCpuSvn tcb self = .ok l) :
    ∃ cpuSvn : List UInt8, cpuSvn.length = cpusvnByteLen ∧
      l = { self with cpuSvn, cpuSvnComponents := cpuSvn.map TcbComponent.ofSvn } := by
  obtain ⟨_, _, h⟩ := bind_eq_ok.mp h
  obtain ⟨cpuSvn, hcpuSvn, h⟩ := bind_eq_ok.mp h
  cases h
  exact ⟨cpuSvn, by rw [mapM_length hcpuSvn]; rfl, rfl⟩

theorem parsePceSvn_eq_ok {tcb : Json} {self l : TcbLevel} (h : parsePceSvn tcb self = .ok l) :
    ∃ pceSvn, l = { self with pceSvn } := by
  obtain ⟨_, _, h⟩ := bind_eq_ok.mp h
  obtain ⟨pceSvn, _, h⟩ := bind_eq_ok.mp h
  cases h
  exact ⟨pceSvn, rfl⟩

theorem tcbComponentsOf_eq_ok {tcb : Json} {name : Bytes} {missing : Exn}
    {cs : List TcbComponent} (h : tcbComponentsOf tcb name missing = .ok cs) :
    cs.length = cpusvnByteLen := by
  obtain ⟨_, _, h⟩ := bind_eq_ok.mp h
  obtain ⟨_, _, h⟩ := bind_eq_ok.mp h
  obtain ⟨_, hlen, h⟩ := bind_eq_ok.mp h
  rw [mapM_length h, throwUnless_eq_ok.mp hlen]
  rfl

theorem setTcbComponents_eq_ok {tcb : Json} {self l : TcbLevel}
    (h : setTcbComponents tcb self = .ok l) :
    ∃ sgx tdx : List TcbComponent, sgx.length = cpusvnByteLen ∧
      (self.id = tdxId → tdx.length = cpusvnByteLen) ∧
      (self.id ≠ tdxId → tdx = self.tdxTcbComponents) ∧
      l = { self with
        sgxTcbComponents := sgx
        cpuSvn := sgx.map TcbComponent.svn
        cpuSvnComponents := sgx
        tdxTcbComponents := tdx } := by
  obtain ⟨sgx, hsgx, h⟩ := bind_eq_ok.mp h
  have hlen := tcbComponentsOf_eq_ok hsgx
  by_cases hid : self.id = tdxId
  · rw [if_pos hid] at h
    obtain ⟨tdx, htdx, h⟩ := bind_eq_ok.mp h
    cases h
    exact ⟨sgx, tdx, hlen, fun _ => tcbComponentsOf_eq_ok htdx, fun hne => absurd hid hne, rfl⟩
  · rw [if_neg hid] at h
    cases h
    exact ⟨sgx, _, hlen, fun heq => absurd heq hid, fun _ => rfl, rfl⟩

/-- Every level that is parsed is well formed. -/
theorem parse_wellFormed {env : JsonEnv} {version : UInt32} {id : Bytes} {tcbLevel : Json}
    {l : TcbLevel} (h : parse env version id tcbLevel = .ok l) : WellFormed version id l := by
  rw [parse] at h
  split_ifs at h with h2 h3
  · obtain ⟨l₁, h₁, h⟩ := bind_eq_ok.mp h
    obtain ⟨status, hstatus, date, ids, rfl⟩ := parseTcbLevelCommon_eq_ok h₁
    obtain ⟨tcb, _, h⟩ := bind_eq_ok.mp h
    obtain ⟨l₂, h₂, h⟩ := bind_eq_ok.mp h
    obtain ⟨cpuSvn, hlen, rfl⟩ := setCpuSvn_eq_ok h₂
    obtain ⟨pceSvn, rfl⟩ := parsePceSvn_eq_ok h
    subst h2
    exact {
      version_eq := rfl
      id_eq := rfl
      supported := Or.inl rfl
      cpuSvn_length := hlen
      components := rfl
      component_svns := map_svn_ofSvn cpuSvn
      tdx_length := fun hv => absurd hv (by decide)
      tdx_nil := fun _ => rfl
      status_mem := hstatus }
  · obtain ⟨l₁, h₁, h⟩ := bind_eq_ok.mp h
    obtain ⟨status, hstatus, date, ids, rfl⟩ := parseTcbLevelCommon_eq_ok h₁
    obtain ⟨tcb, _, h⟩ := bind_eq_ok.mp h
    obtain ⟨_, _, h⟩ := bind_eq_ok.mp h
    obtain ⟨l₂, h₂, h⟩ := bind_eq_ok.mp h
    obtain ⟨pceSvn, rfl⟩ := parsePceSvn_eq_ok h₂
    obtain ⟨sgx, tdx, hlen, htdx, hnil, rfl⟩ := setTcbComponents_eq_ok h
    subst h3
    exact {
      version_eq := rfl
      id_eq := rfl
      supported := Or.inr rfl
      cpuSvn_length := by rw [List.length_map, hlen]
      components := rfl
      component_svns := rfl
      tdx_length := fun _ hid => htdx hid
      tdx_nil := fun hne => hnil fun hid => hne ⟨rfl, hid⟩
      status_mem := hstatus }

theorem WellFormed.getTdxTcbComponents {id : Bytes} {l : TcbLevel}
    (h : WellFormed versionV3 id l) (hid : id = tdxId) :
    l.getTdxTcbComponents = .ok l.tdxTcbComponents := by
  rw [TcbLevel.getTdxTcbComponents, if_neg (by rw [h.version_eq]; decide),
    if_neg (by simp [h.id_eq, hid])]

/-! ## What a level never reports -/

section Avoids

variable {e : Exn} (hd : e.NotOfField)
include hd

theorem component_avoids (v : Json) : Avoids e (TcbComponent.parse v) := by
  refine (throwUnless_avoids hd.ne).bind fun _ _ => ?_
  refine (getFieldOf_avoids _ _ hd v _).bind fun _ _ => ?_
  refine (required_avoids hd.ne hd.ne _).bind fun _ _ => ?_
  refine (getFieldOf_avoids _ _ hd v _).bind fun _ _ => ?_
  refine (optionalField_avoids hd.ne _).bind fun _ _ => ?_
  refine (getFieldOf_avoids _ _ hd v _).bind fun _ _ => ?_
  exact (optionalField_avoids hd.ne _).bind fun _ _ => Avoids.pure _

theorem parseStatus_avoids (v : Json) (valid : List Bytes) (name : Bytes) (self : TcbLevel) :
    Avoids e (parseStatus v valid name self) := by
  refine (memberOrThrow_avoids hd.ne).bind fun s _ => ?_
  cases s.string? with
  | none => exact Avoids.throw hd.ne
  | some s =>
    exact (throwUnless_avoids hd.ne).bind fun _ _ => Avoids.pure _

theorem parseTcbLevelCommon_avoids (env : JsonEnv) (v : Json) (self : TcbLevel) :
    Avoids e (parseTcbLevelCommon env v self) := by
  refine (throwUnless_avoids hd.ne).bind fun _ _ => ?_
  refine (getFieldOf_avoids _ _ hd v _).bind fun _ _ => ?_
  refine (required_avoids hd.ne hd.ne _).bind fun _ _ => ?_
  refine (getFieldOf_avoids _ _ hd v _).bind fun _ _ => ?_
  exact (optionalField_avoids hd.ne _).bind fun _ _ =>
    parseStatus_avoids hd v _ _ _

theorem setCpuSvn_avoids (tcb : Json) (self : TcbLevel) : Avoids e (setCpuSvn tcb self) := by
  refine (throwUnless_avoids hd.ne).bind fun _ _ => ?_
  refine (Avoids.mapM (fun name => ?_) _).bind fun _ _ => Avoids.pure _
  refine (getFieldOf_avoids _ _ hd tcb _).bind fun _ _ => ?_
  exact (required_avoids hd.ne hd.ne _).bind fun _ _ =>
    Avoids.pure _

theorem parsePceSvn_avoids (tcb : Json) (self : TcbLevel) : Avoids e (parsePceSvn tcb self) := by
  refine (getFieldOf_avoids _ _ hd tcb _).bind fun _ _ => ?_
  exact (required_avoids hd.ne hd.ne _).bind fun _ _ =>
    Avoids.pure _

theorem tcbComponentsOf_avoids (tcb : Json) (name : Bytes) {missing : Exn} (hm : missing ≠ e) :
    Avoids e (tcbComponentsOf tcb name missing) := by
  refine (memberOrThrow_avoids hm).bind fun _ _ => ?_
  refine (elemsOrThrow_avoids hd.ne).bind fun _ _ => ?_
  refine (throwUnless_avoids hd.ne).bind fun _ _ => ?_
  exact Avoids.mapM (component_avoids hd) _

theorem setTcbComponents_avoids (tcb : Json) (self : TcbLevel) :
    Avoids e (setTcbComponents tcb self) := by
  refine (tcbComponentsOf_avoids hd tcb _ hd.ne).bind fun _ _ => ?_
  show Avoids e (if self.id = tdxId then _ else _)
  split_ifs
  · exact (tcbComponentsOf_avoids hd tcb _ hd.ne).bind fun _ _ => Avoids.pure _
  · exact Avoids.pure _

theorem parse_avoids (env : JsonEnv) (version : UInt32) (id : Bytes) (v : Json) :
    Avoids e (parse env version id v) := by
  rw [parse]
  split_ifs
  · refine (parseTcbLevelCommon_avoids hd env v _).bind fun _ _ => ?_
    refine (memberOrThrow_avoids hd.ne).bind fun tcb _ => ?_
    exact (setCpuSvn_avoids hd tcb _).bind fun _ _ => parsePceSvn_avoids hd tcb _
  · refine (parseTcbLevelCommon_avoids hd env v _).bind fun _ _ => ?_
    refine (memberOrThrow_avoids hd.ne).bind fun tcb _ => ?_
    refine (throwUnless_avoids hd.ne).bind fun _ _ => ?_
    exact (parsePceSvn_avoids hd tcb _).bind fun _ _ => setTcbComponents_avoids hd tcb _
  · exact Avoids.throw hd.ne

end Avoids

/-! ## Order -/

/-- What the order of levels compares, from the greatest to the least. -/
def key (l : TcbLevel) : (List ℕ ×ₗ ℕ ×ₗ List ℕ)ᵒᵈ :=
  OrderDual.toDual (toLex (l.cpuSvn.map UInt8.toNat,
    toLex (l.pceSvn.toNat, l.tdxSvns.map UInt8.toNat)))

theorem map_toNat_lt {xs ys : List UInt8} :
    xs.map UInt8.toNat < ys.map UInt8.toNat ↔ xs < ys := by
  induction xs generalizing ys with
  | nil => cases ys <;> simp
  | cons x xs ih =>
    cases ys with
    | nil => simp
    | cons y ys =>
      simp only [List.map_cons, List.cons_lt_cons_iff, ih, UInt8.lt_iff_toNat_lt,
        UInt8.toNat_inj]

theorem map_toNat_inj {xs ys : List UInt8} :
    xs.map UInt8.toNat = ys.map UInt8.toNat ↔ xs = ys :=
  (List.map_injective_iff.mpr fun _ _ h => UInt8.toNat_inj.mp h).eq_iff

theorem key_eq_iff {l m : TcbLevel} :
    l.key = m.key ↔ l.cpuSvn = m.cpuSvn ∧ l.pceSvn = m.pceSvn ∧ l.tdxSvns = m.tdxSvns := by
  simp only [key, OrderDual.toDual_inj, toLex_inj, Prod.mk.injEq, map_toNat_inj, UInt32.toNat_inj]

/-- On levels of one TCB Info, `operator>` is a strict weak order whose equivalence
    is equality of CPU SVN, PCE SVN and TDX component SVNs. -/
theorem comparesKeys (version : UInt32) (id : Bytes) :
    ComparesKeys (WellFormed version id) greater key := by
  intro l m hl hm
  rw [key, key, OrderDual.toDual_lt_toDual, Prod.Lex.toLex_lt_toLex, Prod.Lex.toLex_lt_toLex]
  simp only [map_toNat_lt, map_toNat_inj, UInt32.toNat_inj]
  rw [greater, hl.version_eq, hl.id_eq]
  by_cases hcpu : l.cpuSvn = m.cpuSvn
  · have hself : ¬ m.cpuSvn < m.cpuSvn := fun h => lt_irrefl _ (map_toNat_lt.mpr h)
    rw [if_pos hcpu, hcpu]
    split_ifs with htdx
    · simp [hself, htdx.2.2, GT.gt]
    · rw [decide_eq_true_iff, GT.gt, UInt32.lt_iff_toNat_lt]
      simp only [hself, true_and, false_or, iff_self_or]
      rintro ⟨hpce, htdxlt⟩
      have hnil : ¬ (version = versionV3 ∧ id = tdxId) := fun h => htdx ⟨h.1, h.2, hpce.symm⟩
      rw [tdxSvns, tdxSvns, hl.tdx_nil hnil, hm.tdx_nil hnil] at htdxlt
      simp at htdxlt
  · rw [if_neg hcpu]
    simp [GT.gt, Ne.symm hcpu]

end TcbLevel

end DcapQvl
