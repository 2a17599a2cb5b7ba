import DcapQvl.Json.TcbInfo
import DcapQvl.Json.EnclaveIdentity

/-!
# Duplicated TCB levels

When the parsers report duplicated levels: the parse has come as far as the
levels, the elements of the array are levels up to some index, and two of these
have the same SVNs.

Results: `TcbInfo.parse_eq_duplicate`, `TcbInfo.parse_eq_moduleDuplicate`,
`TdxModuleIdentity.parse_eq_duplicate` and `EnclaveIdentity.parse_eq_duplicate`.
-/

namespace DcapQvl

open Lib

/-- Two elements of a list are related, the earlier to the later one. -/
def HasPair {α : Type} (R : α → α → Prop) (xs : List α) : Prop :=
  ∃ x y, [x, y].Sublist xs ∧ R x y

theorem not_nodup_iff {α κ : Type} {key : α → κ} {xs : List α} :
    ¬ (xs.map key).Nodup ↔ HasPair (fun x y => key x = key y) xs := by
  rw [List.Nodup, List.pairwise_map, List.pairwise_iff_forall_sublist, HasPair]
  push Not
  rfl

theorem HasPair.congr {α : Type} {R S : α → α → Prop} {xs : List α}
    (h : ∀ x ∈ xs, ∀ y ∈ xs, R x y ↔ S x y) : HasPair R xs ↔ HasPair S xs := by
  refine exists_congr fun x => exists_congr fun y => and_congr_right fun hsub => ?_
  exact h x (hsub.subset (by simp)) y (hsub.subset (by simp))

/-! ## What is never reported -/

theorem TcbInfo.partSince_avoids {e : Exn} (version : UInt32) {part : TcbInfo → Except Exn TcbInfo}
    {self : TcbInfo} (hpart : Avoids e (part self)) :
    Avoids e (TcbInfo.partSince version part self) := by
  rw [TcbInfo.partSince]
  split_ifs
  · exact hpart
  · exact Avoids.pure _

section Avoids

variable {e : Exn} (hd : e.NotOfField)
include hd

theorem TdxModule.parse_avoids (v : Json) : Avoids e (TdxModule.parse v) := by
  refine (throwUnless_avoids hd.ne).bind fun _ _ => ?_
  refine (fieldOrThrow_avoids hd.ne (getFieldOf_avoids _ _ hd v _)).bind
    fun _ _ => ?_
  refine (fieldOrThrow_avoids hd.ne (getFieldOf_avoids _ _ hd v _)).bind
    fun _ _ => ?_
  exact (fieldOrThrow_avoids hd.ne (getFieldOf_avoids _ _ hd v _)).bind
    fun _ _ => Avoids.pure _

theorem TdxModuleTcb.parse_avoids (v : Json) : Avoids e (TdxModuleTcb.parse v) := by
  refine (fieldOrThrow_avoids hd.ne (getFieldOf_avoids _ _ hd v _)).bind
    fun _ _ => ?_
  exact (throwUnless_avoids hd.ne).bind fun _ _ => Avoids.pure _

theorem TdxModuleTcbLevel.parse_avoids (env : JsonEnv) (v : Json) :
    Avoids e (TdxModuleTcbLevel.parse env v) := by
  refine (throwUnless_avoids hd.ne).bind fun _ _ => ?_
  refine (memberOrThrow_avoids hd.ne).bind fun tcb _ => ?_
  refine (TdxModuleTcb.parse_avoids hd tcb).bind fun _ _ => ?_
  refine (fieldOrThrow_avoids hd.ne (getFieldOf_avoids _ _ hd v _)).bind
    fun _ _ => ?_
  refine (fieldOrThrow_avoids hd.ne (getFieldOf_avoids _ _ hd v _)).bind
    fun _ _ => ?_
  refine (getFieldOf_avoids _ _ hd v _).bind fun r _ => ?_
  exact (optionalField_avoids hd.ne r).bind fun _ _ => Avoids.pure _

theorem TdxModuleIdentity.parseFields_avoids (v : Json) :
    Avoids e (TdxModuleIdentity.parseFields v) := by
  refine (fieldOrThrow_avoids hd.ne (getFieldOf_avoids _ _ hd v _)).bind
    fun _ _ => ?_
  refine (fieldOrThrow_avoids hd.ne (getFieldOf_avoids _ _ hd v _)).bind
    fun _ _ => ?_
  refine (fieldOrThrow_avoids hd.ne (getFieldOf_avoids _ _ hd v _)).bind
    fun _ _ => ?_
  exact (fieldOrThrow_avoids hd.ne (getFieldOf_avoids _ _ hd v _)).bind
    fun _ _ => Avoids.pure _

theorem TdxModuleIdentity.levelsOf_avoids (v : Json) :
    Avoids e (TdxModuleIdentity.levelsOf v) :=
  (memberOrThrow_avoids hd.ne).bind fun _ _ =>
    elemsOrThrow_avoids hd.ne

theorem TcbInfo.requiredField_avoids {T : Type} (name : Bytes) {invalid : Bytes}
    [FieldText invalid] {field : Except Exn (T × ParseStatus)} (hfield : Avoids e field) :
    Avoids e (TcbInfo.requiredField name invalid field) :=
  hfield.bind fun r _ => required_avoids hd.ne hd.ne r

theorem TcbInfo.parseVersionAndId_avoids (v : Json) (self : TcbInfo) :
    Avoids e (TcbInfo.parseVersionAndId v self) := by
  refine (TcbInfo.requiredField_avoids hd _ (getFieldOf_avoids _ _ hd v _)).bind
    fun version _ => ?_
  refine (throwUnless_avoids hd.ne).bind fun _ _ => ?_
  split_ifs
  · refine (TcbInfo.requiredField_avoids hd _ (getFieldOf_avoids _ _ hd v _)).bind fun _ _ => ?_
    exact (throwUnless_avoids hd.ne).bind fun _ _ => Avoids.pure _
  · exact Avoids.pure _

theorem TcbInfo.parseFields_avoids (env : JsonEnv) (v sig : Json) (self : TcbInfo) :
    Avoids e (TcbInfo.parseFields env v sig self) := by
  refine (TcbInfo.requiredField_avoids hd _ (getFieldOf_avoids _ _ hd v _)).bind
    fun _ _ => ?_
  refine (TcbInfo.requiredField_avoids hd _ (getFieldOf_avoids _ _ hd v _)).bind
    fun _ _ => ?_
  refine (TcbInfo.requiredField_avoids hd _ (getFieldOf_avoids _ _ hd v _)).bind
    fun _ _ => ?_
  refine (TcbInfo.requiredField_avoids hd _ (getFieldOf_avoids _ _ hd v _)).bind
    fun _ _ => ?_
  exact (parseSignature_avoids hd.ne sig).bind fun _ _ => Avoids.pure _

theorem TcbInfo.parsePartV2_avoids (v : Json) (self : TcbInfo) :
    Avoids e (TcbInfo.parsePartV2 v self) := by
  refine (TcbInfo.requiredField_avoids hd _ (getFieldOf_avoids _ _ hd v _)).bind
    fun _ _ => ?_
  refine (throwUnless_avoids hd.ne).bind fun _ _ => ?_
  exact (TcbInfo.requiredField_avoids hd _ (getFieldOf_avoids _ _ hd v _)).bind
    fun _ _ => Avoids.pure _

theorem TcbInfo.parseUntilPartV3_avoids (env : JsonEnv) (v sig : Json) :
    Avoids e (TcbInfo.parseUntilPartV3 env v sig) := by
  refine (TcbInfo.parseVersionAndId_avoids hd v _).bind fun _ _ => ?_
  refine (TcbInfo.parseFields_avoids hd env v sig _).bind fun _ _ => ?_
  refine (memberOrThrow_avoids hd.ne).bind fun _ _ => ?_
  exact (TcbInfo.partSince_avoids _ (TcbInfo.parsePartV2_avoids hd v _)).bind
    fun _ _ => Avoids.pure _

theorem TcbInfo.parseTdxModule_avoids (v : Json) : Avoids e (TcbInfo.parseTdxModule v) := by
  refine (memberOrThrow_avoids hd.ne).bind fun _ _ => ?_
  exact (throwUnless_avoids hd.ne).bind fun _ _ => TdxModule.parse_avoids hd _

theorem TcbInfo.parseDocument_avoids (env : JsonEnv) (text : Bytes) :
    Avoids e (TcbInfo.parseDocument env text) := by
  refine (documentOrThrow_avoids hd.ne).bind fun _ _ => ?_
  refine (memberOrThrow_avoids hd.ne).bind fun _ _ => ?_
  refine (throwUnless_avoids hd.ne).bind fun _ _ => ?_
  exact (memberOrThrow_avoids hd.ne).bind fun _ _ => Avoids.pure _

theorem IdentityTcbLevel.parse_avoids (env : JsonEnv) (v : Json) :
    Avoids e (IdentityTcbLevel.parse env v) := by
  refine (throwUnless_avoids hd.ne).bind fun _ _ => ?_
  refine (memberOrThrow_avoids hd.ne).bind fun tcb _ => ?_
  refine (getFieldOf_avoids _ _ hd tcb _).bind fun r _ => ?_
  refine (required_avoids hd.ne hd.ne r).bind fun _ _ => ?_
  refine (getFieldOf_avoids _ _ hd v _).bind fun r _ => ?_
  refine (required_avoids hd.ne hd.ne r).bind fun _ _ => ?_
  refine (getFieldOf_avoids _ _ hd v _).bind fun r _ => ?_
  refine (required_avoids hd.ne hd.ne r).bind fun s _ => ?_
  refine (throwUnless_avoids hd.ne).bind fun _ _ => ?_
  have hstatus : Avoids e (parseStringToTcbStatus s) := by
    rw [parseStringToTcbStatus]
    split_ifs
    · exact Avoids.pure _
    · exact Avoids.pure _
    · exact Avoids.pure _
    · exact Avoids.pure _
    · exact Avoids.pure _
    · exact Avoids.throw hd.ne
  refine hstatus.bind fun _ _ => ?_
  refine (getFieldOf_avoids _ _ hd v _).bind fun r _ => ?_
  exact (optionalField_avoids hd.ne r).bind fun _ _ => Avoids.pure _

theorem EnclaveIdentity.checkedField_avoids {T : Type} (name : Bytes) (empty : T)
    (read : Json → T × ParseStatus) (v : Json) :
    Avoids e (EnclaveIdentity.checkedField name (getFieldOf empty read) v) :=
  fieldOrThrow_avoids hd.ne (getFieldOf_avoids empty read hd v name)

theorem EnclaveIdentity.idOfString_avoids (idStr : Bytes) :
    Avoids e (EnclaveIdentity.idOfString idStr) := by
  rw [EnclaveIdentity.idOfString]
  split_ifs
  · exact Avoids.pure _
  · exact Avoids.pure _
  · exact Avoids.pure _
  · exact Avoids.throw hd.ne

theorem EnclaveIdentity.parseFields_avoids (env : JsonEnv) (v sig : Json) :
    Avoids e (EnclaveIdentity.parseFields env v sig) := by
  refine (EnclaveIdentity.checkedField_avoids hd _ _ _ v).bind fun idStr _ => ?_
  refine (EnclaveIdentity.idOfString_avoids hd idStr).bind fun _ _ => ?_
  refine (EnclaveIdentity.checkedField_avoids hd _ _ _ v).bind fun _ _ => ?_
  refine (throwUnless_avoids hd.ne).bind fun _ _ => ?_
  refine (EnclaveIdentity.checkedField_avoids hd _ _ _ v).bind fun _ _ => ?_
  refine (EnclaveIdentity.checkedField_avoids hd _ _ _ v).bind fun _ _ => ?_
  refine (EnclaveIdentity.checkedField_avoids hd _ _ _ v).bind fun _ _ => ?_
  refine (EnclaveIdentity.checkedField_avoids hd _ _ _ v).bind fun _ _ => ?_
  refine (EnclaveIdentity.checkedField_avoids hd _ _ _ v).bind fun _ _ => ?_
  refine (EnclaveIdentity.checkedField_avoids hd _ _ _ v).bind fun _ _ => ?_
  refine (EnclaveIdentity.checkedField_avoids hd _ _ _ v).bind fun _ _ => ?_
  refine (EnclaveIdentity.checkedField_avoids hd _ _ _ v).bind fun _ _ => ?_
  refine (EnclaveIdentity.checkedField_avoids hd _ _ _ v).bind fun _ _ => ?_
  exact (parseSignature_avoids hd.ne sig).bind fun _ _ => Avoids.pure _

theorem EnclaveIdentity.parseDocument_avoids (env : JsonEnv) (text : Bytes) :
    Avoids e (EnclaveIdentity.parseDocument env text) := by
  refine (documentOrThrow_avoids hd.ne).bind fun _ _ => ?_
  refine (memberOrThrow_avoids hd.ne).bind fun _ _ => ?_
  refine (throwUnless_avoids hd.ne).bind fun _ _ => ?_
  exact (memberOrThrow_avoids hd.ne).bind fun _ _ => Avoids.pure _

theorem EnclaveIdentity.levelsOf_avoids (v : Json) : Avoids e (EnclaveIdentity.levelsOf v) :=
  (memberOrThrow_avoids hd.ne).bind fun _ _ =>
    elemsOrThrow_avoids hd.ne

end Avoids

/-! ## When duplicates are reported -/

theorem TdxModuleIdentity.duplicatedLevels_notOfField : duplicatedLevels.NotOfField :=
  fun _ h => h.unique (.format (str_head _ _))

theorem EnclaveIdentity.duplicatedLevels_notOfField : duplicatedLevels.NotOfField :=
  fun _ h => h.unique (.invalidExtension (str_head _ _))

theorem TcbInfo.duplicatedLevels_notOfField : duplicatedLevels.NotOfField :=
  fun _ h => h.unique (.invalidExtension (str_head _ _))

/-- The levels of a module identity are reported as duplicated when two of them
    have the same ISV SVN. -/
theorem TdxModuleIdentity.parse_eq_duplicate {env : JsonEnv} {v : Json} :
    parse env v = .error duplicatedLevels ↔ ∃ self, parseFields v = .ok self ∧
      ∃ elems, levelsOf v = .ok elems ∧
      ∃ n ls, (elems.take n).mapM (TdxModuleTcbLevel.parse env) = .ok ls ∧
        HasPair (fun l m => l.tcb.isvsvn = m.tcb.isvsvn) ls := by
  have hd : duplicatedLevels.NotOfField := duplicatedLevels_notOfField
  rw [parse, bind_eq_error_right (parseFields_avoids hd v)]
  refine exists_congr fun self => and_congr_right fun _ => ?_
  rw [bind_eq_error_right (levelsOf_avoids hd v)]
  refine exists_congr fun elems => and_congr_right fun _ => ?_
  rw [bind_eq_error_left fun levels => (throwUnless_avoids hd.ne).bind
      fun _ _ => Avoids.pure _,
    emplaceEach_nil_eq_duplicate TdxModuleTcbLevel.comparesKeys (fun _ _ _ => trivial)
      (TdxModuleTcbLevel.parse_avoids hd env)]
  refine exists_congr fun n => exists_congr fun ls => and_congr_right fun _ => ?_
  rw [not_nodup_iff]
  refine HasPair.congr fun l _ m _ => ?_
  rw [TdxModuleTcbLevel.key, TdxModuleTcbLevel.key, OrderDual.toDual_inj, UInt16.toNat_inj]

/-- The levels of an identity are reported as duplicated when two of them have
    the same ISV SVN and date. -/
theorem EnclaveIdentity.parse_eq_duplicate {env : JsonEnv} {text : Bytes} :
    parse env text = .error duplicatedLevels ↔
      ∃ v sig, parseDocument env text = .ok (v, sig) ∧
      ∃ self, parseFields env v sig = .ok self ∧
      ∃ elems, levelsOf v = .ok elems ∧
      ∃ n ls, (elems.take n).mapM (IdentityTcbLevel.parse env) = .ok ls ∧
        HasPair (fun l m => l.isvSvn = m.isvSvn ∧ l.tcbDate = m.tcbDate) ls := by
  have hd : duplicatedLevels.NotOfField := duplicatedLevels_notOfField
  rw [parse, bind_eq_error_right (parseDocument_avoids hd env text), Prod.exists]
  refine exists_congr fun v => exists_congr fun sig => and_congr_right fun _ => ?_
  rw [bind_eq_error_right (parseFields_avoids hd env v sig)]
  refine exists_congr fun self => and_congr_right fun _ => ?_
  rw [bind_eq_error_right (levelsOf_avoids hd v)]
  refine exists_congr fun elems => and_congr_right fun _ => ?_
  rw [bind_eq_error_left fun levels => (throwUnless_avoids hd.ne).bind
      fun _ _ => (throwUnless_avoids hd.ne).bind fun _ _ => Avoids.pure _,
    emplaceEach_nil_eq_duplicate IdentityTcbLevel.comparesKeys (fun _ _ _ => trivial)
      (IdentityTcbLevel.parse_avoids hd env)]
  refine exists_congr fun n => exists_congr fun ls => and_congr_right fun _ => ?_
  rw [not_nodup_iff]
  exact HasPair.congr fun l _ m _ => IdentityTcbLevel.key_eq_iff

/-- Two levels of a TCB Info with the same CPU SVN and PCE SVN and, for TDX, the
    same TDX component SVNs. -/
def TcbLevel.SameSvns (id : Bytes) (l m : TcbLevel) : Prop :=
  l.cpuSvn = m.cpuSvn ∧ l.pceSvn = m.pceSvn ∧ (id = tdxId → l.tdxSvns = m.tdxSvns)

theorem TcbLevel.sameSvns_iff {version : UInt32} {id : Bytes} {l m : TcbLevel}
    (hl : l.WellFormed version id)
    (hm : m.WellFormed version id) : l.key = m.key ↔ SameSvns id l m := by
  rw [TcbLevel.key_eq_iff, SameSvns]
  refine and_congr_right fun _ => and_congr_right fun _ => ⟨fun h _ => h, fun h => ?_⟩
  by_cases htdx : version = versionV3 ∧ id = tdxId
  · exact h htdx.2
  · rw [tdxSvns, tdxSvns, hl.tdx_nil htdx, hm.tdx_nil htdx]

/-- The levels of a TCB Info are reported as duplicated when two of them have the
    same SVNs. -/
theorem TcbInfo.parseTcbLevels_eq_duplicate {env : JsonEnv} {tcbs : Json} {self : TcbInfo} :
    parseTcbLevels env tcbs self = .error duplicatedLevels ↔
      ∃ elems, tcbs.elems? = some elems ∧
      ∃ n ls, (elems.take n).mapM (TcbLevel.parse env self.version self.id) = .ok ls ∧
        HasPair (TcbLevel.SameSvns self.id) ls := by
  have hd : duplicatedLevels.NotOfField := duplicatedLevels_notOfField
  rw [parseTcbLevels, bind_eq_error_right (elemsOrThrow_avoids hd.ne)]
  refine exists_congr fun elems => and_congr elemsOrThrow_eq_ok ?_
  rw [bind_eq_error_left fun levels => (throwUnless_avoids hd.ne).bind
      fun _ _ => Avoids.pure _,
    emplaceEach_nil_eq_duplicate (TcbLevel.comparesKeys self.version self.id)
      (fun _ _ => TcbLevel.parse_wellFormed) (TcbLevel.parse_avoids hd env _ _)]
  refine exists_congr fun n => exists_congr fun ls => and_congr_right fun hls => ?_
  have hwf := mapM_forall (fun _ _ => TcbLevel.parse_wellFormed) hls
  rw [not_nodup_iff]
  exact HasPair.congr fun l hl m hm => TcbLevel.sameSvns_iff (hwf l hl) (hwf m hm)

theorem TdxModuleIdentity.parse_avoids {e : Exn} (hd : e.NotOfField)
    (hne : duplicatedLevels ≠ e) (env : JsonEnv) (v : Json) : Avoids e (parse env v) := by
  refine (parseFields_avoids hd v).bind fun self _ => ?_
  refine (levelsOf_avoids hd v).bind fun elems _ => ?_
  refine (emplaceEach_avoids hne (TdxModuleTcbLevel.parse_avoids hd env)).bind fun _ _ => ?_
  exact (throwUnless_avoids hd.ne).bind fun _ _ => Avoids.pure _

theorem TcbInfo.parseTcbLevels_avoids {e : Exn} (hd : e.NotOfField)
    (hne : duplicatedLevels ≠ e) (env : JsonEnv) (tcbs : Json) (self : TcbInfo) :
    Avoids e (parseTcbLevels env tcbs self) := by
  refine (elemsOrThrow_avoids hd.ne).bind fun elems _ => ?_
  refine (emplaceEach_avoids hne (TcbLevel.parse_avoids hd env _ _)).bind fun _ _ => ?_
  exact (throwUnless_avoids hd.ne).bind fun _ _ => Avoids.pure _

theorem TcbInfo.parseTdxModuleIdentities_avoids {e : Exn} (hd : e.NotOfField)
    (hne : TdxModuleIdentity.duplicatedLevels ≠ e) (env : JsonEnv) (v : Json) :
    Avoids e (parseTdxModuleIdentities env v) := by
  refine (elemsOrThrow_avoids hd.ne).bind fun elems _ => ?_
  refine (Avoids.mapM (TdxModuleIdentity.parse_avoids hd hne env) elems).bind fun _ _ => ?_
  exact (throwUnless_avoids hd.ne).bind fun _ _ => Avoids.pure _

theorem TcbInfo.parsePartV3_avoids {e : Exn} (hd : e.NotOfField)
    (hne : TdxModuleIdentity.duplicatedLevels ≠ e) (env : JsonEnv) (v : Json) (self : TcbInfo) :
    Avoids e (parsePartV3 env v self) := by
  rw [parsePartV3]
  split_ifs
  · refine (throwUnless_avoids hd.ne).bind fun _ _ => ?_
    exact (throwUnless_avoids hd.ne).bind fun _ _ => Avoids.pure _
  · refine (parseTdxModule_avoids hd v).bind fun _ _ => ?_
    cases v.member? (str "tdxModuleIdentities") with
    | none => exact Avoids.pure _
    | some ids =>
      exact (parseTdxModuleIdentities_avoids hd hne env ids).bind fun _ _ => Avoids.pure _
  · exact Avoids.pure _

theorem TcbInfo.parsePartV3_avoids_of_id {e : Exn} (hd : e.NotOfField) {self : TcbInfo}
    (hid : self.id ≠ tdxId) (env : JsonEnv) (v : Json) : Avoids e (parsePartV3 env v self) := by
  rw [parsePartV3, if_neg hid]
  split_ifs
  · refine (throwUnless_avoids hd.ne).bind fun _ _ => ?_
    exact (throwUnless_avoids hd.ne).bind fun _ _ => Avoids.pure _
  · exact Avoids.pure _

theorem TcbInfo.parseUntilLevels_avoids {e : Exn} (hd : e.NotOfField)
    (hne : TdxModuleIdentity.duplicatedLevels ≠ e) (env : JsonEnv) (v sig : Json) :
    Avoids e (parseUntilLevels env v sig) := by
  refine (parseUntilPartV3_avoids hd env v sig).bind fun a _ => ?_
  exact (partSince_avoids _ (parsePartV3_avoids hd hne env v a.1)).bind fun _ _ => Avoids.pure _

/-- Only the exceptions of fields and of duplicated levels are thrown. -/
theorem TcbInfo.parse_avoids {e : Exn} (hd : e.NotOfField) (hne : duplicatedLevels ≠ e)
    (hne' : TdxModuleIdentity.duplicatedLevels ≠ e) (env : JsonEnv) (text : Bytes) :
    Avoids e (parse env text) := by
  refine (parseDocument_avoids hd env text).bind fun document _ => ?_
  refine (parseUntilLevels_avoids hd hne' env _ _).bind fun levels _ => ?_
  refine (parseTcbLevels_avoids hd hne env _ _).bind fun _ _ => ?_
  exact (throwUnless_avoids hd.ne).bind fun _ _ => Avoids.pure _

theorem EnclaveIdentity.parse_avoids {e : Exn} (hd : e.NotOfField) (hne : duplicatedLevels ≠ e)
    (env : JsonEnv) (text : Bytes) : Avoids e (parse env text) := by
  refine (parseDocument_avoids hd env text).bind fun document _ => ?_
  refine (parseFields_avoids hd env _ _).bind fun _ _ => ?_
  refine (levelsOf_avoids hd _).bind fun elems _ => ?_
  refine (emplaceEach_avoids hne (IdentityTcbLevel.parse_avoids hd env)).bind fun _ _ => ?_
  refine (throwUnless_avoids hd.ne).bind fun _ _ => ?_
  exact (throwUnless_avoids hd.ne).bind fun _ _ => Avoids.pure _

/-- A TCB Info is rejected for duplicated levels when everything before the levels
    is in order and two of its levels have the same SVNs. -/
theorem TcbInfo.parse_eq_duplicate {env : JsonEnv} {text : Bytes} :
    parse env text = .error duplicatedLevels ↔
      ∃ v sig, parseDocument env text = .ok (v, sig) ∧
      ∃ self tcbs, parseUntilLevels env v sig = .ok (self, tcbs) ∧
      ∃ elems, tcbs.elems? = some elems ∧
      ∃ n ls, (elems.take n).mapM (TcbLevel.parse env self.version self.id) = .ok ls ∧
        HasPair (TcbLevel.SameSvns self.id) ls := by
  have hd : duplicatedLevels.NotOfField := duplicatedLevels_notOfField
  rw [parse, bind_eq_error_right (parseDocument_avoids hd env text), Prod.exists]
  refine exists_congr fun v => exists_congr fun sig => and_congr_right fun _ => ?_
  rw [bind_eq_error_right (parseUntilLevels_avoids hd (by decide) env v sig), Prod.exists]
  refine exists_congr fun self => exists_congr fun tcbs => and_congr_right fun _ => ?_
  rw [bind_eq_error_left fun t => (throwUnless_avoids hd.ne).bind
    fun _ _ => Avoids.pure _]
  exact parseTcbLevels_eq_duplicate

/-- A TCB Info is rejected for duplicated levels of a module identity when
    everything before that identity is in order. -/
theorem TcbInfo.parse_eq_moduleDuplicate {env : JsonEnv} {text : Bytes} :
    parse env text = .error TdxModuleIdentity.duplicatedLevels ↔
      ∃ v sig, parseDocument env text = .ok (v, sig) ∧
      ∃ self tcbs, parseUntilPartV3 env v sig = .ok (self, tcbs) ∧
        self.version ≥ versionV3 ∧ self.id = tdxId ∧
      ∃ tdxModule, parseTdxModule v = .ok tdxModule ∧
      ∃ ids, v.member? (str "tdxModuleIdentities") = some ids ∧
      ∃ elems, ids.elems? = some elems ∧
      ∃ n i is, elems[n]? = some i ∧ (elems.take n).mapM (TdxModuleIdentity.parse env) = .ok is ∧
        TdxModuleIdentity.parse env i = .error TdxModuleIdentity.duplicatedLevels := by
  have hd := TdxModuleIdentity.duplicatedLevels_notOfField
  rw [parse, bind_eq_error_right (parseDocument_avoids hd env text), Prod.exists]
  refine exists_congr fun v => exists_congr fun sig => and_congr_right fun _ => ?_
  refine (bind_eq_error_left ?_).trans ?_
  · rintro ⟨self, tcbs⟩
    refine (parseTcbLevels_avoids hd (by decide) env tcbs self).bind fun _ _ => ?_
    exact (throwUnless_avoids hd.ne).bind fun _ _ => Avoids.pure _
  rw [parseUntilLevels, bind_eq_error_right (parseUntilPartV3_avoids hd env v sig), Prod.exists]
  refine exists_congr fun self => exists_congr fun tcbs => and_congr_right fun _ => ?_
  rw [bind_eq_error_left fun _ => Avoids.pure _]
  by_cases hversion : self.version ≥ versionV3
  · rw [partSince, if_pos hversion, parsePartV3]
    by_cases hid : self.id = tdxId
    · rw [if_neg (by rw [hid]; decide), if_pos hid,
        bind_eq_error_right (parseTdxModule_avoids hd v), and_iff_right hversion,
        and_iff_right hid]
      refine exists_congr fun tdxModule => and_congr_right fun _ => ?_
      cases v.member? (str "tdxModuleIdentities") with
      | none =>
        constructor
        · intro h
          cases h
        · rintro ⟨_, h, _⟩
          cases h
      | some ids =>
        rw [bind_eq_error_left fun _ => Avoids.pure _, parseTdxModuleIdentities,
          bind_eq_error_right (elemsOrThrow_avoids hd.ne)]
        constructor
        · rintro ⟨elems, helems, h⟩
          rw [bind_eq_error_left fun _ => (throwUnless_avoids hd.ne).bind
            fun _ _ => Avoids.pure _] at h
          exact ⟨ids, rfl, elems, elemsOrThrow_eq_ok.mp helems, mapM_eq_error.mp h⟩
        · rintro ⟨_, hids, elems, helems, h⟩
          cases hids
          refine ⟨elems, elemsOrThrow_eq_ok.mpr helems, ?_⟩
          exact bind_eq_error.mpr (Or.inl (mapM_eq_error.mpr h))
    · have hrest := parsePartV3_avoids_of_id hd hid env v
      rw [parsePartV3] at hrest
      exact iff_of_false hrest fun h => hid h.2.1
  · rw [partSince, if_neg hversion]
    constructor
    · intro h
      cases h
    · rintro ⟨h, _⟩
      exact absurd h hversion

end DcapQvl
