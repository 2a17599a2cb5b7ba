import DcapQvl.Json.TcbInfo
import DcapQvl.Json.EnclaveIdentity

/-!
# Documents with permuted TCB levels

Two documents that differ in the order of their arrays of TCB levels: the
`tcbLevels` of a TCB Info or of an Enclave Identity, and those of the TDX module
identities.

Results:
* `TcbInfo.parse_permuted`, `EnclaveIdentity.parse_permuted`: both are rejected,
  or both are parsed and the results differ in their serialised body at most.
* `TcbInfo.parse_eq_duplicate`, `TcbInfo.parse_eq_moduleDuplicate` and
  `EnclaveIdentity.parse_eq_duplicate`: when duplicated levels are reported.
-/

namespace DcapQvl

open Lib

/-! ## Related documents -/

/-- Objects with the same member names in the same order and related values. -/
inductive SameMembers (R : Bytes → Json → Json → Prop) : Json → Json → Prop
  | object {ms ns : List (Bytes × Json)}
      (h : List.Forall₂ (fun m n => m.1 = n.1 ∧ R m.1 m.2 n.2) ms ns) :
      SameMembers R (.object ms) (.object ns)

/-- An array and a permutation of it. -/
inductive PermutedArray : Json → Json → Prop
  | array {elems elems' : List Json} (h : elems.Perm elems') :
      PermutedArray (.array elems) (.array elems')

/-- Arrays with related elements. -/
inductive RelatedArrays (R : Json → Json → Prop) : Json → Json → Prop
  | array {elems elems' : List Json} (h : List.Forall₂ R elems elems') :
      RelatedArrays R (.array elems) (.array elems')

/-- The same value, or an object with its `tcbLevels` permuted. -/
def LevelsPermuted (v w : Json) : Prop :=
  v = w ∨ SameMembers (fun name a b => a = b ∨ name = str "tcbLevels" ∧ PermutedArray a b) v w

/-- The same value, or a TCB Info with its `tcbLevels` and those of its module
    identities permuted. -/
def TcbInfoPermuted (v w : Json) : Prop :=
  v = w ∨ SameMembers (fun name a b => a = b ∨ name = str "tcbLevels" ∧ PermutedArray a b ∨
    name = str "tdxModuleIdentities" ∧ RelatedArrays LevelsPermuted a b) v w

/-- Documents that are the same but for the value of one field. -/
def DocumentPermuted (field : String) (body : Json → Json → Prop) : Json → Json → Prop :=
  SameMembers fun name a b => a = b ∨ name = str field ∧ body a b

/-! ## Members and heights -/

namespace SameMembers

variable {R : Bytes → Json → Json → Prop} {v w : Json}

theorem isObject (h : SameMembers R v w) : v.isObject = w.isObject := by
  cases h
  rfl

/-- The two objects have a member, with related values, or neither has one. -/
theorem member? (h : SameMembers R v w) (name : Bytes) :
    v.member? name = none ∧ w.member? name = none ∨
      ∃ a b, v.member? name = some a ∧ w.member? name = some b ∧ R name a b := by
  obtain ⟨h⟩ := h
  simp only [Json.member?]
  induction h with
  | nil => exact Or.inl ⟨rfl, rfl⟩
  | @cons m n ms ns hmn _ ih =>
    obtain ⟨name', a⟩ := m
    obtain ⟨_, b⟩ := n
    obtain ⟨rfl, hR⟩ := hmn
    rw [List.lookup_cons, List.lookup_cons]
    by_cases heq : name = name'
    · subst heq
      exact Or.inr ⟨a, b, by simp, by simp, hR⟩
    · rw [beq_eq_false_iff_ne.mpr heq]
      exact ih

/-- A member whose values are equal when they are related. -/
theorem member?_eq (h : SameMembers R v w) {name : Bytes} (hR : ∀ a b, R name a b → a = b) :
    v.member? name = w.member? name := by
  rcases h.member? name with ⟨hv, hw⟩ | ⟨a, b, hv, hw, hab⟩
  · rw [hv, hw]
  · rw [hv, hw, hR a b hab]

theorem height_eq (h : SameMembers R v w) (hR : ∀ name a b, R name a b → a.height = b.height) :
    v.height = w.height := by
  obtain ⟨h⟩ := h
  rw [Json.height, Json.height]
  induction h with
  | nil => rfl
  | cons hmn _ ih => simp only [Json.heightMembers, hR _ _ _ hmn.2, ih]

end SameMembers

/-- The document of a text and that of a related text. -/
theorem Agree.document {R : Json → Json → Prop} {env : JsonEnv} {text text' : Bytes} {d d' : Json}
    (hd : env.parse text = some d) (hd' : env.parse text' = some d') (h : R d d') (e : Exn) :
    Agree R (documentOrThrow env text e) (documentOrThrow env text' e) := by
  rw [documentOrThrow_eq_ok.mpr hd, documentOrThrow_eq_ok.mpr hd']
  exact Agree.ok h

namespace DocumentPermuted

variable {field : String} {body : Json → Json → Prop} {d d' : Json}

/-- The field that is permuted. -/
theorem memberOrThrow_body (h : DocumentPermuted field body d d') (hbody : ∀ v, body v v)
    (e : Exn) : Agree body (memberOrThrow d (str field) e) (memberOrThrow d' (str field) e) := by
  rw [memberOrThrow, memberOrThrow]
  rcases h.member? (str field) with ⟨hv, hw⟩ | ⟨a, b, hv, hw, hab⟩
  · rw [hv, hw]
    exact Agree.error e e
  · rw [hv, hw]
    rcases hab with rfl | ⟨_, hab⟩
    · exact Agree.ok (hbody a)
    · exact Agree.ok hab

/-- Every other field. -/
theorem memberOrThrow_eq (h : DocumentPermuted field body d d') {name : Bytes}
    (hname : name ≠ str field) (e : Exn) : memberOrThrow d name e = memberOrThrow d' name e := by
  rw [memberOrThrow, memberOrThrow]
  rw [h.member?_eq fun a b hab => hab.elim id fun hfield => absurd hfield.1 hname]

end DocumentPermuted

theorem heightElems_perm {vs ws : List Json} (h : vs.Perm ws) :
    Json.heightElems vs = Json.heightElems ws := by
  apply le_antisymm
  · rw [Json.heightElems_le_iff]
    intro v hv
    exact Json.heightElems_le_iff.mp le_rfl v (h.mem_iff.mp hv)
  · rw [Json.heightElems_le_iff]
    intro v hv
    exact Json.heightElems_le_iff.mp le_rfl v (h.mem_iff.mpr hv)

theorem PermutedArray.height_eq {v w : Json} (h : PermutedArray v w) : v.height = w.height := by
  obtain ⟨h⟩ := h
  rw [Json.height, Json.height, heightElems_perm h]

theorem RelatedArrays.height_eq {R : Json → Json → Prop} {v w : Json} (h : RelatedArrays R v w)
    (hR : ∀ a b, R a b → a.height = b.height) : v.height = w.height := by
  obtain ⟨h⟩ := h
  rw [Json.height, Json.height]
  induction h with
  | nil => rfl
  | cons hab _ ih => simp only [Json.heightElems, hR _ _ hab, ih]

theorem LevelsPermuted.height_eq {v w : Json} (h : LevelsPermuted v w) : v.height = w.height := by
  rcases h with rfl | h
  · rfl
  · refine h.height_eq fun name a b hab => ?_
    rcases hab with rfl | ⟨_, hab⟩
    · rfl
    · exact hab.height_eq

theorem TcbInfoPermuted.height_eq {v w : Json} (h : TcbInfoPermuted v w) :
    v.height = w.height := by
  rcases h with rfl | h
  · rfl
  · refine h.height_eq fun name a b hab => ?_
    rcases hab with rfl | ⟨_, hab⟩ | ⟨_, hab⟩
    · rfl
    · exact hab.height_eq
    · exact hab.height_eq fun _ _ => LevelsPermuted.height_eq

theorem TcbInfoPermuted.isObject {v w : Json} (h : TcbInfoPermuted v w) :
    v.isObject = w.isObject := by
  rcases h with rfl | h
  · rfl
  · exact h.isObject

/-- A field that no permutation touches. -/
theorem TcbInfoPermuted.member?_eq {v w : Json} (h : TcbInfoPermuted v w) (name : Bytes)
    (hlevels : name ≠ str "tcbLevels") (hids : name ≠ str "tdxModuleIdentities") :
    v.member? name = w.member? name := by
  rcases h with rfl | h
  · rfl
  · refine h.member?_eq fun a b hab => ?_
    rcases hab with rfl | ⟨hname, _⟩ | ⟨hname, _⟩
    · rfl
    · exact absurd hname hlevels
    · exact absurd hname hids

theorem LevelsPermuted.isObject {v w : Json} (h : LevelsPermuted v w) :
    v.isObject = w.isObject := by
  rcases h with rfl | h
  · rfl
  · exact h.isObject

theorem LevelsPermuted.member?_eq {v w : Json} (h : LevelsPermuted v w) (name : Bytes)
    (hlevels : name ≠ str "tcbLevels") : v.member? name = w.member? name := by
  rcases h with rfl | h
  · rfl
  · refine h.member?_eq fun a b hab => ?_
    rcases hab with rfl | ⟨hname, _⟩
    · rfl
    · exact absurd hname hlevels

/-- The array of levels, after its member has been looked up. -/
theorem Agree.levels {v w : Json}
    (h : v.member? (str "tcbLevels") = none ∧ w.member? (str "tcbLevels") = none ∨
      ∃ a b, v.member? (str "tcbLevels") = some a ∧ w.member? (str "tcbLevels") = some b ∧
        (a = b ∨ PermutedArray a b)) (e : Exn) :
    Agree (fun a b => a = b ∨ PermutedArray a b) (memberOrThrow v (str "tcbLevels") e)
      (memberOrThrow w (str "tcbLevels") e) := by
  rcases h with ⟨hv, hw⟩ | ⟨a, b, hv, hw, hab⟩
  · rw [memberOrThrow, memberOrThrow, hv, hw]
    exact Agree.error e e
  · rw [memberOrThrow, memberOrThrow, hv, hw]
    exact Agree.ok hab

theorem Agree.elems {a b : Json} (h : a = b ∨ PermutedArray a b) (e : Exn) :
    Agree List.Perm (elemsOrThrow a e) (elemsOrThrow b e) := by
  rcases h with rfl | h
  · exact Agree.refl (fun _ => List.Perm.refl _) _
  · cases h with
    | array h => exact Agree.ok h

theorem LevelsPermuted.levels {v w : Json} (h : LevelsPermuted v w) :
    v.member? (str "tcbLevels") = none ∧ w.member? (str "tcbLevels") = none ∨
      ∃ a b, v.member? (str "tcbLevels") = some a ∧ w.member? (str "tcbLevels") = some b ∧
        (a = b ∨ PermutedArray a b) := by
  rcases h with rfl | h
  · cases hv : v.member? (str "tcbLevels") with
    | none => exact Or.inl ⟨rfl, rfl⟩
    | some a => exact Or.inr ⟨a, a, rfl, rfl, Or.inl rfl⟩
  · rcases h.member? (str "tcbLevels") with hnone | ⟨a, b, hv, hw, hab⟩
    · exact Or.inl hnone
    · exact Or.inr ⟨a, b, hv, hw, hab.imp_right And.right⟩

theorem TcbInfoPermuted.levels {v w : Json} (h : TcbInfoPermuted v w) :
    v.member? (str "tcbLevels") = none ∧ w.member? (str "tcbLevels") = none ∨
      ∃ a b, v.member? (str "tcbLevels") = some a ∧ w.member? (str "tcbLevels") = some b ∧
        (a = b ∨ PermutedArray a b) := by
  rcases h with rfl | h
  · cases hv : v.member? (str "tcbLevels") with
    | none => exact Or.inl ⟨rfl, rfl⟩
    | some a => exact Or.inr ⟨a, a, rfl, rfl, Or.inl rfl⟩
  · rcases h.member? (str "tcbLevels") with hnone | ⟨a, b, hv, hw, hab⟩
    · exact Or.inl hnone
    · refine Or.inr ⟨a, b, hv, hw, ?_⟩
      rcases hab with hab | ⟨_, hab⟩ | ⟨hname, _⟩
      · exact Or.inl hab
      · exact Or.inr hab
      · exact absurd hname (by decide)

/-- The module identities of a permuted TCB Info. -/
theorem TcbInfoPermuted.identities {v w : Json} (h : TcbInfoPermuted v w) :
    v.member? (str "tdxModuleIdentities") = none ∧ w.member? (str "tdxModuleIdentities") = none ∨
      ∃ a b, v.member? (str "tdxModuleIdentities") = some a ∧
        w.member? (str "tdxModuleIdentities") = some b ∧
        (a = b ∨ RelatedArrays LevelsPermuted a b) := by
  rcases h with rfl | h
  · cases hv : v.member? (str "tdxModuleIdentities") with
    | none => exact Or.inl ⟨rfl, rfl⟩
    | some a => exact Or.inr ⟨a, a, rfl, rfl, Or.inl rfl⟩
  · rcases h.member? (str "tdxModuleIdentities") with hnone | ⟨a, b, hv, hw, hab⟩
    · exact Or.inl hnone
    · refine Or.inr ⟨a, b, hv, hw, ?_⟩
      rcases hab with hab | ⟨hname, _⟩ | ⟨_, hab⟩
      · exact Or.inl hab
      · exact absurd hname (by decide)
      · exact Or.inr hab

/-! ## Module identities -/

theorem TdxModuleIdentity.parseFields_congr {v w : Json} (h : LevelsPermuted v w) :
    parseFields v = parseFields w := by
  simp only [parseFields, getStringFieldOf, getBytesFieldOf, getFieldOf, h.isObject,
    h.member?_eq (str "id") (by decide),
    h.member?_eq (str "mrsigner") (by decide),
    h.member?_eq (str "attributes") (by decide),
    h.member?_eq (str "attributesMask") (by decide)]

theorem TdxModuleIdentity.parse_permuted (env : JsonEnv) {v w : Json} (h : LevelsPermuted v w) :
    Agree (· = ·) (parse env v) (parse env w) := by
  refine Agree.bind_eq (parseFields_congr h) fun self _ => ?_
  have hlevels : Agree List.Perm (levelsOf v) (levelsOf w) :=
    (Agree.levels h.levels _).bind fun a b hab => Agree.elems hab _
  refine hlevels.bind fun elems elems' hperm => ?_
  refine (emplaceEach_nil_perm TdxModuleTcbLevel.comparesKeys (fun _ _ _ => trivial) _ hperm).bind
    fun levels levels' heq => ?_
  subst heq
  exact Agree.refl (fun _ => rfl) _

/-! ## TCB Info -/

namespace TcbInfo

variable {v w : Json}

theorem parseVersionAndId_congr (h : TcbInfoPermuted v w) (self : TcbInfo) :
    parseVersionAndId v self = parseVersionAndId w self := by
  simp only [parseVersionAndId, getUintFieldOf, getStringFieldOf, getFieldOf, h.isObject,
    h.member?_eq (str "version") (by decide) (by decide),
    h.member?_eq (str "id") (by decide) (by decide)]

theorem parseFields_congr (env : JsonEnv) (h : TcbInfoPermuted v w) (sig : Json)
    (self : TcbInfo) : parseFields env v sig self = parseFields env w sig self := by
  simp only [parseFields, getDateFieldOf, getBytesFieldOf, getFieldOf, h.isObject,
    h.member?_eq (str "issueDate") (by decide) (by decide),
    h.member?_eq (str "nextUpdate") (by decide) (by decide),
    h.member?_eq (str "fmspc") (by decide) (by decide),
    h.member?_eq (str "pceId") (by decide) (by decide)]

theorem parsePartV2_congr (h : TcbInfoPermuted v w) (self : TcbInfo) :
    parsePartV2 v self = parsePartV2 w self := by
  simp only [parsePartV2, getIntFieldOf, getUintFieldOf, getFieldOf, h.isObject,
    h.member?_eq (str "tcbType") (by decide) (by decide),
    h.member?_eq (str "tcbEvaluationDataNumber") (by decide) (by decide)]

theorem parseTdxModule_congr (h : TcbInfoPermuted v w) : parseTdxModule v = parseTdxModule w := by
  simp only [parseTdxModule, memberOrThrow,
    h.member?_eq (str "tdxModule") (by decide) (by decide)]

theorem parseTdxModuleIdentities_permuted (env : JsonEnv) {a b : Json}
    (h : a = b ∨ RelatedArrays LevelsPermuted a b) :
    Agree (· = ·) (parseTdxModuleIdentities env a) (parseTdxModuleIdentities env b) := by
  rcases h with rfl | h
  · exact Agree.refl (fun _ => rfl) _
  · cases h with
    | array h =>
      refine Agree.bind (Agree.ok h) fun elems elems' helems => ?_
      have hids := Agree.mapM helems fun a b => TdxModuleIdentity.parse_permuted env
      refine hids.bind fun is js hij => ?_
      rw [List.forall₂_eq_eq_eq] at hij
      subst hij
      exact Agree.refl (fun _ => rfl) _

theorem parsePartV3_permuted (env : JsonEnv) (h : TcbInfoPermuted v w) (self : TcbInfo) :
    Agree (· = ·) (parsePartV3 env v self) (parsePartV3 env w self) := by
  rw [parsePartV3, parsePartV3]
  split_ifs
  · have hids : v.hasMember (str "tdxModuleIdentities") =
        w.hasMember (str "tdxModuleIdentities") := by
      rcases h.identities with ⟨hv, hw⟩ | ⟨a, b, hv, hw, _⟩
      · rw [Json.hasMember, Json.hasMember, hv, hw]
      · rw [Json.hasMember, Json.hasMember, hv, hw]
        rfl
    rw [Json.hasMember, h.member?_eq (str "tdxModule") (by decide) (by decide), ← Json.hasMember,
      hids]
    exact Agree.refl (fun _ => rfl) _
  · rw [parseTdxModule_congr h]
    refine Agree.bind_eq rfl fun tdxModule _ => ?_
    rcases h.identities with ⟨hv, hw⟩ | ⟨a, b, hv, hw, hab⟩
    · rw [hv, hw]
      exact Agree.refl (fun _ => rfl) _
    · rw [hv, hw]
      refine (parseTdxModuleIdentities_permuted env hab).bind fun is js hij => ?_
      subst hij
      exact Agree.refl (fun _ => rfl) _
  · exact Agree.refl (fun _ => rfl) _

theorem parseUntilPartV3_permuted (env : JsonEnv) (h : TcbInfoPermuted v w) (sig : Json) :
    Agree (fun a b => a.1 = b.1 ∧ (a.2 = b.2 ∨ PermutedArray a.2 b.2))
      (parseUntilPartV3 env v sig) (parseUntilPartV3 env w sig) := by
  refine Agree.bind_eq (parseVersionAndId_congr h _) fun self _ => ?_
  refine Agree.bind_eq (parseFields_congr env h sig self) fun self _ => ?_
  refine (Agree.levels h.levels _).bind fun a b hab => ?_
  have hpart : partSince versionV2 (parsePartV2 v) self =
      partSince versionV2 (parsePartV2 w) self := by
    rw [partSince, partSince, parsePartV2_congr h]
  exact Agree.bind_eq hpart fun self _ => Agree.ok ⟨rfl, hab⟩

theorem parseUntilLevels_permuted (env : JsonEnv) (h : TcbInfoPermuted v w) (sig : Json) :
    Agree (fun a b => a.1 = b.1 ∧ (a.2 = b.2 ∨ PermutedArray a.2 b.2))
      (parseUntilLevels env v sig) (parseUntilLevels env w sig) := by
  refine (parseUntilPartV3_permuted env h sig).bind fun a b hab => ?_
  obtain ⟨self, tcbs⟩ := a
  obtain ⟨_, tcbs'⟩ := b
  obtain ⟨rfl, htcbs⟩ := hab
  have hpart : Agree (· = ·) (partSince versionV3 (parsePartV3 env v) self)
      (partSince versionV3 (parsePartV3 env w) self) := by
    rw [partSince, partSince]
    split_ifs
    · exact parsePartV3_permuted env h self
    · exact Agree.refl (fun _ => rfl) _
  exact hpart.bind fun t u htu => Agree.ok ⟨htu, htcbs⟩

theorem parseTcbLevels_permuted (env : JsonEnv) {a b : Json} (h : a = b ∨ PermutedArray a b)
    (self : TcbInfo) :
    Agree (· = ·) (parseTcbLevels env a self) (parseTcbLevels env b self) := by
  refine (Agree.elems h _).bind fun elems elems' hperm => ?_
  refine (emplaceEach_nil_perm (TcbLevel.comparesKeys self.version self.id)
    (fun _ _ => TcbLevel.parse_wellFormed) _ hperm).bind fun levels levels' heq => ?_
  subst heq
  exact Agree.refl (fun _ => rfl) _

/-- The same TCB Info but for its serialised body. -/
def SameInfo (t u : TcbInfo) : Prop := u = { t with infoBody := u.infoBody }

/-- A document and one with permuted levels are both rejected, or both parsed to
    the same TCB Info. -/
theorem parse_permuted (env : JsonEnv) {text text' : Bytes} {d d' : Json}
    (hd : env.parse text = some d) (hd' : env.parse text' = some d')
    (h : DocumentPermuted "tcbInfo" TcbInfoPermuted d d') :
    Agree SameInfo (parse env text) (parse env text') := by
  have hdoc : Agree (fun a b => TcbInfoPermuted a.1 b.1 ∧ a.2 = b.2)
      (parseDocument env text) (parseDocument env text') := by
    refine (Agree.document hd hd' h _).bind fun d d' h => ?_
    refine (h.memberOrThrow_body (fun _ => Or.inl rfl) _).bind fun v w hvw => ?_
    rw [hvw.isObject]
    refine Agree.bind_eq rfl fun _ _ => ?_
    exact Agree.bind_eq (h.memberOrThrow_eq (by decide) _) fun sig _ => Agree.ok ⟨hvw, rfl⟩
  refine hdoc.bind fun a b hab => ?_
  obtain ⟨v, sig⟩ := a
  obtain ⟨w, _⟩ := b
  obtain ⟨hvw, rfl⟩ := hab
  refine (parseUntilLevels_permuted env hvw sig).bind fun a b hab => ?_
  obtain ⟨self, tcbs⟩ := a
  obtain ⟨_, tcbs'⟩ := b
  obtain ⟨rfl, htcbs⟩ := hab
  refine (parseTcbLevels_permuted env htcbs self).bind fun t u htu => ?_
  subst htu
  rw [isWithinJsonDepthLimit_congr hvw.height_eq]
  exact Agree.bind_eq rfl fun _ _ => Agree.ok rfl

end TcbInfo

/-! ## Enclave Identity -/

namespace EnclaveIdentity

variable {v w : Json}

theorem parseFields_congr (env : JsonEnv) (h : LevelsPermuted v w) (sig : Json) :
    parseFields env v sig = parseFields env w sig := by
  simp only [parseFields, checkedField, getStringFieldOf, getUintFieldOf, getDateFieldOf,
    getBytesFieldOf, getFieldOf, h.isObject,
    h.member?_eq (str "id") (by decide), h.member?_eq (str "version") (by decide),
    h.member?_eq (str "issueDate") (by decide), h.member?_eq (str "nextUpdate") (by decide),
    h.member?_eq (str "tcbEvaluationDataNumber") (by decide),
    h.member?_eq (str "miscselect") (by decide), h.member?_eq (str "miscselectMask") (by decide),
    h.member?_eq (str "attributes") (by decide), h.member?_eq (str "attributesMask") (by decide),
    h.member?_eq (str "mrsigner") (by decide), h.member?_eq (str "isvprodid") (by decide)]

/-- The same identity but for its serialised body. -/
def SameIdentity (i j : EnclaveIdentity) : Prop := j = { i with body := j.body }

/-- A document and one with permuted levels are both rejected, or both parsed to
    the same identity. -/
theorem parse_permuted (env : JsonEnv) {text text' : Bytes} {d d' : Json}
    (hd : env.parse text = some d) (hd' : env.parse text' = some d')
    (h : DocumentPermuted "enclaveIdentity" LevelsPermuted d d') :
    Agree SameIdentity (parse env text) (parse env text') := by
  have hdoc : Agree (fun a b => LevelsPermuted a.1 b.1 ∧ a.2 = b.2)
      (parseDocument env text) (parseDocument env text') := by
    refine (Agree.document hd hd' h _).bind fun d d' h => ?_
    refine (h.memberOrThrow_body (fun _ => Or.inl rfl) _).bind fun v w hvw => ?_
    rw [hvw.isObject]
    refine Agree.bind_eq rfl fun _ _ => ?_
    exact Agree.bind_eq (h.memberOrThrow_eq (by decide) _) fun sig _ => Agree.ok ⟨hvw, rfl⟩
  refine hdoc.bind fun a b hab => ?_
  obtain ⟨v, sig⟩ := a
  obtain ⟨w, _⟩ := b
  obtain ⟨hvw, rfl⟩ := hab
  refine Agree.bind_eq (parseFields_congr env hvw sig) fun self _ => ?_
  have hlevels : Agree List.Perm (levelsOf v) (levelsOf w) :=
    (Agree.levels hvw.levels _).bind fun a b hab => Agree.elems hab _
  refine hlevels.bind fun elems elems' hperm => ?_
  refine (emplaceEach_nil_perm IdentityTcbLevel.comparesKeys (fun _ _ _ => trivial) _ hperm).bind
    fun levels levels' heq => ?_
  subst heq
  refine Agree.bind_eq rfl fun _ _ => ?_
  rw [isWithinJsonDepthLimit_congr hvw.height_eq]
  exact Agree.bind_eq rfl fun _ _ => Agree.ok rfl

end EnclaveIdentity

end DcapQvl
