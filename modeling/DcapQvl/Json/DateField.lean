import DcapQvl.Json.EnclaveIdentity
import DcapQvl.Tcb.Record
import DcapQvl.Time.Standard

/-!
# Date fields

The parsers of TCB Info and Enclave Identity read a date with the functions of
`TimeUtils.cpp`, which are those of the enclave or those outside it.

Results:
* `getDateFieldOf_iff`: which strings are accepted as a date, and the date.
* `inEnclave_isTimeT`: every date that the enclave reads fits a `time_t`.
* `parse_inEnclave_eq_outside`: a text is parsed the same way in the enclave and outside it
  when the paths agree on the strings of its date fields.
-/

namespace DcapQvl

open Lib

namespace JsonEnv

variable (env : JsonEnv)

/-- With `SGX_TRUSTED`. -/
def inEnclave : JsonEnv :=
  { env with
    isValidTimeString := fun s => enclaveIsValidTimeString s == some true
    getEpochTimeFromString := fun s => (enclaveGetEpochTimeFromString s).getD 0 }

/-- Without it. -/
def outside (std : StandardTime) : JsonEnv :=
  { env with
    isValidTimeString := standardIsValidTimeString std
    getEpochTimeFromString := standardGetEpochTimeFromString std }

end JsonEnv

variable {env : JsonEnv} {std : StandardTime} {v : Json} {name : Bytes} {t : ℤ}

/-- The date field is accepted with its second if and only if its string is. -/
theorem getDateFieldOf_eq_ok :
    getDateFieldOf env v name = .ok (t, .ok) ↔
      ∃ s, (v.member? name).bind Json.string? = some s ∧ env.isValidTimeString (cStr s) = true ∧
        t = env.getEpochTimeFromString (cStr s) := by
  constructor
  · intro h
    obtain ⟨s, hs, hread⟩ := readString_eq_ok h
    split_ifs at hread with hvalid
    exact ⟨s, hs, hvalid, (Option.some.inj hread).symm⟩
  · rintro ⟨s, hs, hvalid, rfl⟩
    obtain ⟨property, hproperty, hstring⟩ := Option.bind_eq_some_iff.mp hs
    have hobject : v.isObject = true := by
      cases v with
      | object members => rfl
      | _ => cases hproperty
    unfold getDateFieldOf getFieldOf readField
    rw [if_pos hobject, hproperty]
    simp only [hstring, Option.map_some, Option.bind_some, if_pos hvalid]

/-- **Dates.** In the enclave a date field is accepted if and only if the characters of its
    string count an existing date from 1900 on, which is not the second -1; outside the enclave
    if and only if its string is in the format and writes an existing date. In both the field
    is the second of that date. -/
theorem getDateFieldOf_iff (env : JsonEnv) (std : StandardTime) (v : Json) (name : Bytes) (t : ℤ) :
    (getDateFieldOf env.inEnclave v name = .ok (t, .ok) ↔
      ∃ s, (v.member? name).bind Json.string? = some s ∧ CountsDate (cStr s) ∧
        Modern (countedDate (cStr s)) ∧ t = (countedDate (cStr s)).instant) ∧
    (getDateFieldOf (env.outside std) v name = .ok (t, .ok) ↔
      ∃ s, (v.member? name).bind Json.string? = some s ∧ TimeRegex (cStr s) ∧
        (writtenDate (cStr s)).Valid ∧ t = (writtenDate (cStr s)).instant) := by
  rw [getDateFieldOf_eq_ok, getDateFieldOf_eq_ok]
  constructor
  · refine exists_congr fun s => and_congr_right fun _ => ?_
    have hvalid : env.inEnclave.isValidTimeString (cStr s) = true ↔
        CountsDate (cStr s) ∧ Modern (countedDate (cStr s)) := by
      show (enclaveIsValidTimeString (cStr s) == some true) = true ↔ _
      rw [beq_iff_eq, enclaveIsValidTimeString_eq, Option.some.injEq, decide_eq_true_iff]
    rw [hvalid, and_assoc]
    refine and_congr_right fun hcounts => and_congr_right fun hmodern => ?_
    show t = (enclaveGetEpochTimeFromString (cStr s)).getD 0 ↔ _
    rw [enclaveGetEpochTimeFromString_eq hcounts hmodern, Option.getD_some]
  · refine exists_congr fun s => and_congr_right fun _ => ?_
    show standardIsValidTimeString std (cStr s) = true ∧
      t = standardGetEpochTimeFromString std (cStr s) ↔ _
    rw [standardIsValidTimeString_eq_true, and_assoc]
    refine and_congr_right fun hregex => and_congr_right fun hdate => ?_
    rw [standardGetEpochTimeFromString_eq hregex hdate]

/-- What the functions of the enclave give for a string fits a `time_t`. -/
theorem inEnclave_isTimeT (s : Bytes) : IsTimeT (env.inEnclave.getEpochTimeFromString s) := by
  unfold JsonEnv.inEnclave enclaveGetEpochTimeFromString enclaveMktime
  dsimp only
  cases h : (enclaveGetTimeFromString s).bind sgxsslMktime with
  | none =>
    unfold IsTimeT
    decide
  | some r =>
    obtain ⟨t, tm⟩ := r
    obtain ⟨_, _, hmktime⟩ := Option.bind_eq_some_iff.mp h
    exact sgxsslMktime_bounds hmktime

/-! ## The dates of a document -/

/-- The names of the fields that are read as dates. -/
def dateNames : List Bytes := [str "issueDate", str "nextUpdate", str "tcbDate"]

mutual
/-- The strings, up to a NUL, of all date fields in a value. -/
def Json.dateStrings : Json → List Bytes
  | .array elems => Json.dateStringsOfElems elems
  | .object members => Json.dateStringsOfMembers members
  | _ => []

def Json.dateStringsOfElems : List Json → List Bytes
  | [] => []
  | elem :: elems => elem.dateStrings ++ Json.dateStringsOfElems elems

def Json.dateStringsOfMembers : List (Bytes × Json) → List Bytes
  | [] => []
  | (name, v) :: members =>
    (if name ∈ dateNames then (v.string?.map cStr).toList else []) ++ v.dateStrings ++
      Json.dateStringsOfMembers members
end

theorem Json.dateStrings_elems {v : Json} {elems : List Json} (h : v.elems? = some elems) :
    ∀ elem ∈ elems, elem.dateStrings ⊆ v.dateStrings := by
  cases v with
  | array vs =>
    cases h
    show ∀ elem ∈ elems, elem.dateStrings ⊆ Json.dateStringsOfElems elems
    induction elems with
    | nil => simp
    | cons u us ih =>
      intro elem helem
      rw [Json.dateStringsOfElems]
      rcases List.mem_cons.mp helem with rfl | helem
      · exact List.subset_append_left _ _
      · exact List.Subset.trans (ih elem helem) (List.subset_append_right _ _)
  | _ => cases h

theorem Json.dateStrings_member {v u : Json} {name : Bytes} (h : v.member? name = some u) :
    u.dateStrings ⊆ v.dateStrings ∧
      (name ∈ dateNames → ∀ s, u.string? = some s → cStr s ∈ v.dateStrings) := by
  cases v with
  | object members =>
    replace h : members.lookup name = some u := h
    show u.dateStrings ⊆ Json.dateStringsOfMembers members ∧
      (name ∈ dateNames → ∀ s, u.string? = some s → cStr s ∈ Json.dateStringsOfMembers members)
    induction members with
    | nil => cases h
    | cons m members ih =>
      obtain ⟨name', w⟩ := m
      rw [List.lookup_cons] at h
      rw [Json.dateStringsOfMembers]
      cases hname : name == name' with
      | true =>
        rw [hname] at h
        cases h
        obtain rfl := eq_of_beq hname
        constructor
        · exact fun s hs => List.mem_append_left _ (List.mem_append_right _ hs)
        · intro hdate s hs
          rw [if_pos hdate, hs]
          exact List.mem_append_left _ (List.mem_append_left _ (List.mem_singleton_self _))
      | false =>
        rw [hname] at h
        obtain ⟨hsub, hstring⟩ := ih h
        exact ⟨fun s hs => List.mem_append_right _ (hsub hs),
          fun hdate s hs => List.mem_append_right _ (hstring hdate s hs)⟩
  | _ => cases h

/-! ## Environments that read the same dates -/

/-- The environments accept the same of these strings as dates, and give the same second for
    those. -/
def SameDates (env env' : JsonEnv) (strings : List Bytes) : Prop :=
  ∀ s ∈ strings, env.isValidTimeString s = env'.isValidTimeString s ∧
    (env.isValidTimeString s = true → env.getEpochTimeFromString s = env'.getEpochTimeFromString s)

theorem SameDates.mono {env env' : JsonEnv} {strings strings' : List Bytes}
    (h : SameDates env env' strings) (hsub : strings' ⊆ strings) : SameDates env env' strings' :=
  fun s hs => h s (hsub hs)

section Same

variable {env env' : JsonEnv} {v : Json} (h : SameDates env env' v.dateStrings)
include h

theorem SameDates.member {u : Json} {name : Bytes} (hu : v.member? name = some u) :
    SameDates env env' u.dateStrings := h.mono (Json.dateStrings_member hu).1

theorem SameDates.elem {elems : List Json} (helems : v.elems? = some elems) {elem : Json}
    (helem : elem ∈ elems) : SameDates env env' elem.dateStrings :=
  h.mono (Json.dateStrings_elems helems elem helem)

theorem getDateFieldOf_same {name : Bytes} (hname : name ∈ dateNames) :
    getDateFieldOf env v name = getDateFieldOf env' v name := by
  unfold getDateFieldOf getFieldOf readField
  cases hmember : v.member? name with
  | none => rfl
  | some property =>
    cases hs : property.string? with
    | none => simp only [hs, Option.map_none, Option.bind_none]
    | some s =>
      obtain ⟨hvalid, hvalue⟩ := h _ ((Json.dateStrings_member hmember).2 hname s hs)
      simp only [hs, Option.map_some, Option.bind_some]
      by_cases haccepted : env.isValidTimeString (cStr s) = true
      · rw [← hvalid, if_pos haccepted, if_pos haccepted, hvalue haccepted]
      · rw [← hvalid, if_neg haccepted, if_neg haccepted]

theorem TcbLevel.parse_same (version : UInt32) (id : Bytes) :
    TcbLevel.parse env version id v = TcbLevel.parse env' version id v := by
  have hdate := getDateFieldOf_same h (show str "tcbDate" ∈ dateNames by decide)
  simp only [TcbLevel.parse, parseTcbLevelV2, parseTcbLevelV3, parseTcbLevelCommon, hdate]

theorem TdxModuleTcbLevel.parse_same :
    TdxModuleTcbLevel.parse env v = TdxModuleTcbLevel.parse env' v := by
  have hdate := getDateFieldOf_same h (show str "tcbDate" ∈ dateNames by decide)
  simp only [TdxModuleTcbLevel.parse, hdate]

theorem IdentityTcbLevel.parse_same :
    IdentityTcbLevel.parse env v = IdentityTcbLevel.parse env' v := by
  have hdate := getDateFieldOf_same h (show str "tcbDate" ∈ dateNames by decide)
  simp only [IdentityTcbLevel.parse, hdate]

theorem TdxModuleIdentity.parse_same :
    TdxModuleIdentity.parse env v = TdxModuleIdentity.parse env' v := by
  unfold TdxModuleIdentity.parse
  refine bind_congr fun self => bind_congr_of_ok fun elems helems => ?_
  obtain ⟨tcbLevels, hmember, helems⟩ := bind_eq_ok.mp helems
  have hlevels := h.member (memberOrThrow_eq_ok.mp hmember)
  rw [emplaceEach_congr fun elem helem => TdxModuleTcbLevel.parse_same
    (hlevels.elem (elemsOrThrow_eq_ok.mp helems) helem)]

namespace TcbInfo

theorem parseFields_same (sig : Json) (self : TcbInfo) :
    parseFields env v sig self = parseFields env' v sig self := by
  have hissue := getDateFieldOf_same h (show str "issueDate" ∈ dateNames by decide)
  have hnext := getDateFieldOf_same h (show str "nextUpdate" ∈ dateNames by decide)
  simp only [parseFields, hissue, hnext]

theorem parseTdxModuleIdentities_same :
    parseTdxModuleIdentities env v = parseTdxModuleIdentities env' v := by
  unfold parseTdxModuleIdentities
  refine bind_congr_of_ok fun elems helems => ?_
  rw [mapM_congr_of_mem fun elem helem => TdxModuleIdentity.parse_same
    (h.elem (elemsOrThrow_eq_ok.mp helems) helem)]

theorem parsePartV3_same (self : TcbInfo) : parsePartV3 env v self = parsePartV3 env' v self := by
  unfold parsePartV3
  cases hmember : v.member? (str "tdxModuleIdentities") with
  | none => rfl
  | some w => simp only [parseTdxModuleIdentities_same (h.member hmember)]

theorem parseTcbLevels_same (self : TcbInfo) :
    parseTcbLevels env v self = parseTcbLevels env' v self := by
  unfold parseTcbLevels
  refine bind_congr_of_ok fun elems helems => ?_
  rw [emplaceEach_congr fun elem helem => TcbLevel.parse_same
    (h.elem (elemsOrThrow_eq_ok.mp helems) helem) self.version self.id]

/-- The fields and the levels of a body. -/
theorem parseBody_same (sig : Json) :
    (parseUntilLevels env v sig >>= fun r => parseTcbLevels env r.2 r.1) =
      parseUntilLevels env' v sig >>= fun r => parseTcbLevels env' r.2 r.1 := by
  have hfields := funext (parseFields_same h sig)
  have hv3 := funext (parsePartV3_same h)
  simp only [parseUntilLevels, parseUntilPartV3, hfields, hv3, bind_assoc, pure_bind]
  refine bind_congr fun self => bind_congr fun self => bind_congr_of_ok fun tcbs htcbs => ?_
  have hlevels := funext (parseTcbLevels_same (h.member (memberOrThrow_eq_ok.mp htcbs)))
  rw [hlevels]

end TcbInfo

namespace EnclaveIdentity

theorem parseFields_same (sig : Json) : parseFields env v sig = parseFields env' v sig := by
  have hissue := getDateFieldOf_same h (show str "issueDate" ∈ dateNames by decide)
  have hnext := getDateFieldOf_same h (show str "nextUpdate" ∈ dateNames by decide)
  simp only [parseFields, checkedField, hissue, hnext]

theorem levels_same {elems : List Json} (helems : levelsOf v = .ok elems) :
    emplaceEach IdentityTcbLevel.greater (IdentityTcbLevel.parse env) duplicatedLevels elems [] =
      emplaceEach IdentityTcbLevel.greater (IdentityTcbLevel.parse env') duplicatedLevels elems
        [] := by
  obtain ⟨tcbLevels, hmember, helems⟩ := bind_eq_ok.mp helems
  have hlevels := h.member (memberOrThrow_eq_ok.mp hmember)
  exact emplaceEach_congr (fun elem helem => IdentityTcbLevel.parse_same
    (hlevels.elem (elemsOrThrow_eq_ok.mp helems) helem)) _ _ _

end EnclaveIdentity

end Same

/-! ## Documents -/

theorem sameDates_of_pathsAgree {strings : List Bytes} (h : ∀ s ∈ strings, PathsAgree std s) :
    SameDates env.inEnclave (env.outside std) strings := by
  intro s hs
  obtain ⟨hvalid, hvalue⟩ := h s hs
  have hsame : env.inEnclave.isValidTimeString s = (env.outside std).isValidTimeString s := by
    show (enclaveIsValidTimeString s == some true) = standardIsValidTimeString std s
    rw [hvalid]
    cases standardIsValidTimeString std s <;> rfl
  refine ⟨hsame, fun haccepted => ?_⟩
  have hstandard : standardIsValidTimeString std s = true := hsame.symm.trans haccepted
  show (enclaveGetEpochTimeFromString s).getD 0 = standardGetEpochTimeFromString std s
  rw [hvalue (hvalid.trans (congrArg some hstandard)) hstandard, Option.getD_some]

/-- **Two builds, one collateral.** When both paths of `TimeUtils.cpp` agree on the strings of
    the date fields of a document, then the parsers make the same of its text in the enclave
    and outside it: the same TCB Info, the same identity or the same exception. -/
theorem parse_inEnclave_eq_outside (env : JsonEnv) (std : StandardTime) (text : Bytes)
    (h : ∀ document, env.parse text = some document →
      ∀ s ∈ document.dateStrings, PathsAgree std s) :
    TcbInfo.parse env.inEnclave text = TcbInfo.parse (env.outside std) text ∧
      EnclaveIdentity.parse env.inEnclave text = EnclaveIdentity.parse (env.outside std) text := by
  have hbody {document body : Json} {name : Bytes} (hdocument : env.parse text = some document)
      (hmember : document.member? name = some body) :
      SameDates env.inEnclave (env.outside std) body.dateStrings :=
    (sameDates_of_pathsAgree (h document hdocument)).member hmember
  -- the same document is read, and its body goes through the same steps
  constructor
  · have hparse : TcbInfo.parseDocument env.inEnclave text =
        TcbInfo.parseDocument (env.outside std) text := rfl
    unfold TcbInfo.parse
    rw [hparse]
    refine bind_congr_of_ok fun ⟨v, sig⟩ hdocument => ?_
    obtain ⟨document, hread, hmember, -⟩ := TcbInfo.parseDocument_eq_ok hdocument
    have hsame := TcbInfo.parseBody_same (hbody hread hmember) sig
    show (TcbInfo.parseUntilLevels _ v sig >>= fun r => TcbInfo.parseTcbLevels _ r.2 r.1 >>= _) =
      TcbInfo.parseUntilLevels _ v sig >>= fun r => TcbInfo.parseTcbLevels _ r.2 r.1 >>= _
    rw [← bind_assoc, hsame, bind_assoc]
    rfl
  · have hparse : EnclaveIdentity.parseDocument env.inEnclave text =
        EnclaveIdentity.parseDocument (env.outside std) text := rfl
    unfold EnclaveIdentity.parse
    rw [hparse]
    refine bind_congr_of_ok fun ⟨v, sig⟩ hdocument => ?_
    obtain ⟨document, hread, hmember, -⟩ := EnclaveIdentity.parseDocument_eq_ok hdocument
    have hsame := hbody hread hmember
    dsimp only
    rw [EnclaveIdentity.parseFields_same hsame]
    refine bind_congr fun self => bind_congr_of_ok fun elems helems => ?_
    rw [EnclaveIdentity.levels_same hsame helems]
    rfl

theorem sampleInfo_parse_inEnclave :
    TcbInfo.parse sampleDocuments.inEnclave sampleTcbInfoDocument.render = .ok sampleInfo := by
  decide +kernel

/-- The sample TCB Info has one date throughout, and that is a plain one. -/
theorem parse_inEnclave_eq_outside_sample :
    TcbInfo.parse sampleDocuments.inEnclave sampleTcbInfoDocument.render =
      TcbInfo.parse (sampleDocuments.outside sampleStandardTime) sampleTcbInfoDocument.render ∧
    TcbInfo.parse sampleDocuments.inEnclave sampleTcbInfoDocument.render = .ok sampleInfo := by
  have hdates : ∀ s ∈ sampleTcbInfoDocument.dateStrings, s = sampleDate := by decide +kernel
  refine ⟨(parse_inEnclave_eq_outside sampleDocuments sampleStandardTime _ ?_).1,
    sampleInfo_parse_inEnclave⟩
  intro document hdocument s hs
  rw [sampleDocuments_tcbInfo] at hdocument
  cases hdocument
  rw [hdates s hs]
  unfold PathsAgree
  decide +kernel

end DcapQvl
