import DcapQvl.Tcb.Evaluate

/-!
# What a TCB evaluation decides

The purpose of the evaluation: of three searches (platform, TDX module, QE) each
selects one level, and the verdict is the worst of what they say.

Results:
* `statusOfName_eq_iff`: what the name of a status means.
* `sgxEvaluateTCB_eq`, `tdxEvaluateTCB_eq`: the code computes the selection and its
  verdict, and leaves its outputs alone when a search has nothing to select.
* `evaluateTCB_selects`: the two together, on parsed collateral.
-/

namespace DcapQvl

open Lib

/-! ## The abstract evaluation -/

/-- The SVNs an evaluation is given; `teeTcbSvns` for TDX only. -/
structure PlatformSvns where
  tcbComponents : ByteArr 16
  pceSvn : UInt32
  qeSvn : UInt16
  teeTcbSvns : Option (ByteArr 16)

/-- The major and minor SVN of the TDX module. -/
def majorSvn (teeTcbSvns : ByteArr 16) : UInt8 := teeTcbSvns.get 1
def minorSvn (teeTcbSvns : ByteArr 16) : UInt8 := teeTcbSvns.get 0

/-- The first TDX component that is compared. -/
def firstTdxComponent (teeTcbSvns : ByteArr 16) : ℕ := if majorSvn teeTcbSvns > 0 then 2 else 0

/-- Component by component, the SVNs of a level are not above those of the platform. -/
def Covered (levelSvns platformSvns : List UInt8) : Prop :=
  List.Forall₂ (· ≤ ·) levelSvns platformSvns

instance (levelSvns platformSvns : List UInt8) : Decidable (Covered levelSvns platformSvns) :=
  inferInstanceAs (Decidable (List.Forall₂ _ _ _))

theorem covered_nil : Covered [] [] := List.Forall₂.nil

theorem covered_cons {x y : UInt8} {xs ys : List UInt8} :
    Covered (x :: xs) (y :: ys) ↔ x ≤ y ∧ Covered xs ys := List.forall₂_cons

/-- A condition on an optional value is decided on the value. -/
instance decidableForallMem {T : Type} (value : Option T) (p : T → Prop) [DecidablePred p] :
    Decidable (∀ x ∈ value, p x) :=
  match value with
  | none => isTrue fun _ h => nomatch h
  | some x => decidable_of_iff (p x) ⟨fun h _ hy => Option.mem_some_iff.mp hy ▸ h,
      fun h => h x rfl⟩

/-- A platform level is satisfied. -/
def PlatformSvns.Satisfies (svns : PlatformSvns) (l : TcbLevel) : Prop :=
  Covered l.cpuSvn svns.tcbComponents.toList ∧ l.pceSvn ≤ svns.pceSvn ∧
    ∀ tee ∈ svns.teeTcbSvns, Covered (l.tdxSvns.drop (firstTdxComponent tee))
      (tee.toList.drop (firstTdxComponent tee))

instance (svns : PlatformSvns) (l : TcbLevel) : Decidable (svns.Satisfies l) :=
  inferInstanceAs (Decidable (_ ∧ _ ∧ _))

/-- The levels that the searches select. -/
structure Selection where
  platform : TcbLevel
  tdxModule : Option TdxModuleTcbLevel
  qe : Option IdentityTcbLevel

/-- The module level of the first identity of the major version, if that is not 0. -/
def SelectsModule (info : TcbInfo) (svns : PlatformSvns) (level : Option TdxModuleTcbLevel) :
    Prop :=
  match svns.teeTcbSvns with
  | none => level = none
  | some tee =>
    if majorSvn tee = 0 then level = none
    else ∃ identity l, findTdxModuleIdentity info.tdxModuleIdentities (majorSvn tee) =
        some identity ∧ level = some l ∧
      IsFirst TdxModuleTcbLevel.key (fun l => l.tcb.isvsvn ≤ (minorSvn tee).toUInt16)
        identity.tcbLevels l

/-- The level of the QE identity, if one is given. -/
def SelectsQe (identity : Option EnclaveIdentity) (svns : PlatformSvns)
    (level : Option IdentityTcbLevel) : Prop :=
  match identity with
  | none => level = none
  | some identity => ∃ l, level = some l ∧
      IsFirst IdentityTcbLevel.key (fun l => l.isvSvn ≤ svns.qeSvn.toUInt32)
        identity.identityTcbLevels l

/-- The selection of all three searches. -/
def Selects (info : TcbInfo) (identity : Option EnclaveIdentity) (svns : PlatformSvns)
    (s : Selection) : Prop :=
  IsFirst TcbLevel.key svns.Satisfies info.tcbLevels s.platform ∧
    SelectsModule info svns s.tdxModule ∧ SelectsQe identity svns s.qe

/-- Each search has something to select. -/
def Selectable (info : TcbInfo) (identity : Option EnclaveIdentity) (svns : PlatformSvns) : Prop :=
  (∃ l ∈ info.tcbLevels, svns.Satisfies l) ∧
  (∀ tee ∈ svns.teeTcbSvns, majorSvn tee ≠ 0 → ∃ identity,
    findTdxModuleIdentity info.tdxModuleIdentities (majorSvn tee) = some identity ∧
      ∃ l ∈ identity.tcbLevels, l.tcb.isvsvn ≤ (minorSvn tee).toUInt16) ∧
  (∀ i ∈ identity, ∃ l ∈ i.identityTcbLevels, l.isvSvn ≤ svns.qeSvn.toUInt32)

/-- The name that a level has for each of its statuses. -/
def EvaluationStatus.name : EvaluationStatus → Option Bytes
  | .upToDate => some (str "UpToDate")
  | .swHardeningNeeded => some (str "SWHardeningNeeded")
  | .configurationNeeded => some (str "ConfigurationNeeded")
  | .configurationAndSwHardeningNeeded => some (str "ConfigurationAndSWHardeningNeeded")
  | .outOfDate => some (str "OutOfDate")
  | .outOfDateConfigurationNeeded => some (str "OutOfDateConfigurationNeeded")
  | .revoked => some (str "Revoked")
  | .notSupported => none
  | .tdRelaunchAdvised => none
  | .tdRelaunchAdvisedConfigurationNeeded => none

/-- The statuses that a level can have. -/
def levelStatuses : List EvaluationStatus :=
  [.upToDate, .swHardeningNeeded, .configurationNeeded, .configurationAndSwHardeningNeeded,
    .outOfDate, .outOfDateConfigurationNeeded, .revoked]

/-- The meaning of the status names of platform and module levels. -/
def statusOfName (name : Bytes) : EvaluationStatus :=
  (levelStatuses.find? fun status => status.name = some name).getD .notSupported

/-- The meaning of the statuses of identity levels. -/
def statusOfQe : TcbStatus → EvaluationStatus
  | .upToDate => .upToDate
  | .configurationNeeded => .configurationNeeded
  | .outOfDate => .outOfDate
  | .outOfDateConfigurationNeeded => .outOfDateConfigurationNeeded
  | .revoked => .revoked

/-- A name means the status that has it. -/
theorem statusOfName_eq_iff {name : Bytes} {status : EvaluationStatus}
    (hstatus : status ≠ .notSupported) : statusOfName name = status ↔ status.name = some name := by
  constructor
  · rintro rfl
    unfold statusOfName at hstatus ⊢
    cases hfind : levelStatuses.find? fun status => status.name = some name with
    | none =>
      rw [hfind] at hstatus
      exact absurd rfl hstatus
    | some status => simpa using List.find?_some hfind
  · intro h
    have hfind : ∀ s ∈ levelStatuses, ∀ t ∈ levelStatuses, s.name = t.name → s = t := by
      decide +kernel
    have hmem : status ∈ levelStatuses := by
      cases status <;> first | decide | cases h
    unfold statusOfName
    cases hresult : levelStatuses.find? fun s => s.name = some name with
    | none =>
      have := List.find?_eq_none.mp hresult status hmem
      simp [h] at this
    | some s =>
      have hs : s.name = some name := by simpa using List.find?_some hresult
      exact hfind s (List.mem_of_find?_eq_some hresult) status hmem (hs.trans h.symm)

namespace Selection

variable (s : Selection)

/-- The status of the platform level. -/
def platformStatus : EvaluationStatus := statusOfName s.platform.status

/-- The statuses of the other selected levels. -/
def componentStatuses : List EvaluationStatus :=
  (s.tdxModule.toList.map fun l => statusOfName l.tcbStatus) ++
    s.qe.toList.map fun l => statusOfQe l.tcbStatus

/-- The statuses of all selected levels. -/
def statuses : List EvaluationStatus := s.platformStatus :: s.componentStatuses

/-- The platform level is one of the three kinds that need configuration. -/
def NeedsConfiguration : Prop :=
  s.platformStatus ∈ [EvaluationStatus.configurationNeeded, .outOfDateConfigurationNeeded,
    .configurationAndSwHardeningNeeded]

instance : Decidable s.NeedsConfiguration := inferInstanceAs (Decidable (_ ∈ _))

/-- The platform level's own status, when nothing is revoked or out of date. -/
def ownStatus : Status :=
  match s.platformStatus with
  | .configurationNeeded => .tcbConfigurationNeeded
  | .swHardeningNeeded => .tcbSwHardeningNeeded
  | .configurationAndSwHardeningNeeded => .tcbConfigurationAndSwHardeningNeeded
  | _ => .ok

/-- The worst of what the selected levels say. -/
def verdict : Status :=
  if .revoked ∈ s.statuses then .tcbRevoked
  else if .outOfDate ∈ s.statuses ∨ .outOfDateConfigurationNeeded ∈ s.statuses then
    if s.NeedsConfiguration then .tcbOutOfDateConfigurationNeeded else .tcbOutOfDate
  else s.ownStatus

/-- The dates of the selected levels. -/
def dates : List ℤ :=
  s.platform.tcbDate :: (s.tdxModule.toList.map TdxModuleTcbLevel.tcbDate ++
    s.qe.toList.map IdentityTcbLevel.tcbDate)

/-- The earliest of the dates. -/
def earliest : ℤ := s.dates.min (List.cons_ne_nil _ _)

/-- The advisories of the platform, the QE and the module. -/
def advisories : List Bytes :=
  s.platform.advisoryIDs ++ s.qe.toList.flatMap IdentityTcbLevel.advisoryIds ++
    s.tdxModule.toList.flatMap TdxModuleTcbLevel.advisoryIDs

/-- What the evaluation reports. -/
def evaluation : TcbEvaluation :=
  { tcbStatus := s.verdict, tcbDate := s.earliest, advisoryIds := s.advisories }

end Selection

/-! ## The searches of the code -/

/-- A loop whose condition never throws stops at the first element that meets it. -/
theorem firstWhere_eq {T : Type} {condition : T → Except Exn Bool} {p : T → Prop}
    [DecidablePred p] {xs : List T} (h : ∀ x ∈ xs, condition x = .ok (decide (p x))) :
    firstWhere condition xs = .ok (xs.find? fun x => decide (p x)) := by
  induction xs with
  | nil => rfl
  | cons x xs ih =>
    rw [firstWhere, h x (List.mem_cons_self ..), List.find?_cons]
    by_cases hp : p x
    · simp only [hp, decide_true]
      rfl
    · simp only [hp, decide_false]
      exact ih fun y hy => h y (List.mem_cons_of_mem _ hy)

theorem vectorAt_eq {T : Type} {xs : List T} {index : ℕ} (h : index < xs.length) :
    vectorAt xs index = .ok xs[index] := by
  rw [vectorAt, List.getElem?_eq_getElem h]

/-- The comparison loop on vectors that reach far enough. -/
theorem svnsHigherOrEqualAt_eq {tcbComponents : Bytes} {components : List TcbComponent} (n start : ℕ)
    (htcb : tcbComponents.length = start + n) (hlevel : components.length = start + n) :
    svnsHigherOrEqualAt tcbComponents components (List.range' start n) =
      .ok (decide (Covered ((components.map TcbComponent.svn).drop start)
        (tcbComponents.drop start))) := by
  induction n generalizing start with
  | zero =>
    have h1 : (components.map TcbComponent.svn).drop start = [] :=
      List.drop_eq_nil_of_le (by rw [List.length_map]; omega)
    have h2 : tcbComponents.drop start = [] := List.drop_eq_nil_of_le (by omega)
    rw [List.range'_zero, svnsHigherOrEqualAt, h1, h2, decide_eq_true covered_nil]
  | succ n ih =>
    have hs : start < tcbComponents.length := by omega
    have hc : start < components.length := by omega
    have hm : start < (components.map TcbComponent.svn).length := by rw [List.length_map]; omega
    rw [List.range'_succ, svnsHigherOrEqualAt, vectorAt_eq hs, vectorAt_eq hc,
      List.drop_eq_getElem_cons hs, List.drop_eq_getElem_cons hm, List.getElem_map]
    show (if tcbComponents[start] < components[start].svn then pure false else _) = _
    by_cases hlt : tcbComponents[start] < components[start].svn
    · have hnot : ¬ components[start].svn ≤ tcbComponents[start] := by
        rw [UInt8.not_le]
        exact hlt
      rw [if_pos hlt, decide_eq_false fun h => hnot (covered_cons.mp h).1]
      rfl
    · rw [if_neg hlt, ih (start + 1) (by omega) (by omega)]
      have hle : components[start].svn ≤ tcbComponents[start] := UInt8.not_lt.mp hlt
      congr 1
      rw [decide_eq_decide, covered_cons, and_iff_right hle]

theorem areSvnsHigherOrEqual_eq {tcbComponents : Bytes} {components : List TcbComponent}
    {start : ℕ} (htcb : tcbComponents.length = cpusvnByteLen)
    (hlevel : components.length = cpusvnByteLen) (hstart : start ≤ cpusvnByteLen) :
    areSvnsHigherOrEqual tcbComponents components start =
      .ok (decide (Covered ((components.map TcbComponent.svn).drop start)
        (tcbComponents.drop start))) :=
  svnsHigherOrEqualAt_eq _ start (by omega) (by omega)

variable {version : UInt32} {id : Bytes}

theorem sgxLevelSatisfied_eq {l : TcbLevel} (hl : l.WellFormed version id) (cpu : ByteArr 16)
    (pceSvn : UInt32) :
    sgxLevelSatisfied cpu.toList pceSvn l =
      .ok (decide (Covered l.cpuSvn cpu.toList ∧ l.pceSvn ≤ pceSvn)) := by
  have hlen : l.cpuSvnComponents.length = cpusvnByteLen := by
    rw [← hl.cpuSvn_length, ← hl.component_svns, List.length_map]
  rw [sgxLevelSatisfied, hl.components]
  show (areSvnsHigherOrEqual cpu.toList l.cpuSvnComponents 0 >>= _) = _
  rw [areSvnsHigherOrEqual_eq cpu.toList_length hlen (Nat.zero_le _), hl.component_svns,
    List.drop_zero, List.drop_zero]
  by_cases hcov : Covered l.cpuSvn cpu.toList
  · simp only [hcov, decide_true, true_and]
    rfl
  · simp only [hcov, decide_false, false_and]
    rfl

theorem firstTdxComponent_le (tee : ByteArr 16) : firstTdxComponent tee ≤ cpusvnByteLen := by
  rw [firstTdxComponent]
  split_ifs <;> decide

theorem tdxLevelSatisfied_eq {l : TcbLevel} (hl : l.WellFormed versionV3 tdxId)
    (cpu tee : ByteArr 16) (pceSvn : UInt32) :
    tdxLevelSatisfied cpu.toList pceSvn tee.toList (firstTdxComponent tee) l =
      .ok (decide ((Covered l.cpuSvn cpu.toList ∧ l.pceSvn ≤ pceSvn) ∧
        Covered (l.tdxSvns.drop (firstTdxComponent tee))
          (tee.toList.drop (firstTdxComponent tee)))) := by
  rw [tdxLevelSatisfied, sgxLevelSatisfied_eq hl]
  by_cases hsgx : Covered l.cpuSvn cpu.toList ∧ l.pceSvn ≤ pceSvn
  · simp only [hsgx, decide_true, true_and]
    show (l.getTdxTcbComponents >>= fun components =>
      areSvnsHigherOrEqual tee.toList components (firstTdxComponent tee)) = _
    rw [hl.getTdxTcbComponents rfl]
    exact areSvnsHigherOrEqual_eq tee.toList_length (hl.tdx_length rfl rfl)
      (firstTdxComponent_le tee)
  · simp only [hsgx, decide_false, false_and]
    rfl

/-! ## Selected levels -/

/-- What the searches keep of a platform level and of a module level. -/
def TcbLevel.selected (l : TcbLevel) : SelectedLevel :=
  { tcbDate := l.tcbDate, status := statusOfName l.status, advisoryIds := l.advisoryIDs }

def TdxModuleTcbLevel.selected (l : TdxModuleTcbLevel) : SelectedLevel :=
  { tcbDate := l.tcbDate, status := statusOfName l.tcbStatus, advisoryIds := l.advisoryIDs }

theorem mapToEvaluationStatusOrThrow_platform {name : Bytes} (h : name ∈ TcbLevel.validStatuses) :
    mapToEvaluationStatusOrThrow name validTcbInfoStatuses = .ok (statusOfName name) ∧
      statusOfName name ≠ .notSupported := by
  rw [TcbLevel.validStatuses] at h
  fin_cases h <;> exact ⟨rfl, by decide⟩

/-- The statuses that module levels are evaluated with. -/
def moduleStatuses : List Bytes := ["UpToDate", "OutOfDate", "Revoked"].map str

theorem mapToEvaluationStatusOrThrow_module {name : Bytes} (h : name ∈ moduleStatuses) :
    mapToEvaluationStatusOrThrow name validTdxModuleStatuses = .ok (statusOfName name) ∧
      statusOfName name ≠ .notSupported := by
  rw [moduleStatuses] at h
  fin_cases h <;> exact ⟨rfl, by decide⟩

theorem mapToEvaluationStatusOrThrow_qe (status : TcbStatus) :
    mapToEvaluationStatusOrThrow status validQeStatuses = .ok (statusOfQe status) := by
  cases status <;> rfl

section Platform

variable {condition : TcbLevel → Except Exn Bool} {p : TcbLevel → Prop} [DecidablePred p]
  {levels : List TcbLevel} (hcond : ∀ l ∈ levels, condition l = .ok (decide (p l)))
include hcond

theorem selectPlatformLevel_of_first (hs : KeysIncrease TcbLevel.key levels)
    (hstatus : ∀ l ∈ levels, l.status ∈ TcbLevel.validStatuses) {l : TcbLevel}
    (h : IsFirst TcbLevel.key p levels l) :
    selectPlatformLevel condition levels = .ok l.selected ∧ l.selected.status ≠ .notSupported := by
  obtain ⟨hmap, hne⟩ := mapToEvaluationStatusOrThrow_platform (hstatus l h.1)
  refine ⟨?_, hne⟩
  rw [selectPlatformLevel, firstWhere_eq hcond, (find?_eq_some_iff hs).mpr h]
  show (mapToEvaluationStatusOrThrow l.status validTcbInfoStatuses >>= _) = _
  rw [hmap]
  rfl

theorem selectPlatformLevel_of_none (h : ¬ ∃ l ∈ levels, p l) :
    selectPlatformLevel condition levels = .ok .none := by
  have hfind : levels.find? (fun l => decide (p l)) = none := by
    rw [List.find?_eq_none]
    intro l hl hp
    exact h ⟨l, hl, by simpa using hp⟩
  rw [selectPlatformLevel, firstWhere_eq hcond, hfind]
  rfl

end Platform

section Module

variable {tee : ByteArr 16}

theorem vectorAt_major : vectorAt tee.toList tdxModuleMajorSvnIndex = .ok (majorSvn tee) := by
  rw [vectorAt_eq (by rw [List.Vector.toList_length]; decide), majorSvn,
    List.Vector.get_eq_get_toList]
  rfl

theorem vectorAt_minor : vectorAt tee.toList tdxModuleMinorSvnIndex = .ok (minorSvn tee) := by
  rw [vectorAt_eq (by rw [List.Vector.toList_length]; decide), minorSvn,
    List.Vector.get_eq_get_toList]
  rfl

theorem moduleCondition_eq (l : TdxModuleTcbLevel) :
    (do let minor ← vectorAt tee.toList tdxModuleMinorSvnIndex
        pure (minor.toUInt16 ≥ l.tcb.isvsvn : Bool) : Except Exn Bool) =
      .ok (decide (l.tcb.isvsvn ≤ (minorSvn tee).toUInt16)) := by
  rw [vectorAt_minor]
  rfl

theorem mapToEvaluationStatusOrThrow_unknown {name : Bytes} (h : name ∉ moduleStatuses) :
    mapToEvaluationStatusOrThrow name validTdxModuleStatuses =
      .error (.runtime .tcbUnrecognizedStatus) := by
  have hlookup : validTdxModuleStatuses.lookup name = none := by
    rw [List.lookup_eq_none_iff]
    intro p hp
    rw [bne_iff_ne]
    rintro rfl
    exact h (List.mem_map_of_mem (f := Prod.fst) hp)
  rw [mapToEvaluationStatusOrThrow, hlookup]

section SelectModule

variable {levels : List TdxModuleTcbLevel} (hs : KeysIncrease TdxModuleTcbLevel.key levels)
  {l : TdxModuleTcbLevel} (h : IsFirst TdxModuleTcbLevel.key
    (fun l => l.tcb.isvsvn ≤ (minorSvn tee).toUInt16) levels l)
include hs h

/-- The search is decided by the status of the level that it finds. -/
theorem selectModuleLevel_eq :
    selectModuleLevel tee.toList levels = (do
      let status ← mapToEvaluationStatusOrThrow l.tcbStatus validTdxModuleStatuses
      pure { tcbDate := l.tcbDate, status, advisoryIds := l.advisoryIDs }) := by
  rw [selectModuleLevel, firstWhere_eq fun l _ => moduleCondition_eq l,
    (find?_eq_some_iff hs).mpr h]
  rfl

theorem selectModuleLevel_of_first (hstatus : l.tcbStatus ∈ moduleStatuses) :
    selectModuleLevel tee.toList levels = .ok l.selected ∧ l.selected.status ≠ .notSupported := by
  obtain ⟨hmap, hne⟩ := mapToEvaluationStatusOrThrow_module hstatus
  refine ⟨?_, hne⟩
  rw [selectModuleLevel_eq hs h, hmap]
  rfl

theorem selectModuleLevel_of_unknown (hstatus : l.tcbStatus ∉ moduleStatuses) :
    selectModuleLevel tee.toList levels = .error (.runtime .tcbUnrecognizedStatus) := by
  rw [selectModuleLevel_eq hs h, mapToEvaluationStatusOrThrow_unknown hstatus]
  rfl

end SelectModule

theorem selectModuleLevel_of_none {levels : List TdxModuleTcbLevel}
    (h : ¬ ∃ l ∈ levels, l.tcb.isvsvn ≤ (minorSvn tee).toUInt16) :
    selectModuleLevel tee.toList levels = .ok .none := by
  have hfind : levels.find? (fun l => decide (l.tcb.isvsvn ≤ (minorSvn tee).toUInt16)) = none := by
    rw [List.find?_eq_none]
    intro l hl hp
    exact h ⟨l, hl, by simpa using hp⟩
  rw [selectModuleLevel, firstWhere_eq fun l _ => moduleCondition_eq l, hfind]
  rfl

theorem majorSvn_pos_iff : majorSvn tee > 0 ↔ majorSvn tee ≠ 0 := by
  rw [GT.gt, UInt8.lt_iff_toNat_lt, Ne, ← UInt8.toNat_inj]
  exact Nat.pos_iff_ne_zero

variable {info : TcbInfo} (hversion : info.version = versionV3) (hid : info.id = tdxId)
  {svns : PlatformSvns}
include hversion hid

theorem getTdxModuleIdentities_eq : info.getTdxModuleIdentities = .ok info.tdxModuleIdentities := by
  rw [TcbInfo.getTdxModuleIdentities, throwUnless, if_pos (by rw [hversion]; decide), throwUnless,
    if_pos hid]
  rfl

/-- The module part is a search in the identity of the major version. -/
theorem evaluateTdxModule_of_find (hmajor : majorSvn tee ≠ 0) {identity : TdxModuleIdentity}
    (hfind : findTdxModuleIdentity info.tdxModuleIdentities (majorSvn tee) = some identity) :
    evaluateTdxModule tee.toList info = (do
      let level ← selectModuleLevel tee.toList identity.tcbLevels
      if level.status = .notSupported then pure none else pure (some [level])) := by
  rw [evaluateTdxModule, vectorAt_major, ok_bind, if_pos (majorSvn_pos_iff.mpr hmajor),
    getTdxModuleIdentities_eq hversion hid, ok_bind, hfind]

section Selects

variable (hwf : ∀ i ∈ info.tdxModuleIdentities, i.WellFormed) (htee : svns.teeTcbSvns = some tee)
  {level : Option TdxModuleTcbLevel} (h : SelectsModule info svns level)
include hwf htee h

/-- The module part when the module search selects. -/
theorem evaluateTdxModule_of_selects (hstatus : ∀ l ∈ level, l.tcbStatus ∈ moduleStatuses) :
    evaluateTdxModule tee.toList info =
      .ok (some (level.toList.map TdxModuleTcbLevel.selected)) := by
  rw [SelectsModule, htee] at h
  by_cases hmajor : majorSvn tee = 0
  · simp only [hmajor, if_true] at h
    rw [evaluateTdxModule, vectorAt_major, ok_bind, if_neg (by rw [hmajor]; decide), h]
    rfl
  · simp only [hmajor, if_false] at h
    obtain ⟨identity, l, hfind, rfl, hfirst⟩ := h
    have hmem := List.mem_of_find?_eq_some hfind
    obtain ⟨hselect, hne⟩ := selectModuleLevel_of_first (hwf identity hmem).levels_sorted hfirst
      (hstatus l rfl)
    rw [evaluateTdxModule_of_find hversion hid hmajor hfind, hselect, ok_bind, if_neg hne]
    rfl

/-- A status that is not known is raised as an exception. -/
theorem evaluateTdxModule_of_unknown (hstatus : ∃ l ∈ level, l.tcbStatus ∉ moduleStatuses) :
    evaluateTdxModule tee.toList info = .error (.runtime .tcbUnrecognizedStatus) := by
  obtain ⟨l, hl, hstatus⟩ := hstatus
  rw [SelectsModule, htee] at h
  by_cases hmajor : majorSvn tee = 0
  · simp only [hmajor, if_true] at h
    rw [h] at hl
    cases hl
  · simp only [hmajor, if_false] at h
    obtain ⟨identity, l', hfind, hl', hfirst⟩ := h
    rw [hl'] at hl
    cases hl
    have hmem := List.mem_of_find?_eq_some hfind
    rw [evaluateTdxModule_of_find hversion hid hmajor hfind,
      selectModuleLevel_of_unknown (hwf identity hmem).levels_sorted hfirst hstatus, error_bind]

end Selects

/-- The module part when the module search has nothing to select. -/
theorem evaluateTdxModule_of_none (h : ¬ (majorSvn tee ≠ 0 → ∃ identity,
      findTdxModuleIdentity info.tdxModuleIdentities (majorSvn tee) = some identity ∧
        ∃ l ∈ identity.tcbLevels, l.tcb.isvsvn ≤ (minorSvn tee).toUInt16)) :
    evaluateTdxModule tee.toList info = .ok none := by
  obtain ⟨hmajor, h⟩ := Classical.not_imp.mp h
  cases hfind : findTdxModuleIdentity info.tdxModuleIdentities (majorSvn tee) with
  | none =>
    rw [evaluateTdxModule, vectorAt_major, ok_bind, if_pos (majorSvn_pos_iff.mpr hmajor),
      getTdxModuleIdentities_eq hversion hid, ok_bind, hfind]
    rfl
  | some identity =>
    rw [evaluateTdxModule_of_find hversion hid hmajor hfind,
      selectModuleLevel_of_none fun hl => h ⟨identity, hfind, hl⟩]
    rfl

end Module

section Qe

variable {identity : Option EnclaveIdentity} (hidentity : ∀ i ∈ identity, i.WellFormed)
  {svns : PlatformSvns}
include hidentity

theorem applyQeIdentity_of_selects (components : ComponentLevels)
    (hids : components.qeAdvisoryIds = []) {level : Option IdentityTcbLevel}
    (h : SelectsQe identity svns level) :
    applyQeIdentity identity svns.qeSvn components = .ok {
      statuses := components.statuses ++ level.toList.map fun l => statusOfQe l.tcbStatus
      tcbDates := components.tcbDates ++ level.toList.map IdentityTcbLevel.tcbDate
      qeAdvisoryIds := level.toList.flatMap IdentityTcbLevel.advisoryIds } := by
  cases identity with
  | none =>
    cases h
    obtain ⟨statuses, dates, ids⟩ := components
    cases hids
    simp [applyQeIdentity, Pure.pure, Except.pure]
  | some i =>
    obtain ⟨l, rfl, hfirst⟩ := h
    have hget := (EnclaveIdentity.getTcbLevel_eq_ok (hidentity i rfl)).mpr hfirst
    rw [applyQeIdentity, hget]
    show (mapToEvaluationStatusOrThrow l.tcbStatus validQeStatuses >>= _) = _
    rw [mapToEvaluationStatusOrThrow_qe]
    simp [Pure.pure, Except.pure, Bind.bind, Except.bind]

theorem applyQeIdentity_of_none (components : ComponentLevels)
    (h : ¬ ∀ i ∈ identity, ∃ l ∈ i.identityTcbLevels, l.isvSvn ≤ svns.qeSvn.toUInt32) :
    ∃ e, applyQeIdentity identity svns.qeSvn components = .error e := by
  obtain ⟨i, hi⟩ := not_forall.mp h
  obtain ⟨hi, hnone⟩ := Classical.not_imp.mp hi
  cases hi
  have hfind : i.identityTcbLevels.find? (fun l => l.isvSvn ≤ svns.qeSvn.toUInt32) = none := by
    rw [List.find?_eq_none]
    intro l hl hle
    exact hnone ⟨l, hl, by simpa using hle⟩
  rw [applyQeIdentity, EnclaveIdentity.getTcbLevel, hfind]
  exact ⟨_, rfl⟩

end Qe

/-! ## The verdict -/

theorem exists_selectsModule {info : TcbInfo} (hinfo : info.WellFormed) {svns : PlatformSvns}
    (h : ∀ tee ∈ svns.teeTcbSvns, majorSvn tee ≠ 0 → ∃ identity,
      findTdxModuleIdentity info.tdxModuleIdentities (majorSvn tee) = some identity ∧
        ∃ l ∈ identity.tcbLevels, l.tcb.isvsvn ≤ (minorSvn tee).toUInt16) :
    ∃ level, SelectsModule info svns level := by
  cases htee : svns.teeTcbSvns with
  | none => exact ⟨none, by rw [SelectsModule, htee]⟩
  | some tee =>
    by_cases hmajor : majorSvn tee = 0
    · refine ⟨none, ?_⟩
      simp only [SelectsModule, htee, hmajor, if_true]
    · obtain ⟨i, hfind, hl⟩ := h tee htee hmajor
      have hwf := hinfo.identities_wellFormed i (List.mem_of_find?_eq_some hfind)
      obtain ⟨l, hl⟩ := exists_isFirst hwf.levels_sorted hl
      refine ⟨some l, ?_⟩
      simp only [SelectsModule, htee, hmajor, if_false]
      exact ⟨i, l, hfind, rfl, hl⟩

theorem selectable_iff {info : TcbInfo} (hinfo : info.WellFormed) {identity : Option EnclaveIdentity}
    (hidentity : ∀ i ∈ identity, i.WellFormed) {svns : PlatformSvns} :
    Selectable info identity svns ↔ ∃ s, Selects info identity svns s := by
  constructor
  · rintro ⟨hplatform, hmodule, hqe⟩
    obtain ⟨platform, hplatform⟩ := exists_isFirst hinfo.levels_sorted hplatform
    have hqe : ∃ level, SelectsQe identity svns level := by
      cases identity with
      | none => exact ⟨none, rfl⟩
      | some i =>
        obtain ⟨l, hl⟩ := exists_isFirst (hidentity i rfl).levels_sorted (hqe i rfl)
        exact ⟨some l, l, rfl, hl⟩
    obtain ⟨m, hm⟩ := exists_selectsModule hinfo hmodule
    obtain ⟨q, hq⟩ := hqe
    exact ⟨⟨platform, m, q⟩, hplatform, hm, hq⟩
  · rintro ⟨s, ⟨hmem, hsat, _⟩, hmodule, hqe⟩
    refine ⟨⟨s.platform, hmem, hsat⟩, fun tee htee hmajor => ?_, fun i hi => ?_⟩
    · rw [Option.mem_def] at htee
      simp only [SelectsModule, htee, hmajor, if_false] at hmodule
      obtain ⟨i, l, hfind, _, hl, hle, _⟩ := hmodule
      exact ⟨i, hfind, l, hl, hle⟩
    · cases hi
      obtain ⟨l, _, hl, hle, _⟩ := hqe
      exact ⟨l, hl, hle⟩

/-- The merge of the code is the worst of the statuses, when those of the module
    and the QE are among the three that their levels can have. -/
theorem convergeTcbStatuses_eq (s : Selection) (hplatform : s.platform.status ∈ TcbLevel.validStatuses)
    (hcomponents : ∀ c ∈ s.componentStatuses,
      c = .upToDate ∨ c = .outOfDate ∨ c = .revoked) :
    convergeTcbStatuses s.platformStatus s.componentStatuses = s.verdict := by
  have hnot : EvaluationStatus.outOfDateConfigurationNeeded ∉ s.componentStatuses := by
    intro h
    rcases hcomponents _ h with h | h | h <;> cases h
  simp only [convergeTcbStatuses, Selection.verdict, Selection.NeedsConfiguration,
    Selection.ownStatus, Selection.statuses]
  have hany : ∀ c : EvaluationStatus, s.componentStatuses.any (· = c) =
      decide (c ∈ s.componentStatuses) := fun c => by
    rw [List.any_eq, decide_eq_decide]
    simp
  simp only [hany, List.mem_cons, hnot, or_false]
  generalize s.componentStatuses = components
  rw [Selection.platformStatus]
  rw [TcbLevel.validStatuses] at hplatform
  generalize s.platform.status = name at hplatform
  have hcases : statusOfName name ∈ [EvaluationStatus.upToDate, .outOfDate, .configurationNeeded,
      .revoked, .outOfDateConfigurationNeeded, .swHardeningNeeded,
      .configurationAndSwHardeningNeeded] := by
    fin_cases hplatform <;> decide
  by_cases hrevoked : EvaluationStatus.revoked ∈ components <;>
    by_cases hout : EvaluationStatus.outOfDate ∈ components <;>
      generalize statusOfName name = status at hcases <;>
        fin_cases hcases <;> simp [hrevoked, hout] <;> rfl

/-! ## The evaluations -/

/-- A result is what the evaluation is for: the verdict on a selection, or the
    outputs as they were when a search has nothing to select. -/
structure Evaluates (info : TcbInfo) (identity : Option EnclaveIdentity) (svns : PlatformSvns)
    (out : TcbEvaluation) (result : Status × TcbEvaluation) : Prop where
  ok_iff : result.1 = .ok ↔ Selectable info identity svns
  selected : ∀ s, Selects info identity svns s → result = (.ok, s.evaluation)
  unchanged : ¬ Selectable info identity svns → result = (.tcbNotSupported, out)

/-- Every module level has one of the statuses that are evaluated. -/
def TcbInfo.ModuleStatusesKnown (info : TcbInfo) : Prop :=
  ∀ i ∈ info.tdxModuleIdentities, ∀ l ∈ i.tcbLevels, l.tcbStatus ∈ moduleStatuses

section Evaluation

variable {info : TcbInfo} {identity : Option EnclaveIdentity} {svns : PlatformSvns}
  {out : TcbEvaluation} {result : Status × TcbEvaluation}

theorem Evaluates.of (hinfo : info.WellFormed) (hidentity : ∀ i ∈ identity, i.WellFormed)
    (hselects : ∀ s, Selects info identity svns s → result = (.ok, s.evaluation))
    (hnot : ¬ Selectable info identity svns → result = (.tcbNotSupported, out)) :
    Evaluates info identity svns out result := by
  refine ⟨⟨fun h => ?_, fun h => ?_⟩, hselects, hnot⟩
  · by_contra hn
    rw [hnot hn] at h
    cases h
  · obtain ⟨s, hs⟩ := (selectable_iff hinfo hidentity).mp h
    rw [hselects s hs]

/-- The levels that are selected have statuses that the merge knows. -/
theorem Selects.componentStatuses {s : Selection} (h : Selects info identity svns s)
    (hidentity : ∀ i ∈ identity, i.WellFormed)
    (hstatus : ∀ l ∈ s.tdxModule, l.tcbStatus ∈ moduleStatuses) :
    ∀ c ∈ s.componentStatuses, c = .upToDate ∨ c = .outOfDate ∨ c = .revoked := by
  obtain ⟨_, _, hqe⟩ := h
  intro c hc
  rcases List.mem_append.mp hc with hc | hc
  · obtain ⟨l, hl, rfl⟩ := List.mem_map.mp hc
    rw [Option.mem_toList] at hl
    have hknown := hstatus l hl
    rw [moduleStatuses] at hknown
    generalize l.tcbStatus = name at hknown ⊢
    fin_cases hknown <;> decide
  · obtain ⟨l, hl, rfl⟩ := List.mem_map.mp hc
    rw [Option.mem_toList] at hl
    cases identity with
    | none =>
      rw [SelectsQe, hl] at hqe
      cases hqe
    | some i =>
      obtain ⟨l', hl', hmem, _⟩ := hqe
      rw [hl] at hl'
      cases hl'
      rcases (hidentity i rfl).levels_status l hmem with h | h | h <;> rw [h] <;> decide

/-- What the code reports on the levels of a selection. -/
theorem finalizeTcbEvaluation_eq {s : Selection}
    (hplatform : s.platform.status ∈ TcbLevel.validStatuses)
    (hcomponents : ∀ c ∈ s.componentStatuses, c = .upToDate ∨ c = .outOfDate ∨ c = .revoked) :
    finalizeTcbEvaluation s.platform.selected {
        statuses := s.componentStatuses
        tcbDates := s.tdxModule.toList.map TdxModuleTcbLevel.tcbDate ++
          s.qe.toList.map IdentityTcbLevel.tcbDate
        qeAdvisoryIds := s.qe.toList.flatMap IdentityTcbLevel.advisoryIds }
      (s.tdxModule.toList.flatMap TdxModuleTcbLevel.advisoryIDs) = s.evaluation := by
  rw [finalizeTcbEvaluation, Selection.evaluation]
  congr 1
  exact convergeTcbStatuses_eq s hplatform hcomponents

theorem satisfies_sgx_iff (hsgx : svns.teeTcbSvns = none) {l : TcbLevel} :
    svns.Satisfies l ↔ Covered l.cpuSvn svns.tcbComponents.toList ∧ l.pceSvn ≤ svns.pceSvn := by
  rw [PlatformSvns.Satisfies, hsgx]
  simp

theorem satisfies_tdx_iff {tee : ByteArr 16} (htdx : svns.teeTcbSvns = some tee) {l : TcbLevel} :
    svns.Satisfies l ↔
      (Covered l.cpuSvn svns.tcbComponents.toList ∧ l.pceSvn ≤ svns.pceSvn) ∧
        Covered (l.tdxSvns.drop (firstTdxComponent tee))
          (tee.toList.drop (firstTdxComponent tee)) := by
  rw [PlatformSvns.Satisfies, htdx]
  simp [and_assoc]

/-- The condition of the platform loop, on the levels of a TCB Info. -/
theorem sgxCondition_eq (svns : PlatformSvns) (hinfo : info.WellFormed)
    (hsgx : svns.teeTcbSvns = none) :
    ∀ l ∈ info.tcbLevels, sgxLevelSatisfied svns.tcbComponents.toList svns.pceSvn l =
      .ok (decide (svns.Satisfies l)) := by
  intro l hl
  rw [sgxLevelSatisfied_eq (hinfo.levels_wellFormed l hl)]
  congr 1
  rw [decide_eq_decide, satisfies_sgx_iff hsgx]

theorem tdxCondition_eq (svns : PlatformSvns) (hinfo : info.WellFormed) {tee : ByteArr 16}
    (htdx : svns.teeTcbSvns = some tee) (hversion : info.version = versionV3)
    (hid : info.id = tdxId) :
    ∀ l ∈ info.tcbLevels, tdxLevelSatisfied svns.tcbComponents.toList svns.pceSvn tee.toList
      (firstTdxComponent tee) l = .ok (decide (svns.Satisfies l)) := by
  intro l hl
  have hl := hinfo.levels_wellFormed l hl
  rw [hversion, hid] at hl
  rw [tdxLevelSatisfied_eq hl]
  congr 1
  rw [decide_eq_decide, satisfies_tdx_iff htdx]

variable (hinfo : info.WellFormed) (hidentity : ∀ i ∈ identity, i.WellFormed)
include hinfo hidentity

/-- `sgxEvaluateTCB` selects and merges. -/
theorem sgxEvaluateTCB_eq (hsgx : svns.teeTcbSvns = none) : Evaluates info identity svns out
    (sgxEvaluateTCB svns.tcbComponents.toList svns.pceSvn svns.qeSvn info identity out) := by
  have hcond := sgxCondition_eq svns hinfo hsgx
  have hvalid : ∀ l ∈ info.tcbLevels, l.status ∈ TcbLevel.validStatuses :=
    fun l hl => (hinfo.levels_wellFormed l hl).status_mem
  refine .of hinfo hidentity (fun s hs => ?_) (fun hn => ?_)
  · obtain ⟨hplatform, hne⟩ := selectPlatformLevel_of_first hcond hinfo.levels_sorted hvalid hs.1
    have hmodule : s.tdxModule = none := by
      have hm := hs.2.1
      rw [SelectsModule, hsgx] at hm
      exact hm
    have hstatuses := hs.componentStatuses hidentity fun l hl => by
      rw [hmodule] at hl
      cases hl
    rw [← finalizeTcbEvaluation_eq (hvalid _ hs.1.1) hstatuses, sgxEvaluateTCB, hplatform]
    show catchNotSupported out (if s.platform.selected.status = .notSupported then _ else _) = _
    rw [if_neg hne, applyQeIdentity_of_selects hidentity _ rfl hs.2.2]
    simp only [Selection.componentStatuses, hmodule]
    rfl
  · rw [sgxEvaluateTCB]
    by_cases hplatform : ∃ l ∈ info.tcbLevels, svns.Satisfies l
    · have hqe : ¬ ∀ i ∈ identity, ∃ l ∈ i.identityTcbLevels, l.isvSvn ≤ svns.qeSvn.toUInt32 :=
        fun h => hn ⟨hplatform, by simp [hsgx], h⟩
      obtain ⟨l, hl⟩ := exists_isFirst hinfo.levels_sorted hplatform
      obtain ⟨hselect, hne⟩ :=
        selectPlatformLevel_of_first hcond hinfo.levels_sorted hvalid hl
      rw [hselect]
      show catchNotSupported out (if l.selected.status = .notSupported then _ else _) = _
      obtain ⟨e, he⟩ := applyQeIdentity_of_none hidentity
        { statuses := [], tcbDates := [], qeAdvisoryIds := [] } hqe
      rw [if_neg hne, he]
      rfl
    · rw [selectPlatformLevel_of_none hcond hplatform]
      rfl

section Tdx

variable {tee : ByteArr 16} (htdx : svns.teeTcbSvns = some tee) (hversion : info.version = versionV3)
  (hid : info.id = tdxId)
include htdx hversion hid

omit hidentity in
/-- The evaluation after the platform search has found a level. -/
theorem tdxEvaluateTCB_of_platform {l : TcbLevel}
    (hl : IsFirst TcbLevel.key svns.Satisfies info.tcbLevels l) :
    tdxEvaluateTCB svns.tcbComponents.toList svns.pceSvn svns.qeSvn tee.toList info identity out =
      catchNotSupported out (do
        match ← evaluateTdxModule tee.toList info with
        | none => pure (.tcbNotSupported, out)
        | some tdxModule => do
          let components ← applyQeIdentity identity svns.qeSvn
            { statuses := tdxModule.map SelectedLevel.status
              tcbDates := tdxModule.map SelectedLevel.tcbDate
              qeAdvisoryIds := [] }
          pure (.ok, finalizeTcbEvaluation l.selected components
            (tdxModule.flatMap SelectedLevel.advisoryIds))) := by
  have hvalid : ∀ l ∈ info.tcbLevels, l.status ∈ TcbLevel.validStatuses :=
    fun l hl => (hinfo.levels_wellFormed l hl).status_mem
  obtain ⟨hselect, hne⟩ := selectPlatformLevel_of_first
    (tdxCondition_eq svns hinfo htdx hversion hid) hinfo.levels_sorted hvalid hl
  rw [tdxEvaluateTCB, vectorAt_major]
  show catchNotSupported out (selectPlatformLevel (tdxLevelSatisfied svns.tcbComponents.toList
    svns.pceSvn tee.toList (firstTdxComponent tee)) info.tcbLevels >>= _) = _
  rw [hselect, ok_bind]
  exact congrArg (catchNotSupported out) (if_neg hne)

/-- The evaluation when all searches select and the status of the module level is known. -/
theorem tdxEvaluateTCB_selected {s : Selection} (hs : Selects info identity svns s)
    (hstatus : ∀ l ∈ s.tdxModule, l.tcbStatus ∈ moduleStatuses) :
    tdxEvaluateTCB svns.tcbComponents.toList svns.pceSvn svns.qeSvn tee.toList info identity out =
      (.ok, s.evaluation) := by
  have hvalid := (hinfo.levels_wellFormed _ hs.1.1).status_mem
  rw [tdxEvaluateTCB_of_platform hinfo htdx hversion hid hs.1,
    ← finalizeTcbEvaluation_eq hvalid (hs.componentStatuses hidentity hstatus),
    evaluateTdxModule_of_selects hversion hid hinfo.identities_wellFormed htdx hs.2.1 hstatus]
  show catchNotSupported out (applyQeIdentity identity svns.qeSvn _ >>= _) = _
  rw [applyQeIdentity_of_selects hidentity _ rfl hs.2.2]
  simp only [List.map_map, List.flatMap_map]
  rfl

omit hidentity in
/-- The evaluation when the status of the selected module level is not known. -/
theorem tdxEvaluateTCB_unknown (hplatform : ∃ l ∈ info.tcbLevels, svns.Satisfies l)
    {level : Option TdxModuleTcbLevel} (hmodule : SelectsModule info svns level)
    (hstatus : ∃ l ∈ level, l.tcbStatus ∉ moduleStatuses) :
    tdxEvaluateTCB svns.tcbComponents.toList svns.pceSvn svns.qeSvn tee.toList info identity out =
      (.tcbNotSupported, out) := by
  obtain ⟨l, hl⟩ := exists_isFirst hinfo.levels_sorted hplatform
  rw [tdxEvaluateTCB_of_platform hinfo htdx hversion hid hl,
    evaluateTdxModule_of_unknown hversion hid hinfo.identities_wellFormed htdx hmodule hstatus]
  rfl

/-- The evaluation when a search has nothing to select. -/
theorem tdxEvaluateTCB_unselectable (hn : ¬ Selectable info identity svns) :
    tdxEvaluateTCB svns.tcbComponents.toList svns.pceSvn svns.qeSvn tee.toList info identity out =
      (.tcbNotSupported, out) := by
  by_cases hplatform : ∃ l ∈ info.tcbLevels, svns.Satisfies l
  · by_cases hmodule : majorSvn tee ≠ 0 → ∃ identity,
        findTdxModuleIdentity info.tdxModuleIdentities (majorSvn tee) = some identity ∧
          ∃ l ∈ identity.tcbLevels, l.tcb.isvsvn ≤ (minorSvn tee).toUInt16
    · have hmodules : ∀ t ∈ svns.teeTcbSvns, majorSvn t ≠ 0 → ∃ identity,
          findTdxModuleIdentity info.tdxModuleIdentities (majorSvn t) = some identity ∧
            ∃ l ∈ identity.tcbLevels, l.tcb.isvsvn ≤ (minorSvn t).toUInt16 := fun t ht => by
        rw [htdx] at ht
        cases ht
        exact hmodule
      have hqe : ¬ ∀ i ∈ identity, ∃ l ∈ i.identityTcbLevels, l.isvSvn ≤ svns.qeSvn.toUInt32 :=
        fun h => hn ⟨hplatform, hmodules, h⟩
      obtain ⟨level, hlevel⟩ := exists_selectsModule hinfo hmodules
      by_cases hstatus : ∀ l ∈ level, l.tcbStatus ∈ moduleStatuses
      · obtain ⟨l, hl⟩ := exists_isFirst hinfo.levels_sorted hplatform
        rw [tdxEvaluateTCB_of_platform hinfo htdx hversion hid hl,
          evaluateTdxModule_of_selects hversion hid hinfo.identities_wellFormed htdx hlevel hstatus]
        obtain ⟨e, he⟩ := applyQeIdentity_of_none hidentity
          { statuses := (level.toList.map TdxModuleTcbLevel.selected).map SelectedLevel.status
            tcbDates := (level.toList.map TdxModuleTcbLevel.selected).map SelectedLevel.tcbDate
            qeAdvisoryIds := [] } hqe
        rw [ok_bind]
        simp only [he]
        rfl
      · push Not at hstatus
        exact tdxEvaluateTCB_unknown hinfo htdx hversion hid hplatform hlevel hstatus
    · obtain ⟨l, hl⟩ := exists_isFirst hinfo.levels_sorted hplatform
      rw [tdxEvaluateTCB_of_platform hinfo htdx hversion hid hl,
        evaluateTdxModule_of_none hversion hid hmodule]
      rfl
  · rw [tdxEvaluateTCB, vectorAt_major]
    show catchNotSupported out (selectPlatformLevel (tdxLevelSatisfied svns.tcbComponents.toList
      svns.pceSvn tee.toList (firstTdxComponent tee)) info.tcbLevels >>= _) = _
    rw [selectPlatformLevel_of_none (tdxCondition_eq svns hinfo htdx hversion hid) hplatform]
    rfl

/-- `tdxEvaluateTCB` selects and merges. -/
theorem tdxEvaluateTCB_eq (hstatus : info.ModuleStatusesKnown) : Evaluates info identity svns out
    (tdxEvaluateTCB svns.tcbComponents.toList svns.pceSvn svns.qeSvn tee.toList info identity
      out) := by
  refine .of hinfo hidentity (fun s hs => ?_)
    (tdxEvaluateTCB_unselectable hinfo hidentity htdx hversion hid)
  refine tdxEvaluateTCB_selected hinfo hidentity htdx hversion hid hs fun l hl => ?_
  have hmodule := hs.2.1
  rw [SelectsModule, htdx] at hmodule
  by_cases hmajor : majorSvn tee = 0
  · simp only [hmajor, if_true] at hmodule
    rw [hmodule] at hl
    cases hl
  · simp only [hmajor, if_false] at hmodule
    obtain ⟨i, l', hfind, hl', hmem, _⟩ := hmodule
    rw [hl'] at hl
    cases hl
    exact hstatus i (List.mem_of_find?_eq_some hfind) _ hmem

end Tdx

end Evaluation

/-! ## A sample -/

mutual
/-- The compact text of a value without doubles whose strings need no escapes. -/
def Json.render : Json → Bytes
  | .null => str "null"
  | .bool b => if b then str "true" else str "false"
  | .int n => str (toString n)
  | .double _ => str "0.0"
  | .string s => [34] ++ s ++ [34]
  | .array elems => [91] ++ Json.renderElems elems ++ [93]
  | .object members => [123] ++ Json.renderMembers members ++ [125]

def Json.renderElems : List Json → Bytes
  | [] => []
  | [v] => v.render
  | v :: vs => v.render ++ [44] ++ Json.renderElems vs

def Json.renderMembers : List (Bytes × Json) → Bytes
  | [] => []
  | [(name, v)] => [34] ++ name ++ [34, 58] ++ v.render
  | (name, v) :: ms => [34] ++ name ++ [34, 58] ++ v.render ++ [44] ++ Json.renderMembers ms
end

/-- The date of the samples and its epoch second. -/
def sampleDate : Bytes := str "2025-01-01T00:00:00Z"
def sampleEpoch : ℤ := 1735689600

/-- An environment that reads the texts of some documents. -/
def sampleEnv (documents : List Json) : JsonEnv :=
  { read := fun text => documents.find? fun document => document.render = text
    write := fun _ v => v.render
    isValidTimeString := fun s => s = sampleDate
    getEpochTimeFromString := fun s => if s = sampleDate then sampleEpoch else 0 }

theorem sampleEnv_parse {documents : List Json} {d : Json} (hne : d.render.isEmpty = false)
    (hcStr : cStr d.render = d.render) (hobject : d.isObject = true)
    (hfind : documents.find? (fun e => e.render = d.render) = some d) :
    (sampleEnv documents).parse d.render = some d := by
  have hread : (sampleEnv documents).read d.render = some d := hfind
  unfold JsonEnv.parse
  rw [hne, hcStr, hread, Option.filter_some, if_pos hobject]
  rfl

/-- The hexadecimal string of some zero bytes. -/
def sampleZeros (n : ℕ) : Json := .string (List.replicate (2 * n) 48)

/-- A TDX platform level with one SVN throughout. -/
def sampleLevel (svn : ℕ) (status : Bytes) (advisoryIDs : List Bytes) : Json :=
  let components : Json := .array (List.replicate 16 (.object [(str "svn", .int svn)]))
  .object [
    (str "tcb", .object [(str "pcesvn", .int svn), (str "sgxtcbcomponents", components),
      (str "tdxtcbcomponents", components)]),
    (str "tcbDate", .string sampleDate), (str "tcbStatus", .string status),
    (str "advisoryIDs", .array (advisoryIDs.map .string))]

/-- A level of a TDX module or of an identity. -/
def sampleIsvLevel (isvsvn : ℕ) (status : Bytes) (advisoryIDs : List Bytes) : Json :=
  .object [
    (str "tcb", .object [(str "isvsvn", .int isvsvn)]),
    (str "tcbDate", .string sampleDate), (str "tcbStatus", .string status),
    (str "advisoryIDs", .array (advisoryIDs.map .string))]

/-- A TDX TCB Info with one module identity. -/
def sampleTcbInfo (tcbLevels moduleLevels : List Json) : Json :=
  .object [
    (str "tcbInfo", .object [
      (str "version", .int 3), (str "id", .string tdxId),
      (str "issueDate", .string sampleDate), (str "nextUpdate", .string sampleDate),
      (str "fmspc", sampleZeros 6), (str "pceId", sampleZeros 2), (str "tcbType", .int 0),
      (str "tcbEvaluationDataNumber", .int 12),
      (str "tdxModule", .object [(str "mrsigner", sampleZeros 48),
        (str "attributes", sampleZeros 8), (str "attributesMask", sampleZeros 8)]),
      (str "tdxModuleIdentities", .array [.object [(str "id", .string (str "TDX_01")),
        (str "mrsigner", sampleZeros 48), (str "attributes", sampleZeros 8),
        (str "attributesMask", sampleZeros 8), (str "tcbLevels", .array moduleLevels)]]),
      (str "tcbLevels", .array tcbLevels)]),
    (str "signature", sampleZeros 64)]

/-- A QE identity. -/
def sampleIdentity (id : Bytes) (tcbLevels : List Json) : Json :=
  .object [
    (str "enclaveIdentity", .object [
      (str "id", .string id), (str "version", .int 2),
      (str "issueDate", .string sampleDate), (str "nextUpdate", .string sampleDate),
      (str "tcbEvaluationDataNumber", .int 12),
      (str "miscselect", sampleZeros 4), (str "miscselectMask", sampleZeros 4),
      (str "attributes", sampleZeros 16), (str "attributesMask", sampleZeros 16),
      (str "mrsigner", sampleZeros 32), (str "isvprodid", .int 0),
      (str "tcbLevels", .array tcbLevels)]),
    (str "signature", sampleZeros 64)]

/-- A platform that is out of date, with a module and a QE that are not. -/
def sampleTcbInfoDocument : Json := sampleTcbInfo
  [sampleLevel 0 (str "OutOfDate") [str "INTEL-SA-1"], sampleLevel 1 (str "UpToDate") []]
  [sampleIsvLevel 2 (str "UpToDate") []]

def sampleIdentityDocument : Json := sampleIdentity (str "TD_QE")
  [sampleIsvLevel 0 (str "OutOfDate") [], sampleIsvLevel 4 (str "UpToDate") []]

/-- An environment that reads both. -/
def sampleDocuments : JsonEnv := sampleEnv [sampleTcbInfoDocument, sampleIdentityDocument]

theorem sampleDocuments_tcbInfo :
    sampleDocuments.parse sampleTcbInfoDocument.render = some sampleTcbInfoDocument := by
  refine sampleEnv_parse (by decide +kernel) (by decide +kernel) rfl ?_
  rw [List.find?_cons_of_pos (by simp)]

/-- What is parsed from them. -/
def sampleParsedLevel (svn : UInt8) (status : Bytes) (advisoryIDs : List Bytes) : TcbLevel :=
  let components := List.replicate 16 (TcbComponent.ofSvn svn)
  { id := tdxId, version := versionV3, cpuSvn := List.replicate 16 svn
    cpuSvnComponents := components, sgxTcbComponents := components
    tdxTcbComponents := components, pceSvn := svn.toUInt32, status
    tcbDate := sampleEpoch, advisoryIDs }

def sampleInfo : TcbInfo :=
  { id := tdxId, version := versionV3, issueDate := sampleEpoch, nextUpdate := sampleEpoch
    fmspc := List.replicate 6 0, pceId := List.replicate 2 0
    tcbLevels := [sampleParsedLevel 1 (str "UpToDate") [],
      sampleParsedLevel 0 (str "OutOfDate") [str "INTEL-SA-1"]]
    signature := List.replicate 64 0
    infoBody := ((sampleTcbInfoDocument.member? (str "tcbInfo")).map Json.render).getD []
    tcbType := 0, tcbEvaluationDataNumber := 12
    tdxModule := { mrsigner := List.replicate 48 0, attributes := List.replicate 8 0
                   attributesMask := List.replicate 8 0 }
    tdxModuleIdentities := [{
      id := str "TDX_01", mrsigner := List.replicate 48 0, attributes := List.replicate 8 0
      attributesMask := List.replicate 8 0
      tcbLevels := [{ tcb := { isvsvn := 2 }, tcbDate := sampleEpoch
                      tcbStatus := str "UpToDate", advisoryIDs := [] }] }] }

def sampleQeIdentity : EnclaveIdentity :=
  { id := .tdQe, version := 2, issueDate := sampleEpoch, nextUpdate := sampleEpoch
    tcbEvaluationDataNumber := 12, attributes := List.replicate 16 0
    attributesMask := List.replicate 16 0, miscselect := List.replicate 4 0
    miscselectMask := List.replicate 4 0, mrSigner := List.replicate 32 0, isvProdId := 0
    identityTcbLevels := [
      { isvSvn := 4, tcbDate := sampleEpoch, tcbStatus := .upToDate, advisoryIds := [] },
      { isvSvn := 0, tcbDate := sampleEpoch, tcbStatus := .outOfDate, advisoryIds := [] }]
    body := ((sampleIdentityDocument.member? (str "enclaveIdentity")).map Json.render).getD []
    signature := List.replicate 64 0 }

theorem sampleInfo_parse :
    TcbInfo.parse sampleDocuments sampleTcbInfoDocument.render = .ok sampleInfo := by
  decide +kernel

theorem sampleQeIdentity_parse :
    EnclaveIdentity.parse sampleDocuments sampleIdentityDocument.render =
      .ok sampleQeIdentity := by
  decide +kernel

/-- The TDX module SVNs 1 and 3, and zeros. -/
def sampleTeeTcbSvns : ByteArr 16 := ⟨3 :: 1 :: List.replicate 14 0, rfl⟩

/-! ## Parsed collateral -/

/-- On parsed collateral both evaluations select, merge and leave their outputs
    alone as the abstract evaluation says. -/
theorem evaluateTCB_selects {env : JsonEnv} {text : Bytes} {info : TcbInfo}
    (hinfo : TcbInfo.parse env text = .ok info) {identity : Option EnclaveIdentity}
    (hidentity : ∀ i ∈ identity, ∃ text, EnclaveIdentity.parse env text = .ok i)
    (tcbComponents : ByteArr 16) (pceSvn : UInt32) (qeSvn : UInt16) (out : TcbEvaluation) :
    Evaluates info identity { tcbComponents, pceSvn, qeSvn, teeTcbSvns := none } out
        (sgxEvaluateTCB tcbComponents.toList pceSvn qeSvn info identity out) ∧
      ∀ teeTcbSvns : ByteArr 16, info.version = versionV3 → info.id = tdxId →
        info.ModuleStatusesKnown →
        Evaluates info identity { tcbComponents, pceSvn, qeSvn, teeTcbSvns := some teeTcbSvns } out
          (tdxEvaluateTCB tcbComponents.toList pceSvn qeSvn teeTcbSvns.toList info identity
            out) := by
  have hinfo := TcbInfo.parse_wellFormed hinfo
  have hidentity : ∀ i ∈ identity, i.WellFormed := fun i hi => by
    obtain ⟨_, hparse⟩ := hidentity i hi
    exact EnclaveIdentity.parse_wellFormed hparse
  refine ⟨sgxEvaluateTCB_eq hinfo hidentity rfl, fun tee hversion hid hstatus => ?_⟩
  exact tdxEvaluateTCB_eq hinfo hidentity rfl hversion hid hstatus

theorem evaluateTCB_selects_sample :
    let out : TcbEvaluation := { tcbStatus := .ok, tcbDate := 0, advisoryIds := [] }
    let cpuSvn : ByteArr 16 := .replicate 16 0
    Evaluates sampleInfo (some sampleQeIdentity)
        { tcbComponents := cpuSvn, pceSvn := 0, qeSvn := 5, teeTcbSvns := some sampleTeeTcbSvns }
        out
        (tdxEvaluateTCB cpuSvn.toList 0 5 sampleTeeTcbSvns.toList sampleInfo
          (some sampleQeIdentity) out) ∧
      tdxEvaluateTCB cpuSvn.toList 0 5 sampleTeeTcbSvns.toList sampleInfo
          (some sampleQeIdentity) out =
        (.ok, { tcbStatus := .tcbOutOfDate, tcbDate := sampleEpoch,
                advisoryIds := [str "INTEL-SA-1"] }) := by
  intro out cpuSvn
  have hidentity : ∀ i ∈ some sampleQeIdentity,
      ∃ text, EnclaveIdentity.parse sampleDocuments text = .ok i := by
    intro i hi
    rw [← Option.mem_some_iff.mp hi]
    exact ⟨_, sampleQeIdentity_parse⟩
  refine ⟨?_, by decide +kernel⟩
  exact (evaluateTCB_selects sampleInfo_parse hidentity cpuSvn 0 5 out).2 sampleTeeTcbSvns
    (by decide +kernel) (by decide +kernel) (by unfold TcbInfo.ModuleStatusesKnown; decide +kernel)

end DcapQvl
