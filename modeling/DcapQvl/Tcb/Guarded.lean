import DcapQvl.Tcb.Check

/-!
# What the handlers of the evaluations catch

`sgxEvaluateTCB` and `tdxEvaluateTCB` run in a `try` block whose handler turns every
exception into `STATUS_TCB_NOT_SUPPORTED`. Here the blocks stand alone, with the vector
of dates that `std::min_element` is given: of an empty vector it is the end, which must
not be read.

Results:
* `sgxEvaluateTCB_eq_catch`, `tdxEvaluateTCB_eq_catch`: an evaluation is its block in
  the handler.
* `sgxGuarded_eq_error`, `tdxGuarded_eq_error`: what a block throws, on parsed collateral.
-/

namespace DcapQvl

open Lib

/-! ## The blocks -/

/-- `*std::min_element(dates.begin(), dates.end())`. -/
def minElementOf : List ℤ → Except Exn ℤ
  | [] => .error .undefined
  | date :: dates => .ok (minElement date dates)

/-- `finalizeTcbEvaluation`, given all dates in one vector. -/
def finalizeWithDates (platform : SelectedLevel) (components : ComponentLevels)
    (extraAdvisoryIds : List Bytes) : Except Exn TcbEvaluation := do
  let tcbStatus := convergeTcbStatuses platform.status components.statuses
  let tcbDate ← minElementOf components.tcbDates
  pure {
    tcbStatus, tcbDate
    advisoryIds := platform.advisoryIds ++ components.qeAdvisoryIds ++ extraAdvisoryIds }

/-- The `try` block of `sgxEvaluateTCB`. -/
def sgxGuarded (tcbComponents : Bytes) (pceSvn : UInt32) (qeSvn : UInt16) (tcbInfo : TcbInfo)
    (qeIdentity : Option EnclaveIdentity) (out : TcbEvaluation) :
    Except Exn (Status × TcbEvaluation) := do
  let platform ← selectPlatformLevel (sgxLevelSatisfied tcbComponents pceSvn) tcbInfo.tcbLevels
  if platform.status = .notSupported then pure (.tcbNotSupported, out)
  else do
    let components ← applyQeIdentity qeIdentity qeSvn
      { statuses := [], tcbDates := [platform.tcbDate], qeAdvisoryIds := [] }
    let evaluation ← finalizeWithDates platform components []
    pure (.ok, evaluation)

/-- The `try` block of `tdxEvaluateTCB`. -/
def tdxGuarded (tcbComponents : Bytes) (pceSvn : UInt32) (qeSvn : UInt16) (teeTcbSvns : Bytes)
    (tcbInfo : TcbInfo) (qeIdentity : Option EnclaveIdentity) (out : TcbEvaluation) :
    Except Exn (Status × TcbEvaluation) := do
  let major ← vectorAt teeTcbSvns tdxModuleMajorSvnIndex
  let startIndex := if major > 0 then 2 else 0
  let platform ← selectPlatformLevel
    (tdxLevelSatisfied tcbComponents pceSvn teeTcbSvns startIndex) tcbInfo.tcbLevels
  if platform.status = .notSupported then pure (.tcbNotSupported, out)
  else do
    match ← evaluateTdxModule teeTcbSvns tcbInfo with
    | none => pure (.tcbNotSupported, out)
    | some tdxModule => do
      let components ← applyQeIdentity qeIdentity qeSvn
        { statuses := tdxModule.map SelectedLevel.status
          tcbDates := platform.tcbDate :: tdxModule.map SelectedLevel.tcbDate
          qeAdvisoryIds := [] }
      let evaluation ← finalizeWithDates platform components
        (tdxModule.flatMap SelectedLevel.advisoryIds)
      pure (.ok, evaluation)

/-! ## The handlers -/

theorem applyQeIdentity_some (identity : EnclaveIdentity) (qeSvn : UInt16)
    (components : ComponentLevels) :
    applyQeIdentity (some identity) qeSvn components = (do
      let tcbLevel ← identity.getTcbLevel qeSvn.toUInt32
      pure {
        statuses := components.statuses ++ [statusOfQe tcbLevel.tcbStatus]
        tcbDates := components.tcbDates ++ [tcbLevel.tcbDate]
        qeAdvisoryIds := tcbLevel.advisoryIds }) := by
  show (identity.getTcbLevel qeSvn.toUInt32 >>= fun tcbLevel =>
    mapToEvaluationStatusOrThrow tcbLevel.tcbStatus validQeStatuses >>= fun _ => _) = _
  simp only [mapToEvaluationStatusOrThrow_qe, ok_bind]

/-- The QE part only adds to the dates. -/
theorem applyQeIdentity_cons (qeIdentity : Option EnclaveIdentity) (qeSvn : UInt16)
    (statuses : List EvaluationStatus) (date : ℤ) (dates : List ℤ) (ids : List Bytes) :
    applyQeIdentity qeIdentity qeSvn
        { statuses, tcbDates := date :: dates, qeAdvisoryIds := ids } = (do
      let components ← applyQeIdentity qeIdentity qeSvn
        { statuses, tcbDates := dates, qeAdvisoryIds := ids }
      pure { components with tcbDates := date :: components.tcbDates }) := by
  cases qeIdentity with
  | none => rfl
  | some identity =>
    rw [applyQeIdentity_some, applyQeIdentity_some]
    cases identity.getTcbLevel qeSvn.toUInt32 with
    | error e => rfl
    | ok tcbLevel => rfl

/-- The vector of dates begins with the platform's, so that its minimum is there. -/
theorem finalizeWithDates_eq (platform : SelectedLevel) (qeIdentity : Option EnclaveIdentity)
    (qeSvn : UInt16) (statuses : List EvaluationStatus) (dates : List ℤ)
    (extraAdvisoryIds : List Bytes) :
    (do
      let components ← applyQeIdentity qeIdentity qeSvn
        { statuses, tcbDates := platform.tcbDate :: dates, qeAdvisoryIds := [] }
      let evaluation ← finalizeWithDates platform components extraAdvisoryIds
      pure (Status.ok, evaluation)) = (do
      let components ← applyQeIdentity qeIdentity qeSvn
        { statuses, tcbDates := dates, qeAdvisoryIds := [] }
      pure (Status.ok, finalizeTcbEvaluation platform components extraAdvisoryIds)) := by
  rw [applyQeIdentity_cons]
  cases applyQeIdentity qeIdentity qeSvn
      { statuses, tcbDates := dates, qeAdvisoryIds := [] } with
  | error e => rfl
  | ok components => rfl

section Handlers

variable (tcbComponents teeTcbSvns : Bytes) (pceSvn : UInt32) (qeSvn : UInt16)
  (tcbInfo : TcbInfo) (qeIdentity : Option EnclaveIdentity) (out : TcbEvaluation)

theorem sgxEvaluateTCB_eq_catch :
    sgxEvaluateTCB tcbComponents pceSvn qeSvn tcbInfo qeIdentity out =
      catchNotSupported out
        (sgxGuarded tcbComponents pceSvn qeSvn tcbInfo qeIdentity out) := by
  unfold sgxEvaluateTCB sgxGuarded
  simp only [finalizeWithDates_eq]

theorem tdxEvaluateTCB_eq_catch :
    tdxEvaluateTCB tcbComponents pceSvn qeSvn teeTcbSvns tcbInfo qeIdentity out =
      catchNotSupported out
        (tdxGuarded tcbComponents pceSvn qeSvn teeTcbSvns tcbInfo qeIdentity out) := by
  unfold tdxGuarded
  simp only [finalizeWithDates_eq]
  exact tdxEvaluateTCB.eq_def _ _ _ _ _ _ _

end Handlers

/-! ## What is thrown -/

/-- The exception of `getTcbLevel` for an SVN below all levels. -/
def noQeLevel : Exn := .statusNotSupported (str "Non-existent tcb status exception")

/-- The QE identity has no level for the SVN of the QE. -/
def QeLevelMissing (identity : Option EnclaveIdentity) (svns : PlatformSvns) : Prop :=
  ∃ i ∈ identity, ∀ l ∈ i.identityTcbLevels, ¬ l.isvSvn ≤ svns.qeSvn.toUInt32

/-- What a handler catches: that the QE identity has no level, once the other searches
    have found theirs, or that the level of the TDX module has an unknown status. -/
inductive Caught (info : TcbInfo) (identity : Option EnclaveIdentity) (svns : PlatformSvns) :
    Exn → Prop
  | missingQeLevel (hplatform : ∃ l ∈ info.tcbLevels, svns.Satisfies l)
      (hmodule : ∃ level, SelectsModule info svns level ∧
        ∀ l ∈ level, l.tcbStatus ∈ moduleStatuses)
      (hqe : QeLevelMissing identity svns) : Caught info identity svns noQeLevel
  | unrecognizedStatus (h : SelectsUnknownStatus info svns) :
      Caught info identity svns (.runtime .tcbUnrecognizedStatus)

theorem applyQeIdentity_eq_error {identity : Option EnclaveIdentity} {svns : PlatformSvns}
    {components : ComponentLevels} {e : Exn} :
    applyQeIdentity identity svns.qeSvn components = .error e ↔
      QeLevelMissing identity svns ∧ e = noQeLevel := by
  cases identity with
  | none =>
    constructor
    · intro h
      cases h
    · rintro ⟨⟨i, hi, _⟩, _⟩
      cases hi
  | some i =>
    rw [applyQeIdentity_some]
    unfold EnclaveIdentity.getTcbLevel
    cases hfind : i.identityTcbLevels.find? fun l => l.isvSvn ≤ svns.qeSvn.toUInt32 with
    | none =>
      have hmissing : QeLevelMissing (some i) svns := by
        refine ⟨i, rfl, fun l hl => ?_⟩
        simpa using List.find?_eq_none.mp hfind l hl
      constructor
      · intro h
        cases h
        exact ⟨hmissing, rfl⟩
      · rintro ⟨_, rfl⟩
        rfl
    | some l =>
      have hmem := List.mem_of_find?_eq_some hfind
      have hle : l.isvSvn ≤ svns.qeSvn.toUInt32 := by simpa using List.find?_some hfind
      constructor
      · intro h
        cases h
      · rintro ⟨⟨i', hi', hnone⟩, _⟩
        cases hi'
        exact absurd hle (hnone l hmem)

section Thrown

variable {info : TcbInfo} {identity : Option EnclaveIdentity} {svns : PlatformSvns}
  {out : TcbEvaluation} {e : Exn} (hinfo : info.WellFormed)
include hinfo

/-- The `try` block of `sgxEvaluateTCB` throws only when the QE identity has no level. -/
theorem sgxGuarded_eq_error (hsgx : svns.teeTcbSvns = none) :
    sgxGuarded svns.tcbComponents.toList svns.pceSvn svns.qeSvn info identity out = .error e ↔
      Caught info identity svns e := by
  have hcond := sgxCondition_eq svns hinfo hsgx
  have hvalid : ∀ l ∈ info.tcbLevels, l.status ∈ TcbLevel.validStatuses :=
    fun l hl => (hinfo.levels_wellFormed l hl).status_mem
  have hmodule : ∀ level, SelectsModule info svns level ↔ level = none := by
    intro level
    rw [SelectsModule, hsgx]
  have hknown : ¬ SelectsUnknownStatus info svns := by
    rintro ⟨_, level, hlevel, l, hl, _⟩
    rw [(hmodule level).mp hlevel] at hl
    cases hl
  unfold sgxGuarded
  simp only [finalizeWithDates_eq]
  by_cases hplatform : ∃ l ∈ info.tcbLevels, svns.Satisfies l
  · obtain ⟨l, hl⟩ := exists_isFirst hinfo.levels_sorted hplatform
    obtain ⟨hselect, hne⟩ := selectPlatformLevel_of_first hcond hinfo.levels_sorted hvalid hl
    rw [hselect, ok_bind, if_neg hne, bind_eq_error]
    constructor
    · rintro (h | ⟨_, _, h⟩)
      · obtain ⟨hqe, rfl⟩ := applyQeIdentity_eq_error.mp h
        exact .missingQeLevel hplatform
          ⟨none, (hmodule none).mpr rfl, by simp⟩ hqe
      · cases h
    · rintro (⟨_, _, hqe⟩ | h)
      · exact Or.inl (applyQeIdentity_eq_error.mpr ⟨hqe, rfl⟩)
      · exact absurd h hknown
  · rw [selectPlatformLevel_of_none hcond hplatform]
    constructor
    · intro h
      cases h
    · rintro (⟨h, _, _⟩ | h)
      · exact absurd h hplatform
      · exact absurd h hknown

variable {tee : ByteArr 16} (htdx : svns.teeTcbSvns = some tee) (hversion : info.version = versionV3)
  (hid : info.id = tdxId)
include htdx hversion hid

/-- The module part finds nothing, or a level whose status is known or not. -/
theorem evaluateTdxModule_cases :
    evaluateTdxModule tee.toList info = .ok none ∨
      ∃ level, SelectsModule info svns level ∧
        ((∀ l ∈ level, l.tcbStatus ∈ moduleStatuses) ∧ evaluateTdxModule tee.toList info =
            .ok (some (level.toList.map TdxModuleTcbLevel.selected)) ∨
          (∃ l ∈ level, l.tcbStatus ∉ moduleStatuses) ∧ evaluateTdxModule tee.toList info =
            .error (.runtime .tcbUnrecognizedStatus)) := by
  by_cases hmodule : majorSvn tee ≠ 0 → ∃ identity,
      findTdxModuleIdentity info.tdxModuleIdentities (majorSvn tee) = some identity ∧
        ∃ l ∈ identity.tcbLevels, l.tcb.isvsvn ≤ (minorSvn tee).toUInt16
  · obtain ⟨level, hlevel⟩ := @exists_selectsModule info hinfo svns fun t ht => by
      rw [htdx] at ht
      cases ht
      exact hmodule
    refine Or.inr ⟨level, hlevel, ?_⟩
    by_cases hstatus : ∀ l ∈ level, l.tcbStatus ∈ moduleStatuses
    · exact Or.inl ⟨hstatus, evaluateTdxModule_of_selects hversion hid
        hinfo.identities_wellFormed htdx hlevel hstatus⟩
    · push Not at hstatus
      exact Or.inr ⟨hstatus, evaluateTdxModule_of_unknown hversion hid
        hinfo.identities_wellFormed htdx hlevel hstatus⟩
  · exact Or.inl (evaluateTdxModule_of_none hversion hid hmodule)

/-- The `try` block of `tdxEvaluateTCB` throws only when the QE identity has no level or
    the level of the module has an unknown status. -/
theorem tdxGuarded_eq_error :
    tdxGuarded svns.tcbComponents.toList svns.pceSvn svns.qeSvn tee.toList info identity out =
      .error e ↔ Caught info identity svns e := by
  have hcond := tdxCondition_eq svns hinfo htdx hversion hid
  have hvalid : ∀ l ∈ info.tcbLevels, l.status ∈ TcbLevel.validStatuses :=
    fun l hl => (hinfo.levels_wellFormed l hl).status_mem
  unfold tdxGuarded
  simp only [finalizeWithDates_eq]
  rw [vectorAt_major, ok_bind]
  show (selectPlatformLevel (tdxLevelSatisfied svns.tcbComponents.toList svns.pceSvn tee.toList
    (firstTdxComponent tee)) info.tcbLevels >>= _) = _ ↔ _
  by_cases hplatform : ∃ l ∈ info.tcbLevels, svns.Satisfies l
  · obtain ⟨l, hl⟩ := exists_isFirst hinfo.levels_sorted hplatform
    obtain ⟨hselect, hne⟩ := selectPlatformLevel_of_first hcond hinfo.levels_sorted hvalid hl
    rw [hselect, ok_bind, if_neg hne]
    constructor
    · intro h
      rcases evaluateTdxModule_cases hinfo htdx hversion hid with
        hmodule | ⟨level, hlevel, ⟨hstatus, hmodule⟩ | ⟨hstatus, hmodule⟩⟩
      · rw [hmodule] at h
        cases h
      · rw [hmodule, ok_bind] at h
        rcases bind_eq_error.mp h with h | ⟨_, _, h⟩
        · obtain ⟨hqe, rfl⟩ := applyQeIdentity_eq_error.mp h
          exact .missingQeLevel hplatform ⟨level, hlevel, hstatus⟩ hqe
        · cases h
      · rw [hmodule] at h
        cases h
        exact .unrecognizedStatus ⟨hplatform, level, hlevel, hstatus⟩
    · rintro (⟨_, ⟨level, hlevel, hstatus⟩, hqe⟩ | ⟨_, level, hlevel, hstatus⟩)
      · rw [evaluateTdxModule_of_selects hversion hid hinfo.identities_wellFormed htdx hlevel
          hstatus, ok_bind]
        exact bind_eq_error.mpr (Or.inl (applyQeIdentity_eq_error.mpr ⟨hqe, rfl⟩))
      · rw [evaluateTdxModule_of_unknown hversion hid hinfo.identities_wellFormed htdx hlevel
          hstatus]
        rfl
  · rw [selectPlatformLevel_of_none hcond hplatform]
    constructor
    · intro h
      cases h
    · rintro (⟨h, _, _⟩ | h)
      · exact absurd h hplatform
      · exact absurd h.1 hplatform

end Thrown

end DcapQvl
