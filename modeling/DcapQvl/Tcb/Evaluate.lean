import DcapQvl.Json.TcbInfo
import DcapQvl.Json.EnclaveIdentity

/-!
# TCB evaluation

Models of `Verifiers/Checks/EvaluateTcb.cpp` and `TdxModuleCheck.cpp`.

The three outputs are passed in and returned. The code writes them in
`finalizeTcbEvaluation` only, after the last step that can throw, so that the
handler returns the outputs it was given.
-/

namespace DcapQvl

open Lib

/-! ## Statuses -/

/-- `enum class EvaluationStatus`. -/
inductive EvaluationStatus
  | notSupported
  | upToDate
  | outOfDate
  | configurationNeeded
  | revoked
  | outOfDateConfigurationNeeded
  | swHardeningNeeded
  | configurationAndSwHardeningNeeded
  | tdRelaunchAdvised
  | tdRelaunchAdvisedConfigurationNeeded
  deriving DecidableEq, Repr

/-- `EVALUATION_STATUS_TO_STATUS_MAP`. -/
def evaluationStatusToStatusMap : List (EvaluationStatus × Status) :=
  [(.notSupported, .tcbNotSupported),
    (.upToDate, .ok),
    (.outOfDate, .tcbOutOfDate),
    (.configurationNeeded, .tcbConfigurationNeeded),
    (.revoked, .tcbRevoked),
    (.outOfDateConfigurationNeeded, .tcbOutOfDateConfigurationNeeded),
    (.swHardeningNeeded, .tcbSwHardeningNeeded),
    (.configurationAndSwHardeningNeeded, .tcbConfigurationAndSwHardeningNeeded),
    (.tdRelaunchAdvised, .tcbTdRelaunchAdvised),
    (.tdRelaunchAdvisedConfigurationNeeded, .tcbTdRelaunchAdvisedConfigurationNeeded)]

/-- `VALID_QE_STATUSES`. -/
def validQeStatuses : List (TcbStatus × EvaluationStatus) :=
  [(.upToDate, .upToDate),
    (.outOfDate, .outOfDate),
    (.configurationNeeded, .configurationNeeded),
    (.revoked, .revoked),
    (.outOfDateConfigurationNeeded, .outOfDateConfigurationNeeded)]

/-- `VALID_TCB_INFO_STATUSES`. -/
def validTcbInfoStatuses : List (Bytes × EvaluationStatus) :=
  [(str "UpToDate", .upToDate),
    (str "OutOfDate", .outOfDate),
    (str "ConfigurationNeeded", .configurationNeeded),
    (str "Revoked", .revoked),
    (str "OutOfDateConfigurationNeeded", .outOfDateConfigurationNeeded),
    (str "SWHardeningNeeded", .swHardeningNeeded),
    (str "ConfigurationAndSWHardeningNeeded", .configurationAndSwHardeningNeeded)]

/-- `VALID_TDX_MODULE_STATUSES`. -/
def validTdxModuleStatuses : List (Bytes × EvaluationStatus) :=
  [(str "UpToDate", .upToDate),
    (str "OutOfDate", .outOfDate),
    (str "Revoked", .revoked)]

/-- `mapToEvaluationStatusOrThrow(key, mapping)`. -/
def mapToEvaluationStatusOrThrow {K : Type} [BEq K] (key : K)
    (mapping : List (K × EvaluationStatus)) : Except Exn EvaluationStatus :=
  match mapping.lookup key with
  | some status => .ok status
  | none => .error (.runtime .tcbUnrecognizedStatus)

/-! ## Levels -/

/-- `TDX_MODULE_MAJOR_SVN_INDEX` and `TDX_MODULE_MINOR_SVN_INDEX`. -/
def tdxModuleMajorSvnIndex : ℕ := 1
def tdxModuleMinorSvnIndex : ℕ := 0

/-- `vector::at(index)`. -/
def vectorAt {T : Type} (xs : List T) (index : ℕ) : Except Exn T :=
  match xs[index]? with
  | some x => .ok x
  | none => .error .outOfRange

/-- The loop of `areSvnsHigherOrEqual` over the given indices. -/
def svnsHigherOrEqualAt (tcbComponents : Bytes) (tcbLevelComponents : List TcbComponent) :
    List ℕ → Except Exn Bool
  | [] => .ok true
  | index :: indices => do
    let componentValue ← vectorAt tcbComponents index
    let otherComponent ← vectorAt tcbLevelComponents index
    if componentValue < otherComponent.svn then pure false
    else svnsHigherOrEqualAt tcbComponents tcbLevelComponents indices

/-- `areSvnsHigherOrEqual(tcbComponents, tcbLevelComponents, start_index)`. -/
def areSvnsHigherOrEqual (tcbComponents : Bytes) (tcbLevelComponents : List TcbComponent)
    (startIndex : ℕ) : Except Exn Bool :=
  svnsHigherOrEqualAt tcbComponents tcbLevelComponents
    (List.range' startIndex (cpusvnByteLen - startIndex))

/-- The first element of a loop whose condition holds, where it breaks. -/
def firstWhere {T : Type} (condition : T → Except Exn Bool) : List T → Except Exn (Option T)
  | [] => .ok none
  | x :: xs => do
    if ← condition x then pure (some x)
    else firstWhere condition xs

/-- What a search for a level yields; the status is `NotSupported` when none is found. -/
structure SelectedLevel where
  tcbDate : ℤ
  status : EvaluationStatus
  advisoryIds : List Bytes
  deriving DecidableEq, Repr

/-- The values before a search. -/
def SelectedLevel.none : SelectedLevel :=
  { tcbDate := 0, status := .notSupported, advisoryIds := [] }

/-- The condition of the platform loop of `sgxEvaluateTCB`. -/
def sgxLevelSatisfied (tcbComponents : Bytes) (pceSvn : UInt32) (tcbLevel : TcbLevel) :
    Except Exn Bool := do
  if ← areSvnsHigherOrEqual tcbComponents (← tcbLevel.getSgxTcbComponents) 0 then
    pure (pceSvn ≥ tcbLevel.pceSvn)
  else pure false

/-- The condition of the platform loop of `tdxEvaluateTCB`. -/
def tdxLevelSatisfied (tcbComponents : Bytes) (pceSvn : UInt32) (teeTcbSvns : Bytes)
    (startIndex : ℕ) (tcbLevel : TcbLevel) : Except Exn Bool := do
  if ← sgxLevelSatisfied tcbComponents pceSvn tcbLevel then
    areSvnsHigherOrEqual teeTcbSvns (← tcbLevel.getTdxTcbComponents) startIndex
  else pure false

/-- The platform loop, which breaks at the first satisfied level. -/
def selectPlatformLevel (satisfied : TcbLevel → Except Exn Bool) (tcbLevels : List TcbLevel) :
    Except Exn SelectedLevel := do
  match ← firstWhere satisfied tcbLevels with
  | none => pure .none
  | some tcbLevel => do
    let status ← mapToEvaluationStatusOrThrow tcbLevel.status validTcbInfoStatuses
    pure { tcbDate := tcbLevel.tcbDate, status, advisoryIds := tcbLevel.advisoryIDs }

/-- `findTdxModuleIdentity(tdxModuleIdentities, tdxModuleVersion)`. -/
def findTdxModuleIdentity (tdxModuleIdentities : List TdxModuleIdentity)
    (tdxModuleVersion : UInt8) : Option TdxModuleIdentity :=
  tdxModuleIdentities.find? fun tdxModuleIdentity =>
    tdxModuleIdentity.id.map toupper = str "TDX_" ++ bytesToHexString [tdxModuleVersion]

/-- The loop over the levels of a module identity. -/
def selectModuleLevel (teeTcbSvns : Bytes) (tcbLevels : List TdxModuleTcbLevel) :
    Except Exn SelectedLevel := do
  let satisfied (tcbLevel : TdxModuleTcbLevel) : Except Exn Bool := do
    let minor ← vectorAt teeTcbSvns tdxModuleMinorSvnIndex
    pure (minor.toUInt16 ≥ tcbLevel.tcb.isvsvn)
  match ← firstWhere satisfied tcbLevels with
  | none => pure .none
  | some tcbLevel => do
    let status ← mapToEvaluationStatusOrThrow tcbLevel.tcbStatus validTdxModuleStatuses
    pure { tcbDate := tcbLevel.tcbDate, status, advisoryIds := tcbLevel.advisoryIDs }

/-! ## Convergence -/

/-- `convergeTcbStatuses(platformTcbStatus, componentStatuses)`. -/
def convergeTcbStatuses (platformTcbStatus : EvaluationStatus)
    (componentStatuses : List EvaluationStatus) : Status :=
  let anyOutOfDate := componentStatuses.any (· = .outOfDate)
  let anyRevoked := componentStatuses.any (· = .revoked)
  let effectiveStatus := platformTcbStatus
  let effectiveStatus :=
    if anyOutOfDate then
      if platformTcbStatus = .upToDate ∨ platformTcbStatus = .swHardeningNeeded then
        .outOfDate
      else if platformTcbStatus = .configurationNeeded ∨
          platformTcbStatus = .configurationAndSwHardeningNeeded then
        .outOfDateConfigurationNeeded
      else effectiveStatus
    else effectiveStatus
  let effectiveStatus := if anyRevoked then .revoked else effectiveStatus
  match evaluationStatusToStatusMap.lookup effectiveStatus with
  | some status => status
  | none => .tcbUnrecognizedStatus

/-- `*std::min_element(dates.begin(), dates.end())` of at least one date. -/
def minElement : ℤ → List ℤ → ℤ := List.foldl min

/-- The outputs of an evaluation. -/
structure TcbEvaluation where
  tcbStatus : Status
  tcbDate : ℤ
  advisoryIds : List Bytes
  deriving DecidableEq, Repr

/-- What an evaluation collects from the QE identity and the TDX module. -/
structure ComponentLevels where
  statuses : List EvaluationStatus
  tcbDates : List ℤ
  qeAdvisoryIds : List Bytes
  deriving DecidableEq, Repr

/-- `applyQeIdentity(qeIdentity, qeSvn, …)`. -/
def applyQeIdentity (qeIdentity : Option EnclaveIdentity) (qeSvn : UInt16)
    (components : ComponentLevels) : Except Exn ComponentLevels :=
  match qeIdentity with
  | none => pure components
  | some qeIdentity => do
    let tcbLevel ← qeIdentity.getTcbLevel qeSvn.toUInt32
    let status ← mapToEvaluationStatusOrThrow tcbLevel.tcbStatus validQeStatuses
    pure {
      statuses := components.statuses ++ [status]
      tcbDates := components.tcbDates ++ [tcbLevel.tcbDate]
      qeAdvisoryIds := tcbLevel.advisoryIds }

/-- `finalizeTcbEvaluation`, with the platform's date apart from the other ones. -/
def finalizeTcbEvaluation (platform : SelectedLevel) (components : ComponentLevels)
    (extraAdvisoryIds : List Bytes) : TcbEvaluation :=
  { tcbStatus := convergeTcbStatuses platform.status components.statuses
    tcbDate := minElement platform.tcbDate components.tcbDates
    advisoryIds := platform.advisoryIds ++ components.qeAdvisoryIds ++ extraAdvisoryIds }

/-! ## Evaluation -/

/-- The handler of both evaluations: it catches every `std::exception`. -/
def catchNotSupported (out : TcbEvaluation) (body : Except Exn (Status × TcbEvaluation)) :
    Status × TcbEvaluation :=
  match body with
  | .ok result => result
  | .error _ => (.tcbNotSupported, out)

/-- `sgxEvaluateTCB(tcbComponents, pceSvn, qeSvn, tcbInfo, qeIdentity, …)`. -/
def sgxEvaluateTCB (tcbComponents : Bytes) (pceSvn : UInt32) (qeSvn : UInt16) (tcbInfo : TcbInfo)
    (qeIdentity : Option EnclaveIdentity) (out : TcbEvaluation) : Status × TcbEvaluation :=
  catchNotSupported out do
    let platform ← selectPlatformLevel (sgxLevelSatisfied tcbComponents pceSvn) tcbInfo.tcbLevels
    if platform.status = .notSupported then pure (.tcbNotSupported, out)
    else do
      let components ← applyQeIdentity qeIdentity qeSvn
        { statuses := [], tcbDates := [], qeAdvisoryIds := [] }
      pure (.ok, finalizeTcbEvaluation platform components [])

/-- The module part of `tdxEvaluateTCB`: no level for major version 0, else one;
    `none` is its return of `STATUS_TCB_NOT_SUPPORTED`. -/
def evaluateTdxModule (teeTcbSvns : Bytes) (tcbInfo : TcbInfo) :
    Except Exn (Option (List SelectedLevel)) := do
  let tdxModuleVersion ← vectorAt teeTcbSvns tdxModuleMajorSvnIndex
  if tdxModuleVersion > 0 then do
    match findTdxModuleIdentity (← tcbInfo.getTdxModuleIdentities) tdxModuleVersion with
    | none => pure none
    | some tdxModuleIdentity => do
      let level ← selectModuleLevel teeTcbSvns tdxModuleIdentity.tcbLevels
      if level.status = .notSupported then pure none
      else pure (some [level])
  else pure (some [])

/-- `tdxEvaluateTCB(tcbComponents, pceSvn, qeSvn, teeTcbSvns, tcbInfo, qeIdentity, …)`. -/
def tdxEvaluateTCB (tcbComponents : Bytes) (pceSvn : UInt32) (qeSvn : UInt16) (teeTcbSvns : Bytes)
    (tcbInfo : TcbInfo) (qeIdentity : Option EnclaveIdentity) (out : TcbEvaluation) :
    Status × TcbEvaluation :=
  catchNotSupported out do
    let major ← vectorAt teeTcbSvns tdxModuleMajorSvnIndex
    let startIndex := if major > 0 then 2 else 0
    let platform ← selectPlatformLevel
      (tdxLevelSatisfied tcbComponents pceSvn teeTcbSvns startIndex) tcbInfo.tcbLevels
    if platform.status = .notSupported then pure (.tcbNotSupported, out)
    else do
      match ← evaluateTdxModule teeTcbSvns tcbInfo with
      | none => pure (.tcbNotSupported, out)
      | some tdxModule => do
        let components ← applyQeIdentity qeIdentity qeSvn
          { statuses := tdxModule.map SelectedLevel.status
            tcbDates := tdxModule.map SelectedLevel.tcbDate
            qeAdvisoryIds := [] }
        pure (.ok, finalizeTcbEvaluation platform components
          (tdxModule.flatMap SelectedLevel.advisoryIds))

end DcapQvl
