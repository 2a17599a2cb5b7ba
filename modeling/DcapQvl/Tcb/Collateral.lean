import DcapQvl.Lib.PaddedRecord
import DcapQvl.Tcb.Evaluate

/-!
# Verification collateral information

Model of `QuoteVerification/VerificationCollateralInfo.cpp`. A `std::set` of
advisories is the list of its elements in ascending order; `time_t` is a
little-endian two's-complement integer of eight bytes.

Results:
* `aggregateDataAndParseToVec_eq_ok`: the record that is made, field by field.
* `aggregateDataAndParseToVec_eq_error`: making it fails for advisories only.
-/

namespace DcapQvl

open Lib

/-- `constants::VERIFICATION_COLLATERAL_INFO_…`. -/
def verificationCollateralInfoIdSizeByteLen : ℕ := 2
def verificationCollateralInfoVersionSizeByteLen : ℕ := 2
def timeSizeByteLen : ℕ := 8
def verificationCollateralInfoTcbEvaluationDataNumberSizeByteLen : ℕ := 4
def verificationCollateralInfoAdvisoryIdsSizeByteLen : ℕ := 450
def verificationCollateralInfoTcbStatusByteLen : ℕ := 50

/-- `VERIFICATION_COLLATERAL_INFO_SIZE_BYTE_LEN`, the sum of the sizes. -/
def verificationCollateralInfoSizeByteLen : ℕ :=
  verificationCollateralInfoIdSizeByteLen + verificationCollateralInfoVersionSizeByteLen +
    timeSizeByteLen + timeSizeByteLen + timeSizeByteLen +
    verificationCollateralInfoTcbEvaluationDataNumberSizeByteLen +
    timeSizeByteLen + timeSizeByteLen +
    verificationCollateralInfoAdvisoryIdsSizeByteLen +
    verificationCollateralInfoAdvisoryIdsSizeByteLen +
    verificationCollateralInfoTcbStatusByteLen + verificationCollateralInfoTcbStatusByteLen

/-- The members of `VerificationCollateralInfo`. -/
structure VerificationCollateralInfo where
  id : ℕ
  version : ℕ
  issueDates : List ℤ
  nextUpdates : List ℤ
  tcbEvalNumbers : List UInt32
  launchTcbDate : ℤ
  currentTcbDate : ℤ
  launchAdvisoryIds : List Bytes
  currentAdvisoryIds : List Bytes
  launchTcbStatus : Bytes
  currentTcbStatus : Bytes
  isFilled : Bool
  deriving DecidableEq, Repr

/-- The comparison of a `std::set<std::string>`. -/
def advisoryBefore (s t : Bytes) : Bool := s < t

/-- `advisoryIdsToString(advisoryIds)`. -/
def advisoryIdsToString (advisoryIds : List Bytes) : Except Exn Bytes := do
  let advisoryIdsStr := (advisoryIds.flatMap fun advisoryId => advisoryId ++ str ",").dropLast
  throwUnless (¬ advisoryIdsStr.length ≥ verificationCollateralInfoAdvisoryIdsSizeByteLen)
    (.verCollInfoSize (str "AdvisoryIDs string exceeds the maximum allowed size of " ++
      toStr verificationCollateralInfoAdvisoryIdsSizeByteLen ++ str " bytes. Current size: " ++
      toStr advisoryIdsStr.length))
  pure advisoryIdsStr

/-- The bytes of a `time_t`. -/
def timeBytes (t : ℤ) : Bytes := leBytes timeSizeByteLen (t % 2 ^ 64).toNat

namespace VerificationCollateralInfo

/-- `VerificationCollateralInfo::VerificationCollateralInfo()`. -/
def initial : VerificationCollateralInfo :=
  { id := 1, version := 2, issueDates := [], nextUpdates := [], tcbEvalNumbers := []
    launchTcbDate := 0, currentTcbDate := 0, launchAdvisoryIds := [], currentAdvisoryIds := []
    launchTcbStatus := [], currentTcbStatus := [], isFilled := false }

variable (self : VerificationCollateralInfo)

/-- `addLaunchInfo(tcbDate, advisoryIds, tcbStatus)`. -/
def addLaunchInfo (tcbDate : ℤ) (advisoryIds : List Bytes) (tcbStatus : Bytes) :
    VerificationCollateralInfo :=
  { self with
    launchTcbDate := tcbDate
    launchAdvisoryIds := insertAll advisoryBefore advisoryIds self.launchAdvisoryIds
    launchTcbStatus := tcbStatus }

/-- `addCurrentInfo(tcbDate, advisoryIds, tcbStatus)`. -/
def addCurrentInfo (tcbDate : ℤ) (advisoryIds : List Bytes) (tcbStatus : Bytes) :
    VerificationCollateralInfo :=
  { self with
    currentTcbDate := tcbDate
    currentAdvisoryIds := insertAll advisoryBefore advisoryIds self.currentAdvisoryIds
    currentTcbStatus := tcbStatus }

/-- `addTcbInfoData(tcbInfo)`. -/
def addTcbInfoData (tcbInfo : TcbInfo) : VerificationCollateralInfo :=
  { self with
    issueDates := self.issueDates ++ [tcbInfo.issueDate]
    nextUpdates := self.nextUpdates ++ [tcbInfo.nextUpdate]
    tcbEvalNumbers := self.tcbEvalNumbers ++ [tcbInfo.tcbEvaluationDataNumber] }

/-- `addEnclaveIdentityData(enclaveIdentity)`. -/
def addEnclaveIdentityData (enclaveIdentity : EnclaveIdentity) : VerificationCollateralInfo :=
  { self with
    issueDates := self.issueDates ++ [enclaveIdentity.issueDate]
    nextUpdates := self.nextUpdates ++ [enclaveIdentity.nextUpdate]
    tcbEvalNumbers := self.tcbEvalNumbers ++ [enclaveIdentity.tcbEvaluationDataNumber] }

/-- `setFilled()`. -/
def setFilled : VerificationCollateralInfo := { self with isFilled := true }

/-- The check of a status string before it is copied. -/
def checkStatusSize (name tcbStatus : Bytes) : Except Exn Unit :=
  throwUnless (¬ tcbStatus.length ≥ verificationCollateralInfoTcbStatusByteLen)
    (.verCollInfoSize (name ++ str " TCB Status string exceeds the maximum allowed size of " ++
      toStr verificationCollateralInfoTcbStatusByteLen ++ str " bytes. Current size: " ++
      toStr tcbStatus.length))

/-- The fields before the advisories, given the dates and the number that are kept. -/
def putDates (issueDateMin issueDateMax expirationDate : ℤ) (tcbEvaluationDataNumber : UInt32)
    (w : RecordWriter) : RecordWriter :=
  w |>.putField verificationCollateralInfoIdSizeByteLen
      (leBytes verificationCollateralInfoIdSizeByteLen self.id)
    |>.putField verificationCollateralInfoVersionSizeByteLen
      (leBytes verificationCollateralInfoVersionSizeByteLen self.version)
    |>.putField timeSizeByteLen (timeBytes issueDateMin)
    |>.putField timeSizeByteLen (timeBytes issueDateMax)
    |>.putField timeSizeByteLen (timeBytes expirationDate)
    |>.putField verificationCollateralInfoTcbEvaluationDataNumberSizeByteLen
      (leBytes verificationCollateralInfoTcbEvaluationDataNumberSizeByteLen
        tcbEvaluationDataNumber.toNat)
    |>.putField timeSizeByteLen (timeBytes self.launchTcbDate)
    |>.putField timeSizeByteLen (timeBytes self.currentTcbDate)

/-- `aggregateDataAndParseToVec()`. -/
def aggregateDataAndParseToVec : Except Exn Bytes :=
  let byteVec := List.replicate verificationCollateralInfoSizeByteLen 0
  match self.issueDates, self.nextUpdates, self.tcbEvalNumbers with
  | issueDate :: issueDates, nextUpdate :: nextUpdates, number :: numbers => do
    let w := self.putDates (minElement issueDate issueDates) (issueDates.foldl max issueDate)
      (minElement nextUpdate nextUpdates) (numbers.foldl min number) ⟨byteVec, 0⟩
    let advisoryIdsStr ← advisoryIdsToString self.launchAdvisoryIds
    let w := w.putField verificationCollateralInfoAdvisoryIdsSizeByteLen advisoryIdsStr
    let advisoryIdsStr ← advisoryIdsToString self.currentAdvisoryIds
    let w := w.putField verificationCollateralInfoAdvisoryIdsSizeByteLen advisoryIdsStr
    checkStatusSize (str "Launch") self.launchTcbStatus
    let w := w.putField verificationCollateralInfoTcbStatusByteLen self.launchTcbStatus
    checkStatusSize (str "Current") self.currentTcbStatus
    let w := w.putField verificationCollateralInfoTcbStatusByteLen self.currentTcbStatus
    throwUnless (w.offset = byteVec.length) (.verCollInfoSize (str
      "Aggregated data size does not match the expected size. Expected: " ++
      toStr byteVec.length ++ str " bytes. Actual: " ++ toStr w.offset ++ str " bytes."))
    pure w.buffer
  | _, _, _ => pure byteVec

/-! ## The record -/

/-- The dates and the number of the record. -/
structure Dates where
  issueDateMin : ℤ
  issueDateMax : ℤ
  expirationDate : ℤ
  tcbEvaluationDataNumber : UInt32

/-- They are the extremes of what was added. -/
def HasDates (dates : Dates) : Prop :=
  ∃ issueDate issueDates nextUpdate nextUpdates number numbers,
    self.issueDates = issueDate :: issueDates ∧ self.nextUpdates = nextUpdate :: nextUpdates ∧
    self.tcbEvalNumbers = number :: numbers ∧
    dates.issueDateMin = minElement issueDate issueDates ∧
    dates.issueDateMax = issueDates.foldl max issueDate ∧
    dates.expirationDate = minElement nextUpdate nextUpdates ∧
    dates.tcbEvaluationDataNumber = numbers.foldl min number

/-- The fields of the record, one after the other. -/
def record (dates : Dates) (launchAdvisories currentAdvisories : Bytes) : Bytes :=
  leBytes verificationCollateralInfoIdSizeByteLen self.id ++
  leBytes verificationCollateralInfoVersionSizeByteLen self.version ++
  timeBytes dates.issueDateMin ++ timeBytes dates.issueDateMax ++
  timeBytes dates.expirationDate ++
  leBytes verificationCollateralInfoTcbEvaluationDataNumberSizeByteLen
    dates.tcbEvaluationDataNumber.toNat ++
  timeBytes self.launchTcbDate ++ timeBytes self.currentTcbDate ++
  padded verificationCollateralInfoAdvisoryIdsSizeByteLen launchAdvisories ++
  padded verificationCollateralInfoAdvisoryIdsSizeByteLen currentAdvisories ++
  padded verificationCollateralInfoTcbStatusByteLen self.launchTcbStatus ++
  padded verificationCollateralInfoTcbStatusByteLen self.currentTcbStatus

end VerificationCollateralInfo

@[simp] theorem timeBytes_length (t : ℤ) : (timeBytes t).length = timeSizeByteLen :=
  length_leBytes _ _

theorem advisoryIdsToString_eq_ok {advisoryIds : List Bytes} {s : Bytes}
    (h : advisoryIdsToString advisoryIds = .ok s) :
    s = (advisoryIds.flatMap fun advisoryId => advisoryId ++ str ",").dropLast ∧
      s.length < verificationCollateralInfoAdvisoryIdsSizeByteLen := by
  obtain ⟨_, hsize, h⟩ := bind_eq_ok.mp h
  cases h
  exact ⟨rfl, not_le.mp (throwUnless_eq_ok.mp hsize)⟩

namespace VerificationCollateralInfo

variable {self : VerificationCollateralInfo} {dates : Dates}

theorem checkStatusSize_eq_ok {name tcbStatus : Bytes} {u : Unit} :
    checkStatusSize name tcbStatus = .ok u ↔
      tcbStatus.length < verificationCollateralInfoTcbStatusByteLen := by
  rw [checkStatusSize, throwUnless_eq_ok, not_le]

/-- The dates and the number are written first. -/
theorem written_putDates (self : VerificationCollateralInfo) (dates : Dates) :
    Written verificationCollateralInfoSizeByteLen
      (leBytes verificationCollateralInfoIdSizeByteLen self.id ++
        leBytes verificationCollateralInfoVersionSizeByteLen self.version ++
        timeBytes dates.issueDateMin ++ timeBytes dates.issueDateMax ++
        timeBytes dates.expirationDate ++
        leBytes verificationCollateralInfoTcbEvaluationDataNumberSizeByteLen
          dates.tcbEvaluationDataNumber.toNat ++
        timeBytes self.launchTcbDate ++ timeBytes self.currentTcbDate)
      (self.putDates dates.issueDateMin dates.issueDateMax dates.expirationDate
        dates.tcbEvaluationDataNumber
        ⟨List.replicate verificationCollateralInfoSizeByteLen 0, 0⟩) := by
  have h := Written.empty verificationCollateralInfoSizeByteLen
  have put {done src : List UInt8} {size : ℕ} {w : RecordWriter}
      (h : Written verificationCollateralInfoSizeByteLen done w) (hsrc : src.length = size)
      (hfits : done.length + size ≤ verificationCollateralInfoSizeByteLen) :
      Written verificationCollateralInfoSizeByteLen (done ++ src) (w.putField size src) := by
    have hput := h.putField hsrc.le hfits
    rwa [padded_of_length_eq hsrc] at hput
  have h := put h (length_leBytes verificationCollateralInfoIdSizeByteLen self.id) (by decide)
  have h := put h (length_leBytes verificationCollateralInfoVersionSizeByteLen self.version)
    (by simp; decide)
  have h := put h (timeBytes_length dates.issueDateMin) (by simp; decide)
  have h := put h (timeBytes_length dates.issueDateMax) (by simp; decide)
  have h := put h (timeBytes_length dates.expirationDate) (by simp; decide)
  have h := put h (length_leBytes verificationCollateralInfoTcbEvaluationDataNumberSizeByteLen
    dates.tcbEvaluationDataNumber.toNat) (by simp; decide)
  have h := put h (timeBytes_length self.launchTcbDate) (by simp; decide)
  exact put h (timeBytes_length self.currentTcbDate) (by simp; decide)

theorem record_length {launch current : Bytes}
    (hl : launch.length ≤ verificationCollateralInfoAdvisoryIdsSizeByteLen)
    (hc : current.length ≤ verificationCollateralInfoAdvisoryIdsSizeByteLen)
    (hls : self.launchTcbStatus.length ≤ verificationCollateralInfoTcbStatusByteLen)
    (hcs : self.currentTcbStatus.length ≤ verificationCollateralInfoTcbStatusByteLen) :
    (self.record dates launch current).length = verificationCollateralInfoSizeByteLen := by
  simp only [record, List.length_append, length_leBytes, timeBytes_length, padded_length hl,
    padded_length hc, padded_length hls, padded_length hcs]
  decide

/-- With dates there is a record, unless advisories or a status are too long. -/
theorem aggregateDataAndParseToVec_eq (hdates : self.HasDates dates) :
    self.aggregateDataAndParseToVec = (do
      let launchAdvisories ← advisoryIdsToString self.launchAdvisoryIds
      let currentAdvisories ← advisoryIdsToString self.currentAdvisoryIds
      checkStatusSize (str "Launch") self.launchTcbStatus
      checkStatusSize (str "Current") self.currentTcbStatus
      pure (self.record dates launchAdvisories currentAdvisories)) := by
  obtain ⟨_, _, _, _, _, _, hissue, hnext, hnumbers, hmin, hmax, hexpiration, hnumber⟩ := hdates
  simp only [aggregateDataAndParseToVec, hissue, hnext, hnumbers]
  rw [← hmin, ← hmax, ← hexpiration, ← hnumber]
  cases hlaunch : advisoryIdsToString self.launchAdvisoryIds with
  | error e => simp only [error_bind]
  | ok launch =>
  cases hcurrent : advisoryIdsToString self.currentAdvisoryIds with
  | error e => simp only [ok_bind, error_bind]
  | ok current =>
  cases hlaunchStatus : checkStatusSize (str "Launch") self.launchTcbStatus with
  | error e => simp only [ok_bind, error_bind]
  | ok _ =>
  cases hcurrentStatus : checkStatusSize (str "Current") self.currentTcbStatus with
  | error e => simp only [ok_bind, error_bind]
  | ok _ =>
  have hl := (advisoryIdsToString_eq_ok hlaunch).2.le
  have hc := (advisoryIdsToString_eq_ok hcurrent).2.le
  have hls := (checkStatusSize_eq_ok.mp hlaunchStatus).le
  have hcs := (checkStatusSize_eq_ok.mp hcurrentStatus).le
  have h := written_putDates self dates
  have h := h.putField hl (by simp; decide)
  have h := h.putField hc (by simp [padded_length hl]; decide)
  have h := h.putField hls (by simp [padded_length hl, padded_length hc]; decide)
  have h := h.putField hcs (by
    simp [padded_length hl, padded_length hc, padded_length hls]
    decide)
  have hlen : (self.record dates launch current).length = _ := record_length hl hc hls hcs
  have hoffset := h.offset_eq
  have hbuffer := h.buffer_eq
  change _ = (self.record dates launch current).length at hoffset
  change _ = self.record dates launch current ++
    List.replicate (_ - (self.record dates launch current).length) 0 at hbuffer
  rw [hlen] at hoffset
  rw [hlen, Nat.sub_self, List.replicate_zero, List.append_nil] at hbuffer
  simp only [ok_bind, List.length_replicate]
  rw [hoffset, hbuffer, throwUnless, if_pos rfl, ok_bind]

/-- The position of the launch status in the record. -/
def launchTcbStatusOffset : ℕ :=
  verificationCollateralInfoIdSizeByteLen + verificationCollateralInfoVersionSizeByteLen +
    timeSizeByteLen + timeSizeByteLen + timeSizeByteLen +
    verificationCollateralInfoTcbEvaluationDataNumberSizeByteLen +
    timeSizeByteLen + timeSizeByteLen +
    verificationCollateralInfoAdvisoryIdsSizeByteLen +
    verificationCollateralInfoAdvisoryIdsSizeByteLen

theorem fieldAt_launchTcbStatus {launch current : Bytes}
    (hl : launch.length ≤ verificationCollateralInfoAdvisoryIdsSizeByteLen)
    (hc : current.length ≤ verificationCollateralInfoAdvisoryIdsSizeByteLen)
    (hls : self.launchTcbStatus.length ≤ verificationCollateralInfoTcbStatusByteLen) :
    fieldAt launchTcbStatusOffset verificationCollateralInfoTcbStatusByteLen
        (self.record dates launch current) =
      padded verificationCollateralInfoTcbStatusByteLen self.launchTcbStatus := by
  rw [record, List.append_assoc _ (padded _ self.launchTcbStatus), fieldAt_append_right]
  · simp only [List.length_append, length_leBytes, timeBytes_length, padded_length hl,
      padded_length hc]
    exact fieldAt_zero_append (padded_length hls)
  · simp only [List.length_append, length_leBytes, timeBytes_length, padded_length hl,
      padded_length hc]
    exact le_rfl

/-- Advisories that fit their field. -/
def AdvisoriesFit (advisoryIds : List Bytes) : Prop :=
  (advisoryIds.flatMap fun advisoryId => advisoryId ++ str ",").dropLast.length <
    verificationCollateralInfoAdvisoryIdsSizeByteLen

instance (advisoryIds : List Bytes) : Decidable (AdvisoriesFit advisoryIds) :=
  inferInstanceAs (Decidable (_ < _))

theorem advisoryIdsToString_of_fit {advisoryIds : List Bytes} (h : AdvisoriesFit advisoryIds) :
    advisoryIdsToString advisoryIds =
      .ok (advisoryIds.flatMap fun advisoryId => advisoryId ++ str ",").dropLast := by
  rw [advisoryIdsToString, throwUnless, if_pos (not_le.mpr h)]
  rfl

theorem advisoryIdsToString_of_not_fit {advisoryIds : List Bytes}
    (h : ¬ AdvisoriesFit advisoryIds) :
    ∃ what, advisoryIdsToString advisoryIds = .error (.verCollInfoSize what) := by
  rw [advisoryIdsToString, throwUnless, if_neg (fun hlt => h (not_le.mp hlt))]
  exact ⟨_, rfl⟩

/-- A record is made when both advisory sets fit. -/
theorem aggregateDataAndParseToVec_eq_ok (hdates : self.HasDates dates)
    (hls : self.launchTcbStatus.length < verificationCollateralInfoTcbStatusByteLen)
    (hcs : self.currentTcbStatus.length < verificationCollateralInfoTcbStatusByteLen)
    (hlaunch : AdvisoriesFit self.launchAdvisoryIds)
    (hcurrent : AdvisoriesFit self.currentAdvisoryIds) :
    ∃ record, self.aggregateDataAndParseToVec = .ok record ∧
      record.length = verificationCollateralInfoSizeByteLen ∧
      fieldAt launchTcbStatusOffset verificationCollateralInfoTcbStatusByteLen record =
        padded verificationCollateralInfoTcbStatusByteLen self.launchTcbStatus := by
  have hl := advisoryIdsToString_of_fit hlaunch
  have hc := advisoryIdsToString_of_fit hcurrent
  refine ⟨self.record dates _ _, ?_, record_length hlaunch.le hcurrent.le hls.le hcs.le,
    fieldAt_launchTcbStatus hlaunch.le hcurrent.le hls.le⟩
  have hlaunchStatus : checkStatusSize (str "Launch") self.launchTcbStatus = .ok () :=
    checkStatusSize_eq_ok.mpr hls
  have hcurrentStatus : checkStatusSize (str "Current") self.currentTcbStatus = .ok () :=
    checkStatusSize_eq_ok.mpr hcs
  rw [aggregateDataAndParseToVec_eq hdates, hl, hc, hlaunchStatus, hcurrentStatus]
  rfl

/-- An advisory set that does not fit is reported. -/
theorem aggregateDataAndParseToVec_eq_error (hdates : self.HasDates dates)
    (h : ¬ (AdvisoriesFit self.launchAdvisoryIds ∧ AdvisoriesFit self.currentAdvisoryIds)) :
    ∃ what, self.aggregateDataAndParseToVec = .error (.verCollInfoSize what) := by
  rw [aggregateDataAndParseToVec_eq hdates]
  by_cases hlaunch : AdvisoriesFit self.launchAdvisoryIds
  · obtain ⟨what, hwhat⟩ := advisoryIdsToString_of_not_fit fun hcurrent => h ⟨hlaunch, hcurrent⟩
    rw [advisoryIdsToString_of_fit hlaunch, ok_bind, hwhat]
    exact ⟨what, rfl⟩
  · obtain ⟨what, hwhat⟩ := advisoryIdsToString_of_not_fit hlaunch
    rw [hwhat]
    exact ⟨what, rfl⟩

end VerificationCollateralInfo

end DcapQvl
