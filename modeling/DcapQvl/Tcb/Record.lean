import DcapQvl.Tcb.Collateral
import DcapQvl.Tcb.Selection

/-!
# The verification collateral record

What a caller reads from the bytes of `aggregateDataAndParseToVec`. The object is
built by calls of its methods; it is filled as `checkTcbLevel` does it, with the data of
a TCB Info, names of statuses and what the JSON parsers give.

Results:
* `collected_afterUpdates`: what the members hold after the calls; the advisories are sets, in
  ascending order.
* `readRecord_record`: every field of the record is read back.
* `filled_record`: when there is a record, and what is read from it.
-/

namespace DcapQvl

open Lib

/-! ## Calls -/

/-- A call of a method of `VerificationCollateralInfo`. -/
inductive Update
  | launchInfo (tcbDate : ℤ) (advisoryIds : List Bytes) (tcbStatus : Bytes)
  | currentInfo (tcbDate : ℤ) (advisoryIds : List Bytes) (tcbStatus : Bytes)
  | tcbInfoData (tcbInfo : TcbInfo)
  | enclaveIdentityData (enclaveIdentity : EnclaveIdentity)
  | filled

namespace Update

def apply (info : VerificationCollateralInfo) : Update → VerificationCollateralInfo
  | launchInfo tcbDate advisoryIds tcbStatus => info.addLaunchInfo tcbDate advisoryIds tcbStatus
  | currentInfo tcbDate advisoryIds tcbStatus => info.addCurrentInfo tcbDate advisoryIds tcbStatus
  | tcbInfoData tcbInfo => info.addTcbInfoData tcbInfo
  | enclaveIdentityData enclaveIdentity => info.addEnclaveIdentityData enclaveIdentity
  | filled => info.setFilled

def launchAdvisories : Update → List Bytes
  | launchInfo _ advisoryIds _ => advisoryIds
  | _ => []

def currentAdvisories : Update → List Bytes
  | currentInfo _ advisoryIds _ => advisoryIds
  | _ => []

/-- The name of a status. -/
def statuses : Update → List Bytes
  | launchInfo _ _ tcbStatus => [tcbStatus]
  | currentInfo _ _ tcbStatus => [tcbStatus]
  | _ => []

def tcbDates : Update → List ℤ
  | launchInfo tcbDate _ _ => [tcbDate]
  | currentInfo tcbDate _ _ => [tcbDate]
  | _ => []

def issueDates : Update → List ℤ
  | tcbInfoData tcbInfo => [tcbInfo.issueDate]
  | enclaveIdentityData enclaveIdentity => [enclaveIdentity.issueDate]
  | _ => []

def nextUpdates : Update → List ℤ
  | tcbInfoData tcbInfo => [tcbInfo.nextUpdate]
  | enclaveIdentityData enclaveIdentity => [enclaveIdentity.nextUpdate]
  | _ => []

def tcbEvalNumbers : Update → List UInt32
  | tcbInfoData tcbInfo => [tcbInfo.tcbEvaluationDataNumber]
  | enclaveIdentityData enclaveIdentity => [enclaveIdentity.tcbEvaluationDataNumber]
  | _ => []

end Update

/-- The object after some calls. -/
def afterUpdates (updates : List Update) : VerificationCollateralInfo :=
  updates.foldl Update.apply .initial

/-- A value of a `time_t`. -/
def IsTimeT (t : ℤ) : Prop := -2 ^ 63 ≤ t ∧ t < 2 ^ 63

/-- Calls that fill the object. The names are those of `printTCBStatus`; advisories are
    texts of the JSON parsers, which end before a NUL. -/
structure Fills (updates : List Update) : Prop where
  filled : (afterUpdates updates).isFilled = true
  tcbInfoData : ∃ tcbInfo, Update.tcbInfoData tcbInfo ∈ updates
  statuses : ∀ name ∈ updates.flatMap Update.statuses,
    ∃ status, (status, name) ∈ statusToTcbStringMap
  noNul : ∀ advisory ∈ updates.flatMap Update.launchAdvisories ++
    updates.flatMap Update.currentAdvisories, 0 ∉ advisory
  times : ∀ t ∈ updates.flatMap Update.tcbDates ++ (updates.flatMap Update.issueDates ++
    updates.flatMap Update.nextUpdates), IsTimeT t

/-! ## What the calls leave -/

/-- The elements of a set, in ascending order and each of them once. -/
structure Enumerates (ids added : List Bytes) : Prop where
  ascending : ids.Pairwise (· < ·)
  mem_iff : ∀ advisory, advisory ∈ ids ↔ advisory ∈ added

/-- The bytes of an advisory as numbers, whose order is that of the advisories. -/
abbrev advisoryKey (advisory : Bytes) : List ℕ := advisory.map UInt8.toNat

theorem keysIncrease_iff {ids : List Bytes} :
    KeysIncrease advisoryKey ids ↔ ids.Pairwise (· < ·) :=
  List.Pairwise.iff fun _ _ => TcbLevel.map_toNat_lt

theorem advisoryBefore_comparesKeys :
    ComparesKeys (fun _ => True) advisoryBefore advisoryKey := by
  intro s t _ _
  rw [advisoryBefore, decide_eq_true_iff, TcbLevel.map_toNat_lt]

theorem advisoryKey_injective : Function.Injective advisoryKey :=
  fun _ _ h => TcbLevel.map_toNat_inj.mp h

/-- The order and the number of the additions do not matter. -/
theorem Enumerates.unique {ids ids' added added' : List Bytes} (h : Enumerates ids added)
    (h' : Enumerates ids' added') (hadded : ∀ a, a ∈ added ↔ a ∈ added') : ids = ids' := by
  have hs := keysIncrease_iff.mpr h.ascending
  refine hs.eq_of_mem_iff (keysIncrease_iff.mpr h'.ascending) fun a => ?_
  rw [h.mem_iff, h'.mem_iff, hadded]

theorem Enumerates.insertAll {ids added : List Bytes} (h : Enumerates ids added)
    (advisoryIds : List Bytes) :
    Enumerates (insertAll advisoryBefore advisoryIds ids) (added ++ advisoryIds) := by
  obtain ⟨hsorted, hmem⟩ := insertAll_spec advisoryBefore_comparesKeys advisoryKey_injective
    advisoryIds (keysIncrease_iff.mpr h.ascending)
  refine ⟨keysIncrease_iff.mp hsorted, fun a => ?_⟩
  rw [hmem, h.mem_iff, List.mem_append, or_comm]

/-- What the object holds after some calls. -/
structure Collected (updates : List Update) (info : VerificationCollateralInfo) : Prop where
  id_eq : info.id = 1
  version_eq : info.version = 2
  issueDates : info.issueDates = updates.flatMap Update.issueDates
  nextUpdates : info.nextUpdates = updates.flatMap Update.nextUpdates
  tcbEvalNumbers : info.tcbEvalNumbers = updates.flatMap Update.tcbEvalNumbers
  launchAdvisories :
    Enumerates info.launchAdvisoryIds (updates.flatMap Update.launchAdvisories)
  currentAdvisories :
    Enumerates info.currentAdvisoryIds (updates.flatMap Update.currentAdvisories)
  launchTcbStatus : info.launchTcbStatus ∈ [] :: updates.flatMap Update.statuses
  currentTcbStatus : info.currentTcbStatus ∈ [] :: updates.flatMap Update.statuses
  launchTcbDate : info.launchTcbDate ∈ 0 :: updates.flatMap Update.tcbDates
  currentTcbDate : info.currentTcbDate ∈ 0 :: updates.flatMap Update.tcbDates

theorem Collected.initial : Collected [] .initial where
  id_eq := rfl
  version_eq := rfl
  issueDates := rfl
  nextUpdates := rfl
  tcbEvalNumbers := rfl
  launchAdvisories := ⟨List.Pairwise.nil, fun _ => Iff.rfl⟩
  currentAdvisories := ⟨List.Pairwise.nil, fun _ => Iff.rfl⟩
  launchTcbStatus := List.mem_cons_self
  currentTcbStatus := List.mem_cons_self
  launchTcbDate := List.mem_cons_self
  currentTcbDate := List.mem_cons_self

/-- What one call adds. -/
theorem Collected.apply {updates : List Update} {info : VerificationCollateralInfo}
    (h : Collected updates info) (update : Update) :
    Collected (updates ++ [update]) (update.apply info) := by
  have hconcat {T : Type} (f : Update → List T) :
      (updates ++ [update]).flatMap f = updates.flatMap f ++ f update := by
    rw [List.flatMap_append, List.flatMap_singleton]
  have hkept {T : Type} {x y : T} {f : Update → List T} (hx : x ∈ y :: updates.flatMap f) :
      x ∈ y :: (updates ++ [update]).flatMap f := by
    rw [hconcat, ← List.cons_append]
    exact List.mem_append_left _ hx
  have hnew {T : Type} {x y : T} {f : Update → List T} (hx : x ∈ f update) :
      x ∈ y :: (updates ++ [update]).flatMap f := by
    rw [hconcat, ← List.cons_append]
    exact List.mem_append_right _ hx
  constructor
  · cases update <;> exact h.id_eq
  · cases update <;> exact h.version_eq
  · rw [hconcat, ← h.issueDates]
    cases update <;> first | rfl | exact (List.append_nil _).symm
  · rw [hconcat, ← h.nextUpdates]
    cases update <;> first | rfl | exact (List.append_nil _).symm
  · rw [hconcat, ← h.tcbEvalNumbers]
    cases update <;> first | rfl | exact (List.append_nil _).symm
  · rw [hconcat]
    cases update with
    | launchInfo _ advisoryIds _ => exact h.launchAdvisories.insertAll advisoryIds
    | _ =>
      simp only [Update.launchAdvisories, List.append_nil]
      exact h.launchAdvisories
  · rw [hconcat]
    cases update with
    | currentInfo _ advisoryIds _ => exact h.currentAdvisories.insertAll advisoryIds
    | _ =>
      simp only [Update.currentAdvisories, List.append_nil]
      exact h.currentAdvisories
  · cases update with
    | launchInfo _ _ _ => exact hnew List.mem_cons_self
    | _ => exact hkept h.launchTcbStatus
  · cases update with
    | currentInfo _ _ _ => exact hnew List.mem_cons_self
    | _ => exact hkept h.currentTcbStatus
  · cases update with
    | launchInfo _ _ _ => exact hnew List.mem_cons_self
    | _ => exact hkept h.launchTcbDate
  · cases update with
    | currentInfo _ _ _ => exact hnew List.mem_cons_self
    | _ => exact hkept h.currentTcbDate

theorem collected_afterUpdates (updates : List Update) :
    Collected updates (afterUpdates updates) := by
  induction updates using List.reverseRecOn with
  | nil => exact .initial
  | append_singleton updates update ih =>
    rw [afterUpdates, List.foldl_concat]
    exact ih.apply update

/-! ## Reading a record -/

/-- What is read from a record. -/
structure CollateralRecord where
  id : ℕ
  version : ℕ
  issueDateMin : ℤ
  issueDateMax : ℤ
  expirationDate : ℤ
  tcbEvaluationDataNumber : ℕ
  launchTcbDate : ℤ
  currentTcbDate : ℤ
  launchAdvisoryIds : Bytes
  currentAdvisoryIds : Bytes
  launchTcbStatus : Bytes
  currentTcbStatus : Bytes
  deriving DecidableEq, Repr

/-- A `time_t` of eight bytes. -/
def readTime (bytes : Bytes) : ℤ := (leNat bytes : ℤ).bmod (2 ^ 64)

/-- The record by its offsets; a string ends before the first NUL. -/
def readRecord (record : Bytes) : CollateralRecord where
  id := leNat (fieldAt 0 2 record)
  version := leNat (fieldAt 2 2 record)
  issueDateMin := readTime (fieldAt 4 8 record)
  issueDateMax := readTime (fieldAt 12 8 record)
  expirationDate := readTime (fieldAt 20 8 record)
  tcbEvaluationDataNumber := leNat (fieldAt 28 4 record)
  launchTcbDate := readTime (fieldAt 32 8 record)
  currentTcbDate := readTime (fieldAt 40 8 record)
  launchAdvisoryIds := cStr (fieldAt 48 450 record)
  currentAdvisoryIds := cStr (fieldAt 498 450 record)
  launchTcbStatus := cStr (fieldAt 948 50 record)
  currentTcbStatus := cStr (fieldAt 998 50 record)

theorem readTime_timeBytes {t : ℤ} (h : IsTimeT t) : readTime (timeBytes t) = t := by
  have hnonneg : 0 ≤ t % 2 ^ 64 := Int.emod_nonneg _ (by decide)
  have hlt : (t % 2 ^ 64).toNat < 256 ^ timeSizeByteLen := by
    have := Int.emod_lt_of_pos t (show (0 : ℤ) < 2 ^ 64 by decide)
    have hpow : 256 ^ timeSizeByteLen = 2 ^ 64 := by decide
    omega
  unfold readTime timeBytes
  rw [leNat_leBytes_of_lt hlt, Int.toNat_of_nonneg hnonneg]
  have hcast : t % 2 ^ 64 = t % ((2 ^ 64 : ℕ) : ℤ) := by norm_num
  obtain ⟨hlow, hhigh⟩ := h
  rw [hcast, Int.emod_bmod]
  exact Int.bmod_eq_of_le (by omega) (by omega)

namespace VerificationCollateralInfo

variable {self : VerificationCollateralInfo} {dates : Dates} {launch current : Bytes}

/-- The fields of the record as a list. -/
def fields (self : VerificationCollateralInfo) (dates : Dates) (launch current : Bytes) :
    List Bytes :=
  [leBytes verificationCollateralInfoIdSizeByteLen self.id,
    leBytes verificationCollateralInfoVersionSizeByteLen self.version,
    timeBytes dates.issueDateMin, timeBytes dates.issueDateMax, timeBytes dates.expirationDate,
    leBytes verificationCollateralInfoTcbEvaluationDataNumberSizeByteLen
      dates.tcbEvaluationDataNumber.toNat,
    timeBytes self.launchTcbDate, timeBytes self.currentTcbDate,
    padded verificationCollateralInfoAdvisoryIdsSizeByteLen launch,
    padded verificationCollateralInfoAdvisoryIdsSizeByteLen current,
    padded verificationCollateralInfoTcbStatusByteLen self.launchTcbStatus,
    padded verificationCollateralInfoTcbStatusByteLen self.currentTcbStatus]

theorem record_eq_flatten : self.record dates launch current =
    (self.fields dates launch current).flatten := by
  simp [record, fields]

/-- The values fit their fields. -/
structure FieldsFit (info : VerificationCollateralInfo) (dates : Dates)
    (launch current : Bytes) : Prop where
  id_lt : info.id < 2 ^ 16
  version_lt : info.version < 2 ^ 16
  issueDateMin : IsTimeT dates.issueDateMin
  issueDateMax : IsTimeT dates.issueDateMax
  expirationDate : IsTimeT dates.expirationDate
  launchTcbDate : IsTimeT info.launchTcbDate
  currentTcbDate : IsTimeT info.currentTcbDate
  launch : launch.length < 450 ∧ 0 ∉ launch
  current : current.length < 450 ∧ 0 ∉ current
  launchTcbStatus : info.launchTcbStatus.length < 50 ∧ 0 ∉ info.launchTcbStatus
  currentTcbStatus : info.currentTcbStatus.length < 50 ∧ 0 ∉ info.currentTcbStatus

/-- The sizes of the fields. -/
theorem fields_sizes (h : FieldsFit self dates launch current) :
    (self.fields dates launch current).map List.length =
      [2, 2, 8, 8, 8, 4, 8, 8, 450, 450, 50, 50] := by
  have hlaunch : (padded 450 launch).length = 450 := padded_length h.launch.1.le
  have hcurrent : (padded 450 current).length = 450 := padded_length h.current.1.le
  have hlaunchStatus : (padded 50 self.launchTcbStatus).length = 50 :=
    padded_length h.launchTcbStatus.1.le
  have hcurrentStatus : (padded 50 self.currentTcbStatus).length = 50 :=
    padded_length h.currentTcbStatus.1.le
  simp [fields, hlaunch, hcurrent, hlaunchStatus, hcurrentStatus,
    verificationCollateralInfoAdvisoryIdsSizeByteLen, verificationCollateralInfoTcbStatusByteLen,
    verificationCollateralInfoIdSizeByteLen, verificationCollateralInfoVersionSizeByteLen,
    timeSizeByteLen, verificationCollateralInfoTcbEvaluationDataNumberSizeByteLen]

/-- The string fields, each with its terminator. -/
structure HoldsStrings (record launch current launchStatus currentStatus : Bytes) : Prop where
  launch : HoldsString (fieldAt 48 450 record) launch
  current : HoldsString (fieldAt 498 450 record) current
  launchStatus : HoldsString (fieldAt 948 50 record) launchStatus
  currentStatus : HoldsString (fieldAt 998 50 record) currentStatus

theorem record_holdsStrings (h : FieldsFit self dates launch current) :
    HoldsStrings (self.record dates launch current) launch current self.launchTcbStatus
      self.currentTcbStatus := by
  have hfield {n : ℕ} {field : Bytes} (hn : (self.fields dates launch current)[n]? = some field) :=
    fieldAt_flatten (fields_sizes h) hn
  rw [← record_eq_flatten] at hfield
  constructor
  · rw [show fieldAt 48 450 (self.record dates launch current) = _ from
      @hfield 8 _ rfl]
    exact holdsString_padded h.launch.1 h.launch.2
  · rw [show fieldAt 498 450 (self.record dates launch current) = _ from
      @hfield 9 _ rfl]
    exact holdsString_padded h.current.1 h.current.2
  · rw [show fieldAt 948 50 (self.record dates launch current) = _ from
      @hfield 10 _ rfl]
    exact holdsString_padded h.launchTcbStatus.1 h.launchTcbStatus.2
  · rw [show fieldAt 998 50 (self.record dates launch current) = _ from
      @hfield 11 _ rfl]
    exact holdsString_padded h.currentTcbStatus.1 h.currentTcbStatus.2

/-- Every field is read back. -/
theorem readRecord_record (h : FieldsFit self dates launch current) :
    readRecord (self.record dates launch current) =
      { id := self.id, version := self.version
        issueDateMin := dates.issueDateMin, issueDateMax := dates.issueDateMax
        expirationDate := dates.expirationDate
        tcbEvaluationDataNumber := dates.tcbEvaluationDataNumber.toNat
        launchTcbDate := self.launchTcbDate, currentTcbDate := self.currentTcbDate
        launchAdvisoryIds := launch, currentAdvisoryIds := current
        launchTcbStatus := self.launchTcbStatus, currentTcbStatus := self.currentTcbStatus } := by
  have hfield {n : ℕ} {field : Bytes} (hn : (self.fields dates launch current)[n]? = some field) :=
    fieldAt_flatten (fields_sizes h) hn
  rw [← record_eq_flatten] at hfield
  have hstrings := record_holdsStrings h
  unfold readRecord cStr
  rw [show fieldAt 0 2 _ = _ from @hfield 0 _ rfl, show fieldAt 2 2 _ = _ from @hfield 1 _ rfl,
    show fieldAt 4 8 _ = _ from @hfield 2 _ rfl, show fieldAt 12 8 _ = _ from @hfield 3 _ rfl,
    show fieldAt 20 8 _ = _ from @hfield 4 _ rfl, show fieldAt 28 4 _ = _ from @hfield 5 _ rfl,
    show fieldAt 32 8 _ = _ from @hfield 6 _ rfl, show fieldAt 40 8 _ = _ from @hfield 7 _ rfl,
    hstrings.launch.takeWhile_eq, hstrings.current.takeWhile_eq,
    hstrings.launchStatus.takeWhile_eq, hstrings.currentStatus.takeWhile_eq,
    readTime_timeBytes h.issueDateMin, readTime_timeBytes h.issueDateMax,
    readTime_timeBytes h.expirationDate, readTime_timeBytes h.launchTcbDate,
    readTime_timeBytes h.currentTcbDate, leNat_leBytes_of_lt h.id_lt,
    leNat_leBytes_of_lt h.version_lt, leNat_leBytes_of_lt dates.tcbEvaluationDataNumber.toNat_lt]

end VerificationCollateralInfo

/-! ## The record of a filled object -/

/-- The advisories with commas between them. -/
def joined (ids : List Bytes) : Bytes := List.intercalate (str ",") ids

/-- The loop of `advisoryIdsToString` joins the advisories. -/
theorem dropLast_flatMap_comma (ids : List Bytes) :
    (ids.flatMap fun advisoryId => advisoryId ++ str ",").dropLast = joined ids := by
  unfold joined
  induction ids with
  | nil => rfl
  | cons advisory ids ih =>
    cases ids with
    | nil =>
      rw [List.flatMap_singleton]
      exact List.dropLast_concat.trans (by simp [List.intercalate])
    | cons next ids =>
      have hne : ((next :: ids).flatMap fun advisoryId => advisoryId ++ str ",") ≠ [] := by
        rw [List.flatMap_cons, List.append_assoc]
        exact List.append_ne_nil_of_right_ne_nil _ (List.cons_ne_nil _ _)
      rw [List.flatMap_cons, List.dropLast_append_of_ne_nil hne, ih]
      simp [List.intercalate]

theorem joined_noNul {ids : List Bytes} (h : ∀ advisory ∈ ids, 0 ∉ advisory) : 0 ∉ joined ids := by
  intro hmem
  rw [← dropLast_flatMap_comma] at hmem
  obtain ⟨advisory, hadvisory, hzero⟩ := List.mem_flatMap.mp (List.mem_of_mem_dropLast hmem)
  rcases List.mem_append.mp hzero with hzero | hzero
  · exact h advisory hadvisory hzero
  · revert hzero
    decide

theorem advisoriesFit_iff {ids : List Bytes} :
    VerificationCollateralInfo.AdvisoriesFit ids ↔ (joined ids).length < 450 := by
  rw [← dropLast_flatMap_comma]
  rfl

theorem name_fits : ∀ p ∈ statusToTcbStringMap, p.2.length < 50 ∧ 0 ∉ p.2 := by
  decide +kernel

/-- `std::min_element` finds the least element. -/
theorem isLeast_foldl_min {α : Type} [LinearOrder α] (x : α) (xs : List α) :
    IsLeast {y | y ∈ x :: xs} (xs.foldl min x) := by
  induction xs generalizing x with
  | nil => simp [IsLeast, lowerBounds]
  | cons y ys ih =>
    obtain ⟨hmem, hle⟩ := ih (min x y)
    rw [List.foldl_cons]
    have hmin : ys.foldl min (min x y) ≤ min x y := hle List.mem_cons_self
    constructor
    · rcases List.mem_cons.mp hmem with h | h
      · rw [h]
        rcases min_choice x y with hxy | hxy
        · rw [hxy]
          exact List.mem_cons_self
        · rw [hxy]
          exact List.mem_cons_of_mem _ List.mem_cons_self
      · exact List.mem_cons_of_mem _ (List.mem_cons_of_mem _ h)
    · intro z hz
      rcases List.mem_cons.mp hz with rfl | hz
      · exact hmin.trans (min_le_left _ _)
      · rcases List.mem_cons.mp hz with rfl | hz
        · exact hmin.trans (min_le_right _ _)
        · exact hle (List.mem_cons_of_mem _ hz)

/-- `std::max_element` finds the greatest element. -/
theorem isGreatest_foldl_max {α : Type} [LinearOrder α] (x : α) (xs : List α) :
    IsGreatest {y | y ∈ x :: xs} (xs.foldl max x) :=
  @isLeast_foldl_min αᵒᵈ _ x xs

theorem toNat_foldl_min (number : UInt32) (numbers : List UInt32) :
    (numbers.foldl min number).toNat = (numbers.map UInt32.toNat).foldl min number.toNat := by
  induction numbers generalizing number with
  | nil => rfl
  | cons next numbers ih =>
    have hmin : (min number next).toNat = min number.toNat next.toNat := by
      rw [show min number next = if number ≤ next then number else next from rfl]
      split_ifs with hle
      · exact (min_eq_left (UInt32.le_iff_toNat_le.mp hle)).symm
      · exact (min_eq_right (not_le.mp fun h => hle (UInt32.le_iff_toNat_le.mpr h)).le).symm
    rw [List.foldl_cons, ih, hmin]
    rfl

/-- What is read from a record, given the calls and the two advisory strings. -/
structure ReadsBack (updates : List Update) (launch current : Bytes) (r : CollateralRecord) :
    Prop where
  id_eq : r.id = 1
  version_eq : r.version = 2
  issueDateMin : IsLeast {t | t ∈ updates.flatMap Update.issueDates} r.issueDateMin
  issueDateMax : IsGreatest {t | t ∈ updates.flatMap Update.issueDates} r.issueDateMax
  expirationDate : IsLeast {t | t ∈ updates.flatMap Update.nextUpdates} r.expirationDate
  tcbEvaluationDataNumber :
    IsLeast {n | n ∈ (updates.flatMap Update.tcbEvalNumbers).map UInt32.toNat}
      r.tcbEvaluationDataNumber
  launchTcbDate : r.launchTcbDate = (afterUpdates updates).launchTcbDate
  currentTcbDate : r.currentTcbDate = (afterUpdates updates).currentTcbDate
  launchAdvisoryIds : r.launchAdvisoryIds = launch
  currentAdvisoryIds : r.currentAdvisoryIds = current
  launchTcbStatus : r.launchTcbStatus = (afterUpdates updates).launchTcbStatus
  currentTcbStatus : r.currentTcbStatus = (afterUpdates updates).currentTcbStatus

/-- The dates and the number that are kept. -/
structure KeepsDates (updates : List Update) (dates : VerificationCollateralInfo.Dates) :
    Prop where
  issueDateMin : IsLeast {t | t ∈ updates.flatMap Update.issueDates} dates.issueDateMin
  issueDateMax : IsGreatest {t | t ∈ updates.flatMap Update.issueDates} dates.issueDateMax
  expirationDate : IsLeast {t | t ∈ updates.flatMap Update.nextUpdates} dates.expirationDate
  tcbEvaluationDataNumber :
    IsLeast {n | n ∈ (updates.flatMap Update.tcbEvalNumbers).map UInt32.toNat}
      dates.tcbEvaluationDataNumber.toNat

theorem Fills.exists_dates {updates : List Update} (h : Fills updates) :
    ∃ dates, (afterUpdates updates).HasDates dates ∧ KeepsDates updates dates := by
  obtain ⟨tcbInfo, hmem⟩ := h.tcbInfoData
  have hcollected := collected_afterUpdates updates
  have hcons {T : Type} {f : Update → List T} {xs : List T} (hxs : xs = updates.flatMap f)
      (hf : f (.tcbInfoData tcbInfo) ≠ []) : ∃ y ys, xs = y :: ys := by
    refine List.exists_cons_of_ne_nil fun hnil => hf ?_
    rw [hnil] at hxs
    exact List.flatMap_eq_nil_iff.mp hxs.symm _ hmem
  obtain ⟨issueDate, issueDates, hissue⟩ := hcons hcollected.issueDates (List.cons_ne_nil _ _)
  obtain ⟨nextUpdate, nextUpdates, hnext⟩ := hcons hcollected.nextUpdates (List.cons_ne_nil _ _)
  obtain ⟨number, numbers, hnumbers⟩ := hcons hcollected.tcbEvalNumbers (List.cons_ne_nil _ _)
  refine ⟨⟨_, _, _, _⟩, ⟨issueDate, issueDates, nextUpdate, nextUpdates, number, numbers, hissue,
    hnext, hnumbers, rfl, rfl, rfl, rfl⟩, ?_, ?_, ?_, ?_⟩
  · rw [← hcollected.issueDates, hissue]
    exact isLeast_foldl_min issueDate issueDates
  · rw [← hcollected.issueDates, hissue]
    exact isGreatest_foldl_max issueDate issueDates
  · rw [← hcollected.nextUpdates, hnext]
    exact isLeast_foldl_min nextUpdate nextUpdates
  · rw [← hcollected.tcbEvalNumbers, hnumbers, toNat_foldl_min]
    exact isLeast_foldl_min number.toNat (numbers.map UInt32.toNat)

theorem Fills.name_fits {updates : List Update} (h : Fills updates) {name : Bytes}
    (hname : name ∈ [] :: updates.flatMap Update.statuses) : name.length < 50 ∧ 0 ∉ name := by
  rcases List.mem_cons.mp hname with rfl | hname
  · exact ⟨by decide, List.not_mem_nil⟩
  · obtain ⟨status, hstatus⟩ := h.statuses name hname
    exact DcapQvl.name_fits _ hstatus

theorem Fills.tcbDate_fits {updates : List Update} (h : Fills updates) {t : ℤ}
    (ht : t ∈ 0 :: updates.flatMap Update.tcbDates) : IsTimeT t := by
  rcases List.mem_cons.mp ht with rfl | ht
  · exact ⟨by decide, by decide⟩
  · exact h.times t (List.mem_append_left _ ht)

/-- The values of a filled object fit their fields, when the advisories do. -/
theorem Fills.fieldsFit {updates : List Update} (h : Fills updates)
    {dates : VerificationCollateralInfo.Dates} (hdates : KeepsDates updates dates)
    (hlaunch : (joined (afterUpdates updates).launchAdvisoryIds).length < 450)
    (hcurrent : (joined (afterUpdates updates).currentAdvisoryIds).length < 450) :
    VerificationCollateralInfo.FieldsFit (afterUpdates updates) dates
      (joined (afterUpdates updates).launchAdvisoryIds)
      (joined (afterUpdates updates).currentAdvisoryIds) := by
  have hcollected := collected_afterUpdates updates
  have hissue {t : ℤ} (ht : t ∈ updates.flatMap Update.issueDates) : IsTimeT t :=
    h.times t (List.mem_append_right _ (List.mem_append_left _ ht))
  constructor
  · rw [hcollected.id_eq]
    decide
  · rw [hcollected.version_eq]
    decide
  · exact hissue hdates.issueDateMin.1
  · exact hissue hdates.issueDateMax.1
  · exact h.times _ (List.mem_append_right _ (List.mem_append_right _ hdates.expirationDate.1))
  · exact h.tcbDate_fits hcollected.launchTcbDate
  · exact h.tcbDate_fits hcollected.currentTcbDate
  · refine ⟨hlaunch, joined_noNul fun a ha => h.noNul a (List.mem_append_left _ ?_)⟩
    exact (hcollected.launchAdvisories.mem_iff a).mp ha
  · refine ⟨hcurrent, joined_noNul fun a ha => h.noNul a (List.mem_append_right _ ?_)⟩
    exact (hcollected.currentAdvisories.mem_iff a).mp ha
  · exact h.name_fits hcollected.launchTcbStatus
  · exact h.name_fits hcollected.currentTcbStatus

section Filled

variable {updates : List Update} (h : Fills updates)
include h

/-- Advisories that fit are recorded with everything else. -/
theorem Fills.exists_record
    (hlaunch : (joined (afterUpdates updates).launchAdvisoryIds).length < 450)
    (hcurrent : (joined (afterUpdates updates).currentAdvisoryIds).length < 450) :
    ∃ record, (afterUpdates updates).aggregateDataAndParseToVec = .ok record ∧
      record.length = 1048 ∧
      VerificationCollateralInfo.HoldsStrings record
        (joined (afterUpdates updates).launchAdvisoryIds)
        (joined (afterUpdates updates).currentAdvisoryIds)
        (afterUpdates updates).launchTcbStatus (afterUpdates updates).currentTcbStatus ∧
      ReadsBack updates (joined (afterUpdates updates).launchAdvisoryIds)
        (joined (afterUpdates updates).currentAdvisoryIds) (readRecord record) := by
  obtain ⟨dates, hhas, hkeeps⟩ := h.exists_dates
  have hfit := h.fieldsFit hkeeps hlaunch hcurrent
  have hcollected := collected_afterUpdates updates
  refine ⟨_, ?_, ?_, VerificationCollateralInfo.record_holdsStrings hfit, ?_⟩
  · have hl := VerificationCollateralInfo.advisoryIdsToString_of_fit
      (advisoriesFit_iff.mpr hlaunch)
    have hc := VerificationCollateralInfo.advisoryIdsToString_of_fit
      (advisoriesFit_iff.mpr hcurrent)
    have hlaunchStatus : VerificationCollateralInfo.checkStatusSize (str "Launch")
        (afterUpdates updates).launchTcbStatus = .ok () :=
      VerificationCollateralInfo.checkStatusSize_eq_ok.mpr hfit.launchTcbStatus.1
    have hcurrentStatus : VerificationCollateralInfo.checkStatusSize (str "Current")
        (afterUpdates updates).currentTcbStatus = .ok () :=
      VerificationCollateralInfo.checkStatusSize_eq_ok.mpr hfit.currentTcbStatus.1
    rw [VerificationCollateralInfo.aggregateDataAndParseToVec_eq hhas, hl, hc, hlaunchStatus,
      hcurrentStatus, dropLast_flatMap_comma, dropLast_flatMap_comma]
    rfl
  · exact VerificationCollateralInfo.record_length hlaunch.le hcurrent.le
      hfit.launchTcbStatus.1.le hfit.currentTcbStatus.1.le
  · rw [VerificationCollateralInfo.readRecord_record hfit]
    exact ⟨hcollected.id_eq, hcollected.version_eq, hkeeps.issueDateMin, hkeeps.issueDateMax,
      hkeeps.expirationDate, hkeeps.tcbEvaluationDataNumber, rfl, rfl, rfl, rfl, rfl, rfl⟩

/-- There is no record for advisories that do not fit, and only for them. -/
theorem Fills.throws_iff :
    (∃ what, (afterUpdates updates).aggregateDataAndParseToVec =
        .error (.verCollInfoSize what)) ↔
      450 ≤ (joined (afterUpdates updates).launchAdvisoryIds).length ∨
        450 ≤ (joined (afterUpdates updates).currentAdvisoryIds).length := by
  constructor
  · rintro ⟨what, hwhat⟩
    by_contra hfit
    push Not at hfit
    obtain ⟨record, hrecord, _⟩ := h.exists_record hfit.1 hfit.2
    rw [hrecord] at hwhat
    cases hwhat
  · intro hlong
    obtain ⟨dates, hhas, _⟩ := h.exists_dates
    refine VerificationCollateralInfo.aggregateDataAndParseToVec_eq_error hhas fun hfit => ?_
    have hlaunch := advisoriesFit_iff.mp hfit.1
    have hcurrent := advisoriesFit_iff.mp hfit.2
    omega

/-- What is read from a record. -/
theorem Fills.reads_record {record : Bytes}
    (hrecord : (afterUpdates updates).aggregateDataAndParseToVec = .ok record) :
    record.length = 1048 ∧
      ReadsBack updates (joined (afterUpdates updates).launchAdvisoryIds)
        (joined (afterUpdates updates).currentAdvisoryIds) (readRecord record) := by
  have hfit : ¬ (450 ≤ (joined (afterUpdates updates).launchAdvisoryIds).length ∨
      450 ≤ (joined (afterUpdates updates).currentAdvisoryIds).length) := by
    rw [← h.throws_iff]
    rintro ⟨what, hwhat⟩
    rw [hrecord] at hwhat
    cases hwhat
  push Not at hfit
  obtain ⟨record', hrecord', hlength, _, hreads⟩ := h.exists_record hfit.1 hfit.2
  rw [hrecord] at hrecord'
  cases hrecord'
  exact ⟨hlength, hreads⟩

/-- **The record.** A filled object has no record exactly when its launch or its current
    advisories, joined by commas, have 450 bytes or more. Otherwise the record has 1048
    bytes, every string in it has a terminator in its own field, and all that was added
    is read back. An advisory string lists the advisories in ascending order, each of them
    once, however they were added. -/
theorem filled_record :
    ∃ launchIds currentIds,
      Enumerates launchIds (updates.flatMap Update.launchAdvisories) ∧
      Enumerates currentIds (updates.flatMap Update.currentAdvisories) ∧
      ((∃ what, (afterUpdates updates).aggregateDataAndParseToVec =
          .error (.verCollInfoSize what)) ↔
        450 ≤ (joined launchIds).length ∨ 450 ≤ (joined currentIds).length) ∧
      ((joined launchIds).length < 450 → (joined currentIds).length < 450 →
        ∃ record, (afterUpdates updates).aggregateDataAndParseToVec = .ok record ∧
          record.length = 1048 ∧
          VerificationCollateralInfo.HoldsStrings record (joined launchIds) (joined currentIds)
            (afterUpdates updates).launchTcbStatus (afterUpdates updates).currentTcbStatus ∧
          ReadsBack updates (joined launchIds) (joined currentIds) (readRecord record)) ∧
      ∀ updates', Fills updates' →
        (∀ a, a ∈ updates.flatMap Update.launchAdvisories ↔
          a ∈ updates'.flatMap Update.launchAdvisories) →
        (∀ a, a ∈ updates.flatMap Update.currentAdvisories ↔
          a ∈ updates'.flatMap Update.currentAdvisories) →
        ∀ record', (afterUpdates updates').aggregateDataAndParseToVec = .ok record' →
          (readRecord record').launchAdvisoryIds = joined launchIds ∧
            (readRecord record').currentAdvisoryIds = joined currentIds := by
  have hcollected := collected_afterUpdates updates
  refine ⟨_, _, hcollected.launchAdvisories, hcollected.currentAdvisories, h.throws_iff,
    h.exists_record, fun updates' h' hlaunch hcurrent record' hrecord' => ?_⟩
  have hcollected' := collected_afterUpdates updates'
  obtain ⟨-, hreads⟩ := h'.reads_record hrecord'
  rw [hreads.launchAdvisoryIds, hreads.currentAdvisoryIds]
  rw [hcollected.launchAdvisories.unique hcollected'.launchAdvisories hlaunch,
    hcollected.currentAdvisories.unique hcollected'.currentAdvisories hcurrent]
  exact ⟨rfl, rfl⟩

end Filled

/-- The calls for the sample TCB Info, with an advisory that is added twice. -/
def sampleUpdates : List Update :=
  [.currentInfo sampleEpoch [] (str "UpToDate"),
    .launchInfo sampleEpoch [str "INTEL-SA-2", str "INTEL-SA-1", str "INTEL-SA-2"]
      (str "OutOfDate"),
    .tcbInfoData sampleInfo, .filled]

theorem filled_record_sample :
    ∃ record, (afterUpdates sampleUpdates).aggregateDataAndParseToVec = .ok record ∧
      record.length = 1048 ∧
      (readRecord record).launchAdvisoryIds = str "INTEL-SA-1,INTEL-SA-2" ∧
      IsLeast {t | t = sampleInfo.issueDate} (readRecord record).issueDateMin := by
  have hfills : Fills sampleUpdates := {
    filled := rfl
    tcbInfoData := ⟨sampleInfo, by simp [sampleUpdates]⟩
    statuses := by
      intro name hname
      have hname : name = str "UpToDate" ∨ name = str "OutOfDate" := by
        simpa [sampleUpdates, Update.statuses] using hname
      rcases hname with rfl | rfl
      · exact ⟨.ok, by decide⟩
      · exact ⟨.tcbOutOfDate, by decide⟩
    noNul := by decide
    times := by
      intro t ht
      have ht : t = sampleEpoch := by
        simpa [sampleUpdates, Update.tcbDates, Update.issueDates, Update.nextUpdates,
          sampleInfo] using ht
      rw [ht]
      exact ⟨by decide, by decide⟩ }
  obtain ⟨launchIds, currentIds, hlaunch, hcurrent, _, hrecord, _⟩ := filled_record hfills
  have hsorted : Enumerates [str "INTEL-SA-1", str "INTEL-SA-2"]
      [str "INTEL-SA-1", str "INTEL-SA-2"] := ⟨by decide, fun _ => Iff.rfl⟩
  have hlaunchIds : launchIds = [str "INTEL-SA-1", str "INTEL-SA-2"] :=
    hlaunch.unique hsorted (by simp [sampleUpdates, Update.launchAdvisories, or_comm])
  have hcurrentIds : currentIds = [] := hcurrent.unique ⟨.nil, fun _ => Iff.rfl⟩ (by
    simp [sampleUpdates, Update.currentAdvisories])
  obtain ⟨record, hok, hlength, _, hreads⟩ := hrecord
    (by rw [hlaunchIds]; decide) (by rw [hcurrentIds]; decide)
  refine ⟨record, hok, hlength, ?_, ?_⟩
  · rw [hreads.launchAdvisoryIds, hlaunchIds]
    decide
  · simpa [sampleUpdates, Update.issueDates] using hreads.issueDateMin

end DcapQvl
