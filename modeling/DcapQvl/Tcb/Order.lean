import DcapQvl.Lib.Lexicographic
import DcapQvl.Tcb.Selection

/-!
# The order of platform levels and the platform search

The set of levels is ordered lexicographically over all components, and the
search compares component by component, for a TDX module with a major version
from the third TDX component on only.

Results:
* `firstWhere_sgx_iff`, `firstWhere_tdx_iff`: what the loops of the code select.
* `evaluateTCB_firstWhere`: both evaluations go on with the level at which their loop stops.
* `platformLevel_undominated`: when another satisfied level can be above the
  selected one.
* `platformLevel_monotone`: higher SVNs select the same level or an earlier one.
-/

namespace DcapQvl

open Lib

/-! ## Component-wise comparison -/

theorem covered_iff_toNat {xs ys : List UInt8} :
    Covered xs ys ↔ List.Forall₂ (· ≤ ·) (xs.map UInt8.toNat) (ys.map UInt8.toNat) := by
  rw [Covered, List.forall₂_map_left_iff, List.forall₂_map_right_iff]
  rfl

theorem Covered.trans {xs ys zs : List UInt8} (h : Covered xs ys) (h' : Covered ys zs) :
    Covered xs zs := by
  induction h generalizing zs with
  | nil => exact h'
  | cons hxy _ ih =>
    cases h' with
    | cons hyz hrest => exact List.Forall₂.cons (UInt8.le_trans hxy hyz) (ih hrest)

theorem Covered.refl (xs : List UInt8) : Covered xs xs := by
  induction xs with
  | nil => exact covered_nil
  | cons x xs ih => exact List.Forall₂.cons (UInt8.le_refl x) ih

theorem Covered.drop {xs ys : List UInt8} (h : Covered xs ys) (n : ℕ) :
    Covered (xs.drop n) (ys.drop n) := List.forall₂_drop n h

theorem Covered.get {n : ℕ} {xs ys : ByteArr n} (h : Covered xs.toList ys.toList) (i : Fin n) :
    xs.get i ≤ ys.get i := by
  rw [List.Vector.get_eq_get_toList, List.Vector.get_eq_get_toList]
  exact List.Forall₂.get h _ _

/-! ## Dominance -/

/-- A level is at least another one on the SVNs that the search compares. -/
def TcbLevel.AtLeast (tee : Option (ByteArr 16)) (m l : TcbLevel) : Prop :=
  Covered l.cpuSvn m.cpuSvn ∧ l.pceSvn ≤ m.pceSvn ∧
    ∀ t ∈ tee, Covered (l.tdxSvns.drop (firstTdxComponent t))
      (m.tdxSvns.drop (firstTdxComponent t))

/-- A level is at least another one, and greater on some SVN that the search compares. -/
def TcbLevel.StrictlyDominates (tee : Option (ByteArr 16)) (m l : TcbLevel) : Prop :=
  m.AtLeast tee l ∧ ¬ l.AtLeast tee m

instance (tee : Option (ByteArr 16)) (m l : TcbLevel) : Decidable (m.AtLeast tee l) :=
  inferInstanceAs (Decidable (_ ∧ _ ∧ _))

instance (tee : Option (ByteArr 16)) (m l : TcbLevel) : Decidable (m.StrictlyDominates tee l) :=
  inferInstanceAs (Decidable (_ ∧ _))

section Dominance

variable {p : TcbLevel → Prop} {levels : List TcbLevel} {l m : TcbLevel}

/-- A level that is not below the first one differs from it in TDX components only. -/
theorem first_agrees (hl : IsFirst TcbLevel.key p levels l) (hm : m ∈ levels) (hp : p m)
    (hcpu : Covered l.cpuSvn m.cpuSvn) (hpce : l.pceSvn ≤ m.pceSvn) :
    m.cpuSvn = l.cpuSvn ∧ m.pceSvn = l.pceSvn ∧
      ¬ l.tdxSvns.map UInt8.toNat < m.tdxSvns.map UInt8.toNat := by
  have hle := not_lt.mpr (hl.2.2 m hm hp)
  rw [TcbLevel.key, TcbLevel.key, OrderDual.toDual_lt_toDual, Prod.Lex.toLex_lt_toLex,
    Prod.Lex.toLex_lt_toLex, not_or, not_and, not_or, not_and] at hle
  obtain ⟨hnotcpu, hrest⟩ := hle
  have hcpu := not_lt.mp (not_lt_of_forall₂_le (covered_iff_toNat.mp hcpu))
  have hcpueq := hcpu.antisymm (not_lt.mp hnotcpu)
  obtain ⟨hnotpce, htdx⟩ := hrest hcpueq
  have hpceeq : l.pceSvn.toNat = m.pceSvn.toNat :=
    (UInt32.le_iff_toNat_le.mp hpce).antisymm (not_lt.mp hnotpce)
  exact ⟨(TcbLevel.map_toNat_inj.mp hcpueq).symm, (UInt32.toNat_inj.mp hpceeq).symm, htdx hpceeq⟩

/-- Only where the search skips TDX components can a satisfied level dominate the
    first one, and the skipped components are then why it comes later. -/
theorem first_dominated {tee : Option (ByteArr 16)} (hl : IsFirst TcbLevel.key p levels l)
    (hm : m ∈ levels) (hp : p m) (hlen : l.tdxSvns.length = m.tdxSvns.length)
    (h : m.StrictlyDominates tee l) :
    ∃ t ∈ tee, majorSvn t > 0 ∧ m.cpuSvn = l.cpuSvn ∧ m.pceSvn = l.pceSvn ∧
      m.tdxSvns.take 2 < l.tdxSvns.take 2 := by
  obtain ⟨⟨hcpu, hpce, htdx⟩, hnot⟩ := h
  obtain ⟨hcpueq, hpceeq, hnotlt⟩ := first_agrees hl hm hp hcpu hpce
  have hself : ∀ xs : List UInt8, Covered xs xs := Covered.refl
  cases tee with
  | none =>
    refine absurd ⟨?_, ?_, fun t ht => ?_⟩ hnot
    · rw [hcpueq]
      exact hself _
    · rw [hpceeq]
      exact UInt32.le_refl _
    · cases ht
  | some t =>
    have hcov := covered_iff_toNat.mp (htdx t rfl)
    rw [List.map_drop, List.map_drop] at hcov
    have hne : (l.tdxSvns.map UInt8.toNat).drop (firstTdxComponent t) ≠
        (m.tdxSvns.map UInt8.toNat).drop (firstTdxComponent t) := by
      intro heq
      rw [← List.map_drop, ← List.map_drop, TcbLevel.map_toNat_inj] at heq
      refine hnot ⟨?_, ?_, fun t' ht' => ?_⟩
      · rw [hcpueq]
        exact hself _
      · rw [hpceeq]
        exact UInt32.le_refl _
      · cases ht'
        rw [heq]
        exact hself _
    have hlen : (m.tdxSvns.map UInt8.toNat).length = (l.tdxSvns.map UInt8.toNat).length := by
      rw [List.length_map, List.length_map, hlen]
    have htake := take_lt_of_drop_le hlen hnotlt hcov hne
    by_cases hmajor : majorSvn t > 0
    · refine ⟨t, rfl, hmajor, hcpueq, hpceeq, ?_⟩
      rw [firstTdxComponent, if_pos hmajor, ← List.map_take, ← List.map_take,
        TcbLevel.map_toNat_lt] at htake
      exact htake
    · rw [firstTdxComponent, if_neg hmajor, List.take_zero, List.take_zero] at htake
      exact absurd htake (lt_irrefl _)

end Dominance

/-- The levels of one TCB Info have the same number of TDX components. -/
theorem TcbLevel.WellFormed.tdxSvns_length_eq {version : UInt32} {id : Bytes} {l m : TcbLevel}
    (hl : l.WellFormed version id) (hm : m.WellFormed version id) :
    l.tdxSvns.length = m.tdxSvns.length := by
  rw [TcbLevel.tdxSvns, TcbLevel.tdxSvns, List.length_map, List.length_map]
  by_cases h : version = versionV3 ∧ id = tdxId
  · rw [hl.tdx_length h.1 h.2, hm.tdx_length h.1 h.2]
  · rw [hl.tdx_nil h, hm.tdx_nil h]

/-! ## The loops of the code -/

/-- The SVNs that the platform search looks at. -/
def platformSvns (tcbComponents : ByteArr 16) (pceSvn : UInt32)
    (teeTcbSvns : Option (ByteArr 16)) : PlatformSvns :=
  { tcbComponents, pceSvn, qeSvn := 0, teeTcbSvns }

section Loops

variable {info : TcbInfo} (hinfo : info.WellFormed) {cpu : ByteArr 16} {pceSvn : UInt32}
include hinfo

theorem sgxLevelSatisfied_iff {m : TcbLevel} (hm : m ∈ info.tcbLevels) :
    sgxLevelSatisfied cpu.toList pceSvn m = .ok true ↔
      (platformSvns cpu pceSvn none).Satisfies m := by
  have hcond := sgxCondition_eq (platformSvns cpu pceSvn none) hinfo rfl m hm
  change sgxLevelSatisfied cpu.toList pceSvn m = _ at hcond
  rw [hcond, Except.ok.injEq, decide_eq_true_iff]

theorem firstWhere_sgx_iff {l : TcbLevel} :
    firstWhere (sgxLevelSatisfied cpu.toList pceSvn) info.tcbLevels = .ok (some l) ↔
      IsFirst TcbLevel.key (platformSvns cpu pceSvn none).Satisfies info.tcbLevels l := by
  have hfirst := firstWhere_eq (sgxCondition_eq (platformSvns cpu pceSvn none) hinfo rfl)
  change firstWhere (sgxLevelSatisfied cpu.toList pceSvn) _ = _ at hfirst
  rw [hfirst, Except.ok.injEq, find?_eq_some_iff hinfo.levels_sorted]

variable (hversion : info.version = versionV3) (hid : info.id = tdxId) {tee : ByteArr 16}
include hversion hid

theorem tdxLevelSatisfied_iff {m : TcbLevel} (hm : m ∈ info.tcbLevels) :
    tdxLevelSatisfied cpu.toList pceSvn tee.toList (firstTdxComponent tee) m = .ok true ↔
      (platformSvns cpu pceSvn (some tee)).Satisfies m := by
  have hcond := tdxCondition_eq (platformSvns cpu pceSvn (some tee)) hinfo rfl hversion
    hid m hm
  change tdxLevelSatisfied cpu.toList pceSvn tee.toList (firstTdxComponent tee) m = _ at hcond
  rw [hcond, Except.ok.injEq, decide_eq_true_iff]

theorem firstWhere_tdx_iff {l : TcbLevel} :
    firstWhere (tdxLevelSatisfied cpu.toList pceSvn tee.toList (firstTdxComponent tee))
        info.tcbLevels = .ok (some l) ↔
      IsFirst TcbLevel.key (platformSvns cpu pceSvn (some tee)).Satisfies info.tcbLevels l := by
  have hfirst := firstWhere_eq
    (tdxCondition_eq (platformSvns cpu pceSvn (some tee)) hinfo rfl hversion hid)
  change firstWhere (tdxLevelSatisfied cpu.toList pceSvn tee.toList (firstTdxComponent tee)) _ = _
    at hfirst
  rw [hfirst, Except.ok.injEq, find?_eq_some_iff hinfo.levels_sorted]

end Loops

/-! ## The evaluations after their loop -/

/-- What an evaluation makes of the level at which its loop stops, if it stops at one: it goes
    on with this level, or returns `STATUS_TCB_NOT_SUPPORTED` with its outputs unchanged. -/
def goesOn (out : TcbEvaluation) (rest : SelectedLevel → Except Exn (Status × TcbEvaluation)) :
    Option TcbLevel → Status × TcbEvaluation
  | none => (.tcbNotSupported, out)
  | some l => catchNotSupported out (rest l.selected)

/-- The rest of `sgxEvaluateTCB`. -/
def sgxRest (qeSvn : UInt16) (qeIdentity : Option EnclaveIdentity) (platform : SelectedLevel) :
    Except Exn (Status × TcbEvaluation) := do
  let components ← applyQeIdentity qeIdentity qeSvn
    { statuses := [], tcbDates := [], qeAdvisoryIds := [] }
  pure (.ok, finalizeTcbEvaluation platform components [])

/-- The rest of `tdxEvaluateTCB`. -/
def tdxRest (qeSvn : UInt16) (teeTcbSvns : Bytes) (tcbInfo : TcbInfo)
    (qeIdentity : Option EnclaveIdentity) (out : TcbEvaluation) (platform : SelectedLevel) :
    Except Exn (Status × TcbEvaluation) := do
  match ← evaluateTdxModule teeTcbSvns tcbInfo with
  | none => pure (.tcbNotSupported, out)
  | some tdxModule => do
    let components ← applyQeIdentity qeIdentity qeSvn
      { statuses := tdxModule.map SelectedLevel.status
        tcbDates := tdxModule.map SelectedLevel.tcbDate
        qeAdvisoryIds := [] }
    pure (.ok, finalizeTcbEvaluation platform components
      (tdxModule.flatMap SelectedLevel.advisoryIds))

/-- The loop as a search that yields what the evaluation goes on with. -/
theorem selectPlatformLevel_of_firstWhere {condition : TcbLevel → Except Exn Bool}
    {p : TcbLevel → Prop} [DecidablePred p] {info : TcbInfo} (hinfo : info.WellFormed)
    (hcond : ∀ l ∈ info.tcbLevels, condition l = .ok (decide (p l))) (out : TcbEvaluation)
    (rest : SelectedLevel → Except Exn (Status × TcbEvaluation)) :
    ∃ level, firstWhere condition info.tcbLevels = .ok level ∧
      catchNotSupported out (do
        let platform ← selectPlatformLevel condition info.tcbLevels
        if platform.status = .notSupported then pure (.tcbNotSupported, out)
        else rest platform) = goesOn out rest level := by
  have hfirst := firstWhere_eq hcond
  refine ⟨_, hfirst, ?_⟩
  unfold selectPlatformLevel
  rw [hfirst, ok_bind]
  cases hlevel : info.tcbLevels.find? (fun l => decide (p l)) with
  | none => rfl
  | some l =>
    obtain ⟨hmap, hne⟩ := mapToEvaluationStatusOrThrow_platform
      (hinfo.levels_wellFormed l (List.mem_of_find?_eq_some hlevel)).status_mem
    dsimp only
    rw [hmap]
    exact congrArg (catchNotSupported out) (if_neg hne)

/-- **The level of an evaluation.** On parsed collateral the loop of each evaluation ends, in
    `tdxEvaluateTCB` with the components compared from the one that the module's major version
    gives, and the evaluation goes on with the level at which it stops. -/
theorem evaluateTCB_firstWhere {env : JsonEnv} {text : Bytes} {info : TcbInfo}
    (hinfo : TcbInfo.parse env text = .ok info) (identity : Option EnclaveIdentity)
    (cpu : ByteArr 16) (pceSvn : UInt32) (qeSvn : UInt16) (out : TcbEvaluation) :
    (∃ level, firstWhere (sgxLevelSatisfied cpu.toList pceSvn) info.tcbLevels = .ok level ∧
      sgxEvaluateTCB cpu.toList pceSvn qeSvn info identity out =
        goesOn out (sgxRest qeSvn identity) level) ∧
    ∀ tee : ByteArr 16, info.version = versionV3 → info.id = tdxId →
      ∃ level, firstWhere (tdxLevelSatisfied cpu.toList pceSvn tee.toList (firstTdxComponent tee))
          info.tcbLevels = .ok level ∧
        tdxEvaluateTCB cpu.toList pceSvn qeSvn tee.toList info identity out =
          goesOn out (tdxRest qeSvn tee.toList info identity out) level := by
  have hinfo := TcbInfo.parse_wellFormed hinfo
  constructor
  · exact selectPlatformLevel_of_firstWhere hinfo
      (sgxCondition_eq (platformSvns cpu pceSvn none) hinfo rfl) out (sgxRest qeSvn identity)
  · intro tee hversion hid
    obtain ⟨level, hlevel, hrest⟩ := selectPlatformLevel_of_firstWhere hinfo
      (tdxCondition_eq (platformSvns cpu pceSvn (some tee)) hinfo rfl hversion hid) out
      (tdxRest qeSvn tee.toList info identity out)
    refine ⟨level, hlevel, ?_⟩
    rw [← hrest, tdxEvaluateTCB, vectorAt_major]
    rfl

theorem evaluateTCB_firstWhere_sample :
    let out : TcbEvaluation := { tcbStatus := .ok, tcbDate := 0, advisoryIds := [] }
    let cpuSvn : ByteArr 16 := .replicate 16 0
    ∃ level, firstWhere (tdxLevelSatisfied cpuSvn.toList 0 sampleTeeTcbSvns.toList
        (firstTdxComponent sampleTeeTcbSvns)) sampleInfo.tcbLevels = .ok level ∧
      tdxEvaluateTCB cpuSvn.toList 0 5 sampleTeeTcbSvns.toList sampleInfo
        (some sampleQeIdentity) out =
          goesOn out (tdxRest 5 sampleTeeTcbSvns.toList sampleInfo (some sampleQeIdentity) out)
            level := by
  intro out cpuSvn
  exact (evaluateTCB_firstWhere sampleInfo_parse (some sampleQeIdentity) cpuSvn 0 5 out).2
    sampleTeeTcbSvns (by decide +kernel) (by decide +kernel)

/-! ## Higher SVNs -/

/-- Higher SVNs satisfy what the lower ones do, also where the major version of the
    module rises from 0 and the first two TDX components are no longer compared. -/
theorem PlatformSvns.Satisfies.mono {cpu cpu' : ByteArr 16} {pceSvn pceSvn' : UInt32}
    {tee tee' : Option (ByteArr 16)} (hcpu : Covered cpu.toList cpu'.toList)
    (hpce : pceSvn ≤ pceSvn')
    (htee : ∀ t' ∈ tee', ∃ t ∈ tee, Covered t.toList t'.toList) {l : TcbLevel}
    (h : (platformSvns cpu pceSvn tee).Satisfies l) :
    (platformSvns cpu' pceSvn' tee').Satisfies l := by
  obtain ⟨hlcpu, hlpce, hltee⟩ := h
  refine ⟨hlcpu.trans hcpu, UInt32.le_trans hlpce hpce, fun t' ht' => ?_⟩
  obtain ⟨t, ht, hcov⟩ := htee t' ht'
  have hl := hltee t ht
  have hmajor : majorSvn t ≤ majorSvn t' := hcov.get 1
  have hfirst : firstTdxComponent t ≤ firstTdxComponent t' := by
    rw [firstTdxComponent, firstTdxComponent]
    split_ifs with h1 h2
    · exact le_rfl
    · exact absurd (UInt8.lt_of_lt_of_le h1 hmajor) h2
    · exact Nat.zero_le _
    · exact le_rfl
  have hdrop := (hl.trans (hcov.drop _)).drop (firstTdxComponent t' - firstTdxComponent t)
  rw [List.drop_drop, List.drop_drop, Nat.add_sub_cancel' hfirst] at hdrop
  exact hdrop

/-- What earlier keys mean in the order of the set. -/
theorem greater_of_key_le {info : TcbInfo} (hinfo : info.WellFormed) {l l' : TcbLevel}
    (hl : l ∈ info.tcbLevels) (hl' : l' ∈ info.tcbLevels) (h : l'.key ≤ l.key) :
    l' = l ∨ l'.greater l = true := by
  rcases h.lt_or_eq with hlt | heq
  · exact Or.inr ((TcbLevel.comparesKeys _ _ _ _ (hinfo.levels_wellFormed l' hl')
      (hinfo.levels_wellFormed l hl)).mpr hlt)
  · exact Or.inl (List.inj_on_of_nodup_map hinfo.levels_sorted.nodup hl' hl heq)

/-- A search with higher SVNs selects the same level or an earlier one. -/
theorem first_mono {info : TcbInfo} (hinfo : info.WellFormed) {svns svns' : PlatformSvns}
    {l : TcbLevel} (hl : IsFirst TcbLevel.key svns.Satisfies info.tcbLevels l)
    (h : ∀ m, svns.Satisfies m → svns'.Satisfies m) :
    ∃ l', IsFirst TcbLevel.key svns'.Satisfies info.tcbLevels l' ∧
      (l' = l ∨ l'.greater l = true) := by
  obtain ⟨l', hl'⟩ := exists_isFirst hinfo.levels_sorted ⟨l, hl.1, h l hl.2.1⟩
  have hle := hl.le_of_imp hl' fun m _ => h m
  exact ⟨l', hl', greater_of_key_le hinfo hl.1 hl'.1 hle⟩

/-! ## Parsed collateral -/

/-- No satisfied level strictly dominates the selected one on the compared SVNs, except
    one that the skipped TDX components put behind it. -/
theorem platformLevel_undominated {env : JsonEnv} {text : Bytes} {info : TcbInfo}
    (hinfo : TcbInfo.parse env text = .ok info) (cpu : ByteArr 16) (pceSvn : UInt32) :
    (∀ l, firstWhere (sgxLevelSatisfied cpu.toList pceSvn) info.tcbLevels = .ok (some l) →
      ∀ m ∈ info.tcbLevels, sgxLevelSatisfied cpu.toList pceSvn m = .ok true →
        ¬ m.StrictlyDominates none l) ∧
    ∀ tee : ByteArr 16, info.version = versionV3 → info.id = tdxId → ∀ l,
      firstWhere (tdxLevelSatisfied cpu.toList pceSvn tee.toList (firstTdxComponent tee))
        info.tcbLevels = .ok (some l) →
      ∀ m ∈ info.tcbLevels,
        tdxLevelSatisfied cpu.toList pceSvn tee.toList (firstTdxComponent tee) m = .ok true →
        m.StrictlyDominates (some tee) l →
        majorSvn tee > 0 ∧ m.cpuSvn = l.cpuSvn ∧ m.pceSvn = l.pceSvn ∧
          m.tdxSvns.take 2 < l.tdxSvns.take 2 := by
  have hinfo := TcbInfo.parse_wellFormed hinfo
  have hlen : ∀ l ∈ info.tcbLevels, ∀ m ∈ info.tcbLevels, l.tdxSvns.length = m.tdxSvns.length :=
    fun l hl m hm => (hinfo.levels_wellFormed l hl).tdxSvns_length_eq (hinfo.levels_wellFormed m hm)
  constructor
  · intro l hl m hm hsat hdom
    rw [firstWhere_sgx_iff hinfo] at hl
    rw [sgxLevelSatisfied_iff hinfo hm] at hsat
    obtain ⟨t, ht, _⟩ := first_dominated hl hm hsat (hlen l hl.1 m hm) hdom
    cases ht
  · intro tee hversion hid l hl m hm hsat hdom
    rw [firstWhere_tdx_iff hinfo hversion hid] at hl
    rw [tdxLevelSatisfied_iff hinfo hversion hid hm] at hsat
    obtain ⟨t, ht, hdominated⟩ := first_dominated hl hm hsat (hlen l hl.1 m hm) hdom
    rw [Option.mem_some_iff.mp ht]
    exact hdominated

/-! A TCB Info in which the level that is selected is dominated by the next one, for a
module of major version 1. -/

/-- A TDX platform level with these TDX components. -/
def sampleTdxLevel (tdx : List ℕ) : Json :=
  let component (svn : ℕ) : Json := .object [(str "svn", .int svn)]
  .object [
    (str "tcb", .object [(str "pcesvn", .int 0),
      (str "sgxtcbcomponents", .array (List.replicate 16 (component 0))),
      (str "tdxtcbcomponents", .array (tdx.map component))]),
    (str "tcbDate", .string sampleDate), (str "tcbStatus", .string (str "UpToDate"))]

def sampleFirstTdx : List ℕ := 1 :: List.replicate 15 0
def sampleSecondTdx : List ℕ := 0 :: 0 :: 1 :: List.replicate 13 0

def sampleDominatedDocument : Json :=
  sampleTcbInfo [sampleTdxLevel sampleFirstTdx, sampleTdxLevel sampleSecondTdx]
    [sampleIsvLevel 2 (str "UpToDate") []]

def sampleParsedTdxLevel (tdx : List ℕ) : TcbLevel :=
  { sampleParsedLevel 0 (str "UpToDate") [] with
    tdxTcbComponents := tdx.map fun svn => TcbComponent.ofSvn (UInt8.ofNat svn) }

def sampleDominatedInfo : TcbInfo :=
  { sampleInfo with
    tcbLevels := [sampleParsedTdxLevel sampleFirstTdx, sampleParsedTdxLevel sampleSecondTdx]
    infoBody := ((sampleDominatedDocument.member? (str "tcbInfo")).map Json.render).getD [] }

theorem sampleDominatedInfo_parse :
    TcbInfo.parse (sampleEnv [sampleDominatedDocument]) sampleDominatedDocument.render =
      .ok sampleDominatedInfo := by
  decide +kernel

/-- The TDX module SVNs 1, 1 and a third component 1. -/
def sampleThirdSvn : ByteArr 16 := ⟨1 :: 1 :: 1 :: List.replicate 13 0, rfl⟩

/-- CPU SVNs that are all equal. -/
def sampleCpuSvn (svn : UInt8) : ByteArr 16 := .replicate 16 svn

theorem sampleDominated_firstWhere :
    firstWhere (tdxLevelSatisfied (sampleCpuSvn 0).toList 0 sampleThirdSvn.toList
        (firstTdxComponent sampleThirdSvn)) sampleDominatedInfo.tcbLevels =
      .ok (some (sampleParsedTdxLevel sampleFirstTdx)) := by
  decide +kernel

theorem sampleDominated_mem :
    sampleParsedTdxLevel sampleSecondTdx ∈ sampleDominatedInfo.tcbLevels := by
  unfold sampleDominatedInfo
  simp

theorem sampleDominated_satisfied :
    tdxLevelSatisfied (sampleCpuSvn 0).toList 0 sampleThirdSvn.toList
        (firstTdxComponent sampleThirdSvn) (sampleParsedTdxLevel sampleSecondTdx) =
      .ok true := by
  decide +kernel

theorem sampleDominated_dominates :
    (sampleParsedTdxLevel sampleSecondTdx).StrictlyDominates (some sampleThirdSvn)
      (sampleParsedTdxLevel sampleFirstTdx) := by
  decide +kernel

theorem platformLevel_dominated :
    ¬ ∀ (env : JsonEnv) (text : Bytes) (info : TcbInfo), TcbInfo.parse env text = .ok info →
      ∀ (cpu tee : ByteArr 16) (pceSvn : UInt32), info.version = versionV3 → info.id = tdxId →
      ∀ l, firstWhere (tdxLevelSatisfied cpu.toList pceSvn tee.toList (firstTdxComponent tee))
        info.tcbLevels = .ok (some l) →
      ∀ m ∈ info.tcbLevels,
        tdxLevelSatisfied cpu.toList pceSvn tee.toList (firstTdxComponent tee) m = .ok true →
        ¬ m.StrictlyDominates (some tee) l := by
  intro h
  have hinfo := h _ _ _ sampleDominatedInfo_parse (sampleCpuSvn 0) sampleThirdSvn 0 rfl rfl
  exact hinfo _ sampleDominated_firstWhere _ sampleDominated_mem sampleDominated_satisfied
    sampleDominated_dominates

theorem platformLevel_undominated_sample :
    majorSvn sampleThirdSvn > 0 ∧
      (sampleParsedTdxLevel sampleSecondTdx).cpuSvn =
        (sampleParsedTdxLevel sampleFirstTdx).cpuSvn ∧
      (sampleParsedTdxLevel sampleSecondTdx).pceSvn =
        (sampleParsedTdxLevel sampleFirstTdx).pceSvn ∧
      (sampleParsedTdxLevel sampleSecondTdx).tdxSvns.take 2 <
        (sampleParsedTdxLevel sampleFirstTdx).tdxSvns.take 2 :=
  (platformLevel_undominated sampleDominatedInfo_parse (sampleCpuSvn 0) 0).2 sampleThirdSvn rfl
    rfl _ sampleDominated_firstWhere _ sampleDominated_mem sampleDominated_satisfied
    sampleDominated_dominates

/-- Raising SVNs never selects a later level. -/
theorem platformLevel_monotone {env : JsonEnv} {text : Bytes} {info : TcbInfo}
    (hinfo : TcbInfo.parse env text = .ok info) (cpu cpu' : ByteArr 16) (pceSvn pceSvn' : UInt32)
    (hcpu : Covered cpu.toList cpu'.toList) (hpce : pceSvn ≤ pceSvn') :
    (∀ l, firstWhere (sgxLevelSatisfied cpu.toList pceSvn) info.tcbLevels = .ok (some l) →
      ∃ l', firstWhere (sgxLevelSatisfied cpu'.toList pceSvn') info.tcbLevels = .ok (some l') ∧
        (l' = l ∨ l'.greater l = true)) ∧
    ∀ tee tee' : ByteArr 16, info.version = versionV3 → info.id = tdxId →
      Covered tee.toList tee'.toList → ∀ l,
      firstWhere (tdxLevelSatisfied cpu.toList pceSvn tee.toList (firstTdxComponent tee))
        info.tcbLevels = .ok (some l) →
      ∃ l', firstWhere (tdxLevelSatisfied cpu'.toList pceSvn' tee'.toList
          (firstTdxComponent tee')) info.tcbLevels = .ok (some l') ∧
        (l' = l ∨ l'.greater l = true) := by
  have hinfo := TcbInfo.parse_wellFormed hinfo
  constructor
  · intro l hl
    rw [firstWhere_sgx_iff hinfo] at hl
    have hmono : ∀ m, (platformSvns cpu pceSvn none).Satisfies m →
        (platformSvns cpu' pceSvn' none).Satisfies m := fun m => .mono hcpu hpce (by simp)
    obtain ⟨l', hl', hle⟩ := first_mono hinfo hl hmono
    exact ⟨l', (firstWhere_sgx_iff hinfo).mpr hl', hle⟩
  · intro tee tee' hversion hid htee l hl
    rw [firstWhere_tdx_iff hinfo hversion hid] at hl
    have hmono : ∀ m, (platformSvns cpu pceSvn (some tee)).Satisfies m →
        (platformSvns cpu' pceSvn' (some tee')).Satisfies m :=
      fun m => .mono hcpu hpce (by simpa using htee)
    obtain ⟨l', hl', hle⟩ := first_mono hinfo hl hmono
    exact ⟨l', (firstWhere_tdx_iff hinfo hversion hid).mpr hl', hle⟩

theorem platformLevel_monotone_sample :
    ∃ l', firstWhere (tdxLevelSatisfied (sampleCpuSvn 1).toList 1 (sampleCpuSvn 1).toList
        (firstTdxComponent (sampleCpuSvn 1))) sampleInfo.tcbLevels = .ok (some l') ∧
      (l' = sampleParsedLevel 0 (str "OutOfDate") [str "INTEL-SA-1"] ∨
        l'.greater (sampleParsedLevel 0 (str "OutOfDate") [str "INTEL-SA-1"]) = true) :=
  (platformLevel_monotone sampleInfo_parse (sampleCpuSvn 0) (sampleCpuSvn 1) 0 1 (by decide +kernel)
    (by decide)).2 (sampleCpuSvn 0) (sampleCpuSvn 1) rfl rfl (by decide +kernel) _
    (by decide +kernel)

end DcapQvl
