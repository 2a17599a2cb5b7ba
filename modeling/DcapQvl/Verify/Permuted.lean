import DcapQvl.Json.Duplicates
import DcapQvl.Json.Permuted
import DcapQvl.Tcb.Check
import DcapQvl.Verify.EnclaveReport

/-!
# The order of the TCB levels

The verdicts depend on the sets of TCB levels, not on their order in the documents.

Results:
* `SameInfo.checkTcbLevel`, `SameIdentity.checkTcbLevel`: what the check reads.
* `permutedLevels_agree`: documents that differ in the order of their levels lead to
  the same results, and are rejected for duplicates exactly when two levels have the
  same SVNs.
-/

namespace DcapQvl

open Lib

/-! ## What is read of a document -/

section Reads

variable {tcbInfo tcbInfo' : TcbInfo} {i j : EnclaveIdentity}

theorem SameInfo.checkTcbLevel (h : TcbInfo.SameInfo tcbInfo tcbInfo') (pckCert : PckCertificate)
    (quote : Quote) (enclaveIdentity : Option EnclaveIdentity) (info : VerificationCollateralInfo) :
    checkTcbLevel tcbInfo' pckCert quote enclaveIdentity info =
      checkTcbLevel tcbInfo pckCert quote enclaveIdentity info := by
  rw [h]
  rfl

theorem SameIdentity.verify (h : EnclaveIdentity.SameIdentity i j) (report : EnclaveReport) :
    EnclaveReportVerifier.verify j report = EnclaveReportVerifier.verify i report := by
  rw [h]
  rfl

theorem SameIdentity.checkTcbLevel (h : EnclaveIdentity.SameIdentity i j) (tcbInfo : TcbInfo)
    (pckCert : PckCertificate) (quote : Quote) (info : VerificationCollateralInfo) :
    checkTcbLevel tcbInfo pckCert quote (some j) info =
      checkTcbLevel tcbInfo pckCert quote (some i) info := by
  rw [h]
  rfl

end Reads

/-! ## Repeated levels -/

section Repeated

variable (env : JsonEnv) (text : Bytes)

/-- A TCB Info is in order up to its levels, and of these two have the same CPU SVN and
    PCE SVN and, for TDX, the same TDX component SVNs. -/
def TcbInfo.RepeatsLevel : Prop :=
  ∃ v sig, TcbInfo.parseDocument env text = .ok (v, sig) ∧
  ∃ self tcbs, TcbInfo.parseUntilLevels env v sig = .ok (self, tcbs) ∧
  ∃ elems, tcbs.elems? = some elems ∧
  ∃ n ls, (elems.take n).mapM (TcbLevel.parse env self.version self.id) = .ok ls ∧
    HasPair (TcbLevel.SameSvns self.id) ls

/-- An identity of a TDX module is in order up to its levels, and of these two have the
    same ISV SVN. -/
def TdxModuleIdentity.RepeatsLevel (v : Json) : Prop :=
  ∃ self, TdxModuleIdentity.parseFields v = .ok self ∧
  ∃ elems, TdxModuleIdentity.levelsOf v = .ok elems ∧
  ∃ n ls, (elems.take n).mapM (TdxModuleTcbLevel.parse env) = .ok ls ∧
    HasPair (fun l m => l.tcb.isvsvn = m.tcb.isvsvn) ls

/-- A TCB Info is in order up to an identity of a TDX module that repeats a level. -/
def TcbInfo.RepeatsModuleLevel : Prop :=
  ∃ v sig, TcbInfo.parseDocument env text = .ok (v, sig) ∧
  ∃ self tcbs, TcbInfo.parseUntilPartV3 env v sig = .ok (self, tcbs) ∧
    self.version ≥ versionV3 ∧ self.id = tdxId ∧
  ∃ tdxModule, TcbInfo.parseTdxModule v = .ok tdxModule ∧
  ∃ ids, v.member? (str "tdxModuleIdentities") = some ids ∧
  ∃ elems, ids.elems? = some elems ∧
  ∃ n i is, elems[n]? = some i ∧ (elems.take n).mapM (TdxModuleIdentity.parse env) = .ok is ∧
    TdxModuleIdentity.RepeatsLevel env i

/-- An Enclave Identity is in order up to its levels, and of these two have the same
    ISV SVN and date. -/
def EnclaveIdentity.RepeatsLevel : Prop :=
  ∃ v sig, EnclaveIdentity.parseDocument env text = .ok (v, sig) ∧
  ∃ self, EnclaveIdentity.parseFields env v sig = .ok self ∧
  ∃ elems, EnclaveIdentity.levelsOf v = .ok elems ∧
  ∃ n ls, (elems.take n).mapM (IdentityTcbLevel.parse env) = .ok ls ∧
    HasPair (fun l m => l.isvSvn = m.isvSvn ∧ l.tcbDate = m.tcbDate) ls

end Repeated

/-- Two TCB Infos lead to the same status and the same recorded information. -/
def SameChecks (t u : TcbInfo) : Prop :=
  ∀ pckCert quote enclaveIdentity info, checkTcbLevel u pckCert quote enclaveIdentity info =
    checkTcbLevel t pckCert quote enclaveIdentity info

/-- Two identities lead to the same statuses and the same recorded information. -/
def SameIdentityChecks (i j : EnclaveIdentity) : Prop :=
  (∀ report, EnclaveReportVerifier.verify j report = EnclaveReportVerifier.verify i report) ∧
  ∀ tcbInfo pckCert quote info, checkTcbLevel tcbInfo pckCert quote (some j) info =
    checkTcbLevel tcbInfo pckCert quote (some i) info

/-- **The order of the levels does not matter.** Two documents that differ in the order
    of their TCB levels are both rejected, or both parsed with the same results
    afterwards; the duplicates that are reported are the levels with the same SVNs. -/
theorem permutedLevels_agree (env : JsonEnv) :
    (∀ text text' d d', env.parse text = some d → env.parse text' = some d' →
      DocumentPermuted "tcbInfo" TcbInfoPermuted d d' →
      Agree SameChecks (TcbInfo.parse env text) (TcbInfo.parse env text')) ∧
    (∀ text text' d d', env.parse text = some d → env.parse text' = some d' →
      DocumentPermuted "enclaveIdentity" LevelsPermuted d d' →
      Agree SameIdentityChecks (EnclaveIdentity.parse env text)
        (EnclaveIdentity.parse env text')) ∧
    ∀ text,
      (TcbInfo.parse env text = .error TcbInfo.duplicatedLevels ↔
        TcbInfo.RepeatsLevel env text) ∧
      (TcbInfo.parse env text = .error TdxModuleIdentity.duplicatedLevels ↔
        TcbInfo.RepeatsModuleLevel env text) ∧
      (EnclaveIdentity.parse env text = .error EnclaveIdentity.duplicatedLevels ↔
        EnclaveIdentity.RepeatsLevel env text) := by
  refine ⟨fun text text' d d' hd hd' h => ?_, fun text text' d d' hd hd' h => ?_,
    fun text => ⟨TcbInfo.parse_eq_duplicate, ?_, EnclaveIdentity.parse_eq_duplicate⟩⟩
  · exact (TcbInfo.parse_permuted env hd hd' h).mono fun t u htu => SameInfo.checkTcbLevel htu
  · exact (EnclaveIdentity.parse_permuted env hd hd' h).mono fun i j hij =>
      ⟨SameIdentity.verify hij, SameIdentity.checkTcbLevel hij⟩
  · rw [TcbInfo.parse_eq_moduleDuplicate]
    simp only [TdxModuleIdentity.parse_eq_duplicate]
    rfl

/-- The sample TCB Info with its platform levels in the other order. -/
def sampleSwappedDocument : Json := sampleTcbInfo
  [sampleLevel 1 (str "UpToDate") [], sampleLevel 0 (str "OutOfDate") [str "INTEL-SA-1"]]
  [sampleIsvLevel 2 (str "UpToDate") []]

theorem sampleSwapped_permuted :
    DocumentPermuted "tcbInfo" TcbInfoPermuted sampleTcbInfoDocument sampleSwappedDocument := by
  have hlevels : PermutedArray
      (.array [sampleLevel 0 (str "OutOfDate") [str "INTEL-SA-1"], sampleLevel 1 (str "UpToDate") []])
      (.array [sampleLevel 1 (str "UpToDate") [],
        sampleLevel 0 (str "OutOfDate") [str "INTEL-SA-1"]]) :=
    .array (List.Perm.swap _ _ _)
  refine .object (.cons ⟨rfl, Or.inr ⟨rfl, Or.inr (.object ?_)⟩⟩ (.cons ⟨rfl, Or.inl rfl⟩ .nil))
  -- only the last member, the levels, differs
  iterate 10 refine .cons ⟨rfl, Or.inl rfl⟩ ?_
  exact .cons ⟨rfl, Or.inr (Or.inl ⟨rfl, hlevels⟩)⟩ .nil

/-- Both orders of the sample are parsed alike. -/
theorem permutedLevels_agree_sample :
    Agree SameChecks
      (TcbInfo.parse (sampleEnv [sampleTcbInfoDocument, sampleSwappedDocument])
        sampleTcbInfoDocument.render)
      (TcbInfo.parse (sampleEnv [sampleTcbInfoDocument, sampleSwappedDocument])
        sampleSwappedDocument.render) := by
  refine (permutedLevels_agree _).1 _ _ sampleTcbInfoDocument sampleSwappedDocument ?_ ?_
    sampleSwapped_permuted
  · refine sampleEnv_parse (by decide +kernel) (by decide +kernel) rfl ?_
    exact List.find?_cons_of_pos (by simp)
  · refine sampleEnv_parse (by decide +kernel) (by decide +kernel) rfl ?_
    rw [List.find?_cons_of_neg (by decide +kernel)]
    exact List.find?_cons_of_pos (by simp)

end DcapQvl
