import DcapQvl.Tcb.Guarded
import DcapQvl.Verify.Verdicts

/-!
# Internal errors of an evaluation

A handler that turns every exception into `STATUS_TCB_NOT_SUPPORTED` would also hide a
broken invariant. What the parsers guarantee (the version and the identifier, the 16
components of a level) is here carried to each place where the code relies on it.

Results:
* `checkTee_avoids_error`, `checkTdxModule_avoids_error`: the checks on the TCB Info never throw.
* `sgxEvaluateTCB_guards`, `tdxEvaluateTCB_guards`: what the handlers catch.
* `evaluation_guarded`: all of it, for a quote that passes the check of the TEE.
-/

namespace DcapQvl

open Lib QuoteVerifier

/-! ## Accessors -/

section Accessors

variable {tcbInfo : TcbInfo} {quote : Quote}

theorem getId_eq (hversion : tcbInfo.version = versionV3) : tcbInfo.getId = .ok tcbInfo.id := by
  rw [TcbInfo.getId, if_pos hversion]

theorem getTdxModule_eq (hversion : tcbInfo.version = versionV3) (hid : tcbInfo.id = tdxId) :
    tcbInfo.getTdxModule = .ok tcbInfo.tdxModule := by
  rw [TcbInfo.getTdxModule, throwUnless, if_pos (by rw [hversion]; decide), throwUnless,
    if_pos hid]
  rfl

/-- A version that has identifiers is version 3. -/
theorem TcbInfo.WellFormed.version_eq (hinfo : tcbInfo.WellFormed)
    (hversion : tcbInfo.version ≥ versionV3) : tcbInfo.version = versionV3 := by
  rcases hinfo.version_mem with h | h
  · rw [h] at hversion
    exact absurd hversion (by decide)
  · exact h

/-- The check of the TEE never throws. -/
theorem checkTee_avoids_error (hinfo : tcbInfo.WellFormed) (e : Exn) :
    Avoids (.error e) (checkTee quote tcbInfo) := by
  unfold checkTee
  by_cases hversion : tcbInfo.version ≥ versionV3
  · rw [if_pos hversion, getId_eq (hinfo.version_eq hversion)]
    exact (Avoids.pure _).bind fun _ _ => (Avoids.returnUnless (by nofun)).bind fun _ _ =>
      Avoids.returnUnless (by nofun)
  · rw [if_neg hversion]
    exact Avoids.returnUnless (by nofun)

/-- The module that a quote is compared with is found or not; nothing is thrown, and
    the handler around the search is not entered. -/
theorem tdxModuleOf_avoids_error {r : Except Exn Status} (hr : .ok .tdxModuleMismatch ≠ r)
    (hversion : tcbInfo.version = versionV3) (hid : tcbInfo.id = tdxId) :
    Avoids r (tdxModuleOf quote tcbInfo) := by
  unfold tdxModuleOf
  rw [getTdxModule_eq hversion hid, getTdxModuleIdentities_eq hversion hid]
  refine (Avoids.pure _).bind fun _ _ => ?_
  dsimp only
  split_ifs
  · split
    · exact Avoids.throw hr
    · exact Avoids.pure _
  · exact Avoids.pure _

/-- The check of the TDX module returns no status but `STATUS_TDX_MODULE_MISMATCH`. -/
theorem checkTdxModule_avoids_error {r : Except Exn Status} (hr : .ok .tdxModuleMismatch ≠ r)
    (hinfo : tcbInfo.WellFormed) : Avoids r (checkTdxModule quote tcbInfo) := by
  unfold checkTdxModule
  by_cases hversion : tcbInfo.version ≥ versionV3
  · have hv3 := hinfo.version_eq hversion
    rw [if_pos hversion, getId_eq hv3]
    refine (Avoids.pure _).bind fun id hgetId => ?_
    cases hgetId
    by_cases hid : tcbInfo.id = tdxId
    · rw [if_pos hid]
      exact (tdxModuleOf_avoids_error hr hv3 hid).bind fun _ _ =>
        (Avoids.returnUnless hr).bind fun _ _ => (Avoids.returnUnless hr).bind fun _ _ =>
          (Avoids.returnUnless hr).bind fun _ _ => Avoids.returnUnless hr
    · rw [if_neg hid]
      exact Avoids.pure ()
  · rw [if_neg hversion]
    exact Avoids.pure ()

/-- After the check of the TEE, the TCB Info is for SGX or TDX as the quote is. -/
theorem checkTee_ok {u : Unit} (hinfo : tcbInfo.WellFormed)
    (hcheck : checkTee quote tcbInfo = .ok u) :
    (quote.header.teeType = teeTypeTdx → tcbInfo.version = versionV3 ∧ tcbInfo.id = tdxId) ∧
      (tcbInfo.version ≥ versionV3 → tcbInfo.id = tdxId → quote.header.teeType = teeTypeTdx) := by
  rw [checkTee] at hcheck
  by_cases hversion : tcbInfo.version ≥ versionV3
  · have hv3 := hinfo.version_eq hversion
    rw [if_pos hversion, getId_eq hv3] at hcheck
    obtain ⟨id, hid, hcheck⟩ := bind_eq_ok.mp hcheck
    cases hid
    obtain ⟨_, htdx, hsgx⟩ := bind_eq_ok.mp hcheck
    have htdx := returnUnless_eq_ok.mp htdx
    have hsgx := returnUnless_eq_ok.mp hsgx
    refine ⟨fun htee => ⟨hv3, hinfo.id_mem.resolve_left fun hid => hsgx ⟨hid, ?_⟩⟩,
      fun _ hid => by_contra fun hne => htdx ⟨hid, hne⟩⟩
    rw [htee]
    decide
  · rw [if_neg hversion] at hcheck
    exact ⟨fun htee => absurd htee (returnUnless_eq_ok.mp hcheck), fun h => absurd h hversion⟩

end Accessors

/-! ## Evaluations -/

/-- An error of the code itself: a read outside a vector, checked or not, or an accessor
    that is called for the wrong kind of TCB Info. -/
def Exn.IsInternal : Exn → Prop
  | .outOfRange | .undefined | .format _ => True
  | _ => False

/-- A result is that of a `try` block in its handler. The block has no internal error;
    what the handler catches is that the QE identity has no level or that a level has an
    unknown status. -/
structure Guards (info : TcbInfo) (identity : Option EnclaveIdentity) (svns : PlatformSvns)
    (out : TcbEvaluation) (guarded : Except Exn (Status × TcbEvaluation))
    (result : Status × TcbEvaluation) : Prop where
  eq_catch : result = catchNotSupported out guarded
  caught_iff : ∀ e, guarded = .error e ↔ Caught info identity svns e
  notInternal : ∀ e, guarded = .error e → ¬ e.IsInternal

theorem Guards.of_caught {info : TcbInfo} {identity : Option EnclaveIdentity}
    {svns : PlatformSvns} {out : TcbEvaluation} {guarded : Except Exn (Status × TcbEvaluation)}
    {result : Status × TcbEvaluation} (heq : result = catchNotSupported out guarded)
    (hcaught : ∀ e, guarded = .error e ↔ Caught info identity svns e) :
    Guards info identity svns out guarded result := by
  refine ⟨heq, hcaught, fun e he hinternal => ?_⟩
  cases (hcaught e).mp he with
  | missingQeLevel => exact hinternal
  | unrecognizedStatus => exact hinternal

section Evaluations

variable {tcbInfo : TcbInfo} (hinfo : tcbInfo.WellFormed) (pckCert : PckCertificate)
  (quote : Quote) (enclaveIdentity : Option EnclaveIdentity) (out : TcbEvaluation)
include hinfo

theorem sgxEvaluateTCB_guards :
    let tcb := pckCert.members.tcb
    Guards tcbInfo enclaveIdentity (.ofQuote pckCert quote none) out
      (sgxGuarded tcb.cpuSvnComponents.toList tcb.pceSvn quote.qeReport.isvSvn tcbInfo
        enclaveIdentity out)
      (sgxEvaluateTCB tcb.cpuSvnComponents.toList tcb.pceSvn quote.qeReport.isvSvn tcbInfo
        enclaveIdentity out) := by
  intro tcb
  refine .of_caught (sgxEvaluateTCB_eq_catch ..) fun e => ?_
  exact @sgxGuarded_eq_error _ _ (.ofQuote pckCert quote none) _ _ hinfo rfl

theorem tdxEvaluateTCB_guards (hversion : tcbInfo.version = versionV3) (hid : tcbInfo.id = tdxId)
    (teeTcbSvn : ByteArr 16) :
    let tcb := pckCert.members.tcb
    Guards tcbInfo enclaveIdentity (.ofQuote pckCert quote (some teeTcbSvn)) out
      (tdxGuarded tcb.cpuSvnComponents.toList tcb.pceSvn quote.qeReport.isvSvn teeTcbSvn.toList
        tcbInfo enclaveIdentity out)
      (tdxEvaluateTCB tcb.cpuSvnComponents.toList tcb.pceSvn quote.qeReport.isvSvn
        teeTcbSvn.toList tcbInfo enclaveIdentity out) := by
  intro tcb
  refine .of_caught (tdxEvaluateTCB_eq_catch ..) fun e => ?_
  exact @tdxGuarded_eq_error _ _ (.ofQuote pckCert quote (some teeTcbSvn)) _ _ hinfo _ rfl
    hversion hid

end Evaluations

/-- No internal error is met with a TCB Info whose TEE has been checked. -/
structure EvaluatesSafely (quote : Quote) (pckCert : PckCertificate) (tcbInfo : TcbInfo)
    (enclaveIdentity : Option EnclaveIdentity) : Prop where
  getId : tcbInfo.version ≥ versionV3 → tcbInfo.getId = .ok tcbInfo.id
  getTdxModule : tcbInfo.version ≥ versionV3 → tcbInfo.id = tdxId →
    tcbInfo.getTdxModule = .ok tcbInfo.tdxModule
  getTdxModuleIdentities :
    quote.header.teeType = teeTypeTdx ∨ tcbInfo.version ≥ versionV3 ∧ tcbInfo.id = tdxId →
      tcbInfo.getTdxModuleIdentities = .ok tcbInfo.tdxModuleIdentities
  getSgxTcbComponents : ∀ l ∈ tcbInfo.tcbLevels, ∃ components,
    l.getSgxTcbComponents = .ok components ∧ components.length = cpusvnByteLen
  getTdxTcbComponents : quote.header.teeType = teeTypeTdx → ∀ l ∈ tcbInfo.tcbLevels,
    ∃ components, l.getTdxTcbComponents = .ok components ∧ components.length = cpusvnByteLen
  checkTdxModule : ∀ r, checkTdxModule quote tcbInfo = .error r → r = .ok .tdxModuleMismatch
  sgx : quote.header.teeType = teeTypeSgx → ∀ out, let tcb := pckCert.members.tcb
    Guards tcbInfo enclaveIdentity (.ofQuote pckCert quote none) out
      (sgxGuarded tcb.cpuSvnComponents.toList tcb.pceSvn quote.qeReport.isvSvn tcbInfo
        enclaveIdentity out)
      (sgxEvaluateTCB tcb.cpuSvnComponents.toList tcb.pceSvn quote.qeReport.isvSvn tcbInfo
        enclaveIdentity out)
  tdx : quote.header.teeType = teeTypeTdx → ∀ out,
    ∀ teeTcbSvn ∈ [quote.getTeeTcbSvn, quote.getTeeTcbSvn2], let tcb := pckCert.members.tcb
    Guards tcbInfo enclaveIdentity (.ofQuote pckCert quote (some teeTcbSvn)) out
      (tdxGuarded tcb.cpuSvnComponents.toList tcb.pceSvn quote.qeReport.isvSvn teeTcbSvn.toList
        tcbInfo enclaveIdentity out)
      (tdxEvaluateTCB tcb.cpuSvnComponents.toList tcb.pceSvn quote.qeReport.isvSvn
        teeTcbSvn.toList tcbInfo enclaveIdentity out)

/-- **No internal error is hidden.** On a parsed TCB Info the check of the TEE throws
    nothing. When it passes, every accessor that is called returns, every level has its
    16 components, and the handlers of the evaluations are entered exactly when the QE
    identity has no level for the QE or the level of the TDX module has an unknown
    status. The quote, the certificate and the identity are any. -/
theorem evaluation_guarded {env : JsonEnv} {text : Bytes} {tcbInfo : TcbInfo}
    (hparse : TcbInfo.parse env text = .ok tcbInfo) (quote : Quote) (pckCert : PckCertificate)
    (enclaveIdentity : Option EnclaveIdentity) :
    (∀ e, checkTee quote tcbInfo ≠ .error (.error e)) ∧
      (checkTee quote tcbInfo = .ok () →
        EvaluatesSafely quote pckCert tcbInfo enclaveIdentity) := by
  have hinfo := TcbInfo.parse_wellFormed hparse
  refine ⟨fun e => checkTee_avoids_error hinfo e, fun hcheck => ?_⟩
  obtain ⟨htdx, hquote⟩ := checkTee_ok hinfo hcheck
  constructor
  · intro hversion
    exact getId_eq (hinfo.version_eq hversion)
  · intro hversion hid
    exact getTdxModule_eq (hinfo.version_eq hversion) hid
  · intro h
    obtain ⟨hversion, hid⟩ := htdx (h.elim id fun h => hquote h.1 h.2)
    exact getTdxModuleIdentities_eq hversion hid
  · intro l hl
    have hl := hinfo.levels_wellFormed l hl
    refine ⟨_, hl.components, ?_⟩
    rw [← hl.cpuSvn_length, ← hl.component_svns, List.length_map]
  · intro htee l hl
    obtain ⟨hversion, hid⟩ := htdx htee
    have hl := hinfo.levels_wellFormed l hl
    rw [hversion, hid] at hl
    exact ⟨_, hl.getTdxTcbComponents rfl, hl.tdx_length rfl rfl⟩
  · intro r hr
    by_contra hne
    exact checkTdxModule_avoids_error (fun h => hne h.symm) hinfo hr
  · intro _ out
    exact sgxEvaluateTCB_guards hinfo pckCert quote enclaveIdentity out
  · intro htee out teeTcbSvn _
    obtain ⟨hversion, hid⟩ := htdx htee
    exact tdxEvaluateTCB_guards hinfo pckCert quote enclaveIdentity out hversion hid teeTcbSvn

theorem evaluation_guarded_sample :
    EvaluatesSafely QuoteLayout.sampleUpToDate.quote samplePckCertificate sampleInfo
      (some sampleQeIdentity) :=
  (evaluation_guarded sampleInfo_parse _ _ _).2 (by decide +kernel)

end DcapQvl
