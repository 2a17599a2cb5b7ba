import DcapQvl.Common.Hex

/-!
# Status codes and exceptions

`Status` of `SgxEcdsaAttestation/QuoteVerification.h`, the exceptions the
library throws, and `printTCBStatus` of `Utils/StatusPrinter.cpp`.
-/

namespace DcapQvl

/-- `enum Status`, in the order of the header. -/
inductive Status
  | ok | unsupportedCertFormat | sgxRootCaMissing | sgxRootCaInvalid | sgxRootCaInvalidExtensions
  | sgxRootCaInvalidIssuer | sgxRootCaUntrusted | sgxIntermediateCaMissing
  | sgxIntermediateCaInvalid | sgxIntermediateCaInvalidExtensions
  | sgxIntermediateCaInvalidIssuer | sgxIntermediateCaRevoked | sgxPckMissing | sgxPckInvalid
  | sgxPckInvalidExtensions | sgxPckInvalidIssuer | sgxPckRevoked | trustedRootCaInvalid
  | sgxPckCertChainUntrusted | sgxTcbInfoUnsupportedFormat | sgxTcbInfoInvalid
  | tcbInfoInvalidSignature | sgxTcbSigningCertMissing | sgxTcbSigningCertInvalid
  | sgxTcbSigningCertInvalidExtensions | sgxTcbSigningCertInvalidIssuer
  | sgxTcbSigningCertChainUntrusted | sgxTcbSigningCertRevoked | sgxCrlUnsupportedFormat
  | sgxCrlUnknownIssuer | sgxCrlInvalid | sgxCrlInvalidExtensions | sgxCrlInvalidSignature
  | sgxCaCertUnsupportedFormat | sgxCaCertInvalid | trustedRootCaUnsupportedFormat
  | missingParameters | unsupportedQuoteFormat | unsupportedPckCertFormat | invalidPckCert
  | unsupportedPckRlFormat | invalidPckCrl | unsupportedTcbInfoFormat | pckRevoked
  | tcbInfoMismatch | tcbOutOfDate | tcbRevoked | tcbConfigurationNeeded
  | tcbOutOfDateConfigurationNeeded | tcbNotSupported | tcbUnrecognizedStatus
  | unsupportedQeCertification | invalidQeCertificationDataSize
  | unsupportedQeCertificationDataType | pckCertMismatch | invalidQeReportSignature
  | invalidQeReportData | invalidQuoteSignature | sgxQeIdentityUnsupportedFormat
  | sgxQeIdentityInvalid | sgxQeIdentityInvalidSignature | sgxEnclaveReportUnsupportedFormat
  | sgxEnclaveIdentityUnsupportedFormat | sgxEnclaveIdentityInvalid
  | sgxEnclaveIdentityUnsupportedVersion | sgxEnclaveIdentityOutOfDate
  | sgxEnclaveReportMiscselectMismatch | sgxEnclaveReportAttributesMismatch
  | sgxEnclaveReportMrenclaveMismatch | sgxEnclaveReportMrsignerMismatch
  | sgxEnclaveReportIsvprodidMismatch | sgxEnclaveReportIsvsvnOutOfDate
  | unsupportedQeIdentityFormat | qeIdentityOutOfDate | qeIdentityMismatch | sgxTcbInfoExpired
  | sgxEnclaveIdentityInvalidSignature | invalidParameter | sgxPckCertChainExpired
  | sgxCrlExpired | sgxSigningCertChainExpired | sgxEnclaveIdentityExpired | tcbSwHardeningNeeded
  | tcbConfigurationAndSwHardeningNeeded | sgxEnclaveReportIsvsvnRevoked | tdxModuleMismatch
  | sgxEnclaveReportIsvsvnNotSupported | tcbTdRelaunchAdvised
  | tcbTdRelaunchAdvisedConfigurationNeeded
  deriving DecidableEq, Repr

/-- The exceptions, each with the text of its `what()`. -/
inductive Exn
  /-- `parser::FormatException`. -/
  | format (what : Bytes)
  /-- `parser::InvalidExtensionException`. -/
  | invalidExtension (what : Bytes)
  /-- `parser::InvalidVersionException`. -/
  | invalidVersion (what : Bytes)
  /-- `parser::json::StatusNotSupportedException`. -/
  | statusNotSupported (what : Bytes)
  /-- `RuntimeException`, which carries a status. -/
  | runtime (status : Status)
  /-- `VerCollInfoSizeException`. -/
  | verCollInfoSize (what : Bytes)
  /-- `std::runtime_error`. -/
  | runtimeError (what : Bytes)
  /-- `std::invalid_argument`. -/
  | invalidArgument (what : Bytes)
  /-- `std::out_of_range` of a checked `at`. -/
  | outOfRange
  /-- Not an exception: an unchecked read outside a vector, which is undefined. -/
  | undefined
  deriving DecidableEq, Repr

/-- `std::to_string`. -/
def toStr (n : ℕ) : Bytes := str (toString n)

/-- `STATUS_TO_TCB_STRING_MAP`. -/
def statusToTcbStringMap : List (Status × Bytes) :=
  [(.ok, str "UpToDate"),
    (.tcbOutOfDate, str "OutOfDate"),
    (.tcbRevoked, str "Revoked"),
    (.tcbConfigurationNeeded, str "ConfigurationNeeded"),
    (.tcbOutOfDateConfigurationNeeded, str "OutOfDateConfigurationNeeded"),
    (.tcbSwHardeningNeeded, str "SWHardeningNeeded"),
    (.tcbConfigurationAndSwHardeningNeeded, str "ConfigurationAndSWHardeningNeeded"),
    (.tcbTdRelaunchAdvised, str "TDRelaunchAdvised"),
    (.tcbTdRelaunchAdvisedConfigurationNeeded, str "TDRelaunchAdvisedConfigurationNeeded")]

/-- `printTCBStatus(s)`. -/
def printTCBStatus (s : Status) : Except Exn Bytes :=
  match statusToTcbStringMap.lookup s with
  | some name => .ok name
  | none => .error (.invalidArgument (str "Unsupported TCB status: " ++ toStr s.ctorIdx))

/-- The statuses of the table: the verdicts of a TCB evaluation. -/
def Status.IsTcbVerdict (s : Status) : Prop := s ∈ statusToTcbStringMap.map Prod.fst

instance (s : Status) : Decidable s.IsTcbVerdict :=
  inferInstanceAs (Decidable (s ∈ statusToTcbStringMap.map Prod.fst))

/-- `printTCBStatus` throws nothing on a verdict. -/
theorem printTCBStatus_verdict {s : Status} (h : s.IsTcbVerdict) :
    ∃ name, printTCBStatus s = .ok name ∧ (s, name) ∈ statusToTcbStringMap := by
  obtain ⟨⟨t, name⟩, hmem, rfl⟩ := List.mem_map.mp h
  fin_cases hmem <;> exact ⟨_, rfl, by decide⟩

end DcapQvl
