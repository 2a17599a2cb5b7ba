import DcapQvl.Quote.Structures

/-!
# Quote

Model of `QuoteVerification/Quote.{h,cpp}`. `Quote.parse` is a state transformer
of the `Quote` object: a step that fails keeps the members that earlier steps
have assigned. `Quote.validate` and the accessors read the object.
-/

namespace DcapQvl

open Lib

/-- The members of `class Quote`. -/
structure Quote where
  header : Header
  body : Body
  enclaveReport : EnclaveReport
  tdReport10 : TDReport10
  tdReport15 : TDReport15
  tdReport15Ex : TDReport15Ex
  authDataSize : UInt32
  signedData : Bytes
  authDataV3 : Ecdsa256BitQuoteV3AuthData
  authDataV4 : Ecdsa256BitQuoteV4AuthData
  qeReportSignature : ByteArr 64
  qeReport : EnclaveReport
  attestKeyData : ByteArr 64
  qeAuthData : Bytes
  certificationData : CertificationData
  quoteSignature : ByteArr 64
  deriving DecidableEq

/-- `Quote{}`; `authDataSize` has no initializer and is arbitrary. -/
def Quote.initial (authDataSize : UInt32) : Quote where
  header := .zero
  body := .zero
  enclaveReport := .zero
  tdReport10 := .zero
  tdReport15 := .zero
  tdReport15Ex := .zero
  authDataSize := authDataSize
  signedData := []
  authDataV3 := .zero
  authDataV4 := .zero
  qeReportSignature := .zero 64
  qeReport := .zero
  attestKeyData := .zero 64
  qeAuthData := []
  certificationData := .zero
  quoteSignature := .zero 64

/-! ## Parsing -/

/-- A step of `Quote::parse(rawQuote)`: it changes the members and moves `from`. -/
def ParseStep (α : Type) : Type := Bytes → Quote → ℕ → Quote × Except Halt (α × ℕ)

instance : Monad ParseStep where
  pure a := fun _ q pos => (q, .ok (a, pos))
  bind m f := fun raw q pos =>
    match m raw q pos with
    | (q', .error h) => (q', .error h)
    | (q', .ok (a, pos')) => f a raw q' pos'

/-- `return false`. -/
def ParseStep.fail {α : Type} : ParseStep α := fun _ q _ => (q, .error .rejected)

/-- A decoder on `rawQuote` up to `rawQuote.end()`. -/
def ParseStep.read {α : Type} (r : ByteReader α) : ParseStep α := fun raw q pos =>
  (q, r raw pos raw.length)

/-- A decoder on another buffer, from its beginning to its end. -/
def ParseStep.readFrom {α : Type} (buf : Bytes) (r : ByteReader α) : ParseStep α := fun _ q pos =>
  (q, (r buf 0 buf.length).map fun p => (p.1, pos))

/-- An assignment to members. -/
def ParseStep.modify (f : Quote → Quote) : ParseStep Unit := fun _ q pos => (f q, .ok ((), pos))

/-- `getDataToSignatureVerification(rawQuote, sizeToCopy)`. -/
def getDataToSignatureVerification (sizeToCopy : ℕ) : ParseStep Bytes := fun raw q pos =>
  if sizeToCopy ≤ raw.length then (q, .ok (raw.take sizeToCopy, pos))
  else (q, .error .outOfRange)

/-- `signedData = getDataToSignatureVerification(rawQuote, sizeToCopy)`. -/
def assignSignedData (sizeToCopy : ℕ) : ParseStep Unit := do
  let data ← getDataToSignatureVerification sizeToCopy
  ParseStep.modify fun q => { q with signedData := data }

/-- The local variables of `Quote::parse` for the body and the reports. -/
structure LocalReports where
  body : Body
  enclaveReport : EnclaveReport
  tdReport10 : TDReport10
  tdReport15 : TDReport15
  tdReport15Ex : TDReport15Ex
  deriving DecidableEq

/-- The values the local variables are initialised with. -/
def LocalReports.zero : LocalReports := ⟨.zero, .zero, .zero, .zero, .zero⟩

/-- One case of the switch on `localBody.bodyType`: the declared size is checked,
    the report read and the signed prefix stored. -/
def parseReport {R : Type} (declared : UInt32) (insert : ByteReader R) (byteLen signedLen : ℕ) :
    ParseStep R := do
  if declared.toNat ≠ byteLen then ParseStep.fail
  else do
    let report ← ParseStep.read (copyAndAdvance insert byteLen)
    assignSignedData signedLen
    pure report

/-- The branch of `Quote::parse` for versions above 4. -/
def parseBodyAndReport : ParseStep LocalReports := do
  let body ← ParseStep.read (copyAndAdvance Body.insert bodyByteSize)
  if body.bodyType = bodySgxEnclaveReportType then do
    let r ← parseReport body.size EnclaveReport.insert enclaveReportByteLen
      (headerByteLen + bodyByteSize + qeReportByteLen)
    pure { LocalReports.zero with body := body, enclaveReport := r }
  else if body.bodyType = bodyTdReport10Type then do
    let r ← parseReport body.size TDReport10.insert tdReport10ByteLen
      (headerByteLen + bodyByteSize + tdReport10ByteLen)
    pure { LocalReports.zero with body := body, tdReport10 := r }
  else if body.bodyType = bodyTdReport15Type then do
    let r ← parseReport body.size TDReport15.insert tdReport15ByteLen
      (headerByteLen + bodyByteSize + tdReport15ByteLen)
    pure { LocalReports.zero with body := body, tdReport15 := r }
  else if body.bodyType = bodyTdReport15ExType then do
    let r ← parseReport body.size TDReport15Ex.insert tdReport15ExByteLen
      (headerByteLen + bodyByteSize + tdReport15ExByteLen)
    pure { LocalReports.zero with body := body, tdReport15Ex := r }
  else ParseStep.fail

/-- The branch of `Quote::parse` for versions up to 4. A TEE type that is
    neither SGX nor TDX reads nothing and leaves `signedData` as it was. -/
def parseReportOnly (teeType : UInt32) : ParseStep LocalReports := do
  if teeType = teeTypeSgx then do
    let r ← ParseStep.read (copyAndAdvance EnclaveReport.insert enclaveReportByteLen)
    assignSignedData (headerByteLen + qeReportByteLen)
    pure { LocalReports.zero with enclaveReport := r }
  else if teeType = teeTypeTdx then do
    let r ← ParseStep.read (copyAndAdvance TDReport10.insert tdReport10ByteLen)
    assignSignedData (headerByteLen + tdReport10ByteLen)
    pure { LocalReports.zero with tdReport10 := r }
  else pure .zero

/-- The body and the reports, by the version of the header. -/
def parseReports (header : Header) : ParseStep LocalReports :=
  if header.version > quoteVersion4 then parseBodyAndReport else parseReportOnly header.teeType

/-- `copyAndAdvance(localAuthDataSize, ...)` and the check on the remaining distance. -/
def insertAuthDataSize : ByteReader UInt32 := do
  let authDataSize ← copyAndAdvance32
  let remainingDistance ← Reader.distance
  if (authDataSize.toNat : ℤ) > remainingDistance then Reader.reject
  else pure authDataSize

/-- The branch of `Quote::parse` for version 3 authentication data. -/
def parseAuthDataV3 (authDataSize : UInt32) : ParseStep Ecdsa256BitQuoteV3AuthData := do
  let auth ← ParseStep.read
    (copyAndAdvance Ecdsa256BitQuoteV3AuthData.insert authDataSize.toNat)
  ParseStep.modify fun q => { q with
    qeReportSignature := auth.qeReportSignature.signature
    qeReport := auth.qeReport
    attestKeyData := auth.ecdsaAttestationKey.pubKey
    qeAuthData := auth.qeAuthData.data
    certificationData := auth.certificationData
    quoteSignature := auth.ecdsa256BitSignature.signature }
  pure auth

/-- The branch of `Quote::parse` for authentication data of versions above 3. -/
def parseAuthDataV4 (authDataSize : UInt32) : ParseStep Ecdsa256BitQuoteV4AuthData := do
  let auth ← ParseStep.read
    (copyAndAdvance Ecdsa256BitQuoteV4AuthData.insert authDataSize.toNat)
  let qeReportData ← ParseStep.readFrom auth.certificationData.data
    QEReportCertificationData.insert
  ParseStep.modify fun q => { q with
    qeReportSignature := qeReportData.qeReportSignature.signature
    qeReport := qeReportData.qeReport
    qeAuthData := qeReportData.qeAuthData.data
    attestKeyData := auth.ecdsaAttestationKey.pubKey
    certificationData := qeReportData.certificationData
    quoteSignature := auth.ecdsa256BitSignature.signature }
  pure auth

/-- The authentication data of either kind; a version below 3 reads none. -/
def parseAuthData (version : UInt16) (authDataSize : UInt32) :
    ParseStep (Ecdsa256BitQuoteV3AuthData × Ecdsa256BitQuoteV4AuthData) := do
  if version = quoteVersion3 then do
    let auth ← parseAuthDataV3 authDataSize
    pure (auth, .zero)
  else if version > quoteVersion3 then do
    let auth ← parseAuthDataV4 authDataSize
    pure (.zero, auth)
  else pure (.zero, .zero)

/-- The steps of `Quote::parse`. -/
def Quote.parseSteps : ParseStep Unit := do
  let header ← ParseStep.read (copyAndAdvance Header.insert headerByteLen)
  ParseStep.modify fun q => { q with header := header }
  let reports ← parseReports header
  let authDataSize ← ParseStep.read insertAuthDataSize
  let auth ← parseAuthData header.version authDataSize
  ParseStep.modify fun q => { q with
    body := reports.body
    enclaveReport := reports.enclaveReport
    tdReport10 := reports.tdReport10
    tdReport15 := reports.tdReport15
    tdReport15Ex := reports.tdReport15Ex
    authDataSize := authDataSize
    authDataV3 := auth.1
    authDataV4 := auth.2 }

/-- `bool Quote::parse(rawQuote)` on the object `q`: the object it leaves and
    `ok` for `true`. -/
def Quote.parse (rawQuote : Bytes) (q : Quote) : Quote × Except Halt Unit :=
  if rawQuote.length < quoteMinByteLen then (q, .error .rejected)
  else
    let r := Quote.parseSteps rawQuote q 0
    (r.1, r.2.map fun _ => ())

/-! ## Validation -/

/-- `bool Quote::validate() const`. -/
def Quote.validate (q : Quote) : Bool :=
  if q.header.version ∉ allowedQuoteVersions then false
  else if q.header.attestationKeyType ∉ allowedAttestationKeyTypes then false
  else if q.header.teeType ∉ allowedTeeTypes then false
  else if q.header.qeVendorId ≠ intelQeVendorId then false
  else if q.header.version = quoteVersion3 ∧ q.header.teeType ≠ teeTypeSgx then false
  else if q.header.version = quoteVersion3 ∧
      (q.authDataV3.certificationData.type < 1 ∨ q.authDataV3.certificationData.type > 5) then false
  else if (q.header.version = quoteVersion4 ∨ q.header.version = quoteVersion5) ∧
      q.authDataV4.certificationData.type ≠ pckIdQeReportCertificationData then false
  else if (q.header.version = quoteVersion4 ∨ q.header.version = quoteVersion5) ∧
      (q.certificationData.type < 1 ∨ q.certificationData.type > 5) then false
  else if q.header.version = quoteVersion5 ∧ q.body.bodyType ∉ allowedBodyTypes then false
  else if q.header.version = quoteVersion5 ∧ q.header.teeType = teeTypeSgx ∧
      q.body.bodyType ≠ bodySgxEnclaveReportType then false
  else if q.header.version = quoteVersion5 ∧ q.header.teeType ≠ teeTypeSgx ∧
      q.body.bodyType = bodySgxEnclaveReportType then false
  else true

/-! ## Accessors -/

/-- `getTeeTcbSvn()`. -/
def Quote.getTeeTcbSvn (q : Quote) : ByteArr 16 :=
  if q.header.version < quoteVersion4 then .zero 16
  else if q.header.version = quoteVersion4 then q.tdReport10.teeTcbSvn
  else if q.body.bodyType = bodyTdReport10Type then q.tdReport10.teeTcbSvn
  else if q.body.bodyType = bodyTdReport15Type then q.tdReport15.teeTcbSvn
  else q.tdReport15Ex.teeTcbSvn

/-- `getTeeTcbSvn2()`. -/
def Quote.getTeeTcbSvn2 (q : Quote) : ByteArr 16 :=
  if q.body.bodyType = bodyTdReport15Type then q.tdReport15.teeTcbSvn2
  else q.tdReport15Ex.teeTcbSvn2

/-- `getMrSignerSeam()`. -/
def Quote.getMrSignerSeam (q : Quote) : ByteArr 48 :=
  if q.header.version = quoteVersion4 then q.tdReport10.mrSignerSeam
  else if q.body.bodyType = bodyTdReport10Type then q.tdReport10.mrSignerSeam
  else if q.body.bodyType = bodyTdReport15Type then q.tdReport15.mrSignerSeam
  else q.tdReport15Ex.mrSignerSeam

/-- `getSeamAttributes()`. -/
def Quote.getSeamAttributes (q : Quote) : ByteArr 8 :=
  if q.header.version = quoteVersion4 then q.tdReport10.seamAttributes
  else if q.body.bodyType = bodyTdReport10Type then q.tdReport10.seamAttributes
  else if q.body.bodyType = bodyTdReport15Type then q.tdReport15.seamAttributes
  else q.tdReport15Ex.seamAttributes

end DcapQvl
