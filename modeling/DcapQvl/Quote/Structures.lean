import DcapQvl.Quote.Parsers

/-!
# Quote structures

Models of `QuoteVerification/QuoteStructures.{h,cpp}` (and `Header::insert`,
`Body::insert`): the fixed-size structures, their `insert` decoders and their
`rawBlob` encoders.

Results, for each structure `T` of a fixed size:
* `T.insert_reads`: `insert` reads exactly the bytes `T.bytes`.
* `T.insert_total`: `insert` succeeds when the bytes are there.
* `T.rawBlob_eq`: `rawBlob` gives these bytes back.
-/

namespace DcapQvl

open Lib

/-! ## Header and body descriptor -/

structure Header where
  version : UInt16
  attestationKeyType : UInt16
  teeType : UInt32
  qeSvn : UInt16
  pceSvn : UInt16
  qeVendorId : ByteArr 16
  userData : ByteArr 20
  deriving DecidableEq

/-- `Header{}`. -/
def Header.zero : Header := ⟨0, 0, 0, 0, 0, .zero 16, .zero 20⟩

/-- `bool Header::insert(from, end)`. -/
def Header.insert : ByteReader Header := do
  let version ← copyAndAdvance16
  let attestationKeyType ← copyAndAdvance16
  let teeType ← copyAndAdvance32
  let qeSvn ← copyAndAdvance16
  let pceSvn ← copyAndAdvance16
  let qeVendorId ← copyAndAdvanceArray 16
  let userData ← copyAndAdvanceArray 20
  pure ⟨version, attestationKeyType, teeType, qeSvn, pceSvn, qeVendorId, userData⟩

structure Body where
  bodyType : UInt16
  size : UInt32
  deriving DecidableEq

/-- `Body{}`. -/
def Body.zero : Body := ⟨0, 0⟩

/-- `bool Body::insert(from, end)`. -/
def Body.insert : ByteReader Body := do
  let bodyType ← copyAndAdvance16
  let size ← copyAndAdvance32
  pure ⟨bodyType, size⟩

/-! ## Reports -/

structure EnclaveReport where
  cpuSvn : ByteArr 16
  miscSelect : UInt32
  reserved1 : ByteArr 28
  attributes : ByteArr 16
  mrEnclave : ByteArr 32
  reserved2 : ByteArr 32
  mrSigner : ByteArr 32
  reserved3 : ByteArr 96
  isvProdID : UInt16
  isvSvn : UInt16
  reserved4 : ByteArr 60
  reportData : ByteArr 64
  deriving DecidableEq

/-- `EnclaveReport{}`. -/
def EnclaveReport.zero : EnclaveReport :=
  ⟨.zero 16, 0, .zero 28, .zero 16, .zero 32, .zero 32, .zero 32, .zero 96, 0, 0, .zero 60,
    .zero 64⟩

/-- `bool EnclaveReport::insert(from, end)`. -/
def EnclaveReport.insert : ByteReader EnclaveReport := do
  let cpuSvn ← copyAndAdvanceArray 16
  let miscSelect ← copyAndAdvance32
  let reserved1 ← copyAndAdvanceArray 28
  let attributes ← copyAndAdvanceArray 16
  let mrEnclave ← copyAndAdvanceArray 32
  let reserved2 ← copyAndAdvanceArray 32
  let mrSigner ← copyAndAdvanceArray 32
  let reserved3 ← copyAndAdvanceArray 96
  let isvProdID ← copyAndAdvance16
  let isvSvn ← copyAndAdvance16
  let reserved4 ← copyAndAdvanceArray 60
  let reportData ← copyAndAdvanceArray 64
  pure ⟨cpuSvn, miscSelect, reserved1, attributes, mrEnclave, reserved2, mrSigner, reserved3,
    isvProdID, isvSvn, reserved4, reportData⟩

structure TDReport10 where
  teeTcbSvn : ByteArr 16
  mrSeam : ByteArr 48
  mrSignerSeam : ByteArr 48
  seamAttributes : ByteArr 8
  tdAttributes : ByteArr 8
  xFAM : ByteArr 8
  mrTd : ByteArr 48
  mrConfigId : ByteArr 48
  mrOwner : ByteArr 48
  mrOwnerConfig : ByteArr 48
  rtMr0 : ByteArr 48
  rtMr1 : ByteArr 48
  rtMr2 : ByteArr 48
  rtMr3 : ByteArr 48
  reportData : ByteArr 64
  deriving DecidableEq

/-- `TDReport10{}`. -/
def TDReport10.zero : TDReport10 :=
  ⟨.zero 16, .zero 48, .zero 48, .zero 8, .zero 8, .zero 8, .zero 48, .zero 48, .zero 48, .zero 48,
    .zero 48, .zero 48, .zero 48, .zero 48, .zero 64⟩

/-- `bool TDReport10::insert(from, end)`. -/
def TDReport10.insert : ByteReader TDReport10 := do
  let teeTcbSvn ← copyAndAdvanceArray 16
  let mrSeam ← copyAndAdvanceArray 48
  let mrSignerSeam ← copyAndAdvanceArray 48
  let seamAttributes ← copyAndAdvanceArray 8
  let tdAttributes ← copyAndAdvanceArray 8
  let xFAM ← copyAndAdvanceArray 8
  let mrTd ← copyAndAdvanceArray 48
  let mrConfigId ← copyAndAdvanceArray 48
  let mrOwner ← copyAndAdvanceArray 48
  let mrOwnerConfig ← copyAndAdvanceArray 48
  let rtMr0 ← copyAndAdvanceArray 48
  let rtMr1 ← copyAndAdvanceArray 48
  let rtMr2 ← copyAndAdvanceArray 48
  let rtMr3 ← copyAndAdvanceArray 48
  let reportData ← copyAndAdvanceArray 64
  pure ⟨teeTcbSvn, mrSeam, mrSignerSeam, seamAttributes, tdAttributes, xFAM, mrTd, mrConfigId,
    mrOwner, mrOwnerConfig, rtMr0, rtMr1, rtMr2, rtMr3, reportData⟩

structure TDReport15 extends TDReport10 where
  teeTcbSvn2 : ByteArr 16
  mrServiceTd : ByteArr 48
  deriving DecidableEq

/-- `TDReport15{}`. -/
def TDReport15.zero : TDReport15 := ⟨.zero, .zero 16, .zero 48⟩

/-- `bool TDReport15::insert(from, end)`. -/
def TDReport15.insert : ByteReader TDReport15 := do
  let base ← TDReport10.insert
  let teeTcbSvn2 ← copyAndAdvanceArray 16
  let mrServiceTd ← copyAndAdvanceArray 48
  pure ⟨base, teeTcbSvn2, mrServiceTd⟩

structure TDReport15Ex extends TDReport15 where
  vmid : ByteArr 1
  tdId : ByteArr 32
  devInfo : ByteArr 48
  initServTdHash : ByteArr 48
  initServTdAttributes : ByteArr 8
  initCpuSvn : ByteArr 16
  initTeeTcbSvn : ByteArr 16
  initTeeFmspc : ByteArr 12
  curServTdHash : ByteArr 48
  curServTdAttributes : ByteArr 8
  deriving DecidableEq

/-- `TDReport15Ex{}`. -/
def TDReport15Ex.zero : TDReport15Ex :=
  ⟨.zero, .zero 1, .zero 32, .zero 48, .zero 48, .zero 8, .zero 16, .zero 16, .zero 12, .zero 48,
    .zero 8⟩

/-- `bool TDReport15Ex::insert(from, end)`. -/
def TDReport15Ex.insert : ByteReader TDReport15Ex := do
  let base ← TDReport15.insert
  let vmid ← copyAndAdvanceArray 1
  let tdId ← copyAndAdvanceArray 32
  let devInfo ← copyAndAdvanceArray 48
  let initServTdHash ← copyAndAdvanceArray 48
  let initServTdAttributes ← copyAndAdvanceArray 8
  let initCpuSvn ← copyAndAdvanceArray 16
  let initTeeTcbSvn ← copyAndAdvanceArray 16
  let initTeeFmspc ← copyAndAdvanceArray 12
  let curServTdHash ← copyAndAdvanceArray 48
  let curServTdAttributes ← copyAndAdvanceArray 8
  pure ⟨base, vmid, tdId, devInfo, initServTdHash, initServTdAttributes, initCpuSvn, initTeeTcbSvn,
    initTeeFmspc, curServTdHash, curServTdAttributes⟩

/-! ## Signature and key -/

structure Ecdsa256BitSignature where
  signature : ByteArr 64
  deriving DecidableEq

/-- `bool Ecdsa256BitSignature::insert(from, end)`. -/
def Ecdsa256BitSignature.insert : ByteReader Ecdsa256BitSignature := do
  let signature ← copyAndAdvanceArray 64
  pure ⟨signature⟩

structure Ecdsa256BitPubkey where
  pubKey : ByteArr 64
  deriving DecidableEq

/-- `bool Ecdsa256BitPubkey::insert(from, end)`. -/
def Ecdsa256BitPubkey.insert : ByteReader Ecdsa256BitPubkey := do
  let pubKey ← copyAndAdvanceArray 64
  pure ⟨pubKey⟩

/-! ## Data with a declared size -/

/-- The body that `QeAuthData::insert` and `CertificationData::insert` share:
    `minLen` bytes of fields, then data that must fill the rest of the window
    and whose size one of the fields declares. -/
def insertSized {H T : Type} (minLen : ℕ) (fields : ByteReader H) (parsedDataSize : H → ℕ)
    (make : H → Bytes → T) : ByteReader T := do
  let distance ← Reader.distance
  let amount := toSize distance
  if distance < 0 ∨ amount < minLen then Reader.reject
  else do
    let h ← fields
    if parsedDataSize h ≠ amount - minLen then do
      -- invalid format, moving back pointer
      Reader.retreat minLen
      Reader.reject
    else if parsedDataSize h = 0 then pure (make h [])
    else do
      let data ← Reader.copyN (parsedDataSize h)
      Reader.advance (parsedDataSize h)
      pure (make h data)

structure QeAuthData where
  parsedDataSize : UInt16
  data : Bytes
  deriving DecidableEq

/-- `QeAuthData{}`. -/
def QeAuthData.zero : QeAuthData := ⟨0, []⟩

/-- `bool QeAuthData::insert(from, end)`. -/
def QeAuthData.insert : ByteReader QeAuthData :=
  insertSized qeAuthDataSizeByteLen copyAndAdvance16 UInt16.toNat QeAuthData.mk

structure CertificationData where
  type : UInt16
  parsedDataSize : UInt32
  data : Bytes
  deriving DecidableEq

/-- `CertificationData{}`. -/
def CertificationData.zero : CertificationData := ⟨0, 0, []⟩

/-- The two fields in front of the data. -/
def CertificationData.insertFields : ByteReader (UInt16 × UInt32) := do
  let type ← copyAndAdvance16
  let parsedDataSize ← copyAndAdvance32
  pure (type, parsedDataSize)

/-- `bool CertificationData::insert(from, end)`. -/
def CertificationData.insert : ByteReader CertificationData :=
  insertSized (certificationDataSizeByteLen + certificationDataTypeByteLen)
    CertificationData.insertFields (fun p => p.2.toNat) (fun p data => ⟨p.1, p.2, data⟩)

/-! ## Authentication data -/

/-- The steps in front of `copyAndAdvance(qeAuthData, ...)`: the size is read,
    the iterator moved back and the structure read with that size. -/
def insertQeAuthData : ByteReader QeAuthData := do
  let authSize ← copyAndAdvance16
  Reader.retreat 2
  copyAndAdvance QeAuthData.insert (authSize.toNat + 2)

/-- The type is skipped and `qeCertSize` read. -/
def insertQeCertSize : ByteReader UInt32 := do
  let available ← Reader.distance
  if available < 0 ∨ toUnsigned available < 2 then Reader.reject
  else do
    Reader.advance 2
    copyAndAdvance32

/-- The steps in front of `copyAndAdvance(certificationData, ...)`. -/
def insertCertificationData : ByteReader CertificationData := do
  let qeCertSize ← insertQeCertSize
  -- go back to the beginning of the structure
  Reader.retreat 6
  copyAndAdvance CertificationData.insert (qeCertSize.toNat + 2 + 4)

structure QEReportCertificationData where
  qeReport : EnclaveReport
  qeReportSignature : Ecdsa256BitSignature
  qeAuthData : QeAuthData
  certificationData : CertificationData
  deriving DecidableEq

/-- `bool QEReportCertificationData::insert(from, end)`. -/
def QEReportCertificationData.insert : ByteReader QEReportCertificationData := do
  let qeReport ← copyAndAdvance EnclaveReport.insert enclaveReportByteLen
  let qeReportSignature ← copyAndAdvance Ecdsa256BitSignature.insert ecdsaSignatureByteLen
  let qeAuthData ← insertQeAuthData
  let certificationData ← insertCertificationData
  let left ← Reader.distance
  if left ≠ 0 then Reader.reject
  else pure ⟨qeReport, qeReportSignature, qeAuthData, certificationData⟩

structure Ecdsa256BitQuoteV3AuthData where
  ecdsa256BitSignature : Ecdsa256BitSignature
  ecdsaAttestationKey : Ecdsa256BitPubkey
  qeReport : EnclaveReport
  qeReportSignature : Ecdsa256BitSignature
  qeAuthData : QeAuthData
  certificationData : CertificationData
  deriving DecidableEq

/-- `Ecdsa256BitQuoteV3AuthData{}`. -/
def Ecdsa256BitQuoteV3AuthData.zero : Ecdsa256BitQuoteV3AuthData :=
  ⟨⟨.zero 64⟩, ⟨.zero 64⟩, .zero, ⟨.zero 64⟩, .zero, .zero⟩

/-- `bool Ecdsa256BitQuoteV3AuthData::insert(from, end)`. -/
def Ecdsa256BitQuoteV3AuthData.insert : ByteReader Ecdsa256BitQuoteV3AuthData := do
  let ecdsa256BitSignature ← copyAndAdvance Ecdsa256BitSignature.insert ecdsaSignatureByteLen
  let ecdsaAttestationKey ← copyAndAdvance Ecdsa256BitPubkey.insert ecdsaPubkeyByteLen
  let qeReport ← copyAndAdvance EnclaveReport.insert enclaveReportByteLen
  let qeReportSignature ← copyAndAdvance Ecdsa256BitSignature.insert ecdsaSignatureByteLen
  let qeAuthData ← insertQeAuthData
  let certificationData ← insertCertificationData
  pure ⟨ecdsa256BitSignature, ecdsaAttestationKey, qeReport, qeReportSignature, qeAuthData,
    certificationData⟩

structure Ecdsa256BitQuoteV4AuthData where
  ecdsa256BitSignature : Ecdsa256BitSignature
  ecdsaAttestationKey : Ecdsa256BitPubkey
  certificationData : CertificationData
  deriving DecidableEq

/-- `Ecdsa256BitQuoteV4AuthData{}`. -/
def Ecdsa256BitQuoteV4AuthData.zero : Ecdsa256BitQuoteV4AuthData :=
  ⟨⟨.zero 64⟩, ⟨.zero 64⟩, .zero⟩

/-- `bool Ecdsa256BitQuoteV4AuthData::insert(from, end)`. -/
def Ecdsa256BitQuoteV4AuthData.insert : ByteReader Ecdsa256BitQuoteV4AuthData := do
  let ecdsa256BitSignature ← copyAndAdvance Ecdsa256BitSignature.insert ecdsaSignatureByteLen
  let ecdsaAttestationKey ← copyAndAdvance Ecdsa256BitPubkey.insert ecdsaPubkeyByteLen
  let certificationData ← insertCertificationData
  pure ⟨ecdsa256BitSignature, ecdsaAttestationKey, certificationData⟩

/-! ## The bytes of a structure -/

/-- The 48 bytes of a header. -/
def Header.bytes (h : Header) : Bytes :=
  List.flatten [leBytes 2 h.version.toNat, leBytes 2 h.attestationKeyType.toNat,
    leBytes 4 h.teeType.toNat, leBytes 2 h.qeSvn.toNat, leBytes 2 h.pceSvn.toNat,
    h.qeVendorId.toList, h.userData.toList]

/-- The 6 bytes of a body descriptor. -/
def Body.bytes (b : Body) : Bytes :=
  List.flatten [leBytes 2 b.bodyType.toNat, leBytes 4 b.size.toNat]

/-- The 384 bytes of an enclave report. -/
def EnclaveReport.bytes (r : EnclaveReport) : Bytes :=
  List.flatten [r.cpuSvn.toList, leBytes 4 r.miscSelect.toNat, r.reserved1.toList,
    r.attributes.toList, r.mrEnclave.toList, r.reserved2.toList, r.mrSigner.toList,
    r.reserved3.toList, leBytes 2 r.isvProdID.toNat, leBytes 2 r.isvSvn.toNat, r.reserved4.toList,
    r.reportData.toList]

/-- The 584 bytes of a TD report 1.0. -/
def TDReport10.bytes (r : TDReport10) : Bytes :=
  List.flatten [r.teeTcbSvn.toList, r.mrSeam.toList, r.mrSignerSeam.toList, r.seamAttributes.toList,
    r.tdAttributes.toList, r.xFAM.toList, r.mrTd.toList, r.mrConfigId.toList, r.mrOwner.toList,
    r.mrOwnerConfig.toList, r.rtMr0.toList, r.rtMr1.toList, r.rtMr2.toList, r.rtMr3.toList,
    r.reportData.toList]

/-- The 648 bytes of a TD report 1.5. -/
def TDReport15.bytes (r : TDReport15) : Bytes :=
  List.flatten [r.toTDReport10.bytes, r.teeTcbSvn2.toList, r.mrServiceTd.toList]

/-- The 885 bytes of an extended TD report 1.5. -/
def TDReport15Ex.bytes (r : TDReport15Ex) : Bytes :=
  List.flatten [r.toTDReport15.bytes, r.vmid.toList, r.tdId.toList, r.devInfo.toList,
    r.initServTdHash.toList, r.initServTdAttributes.toList, r.initCpuSvn.toList,
    r.initTeeTcbSvn.toList, r.initTeeFmspc.toList, r.curServTdHash.toList,
    r.curServTdAttributes.toList]

/-- Certification data, or QE authentication data, with its declared size. -/
def QeAuthData.bytes (d : QeAuthData) : Bytes := leBytes 2 d.parsedDataSize.toNat ++ d.data

/-- The declared size is the size of the data. -/
def QeAuthData.SizeMatches (d : QeAuthData) : Prop := d.parsedDataSize.toNat = d.data.length

def CertificationData.bytes (d : CertificationData) : Bytes :=
  leBytes 2 d.type.toNat ++ leBytes 4 d.parsedDataSize.toNat ++ d.data

def CertificationData.SizeMatches (d : CertificationData) : Prop :=
  d.parsedDataSize.toNat = d.data.length

/-- The part of the authentication data that is about the quoting enclave. -/
def QEReportCertificationData.bytes (c : QEReportCertificationData) : Bytes :=
  List.flatten [c.qeReport.bytes, c.qeReportSignature.signature.toList, c.qeAuthData.bytes,
    c.certificationData.bytes]

def QEReportCertificationData.SizesMatch (c : QEReportCertificationData) : Prop :=
  c.qeAuthData.SizeMatches ∧ c.certificationData.SizeMatches

/-- The structured part of version 3 authentication data. -/
def Ecdsa256BitQuoteV3AuthData.bytes (a : Ecdsa256BitQuoteV3AuthData) : Bytes :=
  List.flatten [a.ecdsa256BitSignature.signature.toList, a.ecdsaAttestationKey.pubKey.toList,
    a.qeReport.bytes, a.qeReportSignature.signature.toList, a.qeAuthData.bytes,
    a.certificationData.bytes]

def Ecdsa256BitQuoteV3AuthData.SizesMatch (a : Ecdsa256BitQuoteV3AuthData) : Prop :=
  a.qeAuthData.SizeMatches ∧ a.certificationData.SizeMatches

/-- The structured part of version 4 authentication data. -/
def Ecdsa256BitQuoteV4AuthData.bytes (a : Ecdsa256BitQuoteV4AuthData) : Bytes :=
  List.flatten [a.ecdsa256BitSignature.signature.toList, a.ecdsaAttestationKey.pubKey.toList,
    a.certificationData.bytes]

def Ecdsa256BitQuoteV4AuthData.SizesMatch (a : Ecdsa256BitQuoteV4AuthData) : Prop :=
  a.certificationData.SizeMatches

@[simp] theorem Header.length_bytes (h : Header) : h.bytes.length = headerByteLen := by
  simp [Header.bytes, headerByteLen]

@[simp] theorem Body.length_bytes (b : Body) : b.bytes.length = bodyByteSize := by
  simp [Body.bytes, bodyByteSize]

@[simp] theorem EnclaveReport.length_bytes (r : EnclaveReport) :
    r.bytes.length = enclaveReportByteLen := by
  simp [EnclaveReport.bytes, enclaveReportByteLen]

@[simp] theorem TDReport10.length_bytes (r : TDReport10) :
    r.bytes.length = tdReport10ByteLen := by
  simp [TDReport10.bytes, tdReport10ByteLen]

@[simp] theorem TDReport15.length_bytes (r : TDReport15) :
    r.bytes.length = tdReport15ByteLen := by
  simp [TDReport15.bytes, tdReport15ByteLen, tdReport10ByteLen]

@[simp] theorem TDReport15Ex.length_bytes (r : TDReport15Ex) :
    r.bytes.length = tdReport15ExByteLen := by
  simp [TDReport15Ex.bytes, tdReport15ExByteLen, tdReport15ByteLen]

/-! ## rawBlob -/

/-- `EnclaveReport::rawBlob()`: the fields copied one after the other. -/
def EnclaveReport.rawBlob (r : EnclaveReport) : ByteArr enclaveReportByteLen :=
  ByteArr.ofList
    (List.flatten [r.cpuSvn.toList, (toArray32 (swapBytes32 r.miscSelect)).toList,
      r.reserved1.toList, r.attributes.toList, r.mrEnclave.toList, r.reserved2.toList,
      r.mrSigner.toList, r.reserved3.toList, (toArray16 (swapBytes16 r.isvProdID)).toList,
      (toArray16 (swapBytes16 r.isvSvn)).toList, r.reserved4.toList, r.reportData.toList])
    (by simp [enclaveReportByteLen])

/-- The QE report signature is checked over the bytes the report was read from. -/
theorem EnclaveReport.rawBlob_eq (r : EnclaveReport) : r.rawBlob.toList = r.bytes := by
  simp only [rawBlob, ByteArr.ofList, List.Vector.toList_mk, bytes, toArray32_swapBytes32,
    toArray16_swapBytes16]

/-- `TDReport10::rawBlob()`. -/
def TDReport10.rawBlob (r : TDReport10) : ByteArr tdReport10ByteLen :=
  ByteArr.ofList
    (List.flatten [r.teeTcbSvn.toList, r.mrSeam.toList, r.mrSignerSeam.toList,
      r.seamAttributes.toList, r.tdAttributes.toList, r.xFAM.toList, r.mrTd.toList,
      r.mrConfigId.toList, r.mrOwner.toList, r.mrOwnerConfig.toList, r.rtMr0.toList,
      r.rtMr1.toList, r.rtMr2.toList, r.rtMr3.toList, r.reportData.toList])
    (by simp [tdReport10ByteLen])

/-- `TDReport15::rawBlob()`: the fields that it adds come after the blob of its base. -/
def TDReport15.rawBlob (r : TDReport15) : ByteArr tdReport15ByteLen :=
  let ret10 := r.toTDReport10.rawBlob
  ByteArr.ofList (List.flatten [ret10.toList, r.teeTcbSvn2.toList, r.mrServiceTd.toList])
    (by simp only [List.length_flatten, List.map_cons, List.map_nil, List.Vector.toList_length]; rfl)

/-- `TDReport15Ex::rawBlob()`. -/
def TDReport15Ex.rawBlob (r : TDReport15Ex) : ByteArr tdReport15ExByteLen :=
  let ret15 := r.toTDReport15.rawBlob
  ByteArr.ofList
    (List.flatten [ret15.toList, r.vmid.toList, r.tdId.toList, r.devInfo.toList,
      r.initServTdHash.toList, r.initServTdAttributes.toList, r.initCpuSvn.toList,
      r.initTeeTcbSvn.toList, r.initTeeFmspc.toList, r.curServTdHash.toList,
      r.curServTdAttributes.toList])
    (by simp only [List.length_flatten, List.map_cons, List.map_nil, List.Vector.toList_length]; rfl)

theorem TDReport10.rawBlob_eq (r : TDReport10) : r.rawBlob.toList = r.bytes := rfl

theorem TDReport15.rawBlob_eq (r : TDReport15) : r.rawBlob.toList = r.bytes := rfl

theorem TDReport15Ex.rawBlob_eq (r : TDReport15Ex) : r.rawBlob.toList = r.bytes := rfl

/-! ## What insert reads -/

theorem Header.insert_reads : Reads Header.insert Header.bytes fun _ _ => True :=
  Reads.field Header.version copyAndAdvance16_reads fun _ =>
  Reads.field Header.attestationKeyType copyAndAdvance16_reads fun _ =>
  Reads.field Header.teeType copyAndAdvance32_reads fun _ =>
  Reads.field Header.qeSvn copyAndAdvance16_reads fun _ =>
  Reads.field Header.pceSvn copyAndAdvance16_reads fun _ =>
  Reads.field Header.qeVendorId (copyAndAdvanceArray_reads 16) fun _ =>
  Reads.field Header.userData (copyAndAdvanceArray_reads 20) fun _ =>
  reads_make _ fun u _ => ⟨fun h => by subst h; simp, fun h => by cases u; simp_all⟩

theorem Body.insert_reads : Reads Body.insert Body.bytes fun _ _ => True :=
  Reads.field Body.bodyType copyAndAdvance16_reads fun _ =>
  Reads.field Body.size copyAndAdvance32_reads fun _ =>
  reads_make _ fun u _ => ⟨fun h => by subst h; simp, fun h => by cases u; simp_all⟩

theorem EnclaveReport.insert_reads : Reads EnclaveReport.insert EnclaveReport.bytes fun _ _ => True :=
  Reads.field EnclaveReport.cpuSvn (copyAndAdvanceArray_reads 16) fun _ =>
  Reads.field EnclaveReport.miscSelect copyAndAdvance32_reads fun _ =>
  Reads.field EnclaveReport.reserved1 (copyAndAdvanceArray_reads 28) fun _ =>
  Reads.field EnclaveReport.attributes (copyAndAdvanceArray_reads 16) fun _ =>
  Reads.field EnclaveReport.mrEnclave (copyAndAdvanceArray_reads 32) fun _ =>
  Reads.field EnclaveReport.reserved2 (copyAndAdvanceArray_reads 32) fun _ =>
  Reads.field EnclaveReport.mrSigner (copyAndAdvanceArray_reads 32) fun _ =>
  Reads.field EnclaveReport.reserved3 (copyAndAdvanceArray_reads 96) fun _ =>
  Reads.field EnclaveReport.isvProdID copyAndAdvance16_reads fun _ =>
  Reads.field EnclaveReport.isvSvn copyAndAdvance16_reads fun _ =>
  Reads.field EnclaveReport.reserved4 (copyAndAdvanceArray_reads 60) fun _ =>
  Reads.field EnclaveReport.reportData (copyAndAdvanceArray_reads 64) fun _ =>
  reads_make _ fun u _ => ⟨fun h => by subst h; simp, fun h => by cases u; simp_all⟩

theorem TDReport10.insert_reads : Reads TDReport10.insert TDReport10.bytes fun _ _ => True :=
  Reads.field TDReport10.teeTcbSvn (copyAndAdvanceArray_reads 16) fun _ =>
  Reads.field TDReport10.mrSeam (copyAndAdvanceArray_reads 48) fun _ =>
  Reads.field TDReport10.mrSignerSeam (copyAndAdvanceArray_reads 48) fun _ =>
  Reads.field TDReport10.seamAttributes (copyAndAdvanceArray_reads 8) fun _ =>
  Reads.field TDReport10.tdAttributes (copyAndAdvanceArray_reads 8) fun _ =>
  Reads.field TDReport10.xFAM (copyAndAdvanceArray_reads 8) fun _ =>
  Reads.field TDReport10.mrTd (copyAndAdvanceArray_reads 48) fun _ =>
  Reads.field TDReport10.mrConfigId (copyAndAdvanceArray_reads 48) fun _ =>
  Reads.field TDReport10.mrOwner (copyAndAdvanceArray_reads 48) fun _ =>
  Reads.field TDReport10.mrOwnerConfig (copyAndAdvanceArray_reads 48) fun _ =>
  Reads.field TDReport10.rtMr0 (copyAndAdvanceArray_reads 48) fun _ =>
  Reads.field TDReport10.rtMr1 (copyAndAdvanceArray_reads 48) fun _ =>
  Reads.field TDReport10.rtMr2 (copyAndAdvanceArray_reads 48) fun _ =>
  Reads.field TDReport10.rtMr3 (copyAndAdvanceArray_reads 48) fun _ =>
  Reads.field TDReport10.reportData (copyAndAdvanceArray_reads 64) fun _ =>
  reads_make _ fun u _ => ⟨fun h => by subst h; simp, fun h => by cases u; simp_all⟩

theorem TDReport15.insert_reads : Reads TDReport15.insert TDReport15.bytes fun _ _ => True :=
  Reads.field TDReport15.toTDReport10 TDReport10.insert_reads fun _ =>
  Reads.field TDReport15.teeTcbSvn2 (copyAndAdvanceArray_reads 16) fun _ =>
  Reads.field TDReport15.mrServiceTd (copyAndAdvanceArray_reads 48) fun _ =>
  reads_make _ fun u _ => ⟨fun h => by subst h; simp, fun h => by cases u; simp_all⟩

theorem TDReport15Ex.insert_reads : Reads TDReport15Ex.insert TDReport15Ex.bytes fun _ _ => True :=
  Reads.field TDReport15Ex.toTDReport15 TDReport15.insert_reads fun _ =>
  Reads.field TDReport15Ex.vmid (copyAndAdvanceArray_reads 1) fun _ =>
  Reads.field TDReport15Ex.tdId (copyAndAdvanceArray_reads 32) fun _ =>
  Reads.field TDReport15Ex.devInfo (copyAndAdvanceArray_reads 48) fun _ =>
  Reads.field TDReport15Ex.initServTdHash (copyAndAdvanceArray_reads 48) fun _ =>
  Reads.field TDReport15Ex.initServTdAttributes (copyAndAdvanceArray_reads 8) fun _ =>
  Reads.field TDReport15Ex.initCpuSvn (copyAndAdvanceArray_reads 16) fun _ =>
  Reads.field TDReport15Ex.initTeeTcbSvn (copyAndAdvanceArray_reads 16) fun _ =>
  Reads.field TDReport15Ex.initTeeFmspc (copyAndAdvanceArray_reads 12) fun _ =>
  Reads.field TDReport15Ex.curServTdHash (copyAndAdvanceArray_reads 48) fun _ =>
  Reads.field TDReport15Ex.curServTdAttributes (copyAndAdvanceArray_reads 8) fun _ =>
  reads_make _ fun u _ => ⟨fun h => by subst h; simp, fun h => by cases u; simp_all⟩

theorem Ecdsa256BitSignature.insert_reads :
    Reads Ecdsa256BitSignature.insert (fun s => s.signature.toList) fun _ _ => True :=
  (Reads.field Ecdsa256BitSignature.signature (copyAndAdvanceArray_reads 64) fun _ =>
    reads_make _ fun u _ => ⟨fun h => by subst h; simp, fun h => by cases u; simp_all⟩).congr
    (fun _ _ => Iff.rfl) fun _ _ _ => List.append_nil _

theorem Ecdsa256BitPubkey.insert_reads :
    Reads Ecdsa256BitPubkey.insert (fun k => k.pubKey.toList) fun _ _ => True :=
  (Reads.field Ecdsa256BitPubkey.pubKey (copyAndAdvanceArray_reads 64) fun _ =>
    reads_make _ fun u _ => ⟨fun h => by subst h; simp, fun h => by cases u; simp_all⟩).congr
    (fun _ _ => Iff.rfl) fun _ _ _ => List.append_nil _

/-! ## What the authentication data decoders read -/

/-- The scan of `insertSized`, over the scan of the fields. -/
def scanSized {H T : Type} (scanFields : Scan UInt8 H) (parsedDataSize : H → ℕ)
    (make : H → Bytes → T) : Scan UInt8 T := fun w =>
  (scanFields w).bind fun p =>
    if parsedDataSize p.1 = p.2.length then some (make p.1 p.2, []) else none

/-- `insertSized` reads the fields and data of the size they declare, up to the
    end of the window. -/
theorem insertSized_reads {H T : Type} {minLen : ℕ} {fields : ByteReader H}
    {parsedDataSize : H → ℕ} {make : H → Bytes → T} {enc : H → Bytes} (πH : T → H) (πD : T → Bytes)
    (hfields : Reads fields enc fun _ _ => True) (henc : ∀ h, (enc h).length = minLen)
    (hmake : ∀ h d t, make h d = t ↔ πH t = h ∧ πD t = d) :
    Reads (insertSized minLen fields parsedDataSize make) (fun t => enc (πH t) ++ πD t)
      (fun t rest => parsedDataSize (πH t) = (πD t).length ∧ rest = []) := by
  obtain ⟨s, hs, hse⟩ := hfields
  refine ⟨scanSized s parsedDataSize make, ?_, ?_⟩
  · intro buf pos stop hb
    have hle := hb.le
    have hstop := hb.stop_le
    have hsmall := hb.small
    have hwlen := length_window pos hstop
    have hrun := hs buf pos stop hb
    rw [insertSized, Reader.distance_bind, toSize_distance hle (by omega)]
    cases hw : s (window buf pos stop) with
    | none =>
      rw [hw] at hrun
      simp only [scanSized, hw, Option.bind_none]
      split
      · rfl
      · exact Reader.bind_error hrun
    | some p =>
      obtain ⟨h, rest⟩ := p
      obtain ⟨he, -⟩ := (hse _ _ _).mp hw
      have hlen : stop - pos = minLen + rest.length := by
        rw [← hwlen, he, List.length_append, henc]
      rw [hw] at hrun
      obtain ⟨pos', h1, h2, h3, h4⟩ := hrun
      have hrest := congrArg List.length h4
      rw [length_window _ hstop] at hrest
      have hpos : pos' = pos + minLen := by omega
      by_cases hsize : parsedDataSize h = rest.length
      · simp only [scanSized, hw, Option.bind_some, hsize, if_true]
        rw [if_neg (by omega), Reader.bind_ok h3, if_neg (by omega)]
        refine ⟨stop, hle, le_rfl, ?_, by simp [window]⟩
        by_cases hzero : parsedDataSize h = 0
        · rw [if_pos hzero, List.length_eq_zero_iff.mp (by omega : rest.length = 0),
            show stop = pos' by omega]
          rfl
        · rw [if_neg hzero, Reader.copyN_bind _ (by omega), Reader.advance_bind _ (by omega),
            take_drop_eq_window, show pos' + parsedDataSize h = stop by omega, ← h4]
          rfl
      · simp only [scanSized, hw, Option.bind_some, hsize, if_false]
        rw [if_neg (by omega), Reader.bind_ok h3, if_pos (by omega),
          Reader.retreat_bind _ (by omega)]
        rfl
  · intro w t rest
    simp only [scanSized, Option.bind_eq_some_iff, Prod.exists]
    constructor
    · rintro ⟨h, d, h1, h2⟩
      obtain ⟨rfl, -⟩ := (hse _ _ _).mp h1
      split at h2
      · next hsize =>
        simp only [Option.some.injEq, Prod.mk.injEq] at h2
        obtain ⟨h2, rfl⟩ := h2
        obtain ⟨rfl, rfl⟩ := (hmake _ _ _).mp h2
        exact ⟨by simp, hsize, rfl⟩
      · cases h2
    · rintro ⟨rfl, hsize, rfl⟩
      refine ⟨πH t, πD t, (hse _ _ _).mpr ⟨by simp, trivial⟩, ?_⟩
      rw [if_pos hsize, (hmake _ _ _).mpr ⟨rfl, rfl⟩]

theorem QeAuthData.insert_reads :
    Reads QeAuthData.insert QeAuthData.bytes (fun d rest => d.SizeMatches ∧ rest = []) :=
  insertSized_reads QeAuthData.parsedDataSize QeAuthData.data copyAndAdvance16_reads
    (fun _ => length_leBytes _ _) fun h d t => by cases t; simp [eq_comm]

theorem CertificationData.insertFields_reads :
    Reads CertificationData.insertFields
      (fun p => leBytes 2 p.1.toNat ++ (leBytes 4 p.2.toNat ++ [])) fun _ _ => True :=
  Reads.field Prod.fst copyAndAdvance16_reads fun _ =>
  Reads.field Prod.snd copyAndAdvance32_reads fun _ =>
  reads_make _ fun u _ => ⟨fun h => by subst h; simp, fun h => by cases u; simp_all⟩

theorem CertificationData.insert_reads :
    Reads CertificationData.insert CertificationData.bytes
      (fun d rest => d.SizeMatches ∧ rest = []) :=
  (insertSized_reads (fun d => (d.type, d.parsedDataSize)) CertificationData.data
    CertificationData.insertFields_reads (fun _ => by simp [certificationDataSizeByteLen,
      certificationDataTypeByteLen])
    fun h d t => by cases t; cases h; simp [eq_comm, and_assoc]).congr
    (fun _ _ => Iff.rfl) fun _ _ _ => by simp [CertificationData.bytes]

@[simp] theorem QeAuthData.length_bytes (d : QeAuthData) : d.bytes.length = 2 + d.data.length := by
  simp [QeAuthData.bytes]

@[simp] theorem CertificationData.length_bytes (d : CertificationData) :
    d.bytes.length = 6 + d.data.length := by
  simp only [CertificationData.bytes, List.length_append, length_leBytes]

/-- Reading the size first and then the structure with that size reads the structure. -/
theorem insertQeAuthData_reads :
    Reads insertQeAuthData QeAuthData.bytes (fun d _ => d.SizeMatches) := by
  obtain ⟨s, hs, hse⟩ := copyAndAdvance16_reads
  refine Reads.peek hs (fun w v rest h => ?_)
    (fun v => copyAndAdvance_reads (v.toNat + 2) QeAuthData.insert_reads) fun d rest w => ?_
  · rw [((hse _ _ _).mp h).1, List.length_append, length_leBytes]
  · constructor
    · rintro ⟨v, -, hw, -, -, hd, -⟩
      exact ⟨hw, hd⟩
    · rintro ⟨rfl, hd⟩
      have hlen : d.bytes.length = d.parsedDataSize.toNat + 2 := by
        rw [QeAuthData.length_bytes, hd, Nat.add_comm]
      refine ⟨d.parsedDataSize, ⟨d.data ++ rest, (hse _ _ _).mpr ⟨?_, trivial⟩⟩, rfl, by omega,
        by omega, hd, by rw [hlen]; simp⟩
      rw [QeAuthData.bytes, List.append_assoc]

/-- The scan of `insertQeCertSize`. -/
def scanQeCertSize : Scan UInt8 UInt32 := fun w => scan32 (w.drop 2)

theorem insertQeCertSize_refines : Refines insertQeCertSize scanQeCertSize := by
  intro buf pos stop hb
  have hle := hb.le
  have hstop := hb.stop_le
  have hsmall := hb.small
  rw [insertQeCertSize, Reader.distance_bind, toUnsigned_distance hle (by omega), scanQeCertSize,
    window_drop]
  by_cases h : stop - pos < 2
  · rw [if_pos (Or.inr h), scan32_short (by rw [length_window _ hstop]; omega)]
    rfl
  · have hrun := copyAndAdvance32_refines buf (pos + 2) stop ⟨by omega, hstop, hsmall⟩
    rw [if_neg (by omega), Reader.advance_bind _ (by omega)]
    cases hw : scan32 (window buf (pos + 2) stop) with
    | none =>
      rw [hw] at hrun
      exact hrun
    | some p =>
      rw [hw] at hrun
      obtain ⟨pos', h1, h2, h3, h4⟩ := hrun
      exact ⟨pos', by omega, h2, h3, h4⟩

/-- Skipping the type, reading the size and then the structure reads the structure. -/
theorem insertCertificationData_reads :
    Reads insertCertificationData CertificationData.bytes (fun d _ => d.SizeMatches) := by
  refine Reads.peek insertQeCertSize_refines (fun w v rest h => ?_)
    (fun v => copyAndAdvance_reads (v.toNat + 2 + 4) CertificationData.insert_reads)
    fun d rest w => ?_
  · have he := ((scan32_eq_some _ _ _).mp h)
    have hlen := congrArg List.length he
    rw [List.length_drop, List.length_append, length_leBytes] at hlen
    omega
  · constructor
    · rintro ⟨v, -, hw, -, -, hd, -⟩
      exact ⟨hw, hd⟩
    · rintro ⟨rfl, hd⟩
      have hlen : d.bytes.length = d.parsedDataSize.toNat + 2 + 4 := by
        rw [CertificationData.length_bytes, hd]
        omega
      refine ⟨d.parsedDataSize, ⟨d.data ++ rest, (scan32_eq_some _ _ _).mpr ?_⟩, rfl, by omega,
        by omega, hd, by rw [hlen]; simp⟩
      simp only [CertificationData.bytes, List.append_assoc]
      exact List.drop_left' (length_leBytes _ _)

/-- The check `from != end` makes the certification data fill its window. -/
theorem QEReportCertificationData.insert_reads :
    Reads QEReportCertificationData.insert QEReportCertificationData.bytes
      (fun c rest => c.SizesMatch ∧ rest = []) :=
  Reads.field QEReportCertificationData.qeReport
    (copyAndAdvance_reads_fixed EnclaveReport.insert_reads EnclaveReport.length_bytes) fun _ =>
  Reads.field QEReportCertificationData.qeReportSignature
    (copyAndAdvance_reads_fixed Ecdsa256BitSignature.insert_reads fun _ => by
      simp [ecdsaSignatureByteLen]) fun _ =>
  Reads.bind QEReportCertificationData.qeAuthData insertQeAuthData_reads
    (fun _ _ h => h.2.2.1.1) fun _ ha =>
  Reads.bind QEReportCertificationData.certificationData insertCertificationData_reads
    (fun _ _ h => h.2.2.2.1.2) fun _ hc =>
  reads_end _ fun u _ => ⟨fun ⟨h, he⟩ => by subst h; simp [SizesMatch, ha, hc, he],
    fun h => by cases u; simp_all⟩

theorem Ecdsa256BitQuoteV3AuthData.insert_reads :
    Reads Ecdsa256BitQuoteV3AuthData.insert Ecdsa256BitQuoteV3AuthData.bytes
      (fun a _ => a.SizesMatch) :=
  Reads.field Ecdsa256BitQuoteV3AuthData.ecdsa256BitSignature
    (copyAndAdvance_reads_fixed Ecdsa256BitSignature.insert_reads fun _ => by
      simp [ecdsaSignatureByteLen]) fun _ =>
  Reads.field Ecdsa256BitQuoteV3AuthData.ecdsaAttestationKey
    (copyAndAdvance_reads_fixed Ecdsa256BitPubkey.insert_reads fun _ => by
      simp [ecdsaPubkeyByteLen]) fun _ =>
  Reads.field Ecdsa256BitQuoteV3AuthData.qeReport
    (copyAndAdvance_reads_fixed EnclaveReport.insert_reads EnclaveReport.length_bytes) fun _ =>
  Reads.field Ecdsa256BitQuoteV3AuthData.qeReportSignature
    (copyAndAdvance_reads_fixed Ecdsa256BitSignature.insert_reads fun _ => by
      simp [ecdsaSignatureByteLen]) fun _ =>
  Reads.bind Ecdsa256BitQuoteV3AuthData.qeAuthData insertQeAuthData_reads
    (fun _ _ h => h.2.2.2.2.1) fun _ ha =>
  Reads.bind Ecdsa256BitQuoteV3AuthData.certificationData insertCertificationData_reads
    (fun _ _ h => h.2.2.2.2.2.2) fun _ hc =>
  reads_make _ fun u _ => ⟨fun h => by subst h; simp [SizesMatch, ha, hc],
    fun h => by cases u; simp_all⟩

theorem Ecdsa256BitQuoteV4AuthData.insert_reads :
    Reads Ecdsa256BitQuoteV4AuthData.insert Ecdsa256BitQuoteV4AuthData.bytes
      (fun a _ => a.SizesMatch) :=
  Reads.field Ecdsa256BitQuoteV4AuthData.ecdsa256BitSignature
    (copyAndAdvance_reads_fixed Ecdsa256BitSignature.insert_reads fun _ => by
      simp [ecdsaSignatureByteLen]) fun _ =>
  Reads.field Ecdsa256BitQuoteV4AuthData.ecdsaAttestationKey
    (copyAndAdvance_reads_fixed Ecdsa256BitPubkey.insert_reads fun _ => by
      simp [ecdsaPubkeyByteLen]) fun _ =>
  Reads.bind Ecdsa256BitQuoteV4AuthData.certificationData insertCertificationData_reads
    (fun _ _ h => h.2.2) fun _ hc =>
  reads_make _ fun u _ => ⟨fun h => by subst h; simp [SizesMatch, hc],
    fun h => by cases u; simp_all⟩

/-! ## A structure is read whenever its bytes are there -/

theorem Header.insert_total : Total Header.insert headerByteLen := by
  rw [show headerByteLen = 2 + (2 + (4 + (2 + (2 + (16 + (20 + 0)))))) by decide]
  exact copyAndAdvance16_total.bind fun _ => copyAndAdvance16_total.bind fun _ =>
    copyAndAdvance32_total.bind fun _ => copyAndAdvance16_total.bind fun _ =>
    copyAndAdvance16_total.bind fun _ => (copyAndAdvanceArray_total 16).bind fun _ =>
    (copyAndAdvanceArray_total 20).bind fun _ => total_pure _

theorem Body.insert_total : Total Body.insert bodyByteSize := by
  rw [show bodyByteSize = 2 + (4 + 0) by decide]
  exact copyAndAdvance16_total.bind fun _ => copyAndAdvance32_total.bind fun _ => total_pure _

theorem EnclaveReport.insert_total : Total EnclaveReport.insert enclaveReportByteLen := by
  rw [show enclaveReportByteLen = 16 + (4 + (28 + (16 + (32 + (32 + (32 + (96 + (2 + (2 + (60 +
    (64 + 0))))))))))) by decide]
  exact (copyAndAdvanceArray_total 16).bind fun _ => copyAndAdvance32_total.bind fun _ =>
    (copyAndAdvanceArray_total 28).bind fun _ => (copyAndAdvanceArray_total 16).bind fun _ =>
    (copyAndAdvanceArray_total 32).bind fun _ => (copyAndAdvanceArray_total 32).bind fun _ =>
    (copyAndAdvanceArray_total 32).bind fun _ => (copyAndAdvanceArray_total 96).bind fun _ =>
    copyAndAdvance16_total.bind fun _ => copyAndAdvance16_total.bind fun _ =>
    (copyAndAdvanceArray_total 60).bind fun _ => (copyAndAdvanceArray_total 64).bind fun _ =>
    total_pure _

theorem TDReport10.insert_total : Total TDReport10.insert tdReport10ByteLen := by
  rw [show tdReport10ByteLen = 16 + (48 + (48 + (8 + (8 + (8 + (48 + (48 + (48 + (48 + (48 + (48 +
    (48 + (48 + (64 + 0)))))))))))))) by decide]
  exact (copyAndAdvanceArray_total 16).bind fun _ => (copyAndAdvanceArray_total 48).bind fun _ =>
    (copyAndAdvanceArray_total 48).bind fun _ => (copyAndAdvanceArray_total 8).bind fun _ =>
    (copyAndAdvanceArray_total 8).bind fun _ => (copyAndAdvanceArray_total 8).bind fun _ =>
    (copyAndAdvanceArray_total 48).bind fun _ => (copyAndAdvanceArray_total 48).bind fun _ =>
    (copyAndAdvanceArray_total 48).bind fun _ => (copyAndAdvanceArray_total 48).bind fun _ =>
    (copyAndAdvanceArray_total 48).bind fun _ => (copyAndAdvanceArray_total 48).bind fun _ =>
    (copyAndAdvanceArray_total 48).bind fun _ => (copyAndAdvanceArray_total 48).bind fun _ =>
    (copyAndAdvanceArray_total 64).bind fun _ => total_pure _

theorem TDReport15.insert_total : Total TDReport15.insert tdReport15ByteLen := by
  rw [show tdReport15ByteLen = tdReport10ByteLen + (16 + (48 + 0)) by decide]
  exact TDReport10.insert_total.bind fun _ => (copyAndAdvanceArray_total 16).bind fun _ =>
    (copyAndAdvanceArray_total 48).bind fun _ => total_pure _

theorem TDReport15Ex.insert_total : Total TDReport15Ex.insert tdReport15ExByteLen := by
  rw [show tdReport15ExByteLen = tdReport15ByteLen +
    (1 + (32 + (48 + (48 + (8 + (16 + (16 + (12 + (48 + (8 + 0)))))))))) by decide]
  exact TDReport15.insert_total.bind fun _ => (copyAndAdvanceArray_total 1).bind fun _ =>
    (copyAndAdvanceArray_total 32).bind fun _ => (copyAndAdvanceArray_total 48).bind fun _ =>
    (copyAndAdvanceArray_total 48).bind fun _ => (copyAndAdvanceArray_total 8).bind fun _ =>
    (copyAndAdvanceArray_total 16).bind fun _ => (copyAndAdvanceArray_total 16).bind fun _ =>
    (copyAndAdvanceArray_total 12).bind fun _ => (copyAndAdvanceArray_total 48).bind fun _ =>
    (copyAndAdvanceArray_total 8).bind fun _ => total_pure _

end DcapQvl
