import DcapQvl.X509.Certificate
import DcapQvl.Lib.Outcome

/-!
# SGX extensions of a PCK certificate

Models of `X509/Tcb.cpp`, `X509/PckCertificate.cpp` and `OpensslHelpers/OidUtils.cpp`.
The sixteen branches of the component loop are one, for the component's index.
-/

namespace DcapQvl

open Lib

/-! ## Object identifiers -/

/-- `oids::SGX_EXTENSION` and what is below it. -/
def sgxExtensionOid : Bytes := str "1.2.840.113741.1.13.1"
def ppidOid : Bytes := sgxExtensionOid ++ str ".1"
def tcbOid : Bytes := sgxExtensionOid ++ str ".2"
def pceIdOid : Bytes := sgxExtensionOid ++ str ".3"
def fmspcOid : Bytes := sgxExtensionOid ++ str ".4"
def sgxTypeOid : Bytes := sgxExtensionOid ++ str ".5"
def platformInstanceIdOid : Bytes := sgxExtensionOid ++ str ".6"
def configurationOid : Bytes := sgxExtensionOid ++ str ".7"
def dynamicPlatformOid : Bytes := configurationOid ++ str ".1"
def cachedKeysOid : Bytes := configurationOid ++ str ".2"
def smtEnabledOid : Bytes := configurationOid ++ str ".3"
def pceSvnOid : Bytes := tcbOid ++ str ".17"
def cpuSvnOid : Bytes := tcbOid ++ str ".18"

/-- `oids::SGX_TCB_COMP01_SVN` to `SGX_TCB_COMP16_SVN`, by index from 0. -/
def sgxTcbCompSvnOid (i : Fin 16) : Bytes := tcbOid ++ str "." ++ toStr (i + 1)

/-- `x509::Extension::Type` without `NONE`. -/
inductive SgxExtensionType
  | ppid
  | cpuSvn
  | pceSvn
  | pceId
  | fmspc
  | sgxType
  | tcb
  | comp (i : Fin 16)
  | platformInstanceId
  | configuration
  | dynamicPlatform
  | cachedKeys
  | smtEnabled
  deriving DecidableEq, Repr

/-- `oids::type2Description(type)`. -/
def type2Description : SgxExtensionType → Bytes
  | .ppid => str "PPID"
  | .cpuSvn => str "CPUSVN"
  | .pceSvn => str "PCESVN"
  | .pceId => str "PCEID"
  | .fmspc => str "FMSPC"
  | .sgxType => str "SGX_TYPE"
  | .tcb => str "TCB"
  | .comp i => str "SGX_TCB_COMP" ++ (if i.val < 9 then str "0" else []) ++ toStr (i + 1) ++
      str "_SVN"
  | .platformInstanceId => str "PLATFORM_INSTANCE_ID"
  | .configuration => str "CONFIGURATION"
  | .dynamicPlatform => str "DYNAMIC_PLATFORM"
  | .cachedKeys => str "CACHED_KEYS"
  | .smtEnabled => str "SMT_ENABLED"

/-- `constants::PCK_REQUIRED_SGX_EXTENSIONS`. -/
def pckRequiredSgxExtensions : List SgxExtensionType := [.ppid, .pceId, .fmspc, .sgxType, .tcb]

/-- `constants::TCB_REQUIRED_SGX_EXTENSIONS`. -/
def tcbRequiredSgxExtensions : List SgxExtensionType :=
  [.cpuSvn, .pceSvn] ++ (List.finRange 16).map .comp

/-- `constants::TCB_SEQUENCE_LEN`. -/
def tcbSequenceLen : ℕ := 18

/-- `PROCESSOR_CA_EXTENSION_COUNT` and `PLATFORM_CA_EXTENSION_COUNT`. -/
def processorCaExtensionCount : ℕ := 5
def platformCaExtensionCount : ℕ := 7

/-- `constants::PPID_BYTE_LEN` and the other lengths of octet strings. -/
def ppidByteLen : ℕ := 16
def pckPceidByteLen : ℕ := 2
def pckFmspcByteLen : ℕ := 6
def pckCpusvnByteLen : ℕ := 16

/-! ## Values -/

/-- `V_ASN1_BOOLEAN` and the other type numbers. -/
def vAsn1Boolean : ℤ := 1
def vAsn1Integer : ℤ := 2
def vAsn1OctetString : ℤ := 4
def vAsn1Object : ℤ := 6
def vAsn1Enumerated : ℤ := 10
def vAsn1Sequence : ℤ := 16

/-- `ASN1_TYPE::type`. -/
def Asn1.type : Asn1 → ℤ
  | .integer _ _ => vAsn1Integer
  | .octetString _ => vAsn1OctetString
  | .object _ => vAsn1Object
  | .enumerated _ _ => vAsn1Enumerated
  | .boolean _ => vAsn1Boolean
  | .sequence _ => vAsn1Sequence
  | .other type => type

/-- `if (!condition) LOG_AND_THROW(e)`. -/
def failUnless (condition : Prop) [Decidable condition] (e : CertificateExn) :
    Except CertificateExn Unit :=
  if condition then .ok () else .error e

/-- The exception of `validateOid(oidName, oidValue, expectedType)`. -/
def typeMismatch (oidName : Bytes) (expectedType : ℤ) (oidValue : Asn1) : CertificateExn :=
  .format (str "OID [" ++ oidName ++ str "] type expected [" ++ str (toString expectedType) ++
    str "] given [" ++ str (toString oidValue.type) ++ str "]")

/-- `validateOid` for an integer, and the integer. -/
def validateInteger (oidName : Bytes) : Asn1 → Except CertificateExn ℤ
  | .integer _ value => .ok value
  | oidValue => .error (typeMismatch oidName vAsn1Integer oidValue)

/-- `validateOid` for an object identifier, and its text as `obj2Str` gives it. -/
def validateObject (oidName : Bytes) : Asn1 → Except CertificateExn Bytes
  | .object oid => .ok oid
  | oidValue => .error (typeMismatch oidName vAsn1Object oidValue)

/-- `validateOid` for an enumerated value, and the value. -/
def validateEnumerated (oidName : Bytes) : Asn1 → Except CertificateExn ℤ
  | .enumerated _ value => .ok value
  | oidValue => .error (typeMismatch oidName vAsn1Enumerated oidValue)

/-- `validateOid` for a boolean, converted to `bool`. -/
def validateBoolean (oidName : Bytes) : Asn1 → Except CertificateExn Bool
  | .boolean value => .ok (value ≠ 0)
  | oidValue => .error (typeMismatch oidName vAsn1Boolean oidValue)

/-- `validateOid` for a sequence, and its encoding. -/
def validateSequence (oidName : Bytes) : Asn1 → Except CertificateExn Bytes
  | .sequence der => .ok der
  | oidValue => .error (typeMismatch oidName vAsn1Sequence oidValue)

/-- `validateOid` with a length for an octet string, and `oidToBytes`. -/
def validateOctetString (oidName : Bytes) (expectedLength : ℕ) :
    Asn1 → Except CertificateExn Bytes
  | .octetString bytes => do
    failUnless (bytes.length = expectedLength) (.format (str "OID [" ++ oidName ++
      str "] length expected [" ++ toStr expectedLength ++ str "] given [" ++
      toStr bytes.length ++ str "]"))
    pure bytes
  | oidValue => .error (typeMismatch oidName vAsn1OctetString oidValue)

/-- `ASN1_INTEGER_get`: −1 for a value that does not fit a `long`. -/
def asn1IntegerGet (value : ℤ) : ℤ := if -2 ^ 63 ≤ value ∧ value < 2 ^ 63 then value else -1

/-- `oidToByte(oidValue)`. -/
def oidToByte (value : ℤ) : UInt8 := UInt8.ofNat (asn1IntegerGet value % 2 ^ 8).toNat

/-- `oidToUInt(oidValue)`. -/
def oidToUInt (value : ℤ) : UInt32 := UInt32.ofNat (asn1IntegerGet value % 2 ^ 32).toNat

/-- `ASN1_ENUMERATED_get`: 0xFFFFFFFF for a value that does not fit a `long`. -/
def asn1EnumeratedGet (value : ℤ) : ℤ :=
  if -2 ^ 63 ≤ value ∧ value < 2 ^ 63 then value else 0xFFFFFFFF

/-- `oidToEnum(oidValue)`: the value is cast to `int`. -/
def oidToEnum (value : ℤ) : Int32 := Int32.ofInt (asn1EnumeratedGet value)

/-- `oidToStack(oidValue)`. -/
def oidToStack (env : X509Env) (der : Bytes) : Except CertificateExn (List Asn1) :=
  match env.d2iAsn1SequenceAny der with
  | some stack => .ok stack
  | none => .error (.format (str "d2i_ASN1_SEQUENCE_ANY failed " ++ env.lastError))

/-- An entry of a sequence of pairs of an identifier and a value. -/
def oidTuple (env : X509Env) (name : Bytes) (oidTupleWrapper : Asn1) :
    Except CertificateExn (Bytes × Asn1) := do
  let stack ← oidToStack env (← validateSequence name oidTupleWrapper)
  match stack with
  | [oidName, oidValue] => do
    let oid ← validateObject name oidName
    pure (oid, oidValue)
  | _ => .error (.invalidExtension (str "OID tuple [" ++ name ++
      str "] expected number of elements is [2] given [" ++ toStr stack.length ++ str "]"))

/-- The check after a loop over extensions. -/
def requireNone (what : Bytes) (expectedExtensions : List SgxExtensionType) :
    Except CertificateExn Unit :=
  failUnless (expectedExtensions = []) (.invalidExtension (str "Required " ++ what ++
    str " SGX extensions not found. Missing [" ++
    (List.intercalate (str ", ") (expectedExtensions.map type2Description)) ++ str "]"))

theorem requireNone_eq_ok {what : Bytes} {expected : List SgxExtensionType} {u : Unit}
    (h : requireNone what expected = .ok u) : expected = [] := by
  unfold requireNone failUnless at h
  by_contra hne
  rw [if_neg hne] at h
  cases h

/-! ## TCB -/

/-- `x509::Tcb`. -/
structure Tcb where
  cpuSvn : Bytes
  cpuSvnComponents : ByteArr 16
  pceSvn : UInt32
  deriving DecidableEq

/-- The members before the loop of the constructor. -/
def Tcb.initial : Tcb := { cpuSvn := [], cpuSvnComponents := .zero 16, pceSvn := 0 }

/-- The component that an identifier names. -/
def compIndex (oid : Bytes) : Option (Fin 16) :=
  (List.finRange 16).find? fun i => oid = sgxTcbCompSvnOid i

theorem sgxTcbCompSvnOid_inj : ∀ i j : Fin 16, sgxTcbCompSvnOid i = sgxTcbCompSvnOid j → i = j := by
  decide +kernel

theorem sgxTcbCompSvnOid_ne_pceSvnOid : ∀ i : Fin 16, sgxTcbCompSvnOid i ≠ pceSvnOid := by
  decide +kernel

theorem compIndex_eq_some {oid : Bytes} {i : Fin 16} (h : compIndex oid = some i) :
    oid = sgxTcbCompSvnOid i := by
  have := List.find?_some h
  simpa using this

theorem compIndex_eq_none {oid : Bytes} (h : compIndex oid = none) (i : Fin 16) :
    sgxTcbCompSvnOid i ≠ oid := by
  have := List.find?_eq_none.mp h i (List.mem_finRange i)
  intro heq
  exact this (by simp [heq])

/-- The body of the loop of `Tcb::Tcb`. -/
def Tcb.insertEntry (self : Tcb) (expected : List SgxExtensionType) (oid : Bytes) (value : Asn1) :
    Except CertificateExn (Tcb × List SgxExtensionType) :=
  match compIndex oid with
  | some i => do
    let n ← validateInteger (sgxTcbCompSvnOid i) value
    pure ({ self with cpuSvnComponents := self.cpuSvnComponents.set i (oidToByte n) },
      expected.filter (· ≠ .comp i))
  | none =>
    if oid = pceSvnOid then do
      let n ← validateInteger pceSvnOid value
      pure ({ self with pceSvn := oidToUInt n }, expected.filter (· ≠ .pceSvn))
    else if oid = cpuSvnOid then do
      let cpuSvn ← validateOctetString cpuSvnOid pckCpusvnByteLen value
      pure ({ self with cpuSvn }, expected.filter (· ≠ .cpuSvn))
    else pure (self, expected)

/-- The loop of `Tcb::Tcb`. -/
def Tcb.insertEntries (env : X509Env) :
    List Asn1 → Tcb → List SgxExtensionType →
      Except CertificateExn (Tcb × List SgxExtensionType)
  | [], self, expected => .ok (self, expected)
  | wrapper :: wrappers, self, expected => do
    let (oid, value) ← oidTuple env tcbOid wrapper
    let (self, expected) ← self.insertEntry expected oid value
    insertEntries env wrappers self expected

/-- `Tcb::Tcb(tcbSeq)`. -/
def Tcb.parse (env : X509Env) (tcbSeq : Asn1) : Except CertificateExn Tcb := do
  let stack ← oidToStack env (← validateSequence tcbOid tcbSeq)
  failUnless (stack.length = tcbSequenceLen) (.invalidExtension (str "TCB length expected [" ++
    toStr tcbSequenceLen ++ str "] given [" ++ toStr stack.length ++ str "]"))
  let (self, expected) ← insertEntries env stack initial tcbRequiredSgxExtensions
  requireNone (str "TCB") expected
  pure self

/-! ## PCK certificates -/

/-- The members that `PckCertificate::setMembers` sets. The enumeration `SgxType` has no
    fixed type, so `_sgxType` keeps the `int` that is cast to it. -/
structure SgxMembers where
  ppid : Bytes
  pceId : Bytes
  fmspc : Bytes
  sgxType : Int32
  tcb : Tcb
  deriving DecidableEq

def SgxMembers.initial : SgxMembers :=
  { ppid := [], pceId := [], fmspc := [], sgxType := 0, tcb := .initial }

/-- The body of the loop of `setMembers`. -/
def SgxMembers.insertEntry (env : X509Env) (self : SgxMembers) (expected : List SgxExtensionType)
    (oid : Bytes) (value : Asn1) : Except CertificateExn (SgxMembers × List SgxExtensionType) :=
  if oid = ppidOid then do
    let ppid ← validateOctetString ppidOid ppidByteLen value
    pure ({ self with ppid }, expected.filter (· ≠ .ppid))
  else if oid = tcbOid then do
    let tcb ← Tcb.parse env value
    pure ({ self with tcb }, expected.filter (· ≠ .tcb))
  else if oid = pceIdOid then do
    let pceId ← validateOctetString pceIdOid pckPceidByteLen value
    pure ({ self with pceId }, expected.filter (· ≠ .pceId))
  else if oid = fmspcOid then do
    let fmspc ← validateOctetString fmspcOid pckFmspcByteLen value
    pure ({ self with fmspc }, expected.filter (· ≠ .fmspc))
  else if oid = sgxTypeOid then do
    let n ← validateEnumerated sgxTypeOid value
    pure ({ self with sgxType := oidToEnum n }, expected.filter (· ≠ .sgxType))
  else pure (self, expected)

/-- The loop of `setMembers`. -/
def SgxMembers.insertEntries (env : X509Env) :
    List Asn1 → SgxMembers → List SgxExtensionType →
      Except CertificateExn (SgxMembers × List SgxExtensionType)
  | [], self, expected => .ok (self, expected)
  | wrapper :: wrappers, self, expected => do
    let (oid, value) ← oidTuple env sgxExtensionOid wrapper
    let (self, expected) ← self.insertEntry env expected oid value
    insertEntries env wrappers self expected

/-- `PckCertificate::setMembers(sgxExtensions)`. -/
def setMembers (env : X509Env) (sgxExtensions : List Asn1) : Except CertificateExn SgxMembers := do
  failUnless (sgxExtensions.length = processorCaExtensionCount ∨
      sgxExtensions.length = platformCaExtensionCount)
    (.invalidExtension (str "OID [" ++ sgxExtensionOid ++ str "] expected to contain [" ++
      toStr processorCaExtensionCount ++ str "] or [" ++ toStr platformCaExtensionCount ++
      str "] elements when given [" ++ toStr sgxExtensions.length ++ str "]"))
  let (self, expected) ←
    SgxMembers.insertEntries env sgxExtensions .initial pckRequiredSgxExtensions
  requireNone (str "PCK") expected
  pure self

/-- `NID_undef`. -/
def nidUndef : ℤ := 0

/-- `PckCertificate::getSgxExtensions()`. -/
def getSgxExtensions (env : X509Env) (cert : Certificate) :
    Except CertificateExn (List Asn1) := do
  match cert.extensions.find? fun ext => ext.nid = nidUndef ∧ ext.name = sgxExtensionOid with
  | none => .error (.invalidExtension (str "Certificate is missing SGX Extensions OID[" ++
      sgxExtensionOid ++ str "]"))
  | some sgxExtension =>
    match env.d2iAsn1Type sgxExtension.value with
    | none => .error (.invalidExtension (str
        "d2i_ASN1_TYPE cannot parse data to correct type " ++ env.lastError))
    | some topSequence => do
      oidToStack env (← validateSequence sgxExtensionOid topSequence)

/-- `x509::PckCertificate`. -/
structure PckCertificate extends Certificate where
  members : SgxMembers
  deriving DecidableEq

/-- `PckCertificate::PckCertificate(certificate)`. -/
def PckCertificate.ofCertificate (env : X509Env) (certificate : Certificate) :
    Except CertificateExn PckCertificate := do
  let sgxExtensions ← getSgxExtensions env certificate
  let members ← setMembers env sgxExtensions
  pure { certificate with members }

/-- `PckCertificate::parse(pem)`. -/
def PckCertificate.parse (env : X509Env) (pem : Bytes) : Except CertificateExn PckCertificate := do
  let certificate ← env.readCertificate pem
  ofCertificate env certificate

/-- The certificate part of a PCK certificate is the certificate it is made from. -/
theorem PckCertificate.ofCertificate_toCertificate {env : X509Env} {cert : Certificate}
    {pck : PckCertificate} (h : ofCertificate env cert = .ok pck) : pck.toCertificate = cert := by
  obtain ⟨_, _, h⟩ := bind_eq_ok.mp h
  obtain ⟨_, _, h⟩ := bind_eq_ok.mp h
  cases h
  rfl

/-! ## A sample -/

/-- A name that has a common name only. -/
def sampleName (commonName : Bytes) : DistinguishedName :=
  { raw := commonName, commonName, countryName := [], organizationName := [], locationName := []
    stateName := [] }

/-- A PCK certificate of a platform whose SVNs are all 1. -/
def samplePckCertificate : PckCertificate :=
  { subject := sampleName sgxPckCnPhrase, issuer := sampleName sgxIntermediateCnPhrase
    serialNumber := [1], validity := { notBeforeTime := 0, notAfterTime := 2 }, extensions := []
    info := [], signature := [], pubKey := 4 :: List.replicate 64 0
    members := {
      ppid := List.replicate 16 0, pceId := List.replicate 2 0, fmspc := List.replicate 6 0
      sgxType := 0
      tcb := { cpuSvn := List.replicate 16 1, cpuSvnComponents := .replicate 16 1, pceSvn := 1 } } }

/-- The certificate with an SGX extension, before the extension is decoded. -/
def sampleCertificate : Certificate :=
  { samplePckCertificate.toCertificate with
    extensions := [{ nid := nidUndef, name := sgxExtensionOid, value := [0] }] }

/-- A pair in the extension. -/
def samplePair (oid : Bytes) (value : Asn1) : Option (List Asn1) := some [.object oid, value]

/-- The sequences of the extension, with one SVN for the components and one for the PCE. -/
def sampleSequence (componentSvn pceSvn : ℤ) : Bytes → Option (List Asn1)
  | [0] => some ((List.range 5).map fun i => .sequence [1, UInt8.ofNat i])
  | [1, 0] => samplePair ppidOid (.octetString (List.replicate 16 0))
  | [1, 1] => samplePair tcbOid (.sequence [2])
  | [1, 2] => samplePair pceIdOid (.octetString (List.replicate 2 0))
  | [1, 3] => samplePair fmspcOid (.octetString (List.replicate 6 0))
  | [1, 4] => samplePair sgxTypeOid (.enumerated 1 0)
  | [2] => some ((List.range 18).map fun i => .sequence [3, UInt8.ofNat i])
  | [3, i] =>
    if h : i.toNat < 16 then samplePair (sgxTcbCompSvnOid ⟨i.toNat, h⟩) (.integer 2 componentSvn)
    else if i = 16 then samplePair pceSvnOid (.integer 2 pceSvn)
    else samplePair cpuSvnOid (.octetString (List.replicate 16 1))
  | _ => none

/-- Every text is read as the sample certificate and as one revocation list. -/
def sampleX509 (componentSvn pceSvn : ℤ) (crl : CrlStore) : X509Env where
  readCertificate := fun _ => .ok sampleCertificate
  readCrl := fun _ => some crl
  d2iAsn1Type := fun der => some (.sequence der)
  d2iAsn1SequenceAny := sampleSequence componentSvn pceSvn
  lastError := []

end DcapQvl
