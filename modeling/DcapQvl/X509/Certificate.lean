import DcapQvl.Common.Status

/-!
# Certificates, revocation lists and signatures

The data that the verifiers take from X.509 certificates and revocation lists,
and the comparisons they make on it (`DistinguishedName.cpp`, `BaseVerifier.cpp`,
`CrlStore.cpp`, `PckParser.cpp`, `KeyUtils.cpp`, `SignatureVerification.cpp`).
What OpenSSL decodes and computes is in the fields of `X509Env` and `Crypto`.
-/

namespace DcapQvl

/-! ## Names -/

/-- `x509::DistinguishedName`, also for `pckparser::Issuer`. -/
structure DistinguishedName where
  raw : Bytes
  commonName : Bytes
  countryName : Bytes
  organizationName : Bytes
  locationName : Bytes
  stateName : Bytes
  deriving DecidableEq, Repr

/-- `DistinguishedName::operator==`; `raw` is not compared. -/
def DistinguishedName.same (name other : DistinguishedName) : Bool :=
  name.commonName = other.commonName && name.countryName = other.countryName &&
    name.organizationName = other.organizationName && name.locationName = other.locationName &&
    name.stateName = other.stateName

/-- `find(pattern) != std::string::npos`. -/
def contains (s pattern : Bytes) : Bool := decide (pattern <:+: s)

/-- `commonNameContains(name, pattern)`. -/
def commonNameContains (name : DistinguishedName) (pattern : Bytes) : Bool :=
  contains name.commonName pattern

/-- `constants::SGX_ROOT_CA_CN_PHRASE` and the other phrases. -/
def sgxRootCaCnPhrase : Bytes := str "SGX Root CA"
def sgxIntermediateCnPhrase : Bytes := str "CA"
def sgxPckCnPhrase : Bytes := str "SGX PCK Certificate"
def sgxTcbSigningCnPhrase : Bytes := str "SGX TCB Signing"

theorem DistinguishedName.same_iff {name other : DistinguishedName} :
    name.same other = true ↔ { name with raw := [] } = { other with raw := [] } := by
  rw [DistinguishedName.same]
  simp [and_assoc]

theorem DistinguishedName.same_refl (name : DistinguishedName) : name.same name = true :=
  same_iff.mpr rfl

theorem DistinguishedName.same_comm {name other : DistinguishedName} :
    name.same other = true ↔ other.same name = true := by
  rw [same_iff, same_iff, eq_comm]

theorem DistinguishedName.same_trans {a b c : DistinguishedName} (h : a.same b = true)
    (h' : b.same c = true) : a.same c = true :=
  same_iff.mpr ((same_iff.mp h).trans (same_iff.mp h'))

/-! ## Certificates -/

/-- `x509::Validity` and `pckparser::Validity`. -/
structure Validity where
  notBeforeTime : ℤ
  notAfterTime : ℤ
  deriving DecidableEq, Repr

/-- `Validity::isValid(expirationDate)`. -/
def Validity.isValid (validity : Validity) (expirationDate : ℤ) : Bool :=
  expirationDate ≤ validity.notAfterTime && expirationDate ≥ validity.notBeforeTime

/-- `x509::Extension` and `pckparser::Extension`. -/
structure Extension where
  nid : ℤ
  name : Bytes
  value : Bytes
  deriving DecidableEq, Repr

/-- `x509::Certificate`; the signature is its raw DER encoding. -/
structure Certificate where
  subject : DistinguishedName
  issuer : DistinguishedName
  serialNumber : Bytes
  validity : Validity
  extensions : List Extension
  info : Bytes
  signature : Bytes
  pubKey : Bytes
  deriving DecidableEq, Repr

/-- `pckparser::CrlStore`; `crl` stands for the `X509_CRL` object. -/
structure CrlStore where
  crl : Bytes
  issuer : DistinguishedName
  validity : Validity
  revoked : List Bytes
  extensions : List Extension
  deriving DecidableEq, Repr

/-- `CrlStore::isRevoked(cert)`, on serial numbers. -/
def CrlStore.isRevoked (crl : CrlStore) (cert : Certificate) : Bool :=
  crl.revoked.any fun serialNumber => serialNumber = cert.serialNumber

/-- `CrlStore::expired(expirationDate)`. -/
def CrlStore.expired (crl : CrlStore) (expirationDate : ℤ) : Bool :=
  !crl.validity.isValid expirationDate

/-- The exceptions of the certificate parsers. -/
inductive CertificateExn
  | format (what : Bytes)
  | invalidExtension (what : Bytes)
  deriving DecidableEq, Repr

def CertificateExn.toExn : CertificateExn → Exn
  | .format what => .format what
  | .invalidExtension what => .invalidExtension what

/-! ## Signatures -/

/-- What OpenSSL computes; `Key` is `EVP_PKEY`. -/
structure Crypto (Key : Type) where
  /-- The import of the coordinates of a P-256 point. -/
  importKey : ByteArr 64 → Option Key
  /-- `rawEcdsaSignatureToDER`. -/
  rawEcdsaSignatureToDER : ByteArr 64 → Bytes
  /-- `EVP_DigestVerify` with SHA-256 on signature, message and key. -/
  verifySha256Signature : Bytes → Bytes → Key → Bool
  /-- The SHA-256 digest, when the computation succeeds. -/
  sha256 : Bytes → Option (ByteArr 32)
  /-- `X509_CRL_verify`. -/
  verifyCrl : Bytes → Key → Bool

namespace Crypto

variable {Key : Type} (crypto : Crypto Key)

/-- `POINT_CONVERSION_UNCOMPRESSED`. -/
def pointConversionUncompressed : UInt8 := 4

/-- `rawToP256PubKey(std::vector)`. -/
def rawToP256PubKey (rawKey : Bytes) : Option Key :=
  match rawKey with
  | [] => none
  | header :: raw =>
    if h : raw.length = 64 then
      if header = pointConversionUncompressed then crypto.importKey ⟨raw, h⟩ else none
    else none

/-- `verifySha256EcdsaSignature(std::array, message, EVP_PKEY)`. -/
def verifySha256EcdsaSignature (signature : ByteArr 64) (message : Bytes) (publicKey : Key) :
    Bool :=
  crypto.verifySha256Signature (crypto.rawEcdsaSignatureToDER signature) message publicKey

/-- `verifySha256EcdsaSignature(x509::Signature, message, publicKey)`. -/
def verifyCertificateSignature (signature message publicKey : Bytes) : Bool :=
  match crypto.rawToP256PubKey publicKey with
  | none => false
  | some pubKey => crypto.verifySha256Signature signature message pubKey

/-- `verifySignature(crl, pubKey)`. -/
def verifyCrlSignature (crl : CrlStore) (pubKey : Bytes) : Bool :=
  match crypto.rawToP256PubKey pubKey with
  | none => false
  | some publicKey => crypto.verifyCrl crl.crl publicKey

/-- `sha256Digest(bytes)`; empty when the computation fails. -/
def sha256Digest (bytes : Bytes) : Bytes :=
  match crypto.sha256 bytes with
  | some hash => hash.toList
  | none => []

end Crypto

/-! ## Decoding -/

/-- `ASN1_TYPE`; a sequence is not decoded yet. -/
inductive Asn1
  | integer (length : ℕ) (value : ℤ)
  | octetString (bytes : Bytes)
  | object (oid : Bytes)
  | enumerated (length : ℕ) (value : ℤ)
  | boolean (value : ℤ)
  | sequence (der : Bytes)
  | other (type : ℤ)
  deriving DecidableEq, Repr

/-- What OpenSSL decodes. -/
structure X509Env where
  /-- `Certificate::Certificate(pem)`. -/
  readCertificate : Bytes → Except CertificateExn Certificate
  /-- What `CrlStore::parse` stores; `none` when it returns false. -/
  readCrl : Bytes → Option CrlStore
  /-- `d2i_ASN1_TYPE`. -/
  d2iAsn1Type : Bytes → Option Asn1
  /-- `d2i_ASN1_SEQUENCE_ANY`. -/
  d2iAsn1SequenceAny : Bytes → Option (List Asn1)
  /-- The text of `getLastError()`. -/
  lastError : Bytes

end DcapQvl
