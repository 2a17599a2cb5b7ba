import DcapQvl.Lib.LittleEndian
import DcapQvl.X509.Certificate

/-!
# Serial numbers

How a serial number gets into a `CrlStore` (`getRevoked` of `PckParser.cpp`) and into a
`Certificate` (`setSerialNumber` of `Certificate.cpp`, `bn2Vec` of `ParserUtils.cpp`), and
their comparison. OpenSSL keeps the sign of an `ASN1_INTEGER` apart from its bytes.

Results:
* `isRevoked_decoded`: a certificate is revoked if an entry has the absolute value of its serial
  number, and that is not 0.
* `isRevoked_iff_listed`: exactly when that is to be listed.
-/

namespace DcapQvl

open Lib

/-! ## Integers of OpenSSL -/

/-- `ASN1_INTEGER`: whether the type is `V_ASN1_NEG_INTEGER`, and `data`. -/
structure Asn1Integer where
  negative : Bool
  data : Bytes
  deriving DecidableEq, Repr

/-- The decoded integer: its magnitude in as few bytes as possible, one for 0. -/
def Asn1Integer.ofInt (n : ℤ) : Asn1Integer where
  negative := n < 0
  data := if n = 0 then [0] else beBytes n.natAbs

/-- `ASN1_INTEGER_to_BN`. -/
def asn1IntegerToBn (serialNumber : Asn1Integer) : Option ℤ :=
  some (if serialNumber.negative then -beNat serialNumber.data else beNat serialNumber.data)

/-- `BN_bn2bin`; `BN_num_bytes` is its length. -/
def bnBn2bin (bn : ℤ) : Bytes := beBytes bn.natAbs

theorem Asn1Integer.toBn_ofInt (n : ℤ) : asn1IntegerToBn (.ofInt n) = some n := by
  unfold asn1IntegerToBn ofInt
  by_cases hzero : n = 0
  · rw [hzero]
    decide
  · dsimp only
    rw [if_neg hzero, beNat_beBytes]
    by_cases hneg : n < 0
    · rw [if_pos (decide_eq_true hneg)]
      exact congrArg some (by omega)
    · rw [if_neg (by simpa using hneg)]
      exact congrArg some (by omega)

/-! ## Certificates -/

/-- `bn2Vec(bn)`. -/
def bn2Vec (bn : Option ℤ) : Bytes :=
  match bn with
  | none => []
  | some bn => if (bnBn2bin bn).length ≤ 0 then [] else bnBn2bin bn

/-- `Certificate::setSerialNumber(x509)`, on the serial number of `x509`. -/
def setSerialNumber (serialNumber : Asn1Integer) : Bytes := bn2Vec (asn1IntegerToBn serialNumber)

theorem setSerialNumber_ofInt (n : ℤ) : setSerialNumber (.ofInt n) = beBytes n.natAbs := by
  rw [setSerialNumber, Asn1Integer.toBn_ofInt]
  unfold bn2Vec bnBn2bin
  dsimp only
  split_ifs with h
  · exact (List.length_eq_zero_iff.mp (Nat.le_zero.mp h)).symm
  · rfl

/-! ## Revocation lists -/

/-- `X509_REVOKED`; the date as it is printed. -/
structure X509Revoked where
  serialNumber : Option Asn1Integer
  revocationDate : Option Bytes
  deriving DecidableEq, Repr

/-- `pckparser::Revoked`. -/
structure Revoked where
  dateStr : Bytes
  serialNumber : Bytes
  deriving DecidableEq, Repr

/-- `getRevoked(revokedStack, index)`, on the entry of that index. -/
def getRevoked (revoked : Option X509Revoked) : Revoked :=
  match revoked with
  | none => ⟨[], []⟩
  | some revoked =>
    match revoked.serialNumber, revoked.revocationDate with
    | some serialNumber, some time =>
      if serialNumber.data.length ≤ 0 then ⟨[], []⟩ else ⟨time, serialNumber.data⟩
    | _, _ => ⟨[], []⟩

/-- `getRevoked(crl)`, on the stack of the list. -/
def getRevokedStack (revokedStack : Option (List X509Revoked)) : List Revoked :=
  match revokedStack with
  | none => []
  | some revokedStack => revokedStack.map fun revoked => getRevoked (some revoked)

/-- The stack of a list that is decoded, from its serial numbers and dates; there is none
    without entries. -/
def decodedStack (entries : List (ℤ × Bytes)) : Option (List X509Revoked) :=
  if entries = [] then none
  else some (entries.map fun entry => ⟨some (.ofInt entry.1), some entry.2⟩)

theorem getRevoked_decoded (entry : ℤ × Bytes) :
    getRevoked (some ⟨some (.ofInt entry.1), some entry.2⟩) =
      ⟨entry.2, (Asn1Integer.ofInt entry.1).data⟩ := by
  unfold getRevoked
  dsimp only
  rw [if_neg]
  unfold Asn1Integer.ofInt
  dsimp only
  split_ifs with hzero
  · decide
  · rw [Nat.le_zero, List.length_eq_zero_iff, beBytes_eq_nil_iff]
    omega

theorem getRevokedStack_decoded (entries : List (ℤ × Bytes)) :
    getRevokedStack (decodedStack entries) =
      entries.map fun entry => ⟨entry.2, (Asn1Integer.ofInt entry.1).data⟩ := by
  unfold decodedStack
  split_ifs with hnil
  · rw [hnil]
    rfl
  · unfold getRevokedStack
    dsimp only
    rw [List.map_map]
    exact List.map_congr_left fun entry _ => getRevoked_decoded entry

/-! ## The comparison -/

/-- The list and the certificate have these serial numbers. -/
structure Decoded (crl : CrlStore) (cert : Certificate) (entries : List (ℤ × Bytes))
    (serialNumber : ℤ) : Prop where
  crl : crl.revoked = (getRevokedStack (decodedStack entries)).map Revoked.serialNumber
  cert : cert.serialNumber = setSerialNumber (.ofInt serialNumber)

variable {crl : CrlStore} {cert : Certificate} {entries : List (ℤ × Bytes)} {serialNumber : ℤ}

/-- The certificate is listed by its serial number. -/
def Listed (entries : List (ℤ × Bytes)) (serialNumber : ℤ) : Prop :=
  ∃ entry ∈ entries, entry.1 = serialNumber

/-- The bytes on both sides are the same for the same absolute value, unless it is 0. -/
theorem data_eq_setSerialNumber_iff (n m : ℤ) :
    (Asn1Integer.ofInt n).data = setSerialNumber (.ofInt m) ↔ m ≠ 0 ∧ (n = m ∨ n = -m) := by
  rw [setSerialNumber_ofInt]
  unfold Asn1Integer.ofInt
  dsimp only
  by_cases hn : n = 0
  · rw [if_pos hn, hn]
    constructor
    · intro h
      have hm : m.natAbs = 0 := by
        have hnat := congrArg beNat h
        rw [beNat_beBytes] at hnat
        exact hnat.symm
      rw [hm, beBytes_eq_nil_iff.mpr rfl] at h
      cases h
    · omega
  · rw [if_neg hn, beBytes_inj]
    omega

/-- What `isRevoked` decides. -/
theorem isRevoked_decoded (h : Decoded crl cert entries serialNumber) :
    crl.isRevoked cert = true ↔
      serialNumber ≠ 0 ∧ (Listed entries serialNumber ∨ Listed entries (-serialNumber)) := by
  rw [CrlStore.isRevoked, h.crl, h.cert, getRevokedStack_decoded]
  simp only [List.any_map, List.any_eq_true, Function.comp_apply, decide_eq_true_eq,
    data_eq_setSerialNumber_iff, Listed]
  constructor
  · rintro ⟨entry, hmem, hne, heq | heq⟩
    · exact ⟨hne, Or.inl ⟨entry, hmem, heq⟩⟩
    · exact ⟨hne, Or.inr ⟨entry, hmem, heq⟩⟩
  · rintro ⟨hne, ⟨entry, hmem, heq⟩ | ⟨entry, hmem, heq⟩⟩
    · exact ⟨entry, hmem, hne, Or.inl heq⟩
    · exact ⟨entry, hmem, hne, Or.inr heq⟩

/-- **Revoked and listed.** For a certificate with a serial number that is not negative,
    `isRevoked` says that it is listed exactly when it is not a listed 0, and when its negative
    is not listed alone. -/
theorem isRevoked_iff_listed (hnonneg : 0 ≤ serialNumber)
    (h : Decoded crl cert entries serialNumber) :
    (crl.isRevoked cert = true ↔ Listed entries serialNumber) ↔
      ¬ (serialNumber = 0 ∧ Listed entries 0) ∧
        ¬ (0 < serialNumber ∧ Listed entries (-serialNumber) ∧ ¬ Listed entries serialNumber) := by
  rw [isRevoked_decoded h]
  rcases hnonneg.eq_or_lt with rfl | hpos
  · simp
  · have hne : serialNumber ≠ 0 := hpos.ne'
    tauto

/-- A name without fields. -/
def anyName : DistinguishedName :=
  { raw := [], commonName := [], countryName := [], organizationName := [], locationName := []
    stateName := [] }

/-- A list with these entries and a certificate with this serial number. -/
def listOf (entries : List (ℤ × Bytes)) : CrlStore :=
  { crl := [], issuer := anyName, validity := ⟨0, 0⟩
    revoked := (getRevokedStack (decodedStack entries)).map Revoked.serialNumber
    extensions := [] }

def certificateOf (serialNumber : ℤ) : Certificate :=
  { subject := anyName, issuer := anyName, serialNumber := setSerialNumber (.ofInt serialNumber)
    validity := ⟨0, 0⟩, extensions := [], info := [], signature := [], pubKey := [] }

theorem decoded_listOf (entries : List (ℤ × Bytes)) (serialNumber : ℤ) :
    Decoded (listOf entries) (certificateOf serialNumber) entries serialNumber := ⟨rfl, rfl⟩

/-- The certificate 5 on a list of 5 and 0. -/
theorem isRevoked_iff_listed_sample :
    (listOf [(0, []), (5, [])]).isRevoked (certificateOf 5) = true ↔
      Listed [(0, []), (5, [])] 5 :=
  (isRevoked_iff_listed (by decide) (decoded_listOf [(0, []), (5, [])] 5)).mpr
    ⟨by norm_num, by simp [Listed]⟩

/-- The certificate 0 is listed and not revoked, the certificate 5 is revoked and not listed. -/
theorem isRevoked_not_listed :
    ¬ ((listOf [(0, [])]).isRevoked (certificateOf 0) = true ↔ Listed [(0, [])] 0) ∧
      ¬ ((listOf [(-5, [])]).isRevoked (certificateOf 5) = true ↔ Listed [(-5, [])] 5) := by
  rw [isRevoked_decoded (decoded_listOf _ _), isRevoked_decoded (decoded_listOf _ _)]
  simp [Listed]

end DcapQvl
