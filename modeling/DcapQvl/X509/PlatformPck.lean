import DcapQvl.X509.SgxExtensions

/-!
# PCK certificates of the two intermediate authorities

Models of `X509/PlatformPckCertificate.cpp`, `X509/ProcessorPckCertificate.cpp` and
`X509/Configuration.cpp`.
-/

namespace DcapQvl

open Lib

/-- `constants::PLATFORM_PCK_REQUIRED_SGX_EXTENSIONS`. -/
def platformPckRequiredSgxExtensions : List SgxExtensionType :=
  [.platformInstanceId, .configuration]

/-- `constants::CONFIGURATION_REQUIRED_SGX_EXTENSIONS`. -/
def configurationRequiredSgxExtensions : List SgxExtensionType :=
  [.dynamicPlatform, .cachedKeys, .smtEnabled]

/-- `constants::PLATFORM_INSTANCE_ID_LEN`. -/
def platformInstanceIdLen : ℕ := 16

/-! ## Configuration -/

/-- `x509::Configuration`. -/
structure Configuration where
  dynamicPlatform : Bool
  cachedKeys : Bool
  smtEnabled : Bool
  deriving DecidableEq

/-- The default members. -/
def Configuration.initial : Configuration :=
  { dynamicPlatform := true, cachedKeys := true, smtEnabled := true }

/-- The body of the loop of `Configuration::Configuration`. -/
def Configuration.insertEntry (self : Configuration) (expected : List SgxExtensionType)
    (oid : Bytes) (value : Asn1) :
    Except CertificateExn (Configuration × List SgxExtensionType) :=
  if oid = dynamicPlatformOid then do
    let dynamicPlatform ← validateBoolean dynamicPlatformOid value
    pure ({ self with dynamicPlatform }, expected.filter (· ≠ .dynamicPlatform))
  else if oid = cachedKeysOid then do
    let cachedKeys ← validateBoolean cachedKeysOid value
    pure ({ self with cachedKeys }, expected.filter (· ≠ .cachedKeys))
  else if oid = smtEnabledOid then do
    let smtEnabled ← validateBoolean smtEnabledOid value
    pure ({ self with smtEnabled }, expected.filter (· ≠ .smtEnabled))
  else pure (self, expected)

/-- The loop of `Configuration::Configuration`. -/
def Configuration.insertEntries (env : X509Env) :
    List Asn1 → Configuration → List SgxExtensionType →
      Except CertificateExn (Configuration × List SgxExtensionType)
  | [], self, expected => .ok (self, expected)
  | wrapper :: wrappers, self, expected => do
    let (oid, value) ← oidTuple env configurationOid wrapper
    let (self, expected) ← self.insertEntry expected oid value
    insertEntries env wrappers self expected

/-- `Configuration::Configuration(configurationSeq)`; the number of entries is not checked. -/
def Configuration.parse (env : X509Env) (configurationSeq : Asn1) :
    Except CertificateExn Configuration := do
  let stack ← oidToStack env (← validateSequence configurationOid configurationSeq)
  let (self, expected) ← insertEntries env stack initial configurationRequiredSgxExtensions
  requireNone (str "Configuration") expected
  pure self

/-! ## Platform certificates -/

/-- The members that `PlatformPckCertificate::setMembers` sets. -/
structure PlatformMembers extends SgxMembers where
  platformInstanceId : Bytes
  configuration : Configuration
  deriving DecidableEq

/-- The body of the loop of `setMembers`. -/
def PlatformMembers.insertEntry (env : X509Env) (self : PlatformMembers)
    (expected : List SgxExtensionType) (oid : Bytes) (value : Asn1) :
    Except CertificateExn (PlatformMembers × List SgxExtensionType) :=
  if oid = platformInstanceIdOid then do
    let platformInstanceId ←
      validateOctetString platformInstanceIdOid platformInstanceIdLen value
    pure ({ self with platformInstanceId }, expected.filter (· ≠ .platformInstanceId))
  else if oid = configurationOid then do
    let configuration ← Configuration.parse env value
    pure ({ self with configuration }, expected.filter (· ≠ .configuration))
  else pure (self, expected)

/-- The loop of `setMembers`. -/
def PlatformMembers.insertEntries (env : X509Env) :
    List Asn1 → PlatformMembers → List SgxExtensionType →
      Except CertificateExn (PlatformMembers × List SgxExtensionType)
  | [], self, expected => .ok (self, expected)
  | wrapper :: wrappers, self, expected => do
    -- the name is not validated here, but the base class has done so for the same entries
    let (oid, value) ← oidTuple env sgxExtensionOid wrapper
    let (self, expected) ← self.insertEntry env expected oid value
    insertEntries env wrappers self expected

/-- The check of the number of entries in the two derived classes. -/
def requireEntryCount (count : ℕ) (sgxExtensions : List Asn1) : Except CertificateExn Unit :=
  failUnless (sgxExtensions.length = count) (.invalidExtension (str "OID [" ++ sgxExtensionOid ++
    str "] expected to contain [" ++ toStr count ++ str "] elements when given [" ++
    toStr sgxExtensions.length ++ str "]"))

/-- `PlatformPckCertificate::setMembers(sgxExtensions)`. -/
def PlatformPckCertificate.setMembers (env : X509Env) (sgxExtensions : List Asn1) :
    Except CertificateExn PlatformMembers := do
  let members ← DcapQvl.setMembers env sgxExtensions
  requireEntryCount platformCaExtensionCount sgxExtensions
  let (self, expected) ← PlatformMembers.insertEntries env sgxExtensions
    { members with platformInstanceId := [], configuration := .initial }
    platformPckRequiredSgxExtensions
  requireNone (str "PCK") expected
  pure self

/-! ## Processor certificates -/

/-- `ProcessorPckCertificate::setMembers(sgxExtensions)`. -/
def ProcessorPckCertificate.setMembers (env : X509Env) (sgxExtensions : List Asn1) :
    Except CertificateExn SgxMembers := do
  let members ← DcapQvl.setMembers env sgxExtensions
  requireEntryCount processorCaExtensionCount sgxExtensions
  pure members

end DcapQvl
