import S2nTls.Tls.ExtensionList
import S2nTls.Tls.Parameters

/-!
The certificate validator (`tls/s2n_x509_validator.c`, with the CRL lookups of `tls/s2n_crl.c` and
the extensions of a TLS1.3 certificate).

A certificate is a value of an arbitrary type `X`. Whatever libcrypto, the clock, the security
policy and the application's callbacks answer during a call is the argument `CertEnv` of that call,
so that two calls may be answered differently. Two lists record what no field of the validator
says: the chains on which `X509_verify_cert` succeeded, and the stapled responses that were found
to be good.
-/

namespace S2nTls

open Lib Stuffer

/-! ### The validator -/

inductive ValidatorState
  | uninit | init | readyToVerify | awaitingCrlCallback | validated | ocspValidated
  deriving DecidableEq, Repr

/-- `struct s2n_crl`: whether it holds an `X509_CRL`. -/
structure Crl where
  loaded : Bool
  deriving DecidableEq

structure CrlLookup (X : Type) where
  finished : Bool
  cert : X
  certIdx : ℕ
  crl : Option Crl

structure CertValidationInfo where
  finished : Bool
  accepted : Bool
  deriving DecidableEq

/-- `struct s2n_x509_validator`. The trust store belongs to the configuration, and
`X509_STORE_CTX` refers to the stack of certificates of the validator, so of the context only its
presence is kept. -/
structure X509Validator (X : Type) where
  storeCtx : Bool
  skipCertValidation : Bool
  checkStapledOcsp : Bool
  maxChainDepth : ℕ
  certChainFromWire : List X
  state : ValidatorState
  crlLookupList : Option (List (CrlLookup X))
  certValidationInfo : CertValidationInfo
  certValidationCbInvoked : Bool

def defaultMaxChainDepth : ℕ := 7

/-- `s2n_x509_validator_init`, on a trust store with certificates or without. -/
def X509Validator.init {X : Type} (hasCerts checkOcsp : Bool) : X509Validator X :=
  { storeCtx := hasCerts
    skipCertValidation := false
    checkStapledOcsp := checkOcsp
    maxChainDepth := defaultMaxChainDepth
    certChainFromWire := []
    state := .init
    crlLookupList := none
    certValidationInfo := ⟨false, false⟩
    certValidationCbInvoked := false }

def X509Validator.isCertChainValidated {X : Type} (v : X509Validator X) : Bool :=
  v.state = .validated || v.state = .ocspValidated

/-- What the validation of certificates reads and writes of a connection. -/
structure CertConn (X : Type) where
  mode : Mode
  actualProtocolVersion : ℕ
  extensionBits : ExtensionBits
  /-- `status_type`: whether it is `S2N_STATUS_REQUEST_OCSP`. -/
  statusTypeOcsp : Bool
  statusResponse : List UInt8
  ctResponse : List UInt8
  x509Validator : X509Validator X
  /-- The chains on which `X509_verify_cert` succeeded. -/
  verified : List (List X)
  /-- The stapled responses that were verified with status good. -/
  goodResponses : List (List UInt8)

abbrev CertM (X : Type) := EStateM Err (CertConn X)

/-! ### What the outside answers -/

structure CertInfo where
  selfSigned : Bool
  signatureNid : ℕ
  signatureDigestNid : ℕ
  publicKeyNid : ℕ
  publicKeyBits : ℕ

/-- The certificate preferences of a security policy: the identifiers of the signature schemes, and
identifier and size of the keys. -/
structure CertPolicy where
  certificateSignaturePreferences : Option (List ℕ)
  certificateKeyPreferences : Option (List (ℕ × ℕ))

/-- Calls of libcrypto that can only succeed or fail. -/
inductive OsslCall
  | pushCert (index : ℕ) | pushCrl (index : ℕ) | storeCtxInit | flagCrlCheck | flagCrlCheckAll
  | flagNoCheckTime

/-- The errors of `X509_verify_cert` that the source tells apart. -/
inductive VerifyError
  | certNotYetValid | certHasExpired | certRevoked | unableToGetCrl | differentCrlScope
  | crlSignatureFailure | unableToGetCrlIssuer | unhandledCriticalCrlExtension | other
  deriving DecidableEq

/-- `V_OCSP_CERTSTATUS_*`. -/
inductive OcspCertStatus
  | good | revoked | unknown
  deriving DecidableEq

/-- What `OCSP_resp_find_status` finds. -/
structure OcspStatus where
  status : OcspCertStatus
  thisUpdate : ℤ
  nextUpdate : Option ℤ

/-- What libcrypto says about a stapled response. -/
structure OcspEnv (X : Type) where
  /-- `d2i_OCSP_RESPONSE`: whether the response says that it was successful. -/
  d2iResponse : List UInt8 → Option Bool
  /-- Whether `OCSP_response_get1_basic` finds the basic response. -/
  basicResponse : List UInt8 → Bool
  checkIssued : (issuer subject : X) → Bool
  basicVerify : List UInt8 → List X → Bool
  certToId : (subject issuer : X) → Bool
  respFindStatus : List UInt8 → (subject issuer : X) → Option OcspStatus
  generalizedTime : ℕ → Option ℤ
  /-- `ASN1_TIME_diff`: days and seconds from the first time to the second. -/
  timeDiff : ℤ → ℤ → Option (ℤ × ℤ)

/-- The answers of libcrypto, of the clock, of the configuration and of the application during one
call. Certificates have type `X` and public keys type `P`. -/
structure CertEnv (X P : Type) where
  malloc : ℕ → Bool
  policy : CertPolicy
  /-- `s2n_x509_trust_store_has_certs`. -/
  trustStoreHasCerts : Bool
  ossl : OsslCall → Bool
  /-- `d2i_X509`: the certificate and the number of bytes it took. -/
  d2iX509 : List UInt8 → Option (X × ℕ)
  /-- `s2n_openssl_x509_get_cert_info`. -/
  getCertInfo : X → Except Err CertInfo
  /-- `s2n_verify_host_information`, if there is a `verify_host_fn`. -/
  verifyHostInformation : Option (X → Except Err Unit)
  /-- `crl_lookup_cb`: what a call for the lookup with this number does to the lookups, and
  whether it succeeds. -/
  crlLookupCb : Option (ℕ → List (CrlLookup X) → List (CrlLookup X) × Bool)
  disableX509TimeValidation : Bool
  libcryptoSupportsFlagNoCheckTime : Bool
  wallClock : Option ℕ
  verifyCert : List X → Except VerifyError Unit
  /-- `X509_STORE_CTX_get1_chain`. -/
  get1Chain : Option (List X)
  /-- `cert_validation_cb`: what it does to the verdict, and whether it succeeds. -/
  certValidationCb : Option (CertValidationInfo → CertValidationInfo × Bool)
  /-- `s2n_pkey_from_x509`. -/
  pkeyFromX509 : X → Except Err P
  ocsp : OcspEnv X

section Model

variable {X P : Type} (env : CertEnv X P)

def modifyValidator (f : X509Validator X → X509Validator X) : CertM X Unit :=
  modify fun c => { c with x509Validator := f c.x509Validator }

def setValidatorState (s : ValidatorState) : CertM X Unit := modifyValidator ({ · with state := s })

/-! ### Reading the chain -/

def readAsn1Cert : StufferM (List UInt8) := do
  let certificateSize ← readUint 3
  ensure (0 < certificateSize) .certInvalid
  ensure (certificateSize ≤ (← get).dataAvailable) .certInvalid
  match ← rawRead certificateSize with
  | none => throw .null
  | some off => return slice (← get).blob.data off certificateSize

def maxAllowedCertTrailingBytes : ℕ := 3

/-- `s2n_openssl_x509_parse` for the leaf, `s2n_openssl_x509_parse_without_length_validation` for
the other certificates. -/
def opensslX509Parse (leaf : Bool) (asn1der : List UInt8) : CertM X X :=
  match env.d2iX509 asn1der with
  | none => throw .decodeCertificate
  | some (cert, parsedLength) => do
    ensure (leaf = true → asn1der.length - parsedLength ≤ maxAllowedCertTrailingBytes)
      .decodeCertificate
    return cert

def CertPolicy.validateCertSignature (p : CertPolicy) (info : CertInfo) (e : Err) : Except Err Unit :=
  match p.certificateSignaturePreferences with
  | some schemes => if info.signatureNid ∈ schemes then .ok () else .error e
  | none => .ok ()

def CertPolicy.validateCertKey (p : CertPolicy) (info : CertInfo) (e : Err) : Except Err Unit :=
  match p.certificateKeyPreferences with
  | some keys => if (info.publicKeyNid, info.publicKeyBits) ∈ keys then .ok () else .error e
  | none => .ok ()

def nidSha1 : ℕ := 64

def checkCertPreferences (cert : X) : CertM X Unit := do
  let info ← MonadExcept.ofExcept (env.getCertInfo cert)
  let preferencesDefined := env.policy.certificateSignaturePreferences.isSome ||
    env.policy.certificateKeyPreferences.isSome
  when (preferencesDefined = true ∧ info.selfSigned = false ∧
      (← get).actualProtocolVersion = tls13)
    (ensure (info.signatureDigestNid ≠ nidSha1) .certUntrusted)
  when (info.selfSigned = false)
    (MonadExcept.ofExcept (env.policy.validateCertSignature info .certUntrusted))
  MonadExcept.ofExcept (env.policy.validateCertKey info .certUntrusted)

/-- The extensions behind a certificate of a TLS1.3 chain, which are read and dropped. -/
def readCertExtensions (t : Stuffer) : CertM X Stuffer := do
  if tls13 ≤ (← get).actualProtocolVersion then
    let (_, t) ← onLocal extensionListParse t
    return t
  else return t

/-- The loop of `s2n_x509_validator_read_cert_chain`. A round reads at least a length of three
bytes, so the bytes that are there bound the number of rounds. -/
def readCertChainLoop : (fuel : ℕ) → Stuffer → CertM X Stuffer
  | 0, t => return t
  | fuel + 1, t => do
    let v := (← get).x509Validator
    if t.dataAvailable = 0 ∨ v.maxChainDepth ≤ v.certChainFromWire.length then return t
    else
      let (asn1Cert, t) ← onLocal readAsn1Cert t
      let cert ← opensslX509Parse env v.certChainFromWire.isEmpty asn1Cert
      when (v.skipCertValidation = false) (checkCertPreferences env cert)
      ensure (env.ossl (.pushCert v.certChainFromWire.length) = true) .internalLibcryptoError
      modifyValidator fun v => { v with certChainFromWire := v.certChainFromWire ++ [cert] }
      let t ← readCertExtensions t
      readCertChainLoop fuel t

def readCertChain (chain : Blob) : CertM X Unit := do
  let v := (← get).x509Validator
  ensure (v.skipCertValidation = true ∨ env.trustStoreHasCerts = true) .certUntrusted
  ensure (v.state = .init) .invalidCertState
  let t ← readCertChainLoop env chain.size (Stuffer.initWritten chain)
  ensure (v.skipCertValidation = true ∨ t.dataAvailable = 0) .certMaxChainDepthExceeded
  ensure ((← get).x509Validator.certChainFromWire ≠ []) .noCertFound

/-! ### CRL lookups -/

/-- The loop of `s2n_crl_invoke_lookup_callbacks` over the lookups with the numbers `is`. -/
def crlInvokeLoop (cb : ℕ → List (CrlLookup X) → List (CrlLookup X) × Bool) :
    List ℕ → CertM X Unit
  | [] => return
  | i :: is => do
    let outcome := cb i ((← get).x509Validator.crlLookupList.getD [])
    modifyValidator ({ · with crlLookupList := some outcome.1 })
    ensure (outcome.2 = true) .cancelled
    crlInvokeLoop cb is

def crlInvokeLookupCallbacks (cb : ℕ → List (CrlLookup X) → List (CrlLookup X) × Bool) :
    CertM X Unit := do
  let chain := (← get).x509Validator.certChainFromWire
  ensure (env.malloc chain.length = true) .null
  modifyValidator ({ · with
    crlLookupList := some (chain.mapIdx fun i cert => ⟨false, cert, i % 2 ^ 16, none⟩) })
  crlInvokeLoop cb (List.range chain.length)

def crlHandleLookupCallbackResult : CertM X Unit := do
  match (← get).x509Validator.crlLookupList with
  | none => throw .null
  | some lookups =>
    if lookups.any (!·.finished) then
      setValidatorState .awaitingCrlCallback
      throw .asyncBlocked
    else setValidatorState .readyToVerify

/-- The lookups of `s2n_x509_validator_process_cert_chain`. -/
def crlLookups : CertM X Unit :=
  match env.crlLookupCb with
  | none => return
  | some cb => do
    crlInvokeLookupCallbacks env cb
    crlHandleLookupCallbackResult

/-- The loop of `s2n_crl_get_crls_from_lookup_list`, with the number of CRLs on the stack. -/
def crlStackLoop : List (CrlLookup X) → (count : ℕ) → CertM X Unit
  | [], _ => return
  | lookup :: lookups, count =>
    match lookup.crl with
    | none => crlStackLoop lookups count
    | some crl => do
      ensure (crl.loaded = true) .null
      ensure (env.ossl (.pushCrl count) = true) .internalLibcryptoError
      crlStackLoop lookups (count + 1)

def crlGetCrlsFromLookupList : CertM X Unit := do
  match (← get).x509Validator.crlLookupList with
  | none => throw .null
  | some lookups => crlStackLoop env lookups 0

/-! ### Verifying the chain -/

/-- The call of the host name callback. -/
def verifyHost (leaf : X) : CertM X Unit :=
  match env.verifyHostInformation with
  | none => return
  | some verify => MonadExcept.ofExcept (verify leaf)

def processCertChain (chain : Blob) : CertM X Unit := do
  ensure ((← get).x509Validator.state = .init) .invalidCertState
  readCertChain env chain
  let v := (← get).x509Validator
  if v.skipCertValidation then return
  else match v.certChainFromWire.head? with
    | none => throw .null
    | some leaf =>
      verifyHost env leaf
      ensure (v.storeCtx = true ∧ env.ossl .storeCtxInit = true) .internalLibcryptoError
      crlLookups env
      setValidatorState .readyToVerify

/-- The error `s2n_x509_validator_verify_cert_chain` returns for an error of the path
verification. -/
def VerifyError.toErr : VerifyError → Err
  | .certNotYetValid => .certNotYetValid
  | .certHasExpired => .certExpired
  | .certRevoked => .certRevoked
  | .unableToGetCrl | .differentCrlScope => .crlLookupFailed
  | .crlSignatureFailure => .crlSignature
  | .unableToGetCrlIssuer => .crlIssuer
  | .unhandledCriticalCrlExtension => .crlUnhandledCriticalExtension
  | .other => .certUntrusted

/-- The CRLs given to libcrypto before the verification. -/
def setCrls : CertM X Unit :=
  when (env.crlLookupCb.isSome = true) do
    crlGetCrlsFromLookupList env
    ensure (env.ossl .flagCrlCheck = true) .internalLibcryptoError
    ensure (env.ossl .flagCrlCheckAll = true) .internalLibcryptoError

/-- The time given to libcrypto before the verification, or
`s2n_x509_validator_disable_time_validation`. -/
def setTime : CertM X Unit :=
  if env.disableX509TimeValidation then
    when (env.libcryptoSupportsFlagNoCheckTime = true)
      (ensure (env.ossl .flagNoCheckTime = true) .internalLibcryptoError)
  else ensure (env.wallClock.isSome = true) .cancelled

def verifyCertChain : CertM X Unit := do
  ensure ((← get).x509Validator.state = .readyToVerify) .invalidCertState
  setCrls env
  setTime env
  let chain := (← get).x509Validator.certChainFromWire
  match env.verifyCert chain with
  | .error e => throw e.toErr
  | .ok () =>
    modify fun c => { c with verified := chain :: c.verified }
    setValidatorState .validated

def checkRootCert : CertM X Unit := do
  ensure ((← get).x509Validator.storeCtx = true) .null
  match env.get1Chain with
  | none => throw .null
  | some chain =>
    match chain.getLast? with
    | none => throw .certUntrusted
    | some root =>
      let info ← MonadExcept.ofExcept (env.getCertInfo root)
      MonadExcept.ofExcept (env.policy.validateCertKey info .securityPolicyIncompatibleCert)

/-! ### Stapled responses -/

def defaultOcspNextUpdatePeriod : ℤ := 3600

/-- The days and seconds that `ASN1_TIME_diff` gives, which must not be negative. -/
def timeSince (e : Err) (t u : ℤ) : CertM X (ℤ × ℤ) :=
  match env.ocsp.timeDiff t u with
  | none => throw .certUntrusted
  | some (pday, psec) => do
    ensure (0 ≤ pday ∧ 0 ≤ psec) e
    return (pday, psec)

/-- The check of the two times of a response. -/
def checkOcspTimes (found : OcspStatus) : CertM X Unit :=
  match env.wallClock with
  | none => throw .cancelled
  | some nanoseconds =>
    match env.ocsp.generalizedTime (nanoseconds / 1000000000) with
    | none => throw .null
    | some now => do
      let (pday, psec) ← timeSince env .certInvalid found.thisUpdate now
      match found.nextUpdate with
      | some nextUpdate => let _ ← timeSince env .certExpired now nextUpdate
      | none =>
        ensure (pday * (3600 * 24) + psec < defaultOcspNextUpdatePeriod) .certExpired

/-- The status of the subject in a response that libcrypto can verify. -/
def ocspFindStatus (raw : List UInt8) (chain : List X) : CertM X OcspStatus :=
  match chain with
  | [] => throw .noCertFound
  | subject :: _ =>
    match chain.find? (env.ocsp.checkIssued · subject) with
    | none => throw .certUntrusted
    | some issuer => do
      ensure (env.ocsp.basicVerify raw chain = true) .certUntrusted
      ensure (env.ocsp.certToId subject issuer = true) .null
      match env.ocsp.respFindStatus raw subject issuer with
      | none => throw .certUntrusted
      | some found => return found

/-- The part of `s2n_x509_validator_validate_cert_stapled_ocsp_response` that looks at the
response. -/
def checkOcspResponse (raw : List UInt8) : CertM X OcspCertStatus :=
  match env.ocsp.d2iResponse raw with
  | none => throw .invalidOcspResponse
  | some successful => do
    ensure (successful = true) .certUntrusted
    ensure (env.ocsp.basicResponse raw = true) .invalidOcspResponse
    match env.get1Chain with
    | none => throw .null
    | some chain =>
      let found ← ocspFindStatus env raw chain
      checkOcspTimes env found
      return found.status

/-- `s2n_x509_validator_validate_cert_stapled_ocsp_response`; the response `none` is `NULL`. -/
def validateCertStapledOcspResponse (response : Option (List UInt8)) : CertM X Unit := do
  let v := (← get).x509Validator
  if v.skipCertValidation = true ∨ v.checkStapledOcsp = false then
    setValidatorState .ocspValidated
  else
    ensure (v.state = .validated) .invalidCertState
    match response with
    | none => throw .null
    | some raw =>
      match ← checkOcspResponse env raw with
      | .good =>
        modify fun c => { c with goodResponses := raw :: c.goodResponses }
        setValidatorState .ocspValidated
      | .revoked => throw .certRevoked
      | .unknown => throw .certUntrusted

/-! ### Extensions of the leaf -/

def certStatusRecv (t : Stuffer) : CertM X Unit := do
  let (type, t) ← onLocal (readUint 1) t
  if type = 1 then
    when ((← get).mode = .client) (modify ({ · with statusTypeOcsp := true }))
    let (statusSize, t) ← onLocal (readUint 3) t
    ensure (statusSize ≤ t.dataAvailable) .safety
    ensure (statusSize = 0 ∨ env.malloc statusSize = true) .alloc
    -- a block of no bytes is freed, and `s2n_stuffer_read_bytes` refuses `NULL`
    when (statusSize = 0) do
      modify ({ · with statusResponse := [] })
      throw .null
    let (bytes, _) ← onLocal (readBytes statusSize) t
    modify ({ · with statusResponse := bytes })
    validateCertStapledOcspResponse env (some bytes)
  else return

def certStatusExtension : ExtensionType (CertConn X) :=
  { ianaValue := Extension.statusRequest
    isResponse := true
    minimumVersion := 0
    recv := certStatusRecv env
    ifMissing := extensionNoopIfMissing }

def serverSctListRecv (t : Stuffer) : CertM X Unit := do
  ensure (t.blob.isNull = false) .null
  ensure ((← get).ctResponse = []) .safety
  ensure (t.dataAvailable ≠ 0) .safety
  ensure (env.malloc t.dataAvailable = true) .alloc
  modify ({ · with ctResponse := t.unread })

def serverSctListExtension : ExtensionType (CertConn X) :=
  { ianaValue := Extension.sctList
    isResponse := true
    minimumVersion := 0
    recv := serverSctListRecv env
    ifMissing := extensionNoopIfMissing }

def certExtensionAccess : ExtensionAccess (CertConn X) :=
  { version := CertConn.actualProtocolVersion
    bits := CertConn.extensionBits
    setBits := fun b c => { c with extensionBits := b } }

/-- The processing of the extensions behind the first certificate, with
`s2n_x509_validator_parse_leaf_certificate_extensions`. -/
def processLeafExtensions (chain : Blob) : CertM X Unit := do
  let (_, t) ← onLocal readAsn1Cert (Stuffer.initWritten chain)
  let (parsed, _) ← onLocal extensionListParse t
  extensionListProcess certExtensionAccess [certStatusExtension env, serverSctListExtension env]
    { parsed := parsed }

/-! ### Validating a chain -/

/-- The `switch` at the beginning of `s2n_x509_validator_validate_cert_chain_pre_cb`. -/
def resumeValidation : CertM X Unit := do
  match (← get).x509Validator.state with
  | .init => return
  | .awaitingCrlCallback => crlHandleLookupCallbackResult
  | _ => throw .invalidCertState

/-- The rest of `s2n_x509_validator_validate_cert_chain_pre_cb` in the state `READY_TO_VERIFY`. -/
def verifyIfReady : CertM X Unit := do
  when ((← get).x509Validator.state = .readyToVerify) do
    verifyCertChain env
    checkRootCert env

def validateCertChainPreCb (chain : Blob) : CertM X Unit := do
  resumeValidation
  when ((← get).x509Validator.state = .init) (processCertChain env chain)
  verifyIfReady env
  when (tls13 ≤ (← get).actualProtocolVersion) (processLeafExtensions env chain)

def handleCertValidationCallbackResult : CertM X Unit := do
  let info := (← get).x509Validator.certValidationInfo
  ensure (info.finished = true) .asyncBlocked
  ensure (info.accepted = true) .certRejected

/-- The call of the certificate validation callback. -/
def invokeCertValidationCb : CertM X Unit :=
  match env.certValidationCb with
  | none => return
  | some cb => do
    let outcome := cb (← get).x509Validator.certValidationInfo
    modifyValidator ({ · with certValidationInfo := outcome.1 })
    ensure (outcome.2 = true) .cancelled
    modifyValidator ({ · with certValidationCbInvoked := true })
    handleCertValidationCallbackResult

/-- The validation up to the verdict of the application. -/
def validateOrResume (chain : Blob) : CertM X Unit := do
  if (← get).x509Validator.certValidationCbInvoked then handleCertValidationCallbackResult
  else
    validateCertChainPreCb env chain
    invokeCertValidationCb env

def validateCertChain (chain : Blob) : CertM X P := do
  validateOrResume env chain
  match (← get).x509Validator.certChainFromWire with
  | [] => throw .safety
  | leaf :: _ => MonadExcept.ofExcept (env.pkeyFromX509 leaf)

/-- `s2n_cert_validation_accept` and `s2n_cert_validation_reject`. -/
def certValidationAnswer (accepted : Bool) : CertM X Unit := do
  ensure ((← get).x509Validator.certValidationInfo.finished = false) .invalidState
  modifyValidator ({ · with certValidationInfo := ⟨true, accepted⟩ })

end Model

end S2nTls
