import Mathlib.Tactic.Common

/-!
The error codes of `error/s2n_errno.h` that the modelled functions return, and the type of each
of them: the category of the enumeration in which the source lists it.
-/

namespace S2nTls

/-- The categories of errors, `s2n_error_type`. -/
inductive ErrorType
  | ok | io | closed | blocked | alert | proto | internal | usage
  deriving DecidableEq, Repr

/-- The error codes, `S2N_ERR_*`. -/
inductive Err
  -- S2N_ERR_T_IO, S2N_ERR_T_CLOSED
  | io | closed
  -- S2N_ERR_T_BLOCKED
  | ioBlocked | asyncBlocked | earlyDataBlocked | appDataBlocked
  -- S2N_ERR_T_ALERT
  | alert
  -- S2N_ERR_T_PROTO
  | encrypt | decrypt | badMessage | hashDigestFailed | hashUpdateFailed | hashCopyFailed | hashNotReady
  | cbcVerify | recordLimit | maxInnerPlaintextSize | recordStufferSize | fragmentLengthTooLarge
  | fragmentLengthTooSmall | recordStufferNeedsDraining | keyInit | maxEarlyDataSize | cancelled
  | decodeCertificate | certUntrusted | certRevoked | certNotYetValid | certExpired
  | certTypeUnsupported | certInvalid | certMaxChainDepthExceeded | certRejected | crlLookupFailed
  | crlSignature | crlIssuer | crlUnhandledCriticalExtension | missingExtension
  | unsupportedExtension | duplicateExtension | cipherNotSupported | invalidHelloRetry
  | protocolVersionUnsupported | protocolDowngradeDetected | ecdheUnsupportedCurve | badKeyShare
  | earlyDataTrialDecrypt | verifySignature | sign | invalidSignatureAlgorithm | shutdownRecordType
  | shutdownClosed | fallbackDetected | kemUnsupportedParams | unexpectedCertRequest | missingCertRequest
  | noRenegotiation | ktlsKeyupdate
  -- S2N_ERR_T_INTERNAL
  | alloc | null | safety | resizeStaticStuffer | resizeTaintedStuffer | stufferOutOfData
  | stufferIsFull | integerOverflow | initialHmac | invalidNonceType | recordLengthTooLarge
  | prfInvalidAlgorithm | prfDerive | drbg | hkdf | hashInvalidAlgorithm | unimplemented
  | invalidCertState | internalLibcryptoError | handshakeState | invalidEarlyDataState
  | noMem | sizeMismatch | asyncCallbackFailed | asyncMoreThanOne | pkeyCtxInit | alertPresent
  | keyCheck | arrayIndexOob | zeroLifetimeTicket | mapDuplicate | mapImmutable | mapMutable
  | mapInvalidMapSize | stufferHasUnprocessedData | shutdownPaused | forkDetectionInit
  | retrieveForkGenerationNumber | unknownProtocolVersion | prfInvalidSeed | hkdfOutputSize | drbgRequestSize
  -- S2N_ERR_T_USAGE
  | invalidArgument | reentrancy | invalidState | sendSize | unsupportedWithQuic
  | earlyDataNotAllowed | unrecognizedExtension | invalidOcspResponse | noCertFound
  | securityPolicyIncompatibleCert | invalidCipherPreferences | asyncAlreadyPerformed
  | asyncNotPerformed | asyncWrongConnection | asyncAlreadyApplied | invalidApplicationProtocol
  | invalidSerializedSessionState | serializedSessionStateTooLong | invalidTicketKeyLength
  | invalidTicketKeyNameOrNameLength | ticketKeyNotUnique | ticketKeyLimit
  | noTicketEncryptDecryptKey | encryptDecryptKeySelectionFailed | keyUsedInSessionTicketNotFound
  | duplicatePskIdentities | offeredPsksTooLong | invalidSessionTicket | pskMode
  | insufficientMemSize | keyingMaterialExpired | handshakeNotComplete
  | invalidSerializedConnection | certOwnership | multipleDefaultCertificatesPerAuthType
  | sessionIdTooLong | sessionIdTooShort | serverMode | clientMode | invalidBase64 | invalidPem
  | ktlsBadCmsg | ktlsKeyLimit
  deriving DecidableEq, Repr

def Err.type : Err → ErrorType
  | .io => .io
  | .closed => .closed
  | .ioBlocked | .asyncBlocked | .earlyDataBlocked | .appDataBlocked => .blocked
  | .alert => .alert
  | .encrypt | .decrypt | .badMessage | .hashDigestFailed | .hashUpdateFailed | .hashCopyFailed
  | .hashNotReady | .cbcVerify | .recordLimit | .maxInnerPlaintextSize | .recordStufferSize
  | .fragmentLengthTooLarge | .fragmentLengthTooSmall | .recordStufferNeedsDraining
  | .keyInit | .maxEarlyDataSize | .cancelled | .decodeCertificate | .certUntrusted | .certRevoked
  | .certNotYetValid | .certExpired | .certTypeUnsupported | .certInvalid
  | .certMaxChainDepthExceeded | .certRejected | .crlLookupFailed | .crlSignature | .crlIssuer
  | .crlUnhandledCriticalExtension | .missingExtension | .unsupportedExtension
  | .duplicateExtension | .cipherNotSupported | .invalidHelloRetry | .protocolVersionUnsupported
  | .protocolDowngradeDetected | .ecdheUnsupportedCurve | .badKeyShare
  | .earlyDataTrialDecrypt | .verifySignature | .sign | .invalidSignatureAlgorithm
  | .shutdownRecordType | .shutdownClosed | .fallbackDetected | .kemUnsupportedParams
  | .unexpectedCertRequest | .missingCertRequest | .noRenegotiation | .ktlsKeyupdate => .proto
  | .alloc | .null | .safety | .resizeStaticStuffer | .resizeTaintedStuffer | .stufferOutOfData
  | .stufferIsFull | .integerOverflow | .initialHmac | .invalidNonceType | .recordLengthTooLarge
  | .prfInvalidAlgorithm | .prfDerive | .drbg | .hkdf | .hashInvalidAlgorithm
  | .unimplemented | .invalidCertState | .internalLibcryptoError | .handshakeState
  | .invalidEarlyDataState | .noMem | .sizeMismatch | .asyncCallbackFailed | .asyncMoreThanOne
  | .pkeyCtxInit | .alertPresent | .keyCheck | .arrayIndexOob | .zeroLifetimeTicket | .mapDuplicate
  | .mapImmutable | .mapMutable | .mapInvalidMapSize | .stufferHasUnprocessedData
  | .shutdownPaused | .forkDetectionInit | .retrieveForkGenerationNumber
  | .unknownProtocolVersion | .prfInvalidSeed | .hkdfOutputSize | .drbgRequestSize => .internal
  | .invalidArgument | .reentrancy | .invalidState | .sendSize | .unsupportedWithQuic
  | .earlyDataNotAllowed | .unrecognizedExtension | .invalidOcspResponse | .noCertFound
  | .securityPolicyIncompatibleCert | .invalidCipherPreferences | .asyncAlreadyPerformed
  | .asyncNotPerformed | .asyncWrongConnection | .asyncAlreadyApplied
  | .invalidApplicationProtocol | .invalidSerializedSessionState | .serializedSessionStateTooLong
  | .invalidTicketKeyLength | .invalidTicketKeyNameOrNameLength | .ticketKeyNotUnique
  | .ticketKeyLimit | .noTicketEncryptDecryptKey | .encryptDecryptKeySelectionFailed
  | .keyUsedInSessionTicketNotFound | .duplicatePskIdentities | .offeredPsksTooLong
  | .invalidSessionTicket | .pskMode | .insufficientMemSize | .keyingMaterialExpired
  | .handshakeNotComplete | .invalidSerializedConnection | .certOwnership
  | .multipleDefaultCertificatesPerAuthType | .sessionIdTooLong | .sessionIdTooShort | .serverMode
  | .clientMode | .invalidBase64 | .invalidPem | .ktlsBadCmsg | .ktlsKeyLimit => .usage

end S2nTls
