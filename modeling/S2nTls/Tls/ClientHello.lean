import S2nTls.Tls.Psk
import S2nTls.Tls.ServerHello

/-!
A server receives a ClientHello (`tls/s2n_client_hello.c`).

The message is copied out of `handshake.io` and parsed. After a HelloRetryRequest it is compared with the
first one. Then the handlers of the extensions run, pre_shared_key last. Handlers that do not concern
PSKs, early data or the comparison work on the rest of the connection, of type `R`.
-/

namespace S2nTls

open Lib Stuffer

/-- `struct s2n_client_hello`, as far as it is parsed. -/
structure ClientHello where
  legacyVersion : UInt8
  sessionId : Blob
  cipherSuites : Blob
  compressionMethods : Blob
  extensions : List ParsedExtension

/-! ### Parsing -/

/-- A vector of a ClientHello: a pointer into the message. -/
def readVector (n : ℕ) : StufferM Blob := do
  match ← rawRead n with
  | none => throw .badMessage
  | some off => return (← get).blob.sub off n

/-- The part of `s2n_client_hello_parse_raw` after the random. -/
def clientHelloParseVectors (legacyVersion : UInt8) : StufferM ClientHello := do
  let sessionIdLen ← readUint 1
  ensure (sessionIdLen ≤ tlsSessionIdMaxLen) .badMessage
  let sessionId ← readVector sessionIdLen
  let cipherSuitesLength ← readUint 2
  ensure (cipherSuitesLength > 0) .badMessage
  ensure (cipherSuitesLength % 2 = 0) .badMessage
  let cipherSuites ← readVector cipherSuitesLength
  let compressionMethodsLen ← readUint 1
  let compressionMethods ← readVector compressionMethodsLen
  let extensions ← extensionListParse
  return ⟨legacyVersion, sessionId, cipherSuites, compressionMethods, extensions⟩

/-- The two bytes of a version as a `uint8_t`. -/
def versionByte (clientProtocolVersion : List UInt8) : UInt8 := UInt8.ofNat (versionOf clientProtocolVersion)

/-- `s2n_client_hello_parse_raw`: the bytes of the version, the random, and the fields. -/
def clientHelloParseRaw : StufferM (List UInt8 × List UInt8 × ClientHello) := do
  let clientProtocolVersion ← readBytes 2
  let clientRandom ← eraseAndReadBytes tlsRandomDataLen
  let clientHello ← clientHelloParseVectors (versionByte clientProtocolVersion)
  return (clientProtocolVersion, clientRandom, clientHello)

/-- `s2n_collect_client_hello`: a copy of what was not yet read. -/
def collectClientHello (malloc : ℕ → Bool) : StufferM Blob := do
  let source ← get
  ensure (source.dataAvailable ≠ 0) .badMessage
  ensure (malloc source.dataAvailable = true) .alloc
  skipRead source.dataAvailable
  return source.blob.sub source.readCursor source.dataAvailable

/-! ### The second ClientHello -/

/-- The parsed extension of a type, an empty block if it is not there. -/
def ClientHello.extension (h : ClientHello) (extensionType : ℕ) : Blob :=
  match h.extensions.find? fun e => e.extensionType = extensionType with
  | none => Blob.zero
  | some e => e.extension

/-- The comparison of one extension in `s2n_client_hello_verify_for_retry`. Both are passed over if they
have no bytes. -/
def verifyExtensionForRetry (old new : ClientHello) (extensionType : ℕ) : Except Err Unit :=
  let oldExtension := old.extension extensionType
  let newExtension := new.extension extensionType
  if oldExtension.size = 0 ∧ newExtension.size = 0 then .ok ()
  else if extensionType = Extension.keyShare then .ok ()
  else if extensionType = Extension.earlyData then
    if newExtension.size = 0 then .ok () else .error .badMessage
  else if extensionType = Extension.cookie then .ok ()
  else if extensionType = Extension.preSharedKey then .ok ()
  else if extensionType = Extension.supportedVersions then .ok ()
  else if oldExtension.bytes = newExtension.bytes then .ok ()
  else .error .badMessage

/-- The fields that are compared in tests only. -/
def verifyInTest (inTest : Bool) (old new : ClientHello) (previousClientRandom clientRandom : List UInt8) :
    Except Err Unit :=
  if inTest = false then .ok ()
  else if previousClientRandom = clientRandom ∧ old.sessionId.bytes = new.sessionId.bytes ∧
      old.cipherSuites.bytes = new.cipherSuites.bytes then .ok ()
  else .error .badMessage

/-- `s2n_client_hello_verify_for_retry` in a retry handshake. -/
def clientHelloVerifyForRetry (inTest : Bool) (old new : ClientHello)
    (previousClientRandom clientRandom : List UInt8) : Except Err Unit :=
  if old.legacyVersion ≠ new.legacyVersion then .error .badMessage
  else if old.compressionMethods.bytes ≠ new.compressionMethods.bytes then .error .badMessage
  else do
    verifyInTest inTest old new previousClientRandom clientRandom
    supportedExtensions.forM (verifyExtensionForRetry old new)

/-! ### The server -/

structure ClientHelloVersions where
  clientHelloVersion : ℕ
  clientProtocolVersion : ℕ
  actualProtocolVersion : ℕ
  serverProtocolVersion : ℕ

/-- `s2n_connection_get_protocol_version` of a server: its own version as long as none is selected. -/
def ClientHelloVersions.protocolVersion (v : ClientHelloVersions) : ℕ :=
  if v.actualProtocolVersion ≠ versionUnknown then v.actualProtocolVersion else v.serverProtocolVersion

/-- What the security policy and QUIC require of the version. -/
structure VersionPolicy where
  minimumProtocolVersion : ℕ
  quicEnabled : Bool := false

/-- `s2n_connection_get_minimum_supported_version`. QUIC needs TLS1.3. -/
def VersionPolicy.minimumSupportedVersion (p : VersionPolicy) : ℕ :=
  if p.quicEnabled then max p.minimumProtocolVersion tls13 else p.minimumProtocolVersion

/-- The fields of a server that receives a ClientHello. -/
structure HelloServer (R : Type) where
  /-- PSKs, extension bits and `handshake.io`. -/
  psk : PskServer
  clientHello : ClientHello
  clientRandom : List UInt8
  versions : ClientHelloVersions
  /-- `s2n_is_hello_retry_handshake` -/
  isHelloRetryHandshake : Bool
  /-- `handshake.message_number` -/
  messageNumber : ℕ
  /-- Whether `early_data_state` is `S2N_EARLY_DATA_REQUESTED`. -/
  earlyDataRequested : Bool
  rest : R

/-- What is outside of the model. -/
structure HelloServerEnv (R : Type) where
  malloc : ℕ → Bool
  /-- `s2n_in_test` -/
  inTest : Bool
  psk : PskEnv
  /-- The session id and the cipher suites that `s2n_sslv2_client_hello_parse` reads. -/
  sslv2Parse : Blob → Except Err (Blob × Blob)
  /-- `client_hello_cb`, which may also change the PSKs of the server. -/
  clientHelloCb : List PreSharedKey × R → Except Err (List PreSharedKey × R)
  policy : VersionPolicy
  /-- The handlers for the rest of the connection. -/
  recv : ℕ → List UInt8 → R → Except Err R
  ifMissing : ℕ → R → Except Err R
  /-- `s2n_connection_set_early_data_state`, which checks the state before. -/
  setEarlyDataState : Bool → R → Except Err R
  /-- `s2n_extensions_server_key_share_select` -/
  keyShareSelect : R → Except Err R
  /-- `s2n_process_client_hello` after the version is known. -/
  finish : ClientHelloVersions → Option PreSharedKey → R → Except Err R

abbrev ServerM (R : Type) : Type → Type := EStateM Err (HelloServer R)

section Server

variable {R : Type} (env : HelloServerEnv R)

def onPsk {α : Type} (m : EStateM Err PskServer α) : ServerM R α :=
  zoom HelloServer.psk (fun p s => { s with psk := p }) m

def onServerRest (f : R → Except Err R) : ServerM R Unit := do
  let s ← get
  let rest ← MonadExcept.ofExcept (f s.rest)
  set { s with rest := rest }

/-- The parsed ClientHello, with the extensions where the PSK handlers look for them. -/
def HelloServer.keep (s : HelloServer R) (clientHello : ClientHello) : HelloServer R :=
  { s with clientHello := clientHello, psk := { s.psk with parsed := clientHello.extensions } }

/-- The comparison with the first ClientHello, if there was one. -/
def verifyForRetry (previous : HelloServer R) : ServerM R Unit := do
  let s ← get
  when (s.isHelloRetryHandshake = true)
    (MonadExcept.ofExcept (clientHelloVerifyForRetry env.inTest previous.clientHello s.clientHello
      previous.clientRandom s.clientRandom))

def parseClientHello : ServerM R Unit := do
  let rawMessage ← onPsk (zoom PskServer.io (fun t c => { c with io := t }) (collectClientHello env.malloc))
  let previous ← get
  ensure (previous.isHelloRetryHandshake = true → previous.versions.clientHelloVersion = tls12) .safety
  if previous.versions.clientHelloVersion = sslv2 then
    let (sessionId, cipherSuites) ← MonadExcept.ofExcept (env.sslv2Parse rawMessage)
    set (previous.keep ⟨0, sessionId, cipherSuites, Blob.zero, []⟩)
  else
    let ((clientProtocolVersion, clientRandom, clientHello), _) ←
      onLocal clientHelloParseRaw (Stuffer.initWritten rawMessage)
    let version := min (versionOf clientProtocolVersion) tls12
    set { previous.keep clientHello with
      clientRandom := clientRandom
      versions := { previous.versions with clientHelloVersion := version, clientProtocolVersion := version } }
    verifyForRetry env previous

/-! ### Extensions -/

/-- An extension of the client whose handler only concerns the rest of the connection. -/
def clientExtension (ianaValue minimumVersion : ℕ) : ExtensionType (HelloServer R) :=
  { ianaValue := ianaValue
    isResponse := false
    minimumVersion := minimumVersion
    recv := fun t => onServerRest (env.recv ianaValue t.unread)
    ifMissing := extensionNoopIfMissing }

/-- The body of the loop over supported_versions: `found` has the highest version of the client so far, and
the highest one that the server supports too. -/
def supportedVersionsNext (highest minimum : ℕ) (parts : List UInt8) (found : ℕ × ℕ) : ℕ × ℕ :=
  if parts.getD 0 0 ≠ 3 ∨ 4 < (parts.getD 1 0).toNat then found
  else
    let clientVersion := versionOf parts
    let client := max clientVersion found.1
    if highest < clientVersion then (client, found.2)
    else if clientVersion < minimum then (client, found.2)
    else (client, max clientVersion found.2)

/-- The loop over the `n` versions of the list. -/
def supportedVersionsLoop (highest minimum : ℕ) : (n : ℕ) → ℕ × ℕ → StufferM (ℕ × ℕ)
  | 0, found => return found
  | n + 1, found => do
    let parts ← readBytes 2
    supportedVersionsLoop highest minimum n (supportedVersionsNext highest minimum parts found)

def clientSupportedVersionsProcess (highest minimum : ℕ) : StufferM (ℕ × ℕ) := do
  let sizeOfVersionList ← readUint 1
  ensure (sizeOfVersionList = (← get).dataAvailable) .badMessage
  ensure (sizeOfVersionList % 2 = 0) .badMessage
  supportedVersionsLoop highest minimum (sizeOfVersionList / 2) (versionUnknown, versionUnknown)

/-- `s2n_client_supported_versions_recv_impl`: the client's version and the common one. -/
def clientSupportedVersionsRecvImpl (highest minimum : ℕ) : StufferM (ℕ × ℕ) := do
  let (client, actual) ← clientSupportedVersionsProcess highest minimum
  ensure (client ≠ versionUnknown) .unknownProtocolVersion
  ensure (actual ≠ versionUnknown) .protocolVersionUnsupported
  return (client, actual)

/-- `s2n_client_supported_versions_recv`. A server without TLS1.3 does not look at the extension. After a
HelloRetryRequest the version must be TLS1.3. -/
def clientSupportedVersionsRecv (t : Stuffer) : ServerM R Unit := do
  let s ← get
  if s.versions.protocolVersion < tls13 then return
  else
    match (clientSupportedVersionsRecvImpl s.versions.serverProtocolVersion
        env.policy.minimumSupportedVersion).run t with
    | .error e _ =>
      set { s with versions := { s.versions with
        clientProtocolVersion := versionUnknown, actualProtocolVersion := versionUnknown } }
      throw (if e = .safety then .badMessage else e)
    | .ok (client, actual) _ =>
      set { s with versions := { s.versions with clientProtocolVersion := client, actualProtocolVersion := actual } }
      when (s.isHelloRetryHandshake = true ∧ s.messageNumber > 0)
        (ensure (client = tls13 ∧ actual = tls13) .protocolVersionUnsupported)

def clientSupportedVersionsExtension : ExtensionType (HelloServer R) :=
  { clientExtension env Extension.supportedVersions 0 with recv := clientSupportedVersionsRecv env }

def pskKeyExchangeModesRecv (t : Stuffer) : EStateM Err PskServer Unit := do
  let (pskKeModeListLen, t) ← onLocal (readUint 1) t
  -- a wrong length is ignored
  if pskKeModeListLen > t.dataAvailable then return
  else
    let (modes, _) ← onLocal (readBytes pskKeModeListLen) t
    when (1 ∈ modes) (modify ({ · with pskKeMode := .pskDheKe }))

def pskKeyExchangeModesExtension : ExtensionType (HelloServer R) :=
  { clientExtension env Extension.pskKeyExchangeModes tls13 with
    recv := fun t => onPsk (pskKeyExchangeModesRecv t) }

def setEarlyDataRequested (requested : Bool) : ServerM R Unit := do
  let s ← get
  set { s with
    rest := ← MonadExcept.ofExcept (env.setEarlyDataState requested s.rest)
    earlyDataRequested := requested }

/-- `s2n_client_early_data_indication_extension`. Early data is not for a second ClientHello. -/
def clientEarlyDataIndicationExtension : ExtensionType (HelloServer R) :=
  { clientExtension env Extension.earlyData 0 with
    recv := fun _ => do
      ensure ((← get).messageNumber = 0) .unsupportedExtension
      setEarlyDataRequested env true
    ifMissing := setEarlyDataRequested env false }

def clientPskExtension : ExtensionType (HelloServer R) :=
  { clientExtension env Extension.preSharedKey tls13 with
    recv := fun t => onPsk (clientPskRecv env.psk t)
    ifMissing := do ensure ((← get).earlyDataRequested = false) .unsupportedExtension }

/-- `client_hello_extensions` without the last one. -/
def clientHelloExtensionsBeforePsk : List (ExtensionType (HelloServer R)) :=
  [clientSupportedVersionsExtension env, clientExtension env Extension.supportedGroups 0,
    clientExtension env Extension.keyShare tls13, clientExtension env Extension.signatureAlgorithms 0,
    clientExtension env Extension.serverName 0, clientExtension env Extension.alpn 0,
    clientExtension env Extension.npn 0, clientExtension env Extension.statusRequest 0,
    clientExtension env Extension.sctList 0, clientExtension env Extension.maxFragLen 0,
    clientExtension env Extension.sessionTicket 0, clientExtension env Extension.ecPointFormats 0,
    clientExtension env Extension.pqKemParameters 0,
    { clientExtension env Extension.renegotiationInfo 0 with
      ifMissing := onServerRest (env.ifMissing Extension.renegotiationInfo) },
    { clientExtension env Extension.cookie tls13 with
      isResponse := true
      ifMissing := extensionErrorIfMissing },
    { clientExtension env Extension.quicTransportParameters tls13 with
      ifMissing := onServerRest (env.ifMissing Extension.quicTransportParameters) },
    pskKeyExchangeModesExtension env, clientEarlyDataIndicationExtension env,
    clientExtension env Extension.ems 0]

def clientHelloExtensions : List (ExtensionType (HelloServer R)) :=
  clientHelloExtensionsBeforePsk env ++ [clientPskExtension env]

def serverExtensionAccess : ExtensionAccess (HelloServer R) :=
  { version := fun s => s.versions.actualProtocolVersion
    bits := fun s => s.psk.bits
    setBits := fun b s => { s with psk := { s.psk with bits := b } } }

/-- The version, if supported_versions did not select TLS1.3, and whether it is allowed. -/
def selectVersion : ServerM R Unit := do
  modify fun s => if s.versions.actualProtocolVersion < tls13 then
      { s with versions := { s.versions with
        actualProtocolVersion := min s.versions.serverProtocolVersion s.versions.clientProtocolVersion } }
    else s
  let s ← get
  ensure (env.policy.minimumProtocolVersion ≤ s.versions.clientProtocolVersion) .protocolVersionUnsupported
  ensure (env.policy.quicEnabled = true → tls13 ≤ s.versions.actualProtocolVersion) .protocolVersionUnsupported

/-- `s2n_process_client_hello` of a server that supports TLS1.3. -/
def processClientHello : ServerM R Unit := do
  extensionListProcess serverExtensionAccess (clientHelloExtensions env) { parsed := (← get).psk.parsed }
  when (tls13 ≤ (← get).versions.actualProtocolVersion) (onServerRest env.keyShareSelect)
  selectVersion env
  let s ← get
  onServerRest (env.finish s.versions s.psk.chosenPsk)

/-- The callback of the application, for the first ClientHello only. -/
def invokeClientHelloCb : ServerM R Unit := do
  let s ← get
  when (s.isHelloRetryHandshake = false) do
    let (pskList, rest) ← MonadExcept.ofExcept (env.clientHelloCb (s.psk.pskList, s.rest))
    set { s with psk := { s.psk with pskList := pskList }, rest := rest }

def clientHelloRecv : ServerM R Unit := do
  parseClientHello env
  invokeClientHelloCb env
  processClientHello env

end Server

end S2nTls
