import S2nTls.Tls.HandshakeType

/-!
The ServerHello and the HelloRetryRequest (`tls/s2n_server_hello.c`,
`tls/s2n_server_hello_retry.c`, `tls/s2n_server_extensions.c`,
`tls/extensions/s2n_server_supported_versions.c`, `s2n_set_cipher_as_client`), and the cipher
suites of the ClientHello before it (`s2n_client_hello_send`).

Version bytes are decoded as ten times the first plus the second: into a `uint8_t` for the legacy
version of the message, into a `uint16_t` for that of the extension.
-/

namespace S2nTls

open Lib Stuffer

section Model

variable {R : Type} (env : HelloEnv R)

/-! ### Numbers -/

def tlsRandomDataLen : ℕ := 32

def tlsSessionIdMaxLen : ℕ := 32

def helloRetryReqRandom : List UInt8 :=
  [0xCF, 0x21, 0xAD, 0x74, 0xE5, 0x9A, 0x61, 0x11, 0xBE, 0x1D, 0x8C, 0x02, 0x1E, 0x65, 0xB8, 0x91,
   0xC2, 0xA2, 0x11, 0x16, 0x7A, 0xBB, 0x8C, 0x5E, 0x07, 0x9E, 0x09, 0xE2, 0xC8, 0xA8, 0x33, 0x9C]

def tls12DowngradeProtectionBytes : List UInt8 := [0x44, 0x4F, 0x57, 0x4E, 0x47, 0x52, 0x44, 0x01]

def tls11DowngradeProtectionBytes : List UInt8 := [0x44, 0x4F, 0x57, 0x4E, 0x47, 0x52, 0x44, 0x00]

/-- The last `S2N_DOWNGRADE_PROTECTION_SIZE` bytes of a random. -/
def downgradeBytes (random : List UInt8) : List UInt8 := random.drop 24

def versionOf (bytes : List UInt8) : ℕ := 10 * (bytes.getD 0 0).toNat + (bytes.getD 1 0).toNat

/-! ### Downgrade protection -/

def clientDetectDowngradeMechanism : HelloM R Unit := do
  let c ← get
  if c.clientProtocolVersion = tls13 ∧ c.serverProtocolVersion = tls12 then
    ensure (downgradeBytes c.serverRandom ≠ tls12DowngradeProtectionBytes) .protocolDowngradeDetected
  else if c.clientProtocolVersion = tls13 ∧ c.serverProtocolVersion ≤ tls11 then
    ensure (downgradeBytes c.serverRandom ≠ tls11DowngradeProtectionBytes) .protocolDowngradeDetected
  else return

def serverAddDowngradeMechanism : HelloM R Unit :=
  modify fun c =>
    if tls13 ≤ c.serverProtocolVersion ∧ c.actualProtocolVersion = tls12 then
      { c with serverRandom := c.serverRandom.take 24 ++ tls12DowngradeProtectionBytes }
    else if tls13 ≤ c.serverProtocolVersion ∧ c.actualProtocolVersion ≤ tls11 then
      { c with serverRandom := c.serverRandom.take 24 ++ tls11DowngradeProtectionBytes }
    else c

/-! ### Extensions -/

def minimumSupportedVersion (c : HelloConn R) : ℕ :=
  if c.quicEnabled then max env.policy.minimumProtocolVersion tls13
  else env.policy.minimumProtocolVersion

def serverSupportedVersionsProcess (t : Stuffer) : HelloM R Unit := do
  let c ← get
  ensure (minimumSupportedVersion env c ≤ c.clientProtocolVersion) .protocolVersionUnsupported
  let (parts, _) ← onLocal (readBytes 2) t
  let serverVersion := versionOf parts
  when (c.isHelloRetryHandshake = true ∧ c.isHelloRetryMessage = false)
    (ensure (c.serverProtocolVersion = serverVersion) .badMessage)
  ensure (tls13 ≤ serverVersion) .safety
  ensure (serverVersion ≤ c.clientProtocolVersion) .safety
  ensure (minimumSupportedVersion env c ≤ serverVersion) .safety
  -- `server_protocol_version` is a `uint8_t`
  modify ({ · with serverProtocolVersion := serverVersion % 256 })

def serverSupportedVersionsRecv (t : Stuffer) : HelloM R Unit := do
  if (← get).protocolVersion < tls13 then return
  else failWith .badMessage (serverSupportedVersionsProcess env t)

def serverSupportedVersionsExtension : ExtensionType (HelloConn R) :=
  { ianaValue := Extension.supportedVersions
    isResponse := true
    minimumVersion := 0
    recv := serverSupportedVersionsRecv env
    ifMissing := extensionNoopIfMissing }

/-- An extension of the server whose handler only concerns the rest of the connection. -/
def restExtension (ianaValue minimumVersion : ℕ) : ExtensionType (HelloConn R) :=
  { ianaValue := ianaValue
    isResponse := true
    minimumVersion := minimumVersion
    recv := fun t => onRest (env.recv ianaValue t)
    ifMissing := extensionNoopIfMissing }

def serverRenegotiationInfoExtension : ExtensionType (HelloConn R) :=
  { restExtension env Extension.renegotiationInfo 0 with
    isResponse := false
    ifMissing := onRest env.renegotiationInfoIfMissing }

def serverEcPointFormatExtension : ExtensionType (HelloConn R) :=
  { restExtension env Extension.ecPointFormats 0 with recv := fun _ => pure () }

def certStatusResponseExtension : ExtensionType (HelloConn R) :=
  { restExtension env Extension.statusRequest 0 with
    recv := fun _ => modify ({ · with statusTypeOcsp := true }) }

def serverSessionTicketExtension : ExtensionType (HelloConn R) :=
  { restExtension env Extension.sessionTicket 0 with
    recv := fun _ => modify ({ · with sessionTicketStatus := .newTicket }) }

def serverEmsRecv (t : Stuffer) : HelloM R Unit := do
  ensure (t.dataAvailable = 0) .unsupportedExtension
  modify ({ · with emsNegotiated := true })

def serverEmsExtension : ExtensionType (HelloConn R) :=
  { restExtension env Extension.ems 0 with
    recv := serverEmsRecv
    ifMissing := do ensure ((← get).emsNegotiated = false) .missingExtension }

def serverNpnExtension : ExtensionType (HelloConn R) :=
  { restExtension env Extension.npn 0 with
    recv := fun t => do
      let negotiated ← onRest (env.npnRecv t)
      when (negotiated = true) (modify ({ · with npnNegotiated := true })) }

def serverCookieExtension : ExtensionType (HelloConn R) :=
  { restExtension env Extension.cookie tls13 with
    isResponse := false
    recv := fun t => do
      ensure ((← get).isHelloRetryHandshake = true) .unsupportedExtension
      onRest (env.recv Extension.cookie t) }

def serverPskRecv (t : Stuffer) : HelloM R Unit := do
  ensure ((← get).extensionBits.responsesReceived Extension.keyShare = true) .missingExtension
  let (index, _) ← onLocal (readUint 2) t
  match (← get).pskList[index]? with
  | none => throw .invalidArgument
  | some alg => modify ({ · with chosenPsk := some alg })

def serverPskExtension : ExtensionType (HelloConn R) :=
  { restExtension env Extension.preSharedKey tls13 with recv := serverPskRecv }

def serverKeyShareExtension : ExtensionType (HelloConn R) :=
  restExtension env Extension.keyShare tls13

def tls12ServerHelloExtensions : List (ExtensionType (HelloConn R)) :=
  [serverSupportedVersionsExtension env, restExtension env Extension.serverName 0,
    serverEcPointFormatExtension env, serverRenegotiationInfoExtension env,
    restExtension env Extension.alpn 0, certStatusResponseExtension env,
    restExtension env Extension.sctList 0, restExtension env Extension.maxFragLen 0,
    serverSessionTicketExtension env, serverEmsExtension env, serverNpnExtension env]

def helloRetryRequestExtensions : List (ExtensionType (HelloConn R)) :=
  [serverSupportedVersionsExtension env, serverCookieExtension env, serverKeyShareExtension env]

def tls13ServerHelloExtensions : List (ExtensionType (HelloConn R)) :=
  [serverSupportedVersionsExtension env, serverKeyShareExtension env, serverPskExtension env]

def helloExtensionAccess : ExtensionAccess (HelloConn R) :=
  { version := HelloConn.actualProtocolVersion
    bits := HelloConn.extensionBits
    setBits := fun b c => { c with extensionBits := b } }

/-- The list that `s2n_server_extensions_recv` processes, once supported_versions is known. -/
def serverExtensionTypes (c : HelloConn R) : List (ExtensionType (HelloConn R)) :=
  if c.isHelloRetryMessage then helloRetryRequestExtensions env
  else if tls13 ≤ c.serverProtocolVersion then tls13ServerHelloExtensions env
  else tls12ServerHelloExtensions env

def serverExtensionsRecv : HelloM R Unit := do
  let parsed ← onHelloIo extensionListParse
  let l ← extensionProcess helloExtensionAccess (serverSupportedVersionsExtension env)
    { parsed := parsed }
  extensionListProcess helloExtensionAccess (serverExtensionTypes env (← get)) l

/-! ### Choosing the cipher suite -/

/-- The suite of the policy with a given number. -/
def HelloPolicy.find (p : HelloPolicy) (wire : List UInt8) : Option PolicySuite :=
  p.suites.find? fun s => s.suite.ianaValue = wire

/-- The last part of `s2n_set_cipher_as_client`. -/
def setCipherSuite (s : PolicySuite) : HelloM R Unit := do
  modify ({ · with cipherSuite := s.suite })
  when ((← get).actualProtocolVersion = sslv3) do
    match s.sslv3CipherSuite with
    | none => throw .null
    | some suite => modify ({ · with cipherSuite := suite })

def setCipherAsClient (wire : List UInt8) : HelloM R Unit := do
  match env.policy.find wire with
  | none => throw .cipherNotSupported
  | some s =>
    ensure (s.suite.available = true) .cipherNotSupported
    ensure (∀ alg ∈ (← get).chosenPsk, s.suite.prfAlg = alg) .cipherNotSupported
    let c ← get
    if c.isHelloRetryHandshake = true ∧ c.isHelloRetryMessage = false then
      ensure (c.cipherSuite = s.suite) .cipherNotSupported
    else setCipherSuite s

/-! ### Receiving -/

/-- The beginning of `s2n_server_hello_parse`: the legacy version and the random. -/
def readVersionAndRandom : HelloM R ℕ := do
  let protocolVersion ← onHelloIo (readBytes 2)
  let serverRandom ← onHelloIo (readBytes tlsRandomDataLen)
  modify ({ · with serverRandom := serverRandom })
  let legacyVersion := versionOf protocolVersion % 256
  when (serverRandom = helloRetryReqRandom) do
    ensure ((← get).isHelloRetryHandshake = false) .invalidHelloRetry
    ensure (legacyVersion = tls12) .invalidHelloRetry
    setHelloRetryRequired
  return legacyVersion

/-- The session id, the cipher suite and the compression method. -/
def readSessionIdAndCipher : HelloM R (List UInt8 × List UInt8) := do
  let sessionIdLen ← onHelloIo (readUint 1)
  ensure (sessionIdLen ≤ tlsSessionIdMaxLen) .badMessage
  let sessionId ← onHelloIo (readBytes sessionIdLen)
  match ← onHelloIo (rawRead 2) with
  | none => throw .null
  | some off =>
    let cipherSuiteWire := slice (← get).io.blob.data off 2
    let compressionMethod ← onHelloIo (readUint 1)
    ensure (compressionMethod = 0) .badMessage
    return (sessionId, cipherSuiteWire)

/-- The branch of `s2n_server_hello_parse` for TLS1.3. -/
def serverHelloTls13 (sessionId cipherSuiteWire : List UInt8) (sessionIdsMatch : Bool) :
    HelloM R Unit := do
  let c ← get
  ensure (c.renegotiation = false) .protocolVersionUnsupported
  ensure (sessionIdsMatch = true ∨ sessionId = [] ∧ c.sessionId = []) .badMessage
  modify ({ · with actualProtocolVersion := c.serverProtocolVersion })
  setCipherAsClient env cipherSuiteWire
  modify ({ · with clientTicket := [] })

def alertProtocolVersion : ℕ := 70

def queueReaderAlert (alert : ℕ) : HelloM R Unit :=
  modify fun c => { c with readerAlertOut := if c.readerAlertOut = 0 then alert else c.readerAlertOut }

/-- The session of a ServerHello below TLS1.3. -/
def serverHelloSession (sessionId cipherSuiteWire : List UInt8) (sessionIdsMatch : Bool) :
    HelloM R Unit := do
  if sessionIdsMatch then
    let c ← get
    ensure (c.resumeProtocolVersion = c.actualProtocolVersion) .badMessage
    ensure (c.cipherSuite.ianaValue = cipherSuiteWire) .badMessage
    modify ({ · with clientSessionResumed := true })
  else
    modify ({ · with sessionId := sessionId })
    setCipherAsClient env cipherSuiteWire
    modify ({ · with masterSecret := List.replicate 48 0 })
    modify ({ · with clientTicket := [] })

/-- The check of the version that the legacy field selects. -/
def checkLegacyVersion : HelloM R Unit := do
  let c ← get
  if c.serverProtocolVersion < env.policy.minimumProtocolVersion ∨
      c.clientProtocolVersion < c.serverProtocolVersion then
    queueReaderAlert alertProtocolVersion
    throw .protocolVersionUnsupported
  else modify ({ · with
    actualProtocolVersion := min c.serverProtocolVersion c.clientProtocolVersion })

/-- The branch of `s2n_server_hello_parse` below TLS1.3. -/
def serverHelloLegacy (legacyVersion : ℕ) (sessionId cipherSuiteWire : List UInt8)
    (sessionIdsMatch : Bool) : HelloM R Unit := do
  modify ({ · with serverProtocolVersion := legacyVersion })
  failWith .protocolDowngradeDetected clientDetectDowngradeMechanism
  ensure ((← get).quicEnabled = false) .protocolVersionUnsupported
  ensure ((← get).isHelloRetryHandshake = false) .badMessage
  ensure ((← get).earlyDataState ≠ .requested) .protocolVersionUnsupported
  checkLegacyVersion env
  serverHelloSession env sessionId cipherSuiteWire sessionIdsMatch

/-- `s2n_early_data_accept_or_reject` on a client, and the reset of the key schedule behind it,
which is not part of this state. -/
def clientEarlyDataAcceptOrReject : HelloM R Unit := do
  when ((← get).earlyDataState = .requested ∧ env.earlyDataIsValid = false)
    (setEarlyDataState .rejected)

def serverHelloParse : HelloM R Unit := do
  let legacyVersion ← readVersionAndRandom
  let (sessionId, cipherSuiteWire) ← readSessionIdAndCipher
  let c ← get
  let sessionIdsMatch := !sessionId.isEmpty && sessionId = c.sessionId
  when (sessionIdsMatch = false) (modify ({ · with emsNegotiated := false }))
  serverExtensionsRecv env
  let c ← get
  ensure (c.isHelloRetryMessage = true →
    c.extensionBits.responsesReceived Extension.supportedVersions = true) .missingExtension
  if tls13 ≤ c.serverProtocolVersion then
    serverHelloTls13 env sessionId cipherSuiteWire sessionIdsMatch
    clientEarlyDataAcceptOrReject env
  else
    serverHelloLegacy env legacyVersion sessionId cipherSuiteWire sessionIdsMatch
    clientEarlyDataAcceptOrReject env

def serverHelloRetryRecv : HelloM R Unit := do
  ensure (tls13 ≤ (← get).actualProtocolVersion) .invalidHelloRetry
  onRest env.helloRetryRecv
  modify fun c => { c with extensionBits := { c.extensionBits with requestsSent := fun _ => false } }

def serverHelloRecv : HelloM R Unit := do
  serverHelloParse env
  modify ({ · with actualProtocolVersionEstablished := true })
  setHandshakeType env
  if (← get).isHelloRetryMessage then serverHelloRetryRecv env
  else
    let c ← get
    when (c.actualProtocolVersion < tls13 ∧ c.isResumptionHandshake = true)
      (onRest env.prfKeyExpansion)
    onRest env.updateRequiredHandshakeHashes

/-! ### Sending -/

/-- The extensions of a ServerHello, with what `s2n_server_supported_versions_send` writes. -/
def serverExtensions (c : HelloConn R) : List (ℕ × List UInt8) :=
  let version := c.serverProtocolVersion
  (if tls13 ≤ c.actualProtocolVersion ∧
      c.extensionBits.requestsReceived Extension.supportedVersions = true then
    [(Extension.supportedVersions, [UInt8.ofNat (version / 10), UInt8.ofNat (version % 10)])]
  else []) ++ env.serverExtensions

/-- `s2n_server_extensions_send`. A size that does not fit its field is an error; an empty list is
taken back. -/
def serverExtensionsSend : HelloM R Unit := do
  let exts := serverExtensions env (← get)
  ensure (∀ e ∈ exts, EncodableExtension e) .safety
  ensure ((exts.flatMap encodeExtension).length < 2 ^ 16) .safety
  when (exts ≠ []) (onHelloIo (writeBytes env.malloc (encodeExtensionList exts)))

def serverHelloWriteMessage : HelloM R Unit := do
  let c ← get
  let legacy := min c.actualProtocolVersion tls12
  onHelloIo (writeBytes env.malloc [UInt8.ofNat (legacy / 10), UInt8.ofNat (legacy % 10)])
  onHelloIo (writeBytes env.malloc c.serverRandom)
  onHelloIo (writeUint env.malloc 1 c.sessionId.length)
  onHelloIo (writeBytes env.malloc c.sessionId)
  onHelloIo (writeBytes env.malloc c.cipherSuite.ianaValue)
  onHelloIo (writeUint env.malloc 1 0)

def serverHelloSend : HelloM R Unit := do
  match env.publicRandomData with
  | none => throw .drbg
  | some random =>
    modify ({ · with serverRandom := slice random 0 tlsRandomDataLen })
    serverAddDowngradeMechanism
    serverHelloWriteMessage env
    serverExtensionsSend env
    modify ({ · with actualProtocolVersionEstablished := true })

/-! ### The cipher suites of the ClientHello -/

def HelloConn.validateAvailable (c : HelloConn R) (s : HelloSuite) : Bool :=
  s.available && s.minimumRequiredTlsVersion ≤ c.clientProtocolVersion &&
    (!c.quicEnabled || tls13 ≤ s.minimumRequiredTlsVersion)

/-- The suites that `s2n_client_hello_send` writes, without the signalling value for
renegotiation. -/
def offeredSuites (c : HelloConn R) : List HelloSuite :=
  (env.policy.suites.map PolicySuite.suite).filter c.validateAvailable

end Model

end S2nTls
