import S2nTls.Tls.Connection
import S2nTls.Tls.ExtensionList

/-!
The part of a connection that the exchange of hellos negotiates, and the type of the handshake that
follows from it (`tls/s2n_handshake_type.c`, `s2n_conn_set_handshake_type` of
`tls/s2n_handshake_io.c`).

What other functions do with the rest of the connection, a value of an arbitrary type `R`, is not
looked at here: the handlers of extensions that touch nothing else, the resumption of sessions and
the key expansion are arguments of type `EStateM Err R`.
-/

namespace S2nTls

open Lib Stuffer

/-! ### Cipher suites and policies -/

/-- What the negotiation reads of a `struct s2n_cipher_suite`. -/
structure HelloSuite where
  iana : UInt8 × UInt8
  available : Bool
  minimumRequiredTlsVersion : ℕ
  prfAlg : HmacAlg
  /-- `key_exchange_alg`: whether it is ephemeral, `none` for `NULL`. -/
  keyExchangeAlg : Option Bool
  deriving DecidableEq

def HelloSuite.ianaValue (s : HelloSuite) : List UInt8 := [s.iana.1, s.iana.2]

/-- A suite of a preference list, with the one that takes its place in SSLv3. Every suite of the
library has a key exchange, and `s2n_cipher_suites_init` has set its suite for SSLv3. -/
structure PolicySuite where
  suite : HelloSuite
  sslv3CipherSuite : Option HelloSuite
  kex_ne_none : suite.keyExchangeAlg ≠ none
  sslv3_kex : ∃ s ∈ sslv3CipherSuite, s.keyExchangeAlg ≠ none

/-- What the negotiation reads of a `struct s2n_security_policy`. A number stands for one suite. -/
structure HelloPolicy where
  minimumProtocolVersion : ℕ
  sslv3_le_minimum : sslv3 ≤ minimumProtocolVersion
  minimum_le_tls13 : minimumProtocolVersion ≤ tls13
  suites : List PolicySuite
  suite_unique : ∀ s ∈ suites, ∀ t ∈ suites, s.suite.iana = t.suite.iana → s = t
  /-- `s2n_connection_supports_tls13` and `s2n_security_policy_supports_tls13`. -/
  supportsTls13 : Bool

/-! ### The connection -/

inductive CertAuthType
  | none | required | optional
  deriving DecidableEq, Repr

inductive SessionTicketStatus
  | noTicket | decryptTicket | newTicket
  deriving DecidableEq, Repr

/-- What is negotiated by the hellos. -/
structure HelloConn (R : Type) where
  mode : Mode
  clientProtocolVersion : ℕ
  serverProtocolVersion : ℕ
  actualProtocolVersion : ℕ
  actualProtocolVersionEstablished : Bool
  clientHelloVersion : ℕ
  quicEnabled : Bool
  clientRandom : List UInt8
  serverRandom : List UInt8
  /-- The first `session_id_len` bytes of `session_id`. -/
  sessionId : List UInt8
  cipherSuite : HelloSuite
  /-- The MAC algorithms of the offered PSKs, and that of the chosen one. -/
  pskList : List HmacAlg
  chosenPsk : Option HmacAlg
  emsNegotiated : Bool
  npnNegotiated : Bool
  statusTypeOcsp : Bool
  sessionTicketStatus : SessionTicketStatus
  resumeProtocolVersion : ℕ
  clientSessionResumed : Bool
  clientTicket : List UInt8
  masterSecret : List UInt8
  earlyDataState : EarlyDataState
  /-- `reader_alert_out`: a queued alert, or zero. -/
  readerAlertOut : ℕ
  extensionBits : ExtensionBits
  handshakeType : ℕ
  messageNumber : ℕ
  stateMachine : StateMachine
  renegotiation : Bool
  io : Stuffer
  rest : R

abbrev HelloM (R : Type) := EStateM Err (HelloConn R)

/-- What a stored session changes of a connection. -/
structure SessionFields (R : Type) where
  emsNegotiated : Bool
  masterSecret : List UInt8
  rest : R

/-- What the configuration, the other parts of the library and the outside contribute to a call. -/
structure HelloEnv (R : Type) where
  malloc : ℕ → Bool
  policy : HelloPolicy
  clientAuthType : CertAuthType
  useTickets : Bool
  /-- What `s2n_get_public_random_data` yields, if it succeeds. -/
  publicRandomData : Option (ℕ → UInt8)
  /-- The handlers of the extensions that only concern the rest. -/
  recv : (ianaValue : ℕ) → Stuffer → EStateM Err R Unit
  renegotiationInfoIfMissing : EStateM Err R Unit
  /-- `s2n_server_npn_recv`: whether a protocol was negotiated. -/
  npnRecv : Stuffer → EStateM Err R Bool
  /-- The extensions a server writes besides supported_versions. -/
  serverExtensions : List (ℕ × List UInt8)
  /-- `s2n_early_data_is_valid_for_connection`. -/
  earlyDataIsValid : Bool
  /-- The groups and the transcript in `s2n_server_hello_retry_recv`. -/
  helloRetryRecv : EStateM Err R Unit
  prfKeyExpansion : EStateM Err R Unit
  updateRequiredHandshakeHashes : EStateM Err R Unit
  resumeDecryptSession : HelloConn R → EStateM Err (SessionFields R) Unit
  encryptKeyAvailable : Bool
  allowedToCacheConnection : Bool
  resumeFromCache : HelloConn R → EStateM Err (SessionFields R) Unit
  /-- Whether a server's certificate has an OCSP response. -/
  ocspStatus : Bool

section Model

variable {R : Type}

/-- Work on the rest of the connection. -/
def onRest {α : Type} (m : EStateM Err R α) : HelloM R α :=
  zoom HelloConn.rest (fun r c => { c with rest := r }) m

def HelloConn.session (c : HelloConn R) : SessionFields R := ⟨c.emsNegotiated, c.masterSecret, c.rest⟩

def HelloConn.withSession (s : SessionFields R) (c : HelloConn R) : HelloConn R :=
  { c with emsNegotiated := s.emsNegotiated, masterSecret := s.masterSecret, rest := s.rest }

/-- Read a stored session into the connection. -/
def onSession {α : Type} (m : HelloConn R → EStateM Err (SessionFields R) α) : HelloM R α := do
  zoom HelloConn.session HelloConn.withSession (m (← get))

/-- Work on `handshake.io`. -/
def onHelloIo {α : Type} (m : StufferM α) : HelloM R α :=
  zoom HelloConn.io (fun t c => { c with io := t }) m

def HelloConn.protocolVersion (c : HelloConn R) : ℕ :=
  if c.actualProtocolVersion ≠ versionUnknown then c.actualProtocolVersion
  else match c.mode with
    | .client => c.clientProtocolVersion
    | .server => c.serverProtocolVersion

def HelloConn.activeMessage (c : HelloConn R) : MessageType :=
  c.stateMachine.message c.handshakeType c.messageNumber

/-! ### Flags -/

def HelloConn.checkFlag (c : HelloConn R) (flag : ℕ) : Bool := c.handshakeType &&& flag != 0

def HelloConn.checkTls13Flag (c : HelloConn R) (flag : ℕ) : Bool :=
  tls13 ≤ c.protocolVersion && c.checkFlag flag

def HelloConn.isHelloRetryHandshake (c : HelloConn R) : Bool :=
  c.checkTls13Flag HandshakeType.helloRetryRequest

def HelloConn.isHelloRetryMessage (c : HelloConn R) : Bool := c.activeMessage = .helloRetryMsg

def HelloConn.isResumptionHandshake (c : HelloConn R) : Bool :=
  !c.checkFlag HandshakeType.fullHandshake && c.checkFlag HandshakeType.negotiated

def chooseStateMachine (version : ℕ) : HelloM R Unit := do
  ensure (version ≠ versionUnknown) .safety
  if version = tls13 then
    ensure ((← get).stateMachine ≠ .tls12) .safety
    modify ({ · with stateMachine := .tls13 })
  else
    ensure ((← get).stateMachine ≠ .tls13) .safety
    modify ({ · with stateMachine := .tls12 })

def handshakeTypeSetFlag (flag : ℕ) : HelloM R Unit :=
  modify fun c => { c with handshakeType := c.handshakeType ||| flag }

def handshakeTypeSetTls12Flag (flag : ℕ) : HelloM R Unit := do
  ensure ((← get).protocolVersion < tls13) .handshakeState
  handshakeTypeSetFlag flag
  chooseStateMachine tls12

def handshakeTypeSetTls13Flag (flag : ℕ) : HelloM R Unit := do
  ensure (tls13 ≤ (← get).protocolVersion) .handshakeState
  handshakeTypeSetFlag flag
  chooseStateMachine tls13

def setEarlyDataState (next : EarlyDataState) : HelloM R Unit := do
  let state := (← get).earlyDataState
  if state = next then return
  else
    let validPrevious : Option EarlyDataState := match next with
      | .unknown => none
      | .requested | .notRequested => some .unknown
      | .rejected | .accepted => some .requested
      | .endOfEarlyData => some .accepted
    ensure (some state = validPrevious) .invalidEarlyDataState
    modify ({ · with earlyDataState := next })

def setHelloRetryRequired : HelloM R Unit := do
  ensure (tls13 ≤ (← get).actualProtocolVersion) .invalidHelloRetry
  handshakeTypeSetTls13Flag HandshakeType.helloRetryRequest
  when ((← get).earlyDataState = .requested) (setEarlyDataState .rejected)

/-! ### The type of the handshake -/

/-- Whether a certificate request is part of the handshake from the start. -/
def expectsClientAuth (mode : Mode) (auth : CertAuthType) : Bool :=
  match mode with
  | .client => auth = .required
  | .server => auth ≠ .none

def setTls13HandshakeType (env : HelloEnv R) : HelloM R Unit := do
  -- flags that already decided about messages are kept
  modify fun c => { c with
    handshakeType := c.handshakeType &&& (HandshakeType.helloRetryRequest |||
      HandshakeType.middleboxCompat ||| HandshakeType.earlyClientCcs) }
  handshakeTypeSetFlag HandshakeType.negotiated
  when ((← get).chosenPsk = none) (handshakeTypeSetFlag HandshakeType.fullHandshake)
  when ((← get).earlyDataState = .accepted) (handshakeTypeSetFlag HandshakeType.withEarlyData)
  let c ← get
  when (expectsClientAuth c.mode env.clientAuthType = true ∧
      c.checkFlag HandshakeType.fullHandshake = true)
    (handshakeTypeSetFlag HandshakeType.clientAuth)
  when (tls13 ≤ (← get).protocolVersion ∧ (← get).quicEnabled = false)
    (handshakeTypeSetTls13Flag HandshakeType.middleboxCompat)

def validateEmsStatus : HelloM R Unit := do
  let c ← get
  let received := c.extensionBits.requestsReceived Extension.ems
  ensure (c.emsNegotiated = true → received = true) .missingExtension
  modify ({ · with emsNegotiated := received })

def generateNewClientSessionId (env : HelloEnv R) : HelloM R Unit := do
  when ((← get).mode = .server) do
    match env.publicRandomData with
    | none => throw .drbg
    | some random => modify ({ · with sessionId := slice random 0 32 })

/-- The end of `s2n_conn_set_handshake_type`, from `skip_cache_lookup` on. -/
def setFullHandshakeType (env : HelloEnv R) : HelloM R Unit := do
  let c ← get
  if c.mode = .client ∧ c.clientSessionResumed = true then return
  else
    generateNewClientSessionId env
    handshakeTypeSetFlag HandshakeType.fullHandshake
    match (← get).cipherSuite.keyExchangeAlg with
    | none => throw .null
    | some isEphemeral =>
      when (isEphemeral = true)
        (handshakeTypeSetTls12Flag HandshakeType.tls12PerfectForwardSecrecy)
      let c ← get
      let ocsp := c.statusTypeOcsp && (c.mode = .client || env.ocspStatus)
      when (ocsp = true) (handshakeTypeSetTls12Flag HandshakeType.ocspStatus)

/-- The lookup in the session cache of a server. -/
def resumeOrSetFullHandshakeType (env : HelloEnv R) : HelloM R Unit := do
  let c ← get
  if c.actualProtocolVersion ≤ tls12 ∧ c.mode = .server ∧ env.allowedToCacheConnection = true then
    match ← attempt (onSession env.resumeFromCache) with
    | .ok () => return
    | .error e =>
      if e.type = .blocked then throw e
      else
        validateEmsStatus
        setFullHandshakeType env
  else setFullHandshakeType env

/-- The decryption of a ticket by a server. -/
def decryptTicketOrSetFullHandshakeType (env : HelloEnv R) : HelloM R Unit := do
  match ← attempt (onSession env.resumeDecryptSession) with
  | .ok () => return
  | .error _ =>
    validateEmsStatus
    when (env.encryptKeyAvailable = true) do
      modify ({ · with sessionTicketStatus := .newTicket })
      handshakeTypeSetTls12Flag HandshakeType.withSessionTicket
    -- the session cache is not asked when there was a ticket
    setFullHandshakeType env

/-- `s2n_conn_set_handshake_type` below TLS1.3. -/
def setTls12HandshakeType (env : HelloEnv R) : HelloM R Unit := do
  modify ({ · with handshakeType := HandshakeType.initial })
  handshakeTypeSetFlag HandshakeType.negotiated
  let c ← get
  when (expectsClientAuth c.mode env.clientAuthType = true)
    (handshakeTypeSetFlag HandshakeType.clientAuth)
  when ((← get).npnNegotiated = true) (handshakeTypeSetTls12Flag HandshakeType.withNpn)
  if env.useTickets = true ∧ c.sessionTicketStatus = .decryptTicket then
    decryptTicketOrSetFullHandshakeType env
  else
    when (env.useTickets = true ∧ c.sessionTicketStatus = .newTicket)
      (handshakeTypeSetTls12Flag HandshakeType.withSessionTicket)
    resumeOrSetFullHandshakeType env

def setHandshakeType (env : HelloEnv R) : HelloM R Unit := do
  chooseStateMachine (← get).actualProtocolVersion
  if (← get).stateMachine = .tls13 then setTls13HandshakeType env else setTls12HandshakeType env

end Model

end S2nTls
