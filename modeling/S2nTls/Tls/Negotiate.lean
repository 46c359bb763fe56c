import S2nTls.Tls.QuicSupport
import S2nTls.Tls.Recv
import S2nTls.Tls.Send

/-!
The loop of the handshake (`tls/s2n_handshake_io.c`).

`s2n_negotiate_impl` writes or reads one message after the other, as the state machine says. What a message says and
does is left to its handler; here it is how messages are put into records and taken from them, and which records are
passed over.
-/

namespace S2nTls

open Lib Stuffer

variable {K : Type} {α : Type}

/-! ### The state machine -/

def Conn.activeState (c : Conn K) : Action := c.handshake.stateMachine.action c.currentMessageType

def Conn.isWriter (c : Conn K) : Bool := c.activeState.writer == .only c.mode

/-- `s2n_advance_message`, without what is done for the socket. -/
def advanceMessage : ConnM K Unit := do
  modify fun c => { c with handshake := { c.handshake with messageNumber := c.handshake.messageNumber + 1 } }
  -- the messages that change the cipher are optional in TLS1.3
  modify fun c =>
    if !c.isWriter && c.activeState.recordType == tlsChangeCipherSpec && c.handshake.stateMachine == .tls13 then
      { c with handshake := { c.handshake with messageNumber := c.handshake.messageNumber + 1 } }
    else c

def Io.isComplete (s : Io K) : Bool := s.link.conn.activeState.writer == .both || s.deserializedConn

/-- `s2n_cert_auth_type`, as `s2n_connection_get_client_auth_type` gives it. -/
inductive CertAuth
  | none | required | optional
  deriving DecidableEq, Repr

/-- What is done for the messages: the handlers of the state machine, and the steps between messages. -/
structure Handlers (K : Type) where
  /-- `ACTIVE_STATE(conn).handler[conn->mode]` -/
  handler : MessageType → LinkM K Unit
  /-- `s2n_handshake_transcript_update` -/
  transcriptUpdate : ConnM K Unit
  /-- `s2n_tls13_secrets_update` and `s2n_tls13_key_schedule_update` -/
  secretsUpdate : ConnM K Unit
  /-- `s2n_tls13_secrets_clean` -/
  secretsClean : ConnM K Unit
  clientAuthType : Option CertAuth

variable (hs : Handlers K)

/-- The handler of the message that is active. -/
def activeHandler : IoM K Unit := do
  onLink (hs.handler (← get).link.conn.currentMessageType)

/-! ### Writing -/

def handshakeWriteHeader (malloc : ℕ → Bool) (messageType : HandshakeMsg) : StufferM Unit := do
  ensure ((← get).dataAvailable = 0) .handshakeState
  writeUint malloc 1 messageType.toNat
  writeUint malloc 3 0

def handshakeFinishHeader (malloc : ℕ → Bool) : StufferM Unit := do
  let length := (← get).dataAvailable
  ensure (handshakeHeaderLength ≤ length) .sizeMismatch
  rewrite
  skipWrite malloc 1
  writeUint malloc 3 (length - handshakeHeaderLength)
  skipWrite malloc (length - handshakeHeaderLength)

/-- `s2n_flush`, with what it says about being blocked. -/
def flushIo : IoM K Unit := do
  setBlocked .onWrite
  onIoConn flush
  setBlocked .notBlocked

/-- The message is written to `conn->handshake.io` once. -/
def populateMessage : IoM K Unit := do
  let c := (← get).link.conn
  let action := c.activeState
  when (c.handshake.io.isWiped = true) do
    when (action.recordType = tlsHandshake) do
      onIoConn (onIo (handshakeWriteHeader c.env.malloc action.messageType))
    activeHandler hs
    when (action.recordType = tlsHandshake) (onIoConn (onIo (handshakeFinishHeader c.env.malloc)))

def handshakeWriteIo : IoM K Unit := do
  let recordType := (← get).link.conn.activeState.recordType
  populateMessage hs
  onIoConn do
    handshakeMessageSend recordType
    when (recordType = tlsHandshake) hs.transcriptUpdate
    onOut wipe
    onIo wipe
    hs.secretsUpdate
    advanceMessage

/-! ### Reading -/

/-- Copy from `conn->in` to `conn->handshake.io`. -/
def copyToIo (len : ℕ) : ConnM K Unit := do
  zoom (fun c => (c.recv.inStuffer, c.handshake.io))
    (fun p c => { c with
      recv := { c.recv with inStuffer := p.1 }, handshake := { c.handshake with io := p.2 } })
    (copy (← get).env.malloc len)

/-- The part of `s2n_read_full_handshake_message` after the header has been completed. -/
def readHandshakeBody : ConnM K (Option HandshakeMsg) := do
  let (messageType, length) ← onIo handshakeParseHeader
  ensure (length ≤ maximumHandshakeMessageLength) .badMessage
  let c ← get
  copyToIo (min (sub32 length c.handshake.io.dataAvailable) c.recv.inStuffer.dataAvailable)
  if (← get).handshake.io.dataAvailable = length then return some messageType
  else
    onIo reread
    return none

/-- `s2n_read_full_handshake_message`: the type of the message, or `none` if more data is needed. -/
def readFullHandshakeMessage : ConnM K (Option HandshakeMsg) := do
  let c ← get
  let current := c.handshake.io.dataAvailable
  if current < handshakeHeaderLength ∧ c.recv.inStuffer.dataAvailable < handshakeHeaderLength - current then
    copyToIo c.recv.inStuffer.dataAvailable
    return none
  else
    when (current < handshakeHeaderLength) (copyToIo (handshakeHeaderLength - current))
    readHandshakeBody

def finishRead : ConnM K Unit := do
  hs.transcriptUpdate
  onIo wipe
  hs.secretsUpdate
  advanceMessage

/-- `s2n_handshake_handle_sslv2`. The bytes go to the handshake hashes with the handler. -/
def handshakeHandleSslv2 : IoM K Unit := do
  ensure ((← get).link.conn.currentMessageType = .clientHello) .badMessage
  onIoConn do copyToIo (← get).recv.inStuffer.dataAvailable
  let r ← attempt (activeHandler hs)
  onIoConn (onIo wipe)
  onIoConn recordWipe
  withErrorBlinding (MonadExcept.ofExcept r)
  onIoConn advanceMessage

/-- `s2n_handshake_app_data_recv`, which never succeeds. -/
def handshakeAppDataRecv : IoM K Unit := do
  let s ← get
  let c := s.link.conn
  if c.earlyData.expected = true then
    onIoConn earlyDataValidateRecv
    throw .earlyDataBlocked
  else if s.renegotiation = true then
    ensure (c.mode = .client) .noRenegotiation
    ensure (c.secureRenegotiation = true) .noRenegotiation
    ensure (c.currentMessageType = .serverHello) .badMessage
    throw .appDataBlocked
  else throw .badMessage

/-- A message that changes the cipher. -/
def handshakeCcsRecv : IoM K Unit := do
  let c := (← get).link.conn
  when (c.handshake.stateMachine ≠ .tls13 ∨ c.quicEnabled = true) do
    ensure (c.activeState.recordType = tlsChangeCipherSpec) .badMessage
    ensure (c.isWriter = false) .badMessage
  ensure (c.recv.inStuffer.dataAvailable = 1) .badMessage
  onIoConn (copyToIo 1)
  onLink (hs.handler (match c.mode with | .client => .serverChangeCipherSpec | .server => .clientChangeCipherSpec))
  onIoConn (onIo wipe)
  onIoConn recordWipe
  let c := (← get).link.conn
  when (c.activeState.recordType = tlsChangeCipherSpec ∧ c.isWriter = false) (onIoConn advanceMessage)

/-- What a client makes of a message before it looks whether it is the expected one. -/
def expectOptional (messageType : HandshakeMsg) : ConnM K Unit := do
  let c ← get
  when (c.mode = .client) do
    match hs.clientAuthType with
    | none => throw .null
    | some auth =>
      when (auth ≠ .required ∧ messageType = tlsCertReq) do
        ensure (auth = .optional) .unexpectedCertRequest
        ensure (c.handshake.handshakeType.testBit 1 = true) .handshakeState
        modify fun c => { c with handshake := { c.handshake with
          handshakeType := c.handshake.handshakeType ||| HandshakeType.clientAuth } }
      when ((← get).activeState.messageType = tlsServerCertStatus ∧ messageType ≠ tlsServerCertStatus) do
        ensure (c.protocolVersion < tls13) .handshakeState
        modify fun c => { c with handshake := { c.handshake with
          handshakeType := c.handshake.handshakeType &&& (255 ^^^ HandshakeType.ocspStatus) } }

def processHandshakeMessage (messageType : HandshakeMsg) : IoM K Unit := do
  onIoConn (expectOptional hs messageType)
  let c := (← get).link.conn
  if messageType = tlsHelloRequest then
    ensure (c.handshake.handshakeType.testBit 0 = true → c.actualProtocolVersion < tls13) .badMessage
    ensure (c.mode = .client) .badMessage
    onIoConn (onIo wipe)
  else
    ensure (c.activeState.messageType = tlsCertReq → messageType = tlsCertReq) .missingCertRequest
    ensure (c.activeState.recordType = tlsHandshake) .badMessage
    ensure (messageType = c.activeState.messageType) .badMessage
    ensure (c.isWriter = false) .badMessage
    withErrorBlinding (activeHandler hs)
    onIoConn (finishRead hs)

/-- The loop of `s2n_handshake_read_io` over the messages of a record. -/
def handshakeMessagesLoop : ℕ → IoM K Unit
  | 0 => onIoConn recordWipe
  | fuel + 1 => do
    let c := (← get).link.conn
    if c.recv.inStuffer.dataAvailable = 0 then onIoConn recordWipe
    else
      ensure (c.activeState.recordType ≠ tlsApplicationData) .badMessage
      match ← onIoConn readFullHandshakeMessage with
      | none => onIoConn recordWipe
      | some messageType =>
        processHandshakeMessage hs messageType
        handshakeMessagesLoop fuel

def handshakeOtherRecord (recordType : ContentType) : IoM K Unit := do
  when (recordType = tlsAlert) (onAlerts processAlertFragment)
  onIoConn recordWipe

/-- What `s2n_handshake_read_io` does with a record. -/
def handshakeRecord (recordType : ContentType) (isSslv2 : Bool) : IoM K Unit := do
  when (isSslv2 = true) do
    ensure (recordType = 1) .badMessage
    handshakeHandleSslv2 hs
  when (recordType = tlsApplicationData) handshakeAppDataRecv
  if recordType = tlsChangeCipherSpec then handshakeCcsRecv hs
  else if recordType ≠ tlsApplicationData ∧ recordType ≠ tlsHandshake then handshakeOtherRecord recordType
  else
    let available := (← get).link.conn.recv.inStuffer.dataAvailable
    ensure (available ≠ 0) .badMessage
    handshakeMessagesLoop hs available

/-- A record that could not be decrypted by trial is counted and passed over. -/
def skipEarlyRecord : IoM K Unit := onIoConn do
  onIn reread
  earlyDataRecordBytes (← get).recv.inStuffer.dataAvailable
  recordWipe

def handshakeReadIo : IoM K Unit := do
  if (← get).link.conn.quicEnabled = true then
    let _ ← onLink quicReadHandshakeMessage
    handshakeRecord hs tlsHandshake false
  else
    match ← attempt readFullRecord with
    | .error .earlyDataTrialDecrypt => skipEarlyRecord
    | .error e => throw e
    | .ok (recordType, isSslv2) => handshakeRecord hs recordType isSslv2

/-! ### The loop -/

def tryDeleteSessionCache : IoM K Unit := modify fun s => { s with cacheDeleted := s.cacheDeleted || s.cached }

/-- What an error says about being blocked. -/
def negotiateBlocked (e : Err) : IoM K Unit := do
  if e = .asyncBlocked then
    setBlocked .onApplicationInput
    modify fun s => { s with paused := true }
  else when (e = .earlyDataBlocked) (setBlocked .onEarlyData)

def handleRetryState : IoM K Unit := do
  match ← attempt (activeHandler hs) with
  | .error e =>
    if e.type = .blocked then throw e
    else
      modify fun s => { s with paused := false }
      if (← get).link.conn.isWriter = true then throw e
      else
        onIoConn recordWipe
        tryDeleteSessionCache
        withErrorBlinding (throw e)
  | .ok () =>
    modify fun s => { s with paused := false }
    let c := (← get).link.conn
    if c.isWriter = true then
      when (c.activeState.recordType = tlsHandshake) (onIoConn (onIo (handshakeFinishHeader c.env.malloc)))
    else onIoConn do
      recordWipe
      finishRead hs

def negotiateWrite : IoM K Unit := do
  setBlocked .onWrite
  match ← attempt (handshakeWriteIo hs) with
  | .ok () => return
  | .error e =>
    if e.type ≠ .blocked then
      -- the peer might have sent an alert
      match ← attempt (handshakeReadIo hs) with
      | .error .alert => throw .alert
      | _ => throw e
    else
      negotiateBlocked e
      throw e

def negotiateRead : IoM K Unit := do
  setBlocked .onRead
  match ← attempt (handshakeReadIo hs) with
  | .ok () => return
  | .error e =>
    when (e.type ≠ .blocked) tryDeleteSessionCache
    negotiateBlocked e
    throw e

def negotiateFinish : IoM K Unit := do
  when ((← get).link.conn.activeState.writer = .both) do
    onIoConn hs.secretsClean
    match ← attempt (onIoConn postHandshakeSend) with
    | .error e =>
      when (e = .ioBlocked) (setBlocked .onWrite)
      throw e
    | .ok () => onIoConn do onIo (resize (← get).env.malloc 0)

/-- `S2N_IO_FULL_DUPLEX` of `s2n_connection_check_io_status`. -/
def Conn.isFullDuplex (c : Conn K) : Bool := !c.readClosed && !c.writeClosed

/-- A round of the loop of `s2n_negotiate_impl`. -/
def negotiateRound : IoM K Unit := do
  flushIo
  ensure ((← get).link.conn.isFullDuplex = true) .closed
  when ((← get).paused = true) do
    setBlocked .onApplicationInput
    handleRetryState hs
  if (← get).link.conn.isWriter = true then negotiateWrite hs else negotiateRead hs
  negotiateFinish hs

/-- **`s2n_negotiate_impl`**, for as many rounds as `fuel` says. -/
def negotiateImpl : (fuel : ℕ) → IoM K Unit
  | 0 => throw .ioBlocked
  | fuel + 1 => do
    let s ← get
    if s.isComplete = true ∨ s.link.conn.currentMessageType = s.endOfMessages then setBlocked .notBlocked
    else
      negotiateRound hs
      negotiateImpl fuel

end S2nTls
