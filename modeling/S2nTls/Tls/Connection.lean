import S2nTls.Crypto.Cipher
import S2nTls.Crypto.Sequence
import S2nTls.Stuffer.Stuffer
import S2nTls.Tls.HandshakeTables

/-!
The state of a connection, `struct s2n_connection` and what it points to, as far as the modelled
functions read or change it. The fields are grouped by the part of the library they belong to.

Two groups are not in the source. `Env` is what the connection meets outside the library: the
allocator, the random generator and calls of libcrypto that fail. `Trace` records what the
functions did, for the theorems to speak about; no function reads it.
-/

namespace S2nTls

open Lib

variable {K : Type}

def labelBytes (s : String) : List UInt8 := s.toList.map fun ch => UInt8.ofNat ch.toNat

/-! ### Crypto parameters -/

/-- The parameters of one direction of a `struct s2n_crypto_parameters`: the `client_*` or the
`server_*` fields. `generation` is not in the source: it counts the keys installed in `key`. -/
structure CryptoSide (K : Type) where
  key : K
  generation : ℕ
  recordMac : HmacState
  implicitIv : ℕ → UInt8
  sequenceNumber : SequenceNumber

structure CryptoParameters (K : Type) where
  cipherSuite : CipherSuite K
  client : CryptoSide K
  server : CryptoSide K

def CryptoParameters.side (p : CryptoParameters K) : Mode → CryptoSide K
  | .client => p.client
  | .server => p.server

def CryptoParameters.setSide (p : CryptoParameters K) (m : Mode) (s : CryptoSide K) :
    CryptoParameters K :=
  match m with
  | .client => { p with client := s }
  | .server => { p with server := s }

/-- One direction of a new set of parameters, with the session key `k`. -/
def CryptoSide.new (k : K) : CryptoSide K := ⟨k, 0, HmacState.new, fun _ => 0, SequenceNumber.zero⟩

def CryptoParameters.new (k : K) : CryptoParameters K :=
  ⟨nullCipherSuite, CryptoSide.new k, CryptoSide.new k⟩

/-- Where `conn->client` and `conn->server` point. -/
inductive ParamsRef
  | initial | secure
  deriving DecidableEq, Repr

/-- The crypto parameters of a connection. What the client writes is protected with the
`client_*` fields of the set `client` points to, what the server writes with the `server_*`
fields of the set `server` points to. -/
structure CryptoState (K : Type) where
  initial : CryptoParameters K
  /-- `conn->initial` is released at the end of the handshake. -/
  initialFreed : Bool := false
  secure : CryptoParameters K
  client : ParamsRef := .initial
  server : ParamsRef := .initial

namespace CryptoState

/-- The set used for what `m` writes. -/
def ref (s : CryptoState K) : Mode → ParamsRef
  | .client => s.client
  | .server => s.server

def params (s : CryptoState K) : ParamsRef → CryptoParameters K
  | .initial => s.initial
  | .secure => s.secure

def setParams (s : CryptoState K) (r : ParamsRef) (p : CryptoParameters K) : CryptoState K :=
  match r with
  | .initial => { s with initial := p }
  | .secure => { s with secure := p }

/-- The cipher suite of the set `r`. -/
def suite (s : CryptoState K) (r : ParamsRef) : CipherSuite K := (s.params r).cipherSuite

/-- The fields of the set `r` for what `m` writes. -/
def side (s : CryptoState K) (r : ParamsRef) (m : Mode) : CryptoSide K := (s.params r).side m

def setSide (s : CryptoState K) (r : ParamsRef) (m : Mode) (d : CryptoSide K) : CryptoState K :=
  s.setParams r ((s.params r).setSide m d)

variable (s : CryptoState K) (r : ParamsRef) (m : Mode)

@[simp] lemma side_setSide_self (d : CryptoSide K) :
    (s.setSide r m d).side r m = d := by
  cases r <;> cases m <;> rfl

lemma side_setSide_of_ne {s : CryptoState K} {r r' : ParamsRef} {m m' : Mode} {d : CryptoSide K}
    (h : r' ≠ r ∨ m' ≠ m) : (s.setSide r m d).side r' m' = s.side r' m' := by
  cases r <;> cases r' <;> cases m <;> cases m' <;> first | rfl | simp at h

@[simp] lemma setSide_side :
    s.setSide r m (s.side r m) = s := by
  cases r <;> cases m <;> rfl

@[simp] lemma setSide_setSide
    (d d' : CryptoSide K) : (s.setSide r m d).setSide r m d' = s.setSide r m d' := by
  cases r <;> cases m <;> rfl

@[simp] lemma suite_setSide (r r' : ParamsRef) (m : Mode) (d : CryptoSide K) :
    (s.setSide r m d).suite r' = s.suite r' := by
  cases r <;> cases r' <;> cases m <;> rfl

@[simp] lemma ref_setSide (m m' : Mode) (d : CryptoSide K) :
    (s.setSide r m d).ref m' = s.ref m' := by
  cases r <;> cases m' <;> rfl

@[simp] lemma initialFreed_setSide (d : CryptoSide K) :
    (s.setSide r m d).initialFreed = s.initialFreed := by
  cases r <;> rfl

end CryptoState

/-! ### The groups of a connection -/

/-- What `renegotiate_request_cb` answers, or that it fails. -/
inductive RenegotiateResponse
  | ignore | reject | accept | failed
  deriving DecidableEq, Repr

/-- The part of `struct s2n_config` that is read. -/
structure Config where
  sendBufferSizeOverride : ℕ := 0
  useTickets : Bool := false
  serverMaxEarlyDataSize : UInt32 := 0
  renegotiateRequestCb : Option RenegotiateResponse := none

structure SendState where
  out : Stuffer := Stuffer.zero
  multirecordSend : Bool := false
  maxOutgoingFragmentLength : ℕ := 8087
  /-- Bytes of the caller that are in records and have not been acknowledged. -/
  currentUserDataConsumed : ℕ := 0
  activeApplicationBytesConsumed : ℕ := 0
  dynamicRecordResizeThreshold : ℕ := 0
  dynamicRecordTimeoutThreshold : ℕ := 0
  lastWriteElapsed : ℕ := 0
  wireBytesOut : ℕ := 0
  writeFdBroken : Bool := false
  sendInUse : Bool := false
  dynamicBuffers : Bool := false
  /-- The warning alert that the reader wants to be sent, 0 for none. -/
  readerWarningOut : UInt8 := 0
  keyUpdatePending : Bool := false
  ticketsToSend : ℕ := 0
  ticketsSent : ℕ := 0
  ktlsSendEnabled : Bool := false

/-- `conn->in_status`: whether `conn->in` holds a record that is still encrypted. -/
inductive InStatus
  | encrypted | plaintext
  deriving DecidableEq, Repr

/-- `struct s2n_post_handshake`: the part of a message that has arrived. -/
structure PostHandshake where
  /-- `conn->post_handshake.in` -/
  inStuffer : Stuffer := Stuffer.zero
  /-- The memory of `header_in`, before the stuffer points to it. -/
  headerIn : ℕ → UInt8 := fun _ => 0

/-- The fields that receiving uses. `conn->in` points into the memory of `conn->buffer_in`, to a
part of it that has been consumed and is not read through `conn->buffer_in` again. -/
structure RecvState where
  headerIn : Stuffer := Stuffer.zero
  bufferIn : Stuffer := Stuffer.zero
  /-- `conn->in` -/
  inStuffer : Stuffer := Stuffer.zero
  inStatus : InStatus := .encrypted
  recvBuffering : Bool := false
  /-- `conn->client_hello.record_version_recorded` and `legacy_record_version` -/
  recordVersionRecorded : Bool := false
  legacyRecordVersion : ℕ := 0
  postHandshake : PostHandshake := {}
  ktlsRecvEnabled : Bool := false

inductive EarlyDataState
  | unknown | requested | notRequested | accepted | rejected | endOfEarlyData
  deriving DecidableEq, Repr

/-- The part of `struct s2n_psk` that is read. -/
structure Psk where
  isResumption : Bool
  maxEarlyDataSize : UInt32

structure EarlyData where
  state : EarlyDataState := .unknown
  expected : Bool := false
  /-- `conn->early_data_bytes` -/
  bytes : ℕ := 0
  /-- `conn->server_max_early_data_size`, if it was overridden. -/
  serverMaxOverride : Option UInt32 := none
  /-- `conn->psk_params.psk_list` -/
  psks : List Psk := []

structure Handshake where
  io : Stuffer := Stuffer.zero
  handshakeType : ℕ := 0
  messageNumber : ℕ := 0
  stateMachine : StateMachine := .initial
  /-- What each of the transcript hashes was fed. -/
  hashes : HashAlg → List UInt8 := fun _ => []
  /-- The verify data up to TLS1.2, the finished keys of TLS1.3. -/
  serverFinished : ℕ → UInt8 := fun _ => 0
  clientFinished : ℕ → UInt8 := fun _ => 0
  finishedLen : ℕ := 0
  rsaFailed : Bool := false

/-- The secrets of a connection, `struct s2n_secrets`. -/
structure Secrets where
  masterSecret : List UInt8 := []
  clientAppSecret : List UInt8 := []
  serverAppSecret : List UInt8 := []

/-- What the socket does when it is given bytes to send: it takes at most so many, would block, or
fails, perhaps because the pipe is broken. -/
inductive SendResult
  | sent (n : ℕ) | blocked | failed (brokenPipe : Bool)
  deriving DecidableEq, Repr

/-- What `s2n_tls13_server_nst_write` writes, and whether it succeeds. -/
structure TicketWrite where
  bytes : List UInt8 := []
  ok : Bool := false

/-- What the connection meets outside the library. The socket gives its results in the order of the
list, and would block after the last. -/
structure Env where
  malloc : ℕ → Bool := fun _ => true
  fault : Fault → Bool := fun _ => false
  random : ℕ → UInt8 := fun _ => 0
  lib : CryptoLib := CryptoLib.zeros
  socket : List SendResult := []
  /-- What the monotonic clock shows at the next calls, if it works. -/
  clock : ℕ → Option ℕ := fun _ => some 0
  /-- The tickets by the number of those sent before. -/
  tickets : ℕ → TicketWrite := fun _ => {}
  sessionStateSize : Option ℕ := none
  /-- Whether `s2n_psk_validate_keying_material` succeeds. -/
  keyingMaterialValid : Bool := true
  /-- Whether a new session ticket is accepted once it is due to be parsed. -/
  ticketValid : List UInt8 → Bool := fun _ => true

/-- A record that `s2n_record_writev` added to `conn->out`. -/
structure WrittenRecord where
  contentType : ContentType
  plaintext : List UInt8
  /-- The record on the wire. -/
  wire : List UInt8
  deriving DecidableEq

/-- One computation of a MAC or a ciphertext: which key, and which sequence number went in. -/
structure SequenceUse where
  ref : ParamsRef
  writer : Mode
  generation : ℕ
  sequenceNumber : ℕ
  deriving DecidableEq

structure Trace where
  records : List WrittenRecord := []
  /-- The bytes that the socket took. -/
  handed : List UInt8 := []
  sequenceUses : List SequenceUse := []
  /-- The messages that `s2n_post_handshake_process` was called with. -/
  postHandshake : List (HandshakeMsg × List UInt8) := []

structure Conn (K : Type) where
  mode : Mode
  config : Config := {}
  ipv6 : Bool := false
  quicEnabled : Bool := false
  readClosed : Bool := false
  writeClosed : Bool := false
  clientProtocolVersion : ℕ := 34
  serverProtocolVersion : ℕ := 0
  actualProtocolVersion : ℕ := 34
  actualProtocolVersionEstablished : Bool := false
  secureRenegotiation : Bool := false
  crypto : CryptoState K
  secrets : Secrets := {}
  sendKeyUpdated : ℕ := 0
  recvKeyUpdated : ℕ := 0
  send : SendState := {}
  recv : RecvState := {}
  earlyData : EarlyData := {}
  handshake : Handshake := {}
  env : Env := {}
  trace : Trace := {}

def Conn.protocolVersion (c : Conn K) : ℕ :=
  if c.actualProtocolVersion ≠ versionUnknown then c.actualProtocolVersion
  else match c.mode with
    | .client => c.clientProtocolVersion
    | .server => c.serverProtocolVersion

/-- `s2n_connection_check_io_status` for `S2N_IO_WRITABLE`. Before TLS1.3 a connection that is closed
in one direction is closed in both. -/
def Conn.isWritable (c : Conn K) : Bool :=
  if c.protocolVersion < tls13 then !c.readClosed && !c.writeClosed else !c.writeClosed

/-- `s2n_connection_check_io_status` for `S2N_IO_READABLE`. -/
def Conn.isReadable (c : Conn K) : Bool :=
  if c.protocolVersion < tls13 then !c.readClosed && !c.writeClosed else !c.readClosed

/-- `s2n_conn_get_current_message_type`, which is `ACTIVE_MESSAGE`. -/
def Conn.currentMessageType (c : Conn K) : MessageType :=
  c.handshake.stateMachine.message c.handshake.handshakeType c.handshake.messageNumber

abbrev ConnM (K : Type) := EStateM Err (Conn K)

section Parts

variable {α : Type}

def Conn.setSide (c : Conn K) (r : ParamsRef) (m : Mode) (d : CryptoSide K) : Conn K :=
  { c with crypto := c.crypto.setSide r m d }

/-- Work on the fields of the crypto parameters `r` for what `m` writes. -/
def onSide (r : ParamsRef) (m : Mode) (f : EStateM Err (CryptoSide K) α) : ConnM K α :=
  zoom (fun c => c.crypto.side r m) (fun d c => c.setSide r m d) f

def onMac (r : ParamsRef) (m : Mode) (f : EStateM Err HmacState α) : ConnM K α :=
  onSide r m (zoom CryptoSide.recordMac (fun x d => { d with recordMac := x }) f)

def onSequence (r : ParamsRef) (m : Mode) (f : EStateM Err SequenceNumber α) : ConnM K α :=
  onSide r m (zoom CryptoSide.sequenceNumber (fun x d => { d with sequenceNumber := x }) f)

def onOut (f : StufferM α) : ConnM K α :=
  zoom (fun c => c.send.out) (fun t c => { c with send := { c.send with out := t } }) f

def onHeaderIn (f : StufferM α) : ConnM K α :=
  zoom (fun c => c.recv.headerIn) (fun t c => { c with recv := { c.recv with headerIn := t } }) f

def onBufferIn (f : StufferM α) : ConnM K α :=
  zoom (fun c => c.recv.bufferIn) (fun t c => { c with recv := { c.recv with bufferIn := t } }) f

/-- Work on `conn->in`. -/
def onIn (f : StufferM α) : ConnM K α :=
  zoom (fun c => c.recv.inStuffer) (fun t c => { c with recv := { c.recv with inStuffer := t } }) f

/-- Work on `conn->post_handshake.in`. -/
def onPostIn (f : StufferM α) : ConnM K α :=
  zoom (fun c => c.recv.postHandshake.inStuffer) (fun t c => { c with recv := { c.recv with
    postHandshake := { c.recv.postHandshake with inStuffer := t } } }) f

def modifySend (f : SendState → SendState) : ConnM K Unit := modify fun c => { c with send := f c.send }

def onIo (f : StufferM α) : ConnM K α :=
  zoom (fun c => c.handshake.io) (fun t c => { c with handshake := { c.handshake with io := t } }) f

end Parts

def getPublicRandomData (size : ℕ) : ConnM K (List UInt8) := do
  let c ← get
  ensure (c.env.fault (.random size) = false) .drbg
  modify fun c => { c with env := { c.env with random := fun i => c.env.random (size + i) } }
  return slice c.env.random 0 size

end S2nTls
