import S2nTls.Tls.KeyUpdate

/-!
Receiving messages after the handshake (`tls/s2n_post_handshake.c`, `s2n_key_update_recv`,
`tls/s2n_client_hello_request.c`).

A record may hold several messages, and a message may be spread over several records. The part of
a message that has arrived is kept in `conn->post_handshake.in`, which first points to an array for
the header and is replaced by allocated memory if the body is not in one record. A message that is
in one record is processed from there.
-/

namespace S2nTls

open Lib Stuffer

variable {K : Type}

/-! ### Processing a message -/

/-- What the peer asks for in a KeyUpdate message. -/
def recvKeyUpdateRequest (keyUpdateRequest : UInt8) : ConnM K Unit := do
  if keyUpdateRequest = 1 then
    ensure ((← get).send.ktlsSendEnabled = false) .ktlsKeyupdate
    modifySend fun s => { s with keyUpdatePending := true }
  else ensure (keyUpdateRequest = 0) .badMessage

/-- `s2n_key_update_recv`. What follows the request in the message is not looked at. -/
def keyUpdateRecv (request : List UInt8) : ConnM K Unit := do
  let c ← get
  ensure (c.actualProtocolVersion ≥ tls13) .badMessage
  ensure (c.quicEnabled = false) .badMessage
  ensure (c.recv.ktlsRecvEnabled = false) .ktlsKeyupdate
  match request with
  | [] => throw .stufferOutOfData
  | keyUpdateRequest :: _ =>
    recvKeyUpdateRequest keyUpdateRequest
    updateApplicationTrafficKeys c.mode.peer .receiving

/-- `s2n_tls13_server_nst_recv`; whether the ticket is valid is up to the environment. -/
def tls13ServerNstRecv (input : List UInt8) : ConnM K Unit := do
  let c ← get
  ensure (c.actualProtocolVersion ≥ tls13) .badMessage
  ensure (c.mode = .client) .badMessage
  when (c.config.useTickets = true) do ensure (c.env.ticketValid input = true) .badMessage

def queueReaderNoRenegotiationAlert : ConnM K Unit := do
  let c ← get
  ensure (c.protocolVersion ≠ sslv3) .badMessage
  when (c.send.readerWarningOut = 0) do modifySend fun s => { s with readerWarningOut := 100 }

def clientHelloRequestRecv : ConnM K Unit := do
  let c ← get
  when (c.handshake.handshakeType &&& HandshakeType.negotiated ≠ 0) do
    ensure (c.actualProtocolVersion < tls13) .badMessage
  ensure (c.mode = .client) .badMessage
  match c.config.renegotiateRequestCb with
  | none => return
  | some response =>
    if c.secureRenegotiation = false then queueReaderNoRenegotiationAlert
    else match response with
      | .failed => throw .cancelled
      | .reject => queueReaderNoRenegotiationAlert
      | .ignore | .accept => return

def postHandshakeProcess (messageType : HandshakeMsg) (body : List UInt8) : ConnM K Unit := do
  modify fun c => { c with trace := { c.trace with
    postHandshake := c.trace.postHandshake ++ [(messageType, body)] } }
  if messageType = tlsKeyUpdate then keyUpdateRecv body
  else if messageType = tlsServerNewSessionTicket then tls13ServerNstRecv body
  else if messageType = tlsHelloRequest then clientHelloRequestRecv
  else throw .badMessage

/-! ### Collecting a message -/

def handshakeHeaderLength : ℕ := 4

def PostHandshake.headerBlob (p : PostHandshake) : Blob :=
  ⟨p.headerIn, handshakeHeaderLength, false, fun h => Bool.noConfusion h, by decide⟩

/-- Copy from `conn->in` to `conn->post_handshake.in` until that holds `target` bytes for its
reader, as far as there are any. -/
def fillPostIn (target : ℕ) : ConnM K Unit := do
  let c ← get
  let available := c.recv.postHandshake.inStuffer.dataAvailable
  when (available < target) do
    zoom (fun c => (c.recv.inStuffer, c.recv.postHandshake.inStuffer))
      (fun p c => { c with recv := { c.recv with
        inStuffer := p.1, postHandshake := { c.recv.postHandshake with inStuffer := p.2 } } })
      (copy c.env.malloc (min (target - available) c.recv.inStuffer.dataAvailable))

def handshakeParseHeader : StufferM (HandshakeMsg × ℕ) := do
  ensure (handshakeHeaderLength ≤ (← get).dataAvailable) .sizeMismatch
  let messageType ← readUint 1
  let length ← readUint 3
  return (UInt8.ofNat messageType, length)

lemma totalSize_lt {len : ℕ} (h : len ≤ maximumHandshakeMessageLength) :
    len + handshakeHeaderLength < 2 ^ 32 := by
  unfold maximumHandshakeMessageLength at h
  unfold handshakeHeaderLength
  omega

/-- Make room for a body that is spread over records. A stuffer that was not allocated points to
`header_in`, which holds the header. -/
def makeRoom (len : ℕ) (h : len ≤ maximumHandshakeMessageLength) : ConnM K Unit := do
  let c ← get
  ensure (c.mode = .client) .badMessage
  let message := c.recv.postHandshake.inStuffer
  if message.alloced = true then
    onPostIn (resize c.env.malloc (.ofNatLT (len + handshakeHeaderLength) (totalSize_lt h)))
  else do
    onPostIn (growableAlloc c.env.malloc (.ofNatLT (len + handshakeHeaderLength) (totalSize_lt h)))
    onPostIn (writeBytes c.env.malloc (slice message.blob.data 0 handshakeHeaderLength))
    onPostIn (skipRead handshakeHeaderLength)

/-- Collect a body for which there is room, and process it once it is complete. -/
def collectBody (messageType : HandshakeMsg) (len : ℕ) : ConnM K Unit := do
  fillPostIn len
  let c ← get
  ensure (c.recv.postHandshake.inStuffer.dataAvailable = len) .ioBlocked
  postHandshakeProcess messageType c.recv.postHandshake.inStuffer.unread

/-- The part of `s2n_post_handshake_message_recv` for a body that is spread over records. -/
def recvFragmentedBody (messageType : HandshakeMsg) (len : ℕ)
    (h : len ≤ maximumHandshakeMessageLength) : ConnM K Unit := do
  when ((← get).recv.postHandshake.inStuffer.spaceRemaining < len) (makeRoom len h)
  collectBody messageType len

/-- The part of `s2n_post_handshake_message_recv` after the header. -/
def recvBody (messageType : HandshakeMsg) (len : ℕ) : ConnM K Unit := do
  let c ← get
  ensure (len = 0 ∨ c.recv.inStuffer.dataAvailable ≠ 0) .ioBlocked
  if h : len ≤ maximumHandshakeMessageLength then
    if c.recv.postHandshake.inStuffer.dataAvailable = 0 ∧ len ≤ c.recv.inStuffer.dataAvailable then
      match ← onIn (rawRead len) with
      | none => throw .null
      | some ptr => postHandshakeProcess messageType (slice c.recv.inStuffer.blob.data ptr len)
    else recvFragmentedBody messageType len h
  else throw .badMessage

/-- The start of `s2n_post_handshake_message_recv`: what was collected is read again from its
beginning, and a stuffer without memory gets the array for the header. -/
def beginMessage : ConnM K Unit := do
  onPostIn reread
  when ((← get).recv.postHandshake.inStuffer.isFreed = true) do
    modify fun c => { c with recv := { c.recv with postHandshake := { c.recv.postHandshake with
      inStuffer := Stuffer.init c.recv.postHandshake.headerBlob } } }

def postHandshakeMessageRecv : ConnM K Unit := do
  beginMessage
  fillPostIn handshakeHeaderLength
  ensure (handshakeHeaderLength ≤ (← get).recv.postHandshake.inStuffer.dataAvailable) .ioBlocked
  let (messageType, len) ← onPostIn handshakeParseHeader
  recvBody messageType len

/-- The loop of `s2n_post_handshake_recv`; every message takes at least a byte of the record. -/
def postHandshakeRecvLoop : ℕ → ConnM K Unit
  | 0 => return
  | fuel + 1 => do
    if (← get).recv.inStuffer.dataAvailable = 0 then return
    else
      postHandshakeMessageRecv
      onPostIn wipe
      postHandshakeRecvLoop fuel

def postHandshakeRecv : ConnM K Unit := do
  postHandshakeRecvLoop (← get).recv.inStuffer.dataAvailable

/-- What `s2n_recv_impl` does with records that hold handshake messages: `conn->in` is the record
that was read, and an error that says that more is needed is ignored. -/
def recvHandshakeRecords : List Stuffer → ConnM K Unit
  | [] => return
  | record :: records => do
    modify fun c => { c with recv := { c.recv with inStuffer := record } }
    match ← attempt postHandshakeRecv with
    | .ok () | .error .ioBlocked => recvHandshakeRecords records
    | .error e => throw e

end S2nTls
