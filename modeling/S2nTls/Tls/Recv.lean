import S2nTls.Tls.Alerts
import S2nTls.Tls.EarlyData
import S2nTls.Tls.Input

/-!
Receiving (`tls/s2n_recv.c`, and the blinding of errors in `tls/s2n_connection.c`).

`s2n_read_full_record` collects a record and decrypts it. `s2n_recv_impl` hands the content of records with application
data to the caller, as far as there is room, and deals with alerts and with messages after the handshake on the way.
-/

namespace S2nTls

open Lib Stuffer

variable {K : Type} {α : Type}

/-! ### The state -/

/-- `s2n_blocked_status`. -/
inductive Blocked
  | notBlocked | onRead | onWrite | onApplicationInput | onEarlyData
  deriving DecidableEq, Repr

/-- A connection with its transport, and what is known about its end. -/
structure Io (K : Type) where
  link : Link K
  alertIn : Stuffer := Stuffer.zero
  alertBehavior : AlertBehavior := .failOnWarnings
  /-- `s2n_allowed_to_cache_connection`, for a connection with a session id. -/
  cached : Bool := false
  closeNotifyReceived : Bool := false
  errorAlertReceived : Bool := false
  cacheDeleted : Bool := false
  ignoredAlerts : List (UInt8 × UInt8) := []
  recvMultiRecord : Bool := false
  maxBlinding : ℕ := 30
  /-- Whether `s2n_connection_kill` has set a delay. -/
  delayed : Bool := false
  /-- What `*blocked` was set to last. -/
  blocked : Blocked := .notBlocked
  /-- `conn->handshake.paused`, `conn->handshake.renegotiation` and `conn->handshake.end_of_messages` -/
  paused : Bool := false
  renegotiation : Bool := false
  endOfMessages : MessageType := .applicationData
  deserializedConn : Bool := false

abbrev IoM (K : Type) := EStateM Err (Io K)

def onLink (f : LinkM K α) : IoM K α := zoom Io.link (fun l s => { s with link := l }) f

def Io.setConn (s : Io K) (c : Conn K) : Io K := { s with link := { s.link with conn := c } }

def onIoConn (f : ConnM K α) : IoM K α := zoom (fun s => s.link.conn) (fun c s => s.setConn c) f

def setBlocked (b : Blocked) : IoM K Unit := modify fun s => { s with blocked := b }

/-! ### Alerts and errors -/

/-- The connection as alerts see it. -/
def Io.alertConn (s : Io K) : AlertConn where
  status :=
    { mode := s.link.conn.mode
      actualProtocolVersion := s.link.conn.actualProtocolVersion
      clientProtocolVersion := s.link.conn.clientProtocolVersion
      serverProtocolVersion := s.link.conn.serverProtocolVersion
      alertBehavior := s.alertBehavior
      quicEnabled := s.link.conn.quicEnabled
      cached := s.cached
      readClosed := s.link.conn.readClosed
      writeClosed := s.link.conn.writeClosed
      closeNotifyReceived := s.closeNotifyReceived
      errorAlertReceived := s.errorAlertReceived
      cacheDeleted := s.cacheDeleted
      ignored := s.ignoredAlerts }
  inStuffer := s.link.conn.recv.inStuffer
  alertIn := s.alertIn

def Io.setAlertConn (a : AlertConn) (s : Io K) : Io K :=
  { s.setConn { s.link.conn with
      readClosed := a.status.readClosed
      writeClosed := a.status.writeClosed
      recv := { s.link.conn.recv with inStuffer := a.inStuffer } } with
    alertIn := a.alertIn
    closeNotifyReceived := a.status.closeNotifyReceived
    errorAlertReceived := a.status.errorAlertReceived
    cacheDeleted := a.status.cacheDeleted
    ignoredAlerts := a.status.ignored }

def onAlerts (f : EStateM Err AlertConn α) : IoM K α := zoom Io.alertConn Io.setAlertConn f

def setClosed : IoM K Unit := onIoConn (modify fun c => { c with readClosed := true, writeClosed := true })

def kill : IoM K Unit := do
  setClosed
  modify fun s => { s with delayed := s.delayed || s.maxBlinding != 0 }

/-- The errors after which there is no delay. -/
def Err.notBlinded : Err → Bool
  | .closed | .cancelled | .cipherNotSupported | .protocolVersionUnsupported => true
  | _ => false

def applyErrorBlinding (e : Err) : IoM K Unit := do
  onIoConn (onIn wipe)
  when (e.type ≠ .ok ∧ e.type ≠ .blocked) do
    if e.notBlinded = true then setClosed else kill

def withErrorBlinding (f : IoM K α) : IoM K α := do
  match ← attempt f with
  | .ok a => return a
  | .error e =>
    applyErrorBlinding e
    throw e

/-! ### Records -/

/-- `s2n_stuffer_shift` of `conn->buffer_in`, which moves the memory that `conn->in` may point to. -/
def shiftBufferIn : LinkM K Unit := do
  onPart bufferInPart shift
  modify fun l => { l with moves := if l.aliases then .shifted :: l.moves else l.moves }

def recvBufferIn (minSize : ℕ) : LinkM K Unit := do
  onPart bufferInPart (resizeIfEmpty (← get).conn.env.malloc (.ofNat maximumFragmentLength))
  let t := (← get).conn.recv.bufferIn
  when (t.dataAvailable < minSize) do
    when (t.spaceRemaining < minSize - t.dataAvailable) shiftBufferIn
    readInBytes bufferInPart minSize

/-- The part of `s2n_read_full_record` that fills `conn->header_in`. -/
def readHeader : LinkM K Unit := do
  onLinkConn (onHeaderIn reread)
  let headerAvailable := (← get).conn.recv.headerIn.dataAvailable
  when (headerAvailable < recordHeaderLength) do
    let ret ← attempt (recvBufferIn (recordHeaderLength - headerAvailable))
    let l ← get
    onLinkConn (zoom (fun c => (c.recv.bufferIn, c.recv.headerIn))
      (fun p c => { c with recv := { c.recv with bufferIn := p.1, headerIn := p.2 } })
      (copy l.conn.env.malloc (min (recordHeaderLength - headerAvailable) l.conn.recv.bufferIn.dataAvailable)))
    MonadExcept.ofExcept ret

/-- `s2n_sslv2_record_header_parse`: the type of the message and what is missing of it. -/
def sslv2RecordHeaderParse : ConnM K (ContentType × ℕ) := do
  ensure (recordHeaderLength ≤ (← get).recv.headerIn.dataAvailable) .badMessage
  let fragmentLength ← onHeaderIn (readUint 2)
  ensure (2 ^ 15 ≤ fragmentLength) .badMessage
  let available := (← get).recv.headerIn.dataAvailable
  ensure (available ≤ fragmentLength - 2 ^ 15) .badMessage
  let recordType ← onHeaderIn (readBytes 1)
  let protocolVersion ← onHeaderIn (readBytes 2)
  modify fun c => { c with clientProtocolVersion :=
    ((protocolVersion.getD 0 0).toNat * 10 + (protocolVersion.getD 1 0).toNat) % 2 ^ 8 }
  onHeaderIn reread
  return (recordType.getD 0 0, fragmentLength - 2 ^ 15 - available)

/-- The part of `s2n_read_full_record` that makes `conn->in` hold the fragment. -/
def readFragment (fragmentLength : ℕ) (h : fragmentLength < 2 ^ 32) : LinkM K Unit := do
  let fragmentAvailable := (← get).conn.recv.inStuffer.dataAvailable
  when (fragmentAvailable < fragmentLength ∨ fragmentLength = 0) do
    onPart bufferInPart (rewindRead fragmentAvailable)
    let ret ← attempt (recvBufferIn fragmentLength)
    recvInInit (min fragmentLength (← get).conn.recv.bufferIn.dataAvailable) fragmentLength h
    MonadExcept.ofExcept ret

def Conn.isTrialDecryptionAllowed (c : Conn K) (recordType : ContentType) : Bool :=
  c.earlyData.state == .rejected && recordType == tlsApplicationData && c.mode == .server &&
    c.currentMessageType != .applicationData

/-- The end of `s2n_read_full_record`: the record is decrypted. -/
def decryptRecord (recordType : ContentType) : IoM K ContentType := do
  if (← get).link.conn.isTrialDecryptionAllowed recordType = true then
    failWith .earlyDataTrialDecrypt (onIoConn recordParse)
  else withErrorBlinding (onIoConn recordParse)
  if (← get).link.conn.actualProtocolVersion = tls13 ∧ recordType = tlsApplicationData then
    onIoConn (onIn tls13ParseRecordType)
  else return recordType

/-- The header of a record says what kind of record it is. -/
def parseHeader (isSslv2 : Bool) : IoM K (ContentType × ℕ) :=
  withErrorBlinding (onIoConn (if isSslv2 then sslv2RecordHeaderParse else recordHeaderParse))

/-- The part of `s2n_read_full_record` for a record that has not been decrypted. The result is the type of the record,
and whether it is one of SSLv2. -/
def readNextRecord : IoM K (ContentType × Bool) := do
  onLink readHeader
  let isSslv2 := (← get).link.conn.recv.headerIn.blob.data 0 &&& 0x80 != 0
  let (recordType, fragmentLength) ← parseHeader isSslv2
  if h : fragmentLength < 2 ^ 32 then
    onLink (readFragment fragmentLength h)
    if isSslv2 then return (recordType, true)
    else return (← decryptRecord recordType, false)
  else throw .safety

/-- `s2n_ktls_recvmsg` into the free memory of `conn->buffer_in`: the type of the record, and how many bytes there
are. -/
def ktlsRecvmsg (len : ℕ) : LinkM K (ContentType × ℕ) := do
  ensure (0 < len) .safety
  let l ← get
  match l.input with
  | [] => throw .ioBlocked
  | .blocked :: rest => do
    modify fun l => { l with input := rest }
    throw .ioBlocked
  | .failed :: rest => do
    modify fun l => { l with input := rest }
    throw .io
  | .closed :: _ => throw .closed
  | .received b bs :: rest => do
    modify fun l => { l with input := leftover ((b :: bs).drop len) rest, recordTypes := l.recordTypes.tail }
    onPart bufferInPart (do poke (← get).writeCursor ((b :: bs).take len))
    match l.recordTypes.head?.join with
    | none => throw .ktlsBadCmsg
    | some recordType => return (recordType, ((b :: bs).take len).length)

/-- `s2n_ktls_read_full_record`. The kernel has decrypted the record. -/
def ktlsReadFullRecord : IoM K ContentType := do
  let c := (← get).link.conn
  if c.recv.inStuffer.dataAvailable ≠ 0 then return tlsApplicationData
  else
    onLink (onPart bufferInPart (resizeIfEmpty c.env.malloc 8087))
    let t := (← get).link.conn.recv.bufferIn
    ensure (t.blob.isNull = false) .null
    let (recordType, bytesRead) ← withErrorBlinding (onLink (ktlsRecvmsg t.spaceRemaining))
    if h : bytesRead < 2 ^ 32 then
      onLink do
        onPart bufferInPart (skipWrite c.env.malloc bytesRead)
        recvInInit bytesRead bytesRead h
      return recordType
    else throw .safety

/-- **`s2n_read_full_record`.** -/
def readFullRecord : IoM K (ContentType × Bool) := do
  let c := (← get).link.conn
  if c.recv.ktlsRecvEnabled = true then return (← ktlsReadFullRecord, false)
  else if c.recv.inStatus = .plaintext then return (tlsApplicationData, false)
  else readNextRecord

/-! ### Application data -/

/-- `s2n_stuffer_erase_and_read`. -/
def eraseAndTake (n : ℕ) : StufferM (List UInt8) := do
  let t ← get
  skipRead n
  ensure (t.blob.isNull = false ∨ n = 0) .null
  poke t.readCursor (List.replicate n 0)
  return slice t.blob.data t.readCursor n

def earlyDataValidateRecv : ConnM K Unit := do
  let c ← get
  when (c.isEarlyDataIo = true) do
    ensure (c.earlyData.expected = true) .earlyDataNotAllowed
    ensure (c.mode = .server) .earlyDataNotAllowed
    ensure (c.earlyData.state = .accepted) .earlyDataNotAllowed
    ensure (c.currentMessageType = .endOfEarlyData) .earlyDataNotAllowed

/-- Between the records of a handshake message there are no others. -/
def checkInterleaving (recordType : ContentType) : ConnM K Unit := do
  when (recordType ≠ tlsHandshake) do
    let c ← get
    ensure (c.recv.postHandshake.inStuffer.isWiped = true) .badMessage
    when (c.recv.postHandshake.inStuffer.isFreed = false) do onPostIn (free c.env.malloc)

/-- What `s2n_recv_impl` does with a record that is not for the caller. -/
def processRecord (recordType : ContentType) : IoM K Unit := do
  if recordType = tlsAlert then onAlerts processAlertFragment
  else when (recordType = tlsHandshake) do
    match ← attempt (onIoConn postHandshakeRecv) with
    | .ok () | .error .ioBlocked => return
    | .error e => withErrorBlinding (throw e)
  onIoConn recordWipe

/-- What `s2n_recv_impl` does with a record for the caller. -/
def takeApplicationData (size : ℕ) : ConnM K (List UInt8) := do
  let bs ← onIn (eraseAndTake (min size (← get).recv.inStuffer.dataAvailable))
  when ((← get).recv.inStuffer.dataAvailable = 0) recordWipe
  return bs

/-- An error of `s2n_read_full_record`: it is not passed on if there is something to return. -/
def recvFailed (bytesRead : List UInt8) (e : Err) : IoM K (List UInt8) := do
  if bytesRead ≠ [] ∧ (e = .closed ∨ e = .ioBlocked) then return bytesRead
  else
    modify fun s => { s with cacheDeleted := s.cacheDeleted || (s.cached && e != .ioBlocked) }
    throw e

/-- The loop of `s2n_recv_impl`. Each round takes a record that was there before, or reads one, and a record has a
header. -/
def recvLoop : ℕ → (size : ℕ) → (bytesRead : List UInt8) → IoM K (List UInt8)
  | 0, _, bytesRead => return bytesRead
  | fuel + 1, size, bytesRead => do
    if size = 0 ∨ (← get).link.conn.isReadable = false then return bytesRead
    else
      match ← attempt readFullRecord with
      | .error e => recvFailed bytesRead e
      | .ok (recordType, isSslv2) =>
        ensure (isSslv2 = false) .badMessage
        onIoConn (checkInterleaving recordType)
        if recordType = tlsApplicationData then
          let bs ← onIoConn (takeApplicationData size)
          if bytesRead ++ bs ≠ [] ∧ (← get).recvMultiRecord = false then return bytesRead ++ bs
          else recvLoop fuel (size - bs.length) (bytesRead ++ bs)
        else
          processRecord recordType
          recvLoop fuel size bytesRead

/-- The bytes that have arrived or are on their way. -/
def Link.inFlight (l : Link K) : ℕ :=
  l.conn.recv.bufferIn.writeCursor + (l.input.map fun r => r.bytes.length).sum

/-- **`s2n_recv_impl`**: the bytes that the caller gets. -/
def recvImpl (size : ℤ) : IoM K (List UInt8) := do
  ensure (0 ≤ size) .safety
  setBlocked .onRead
  if (← get).link.conn.isReadable = false then
    ensure ((← get).closeNotifyReceived = true) .closed
    setBlocked .notBlocked
    return []
  else
    ensure ((← get).link.conn.quicEnabled = false) .unsupportedWithQuic
    onIoConn earlyDataValidateRecv
    let bs ← recvLoop ((← get).link.inFlight + 2) size.toNat []
    when ((← get).link.conn.recv.inStuffer.dataAvailable = 0) (setBlocked .notBlocked)
    return bs

end S2nTls
