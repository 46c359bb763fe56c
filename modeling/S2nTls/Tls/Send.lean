import S2nTls.Tls.EarlyData
import S2nTls.Tls.KeyUpdate

/-!
Sending application data (`tls/s2n_send.c`, `tls/s2n_post_handshake.c`, `tls/s2n_key_update.c`,
`tls/s2n_server_new_session_ticket.c`).

Records are collected in `conn->out` and handed to the socket by `s2n_flush`. The socket may take
less than it is offered or block at any time. `conn->current_user_data_consumed` counts the bytes
that are in records and that the caller has not been told about.
-/

namespace S2nTls

open Lib Stuffer

variable {K : Type}

/-- The bytes of application data in some records. -/
def appBytes (rs : List WrittenRecord) : ℕ :=
  (rs.map fun r => if r.contentType = tlsApplicationData then r.plaintext.length else 0).sum

def Conn.appBytes (c : Conn K) : ℕ := S2nTls.appBytes c.trace.records

/-! ### The socket -/

/-- `s2n_connection_send_stuffer` on `conn->out`, with the error that `s2n_io_check_write_result`
makes of its result. -/
def connectionSendStuffer : ConnM K ℕ := do
  let c ← get
  ensure (c.send.writeFdBroken = false) .io
  match c.env.socket with
  | [] => throw .ioBlocked
  | result :: rest =>
    modify fun c => { c with env := { c.env with socket := rest } }
    match result with
    | .blocked => throw .ioBlocked
    | .failed brokenPipe =>
      modifySend fun s => { s with writeFdBroken := brokenPipe }
      throw .io
    | .sent n =>
      let w := min n c.send.out.dataAvailable
      modify fun c => { c with trace := { c.trace with
        handed := c.trace.handed ++ c.send.out.unread.take w } }
      onOut (skipRead w)
      return w

/-- The loop of `s2n_flush`. Each round uses up a result of the socket, so that there are at most
as many rounds as results and one more. -/
def flushLoop : ℕ → ConnM K Unit
  | 0 => return
  | fuel + 1 => do
    if (← get).send.out.dataAvailable = 0 then return
    else
      let w ← connectionSendStuffer
      modifySend fun s => { s with wireBytesOut := (s.wireBytesOut + w) % 2 ^ 64 }
      flushLoop fuel

/-- `s2n_flush` up to the warning of the reader. -/
def flushOut : ConnM K Unit := do
  flushLoop ((← get).env.socket.length + 1)
  onOut rewrite

def alertsWriteWarning : ConnM K Unit := do
  let c ← get
  when (c.quicEnabled = false) do recordWrite tlsAlert [1, c.send.readerWarningOut]

/-- **`s2n_flush`.** The call that it makes of itself finds no warning. -/
def flush : ConnM K Unit := do
  flushOut
  when ((← get).send.readerWarningOut ≠ 0) do
    alertsWriteWarning
    modifySend fun s => { s with readerWarningOut := 0 }
    flushOut

/-! ### Messages after the handshake -/

def quicWriteHandshakeMessage : ConnM K Unit := do
  let c ← get
  onOut (resizeIfEmpty c.env.malloc 8087)
  let bs ← onIo (readBytes c.handshake.io.dataAvailable)
  onOut (writeBytes c.env.malloc bs)

/-- The loop of `s2n_handshake_message_send`; every record takes at least one byte. -/
def handshakeMessageSendLoop (contentType : ContentType) (iov : Iovec) : ℕ → ℕ → ConnM K Unit
  | 0, _ => return
  | fuel + 1, totalBytesWritten => do
    if totalBytesWritten < iov.len then
      let bytesWritten ← recordWritev contentType (some [iov]) totalBytesWritten (iov.len - totalBytesWritten)
      onIo (skipRead bytesWritten)
      flush
      handshakeMessageSendLoop contentType iov fuel (totalBytesWritten + bytesWritten)
    else return

def handshakeMessageSend (contentType : ContentType) : ConnM K Unit := do
  let c ← get
  let size := c.handshake.io.dataAvailable
  if size = 0 then return
  else if c.quicEnabled = true then
    quicWriteHandshakeMessage
    flush
  else
    match ← onIo (rawRead size) with
    | none => throw .null
    | some ptr =>
      onIo (rewindRead size)
      let iov : Iovec := ⟨fun i => c.handshake.io.blob.data (ptr + i), size, false⟩
      handshakeMessageSendLoop contentType iov size 0

def postHandshakeWriteRecords : ConnM K Unit := do
  let c ← get
  when (c.handshake.io.dataAvailable ≠ 0) flush
  handshakeMessageSend tlsHandshake
  onIo wipe

def checkRecordLimit : ConnM K Unit := modify fun c =>
  if (c.crypto.side .secure c.mode).sequenceNumber.value ≥
      c.crypto.secure.cipherSuite.recordAlg.encryptionLimit then
    { c with send := { c.send with keyUpdatePending := true } }
  else c

/-- `s2n_key_update_write`: the peer is not asked to update its own key. -/
def keyUpdateMessage : List UInt8 := [tlsKeyUpdate] ++ beBytes 3 1 ++ [0]

def keyUpdateSend : ConnM K Unit := do
  let c ← get
  ensure (c.actualProtocolVersion ≥ tls13) .safety
  checkRecordLimit
  when ((← get).send.keyUpdatePending = true) do
    ensure (c.send.ktlsSendEnabled = false) .ktlsKeyLimit
    flush
    recordWrite tlsHandshake keyUpdateMessage
    updateApplicationTrafficKeys c.mode .sending
    modifySend fun s => { s with keyUpdatePending := false }
    flush

/-- `s2n_tls13_server_nst_write`, whose message is that of the environment. -/
def tls13ServerNstWrite : ConnM K Unit := do
  let c ← get
  let ticket := c.env.tickets c.send.ticketsSent
  onIo (writeBytes c.env.malloc ticket.bytes)
  ensure (ticket.ok = true) .cancelled
  ensure (c.send.ticketsSent < 2 ^ 16 - 1) .integerOverflow
  modifySend fun s => { s with ticketsSent := s.ticketsSent + 1 }

/-- The loop of `s2n_tls13_server_nst_send` over the tickets that are left. -/
def nstSendLoop : ℕ → ConnM K Unit
  | 0 => return
  | left + 1 => do
    match ← attempt tls13ServerNstWrite with
    | .error _ => return
    | .ok () =>
      postHandshakeWriteRecords
      nstSendLoop left

def tls13ServerNstSend : ConnM K Unit := do
  let c ← get
  ensure (c.actualProtocolVersion ≥ tls13) .safety
  if c.mode ≠ .server ∨ c.config.useTickets = false then return
  else if c.send.ticketsToSend = c.send.ticketsSent then
    onIo (resize c.env.malloc 0)
  else if c.env.keyingMaterialValid = false then
    modifySend fun s => { s with ticketsToSend := s.ticketsSent }
  else
    ensure (c.send.ticketsSent ≤ c.send.ticketsToSend) .integerOverflow
    match c.env.sessionStateSize with
    | none => throw .safety
    | some stateSize =>
      let maximumNstSize := stateSize + 112
      when (c.handshake.io.spaceRemaining < maximumNstSize) do
        onIo (resize c.env.malloc (.ofNat maximumNstSize))
      nstSendLoop (c.send.ticketsToSend - c.send.ticketsSent)

def postHandshakeSend : ConnM K Unit := do
  let c ← get
  when (tls13 ≤ c.actualProtocolVersion) do
    postHandshakeWriteRecords
    keyUpdateSend
    tls13ServerNstSend
    onIo (resize c.env.malloc 0)

/-! ### Sizes -/

/-- `s2n_record_min_write_payload_size`: what fits into one TCP segment. -/
def recordMinWritePayloadSize : ConnM K ℕ := do
  let c ← get
  let minOutgoingFragmentLength := 1500 - (if c.ipv6 then 40 else 20) - 20 - 40 - recordHeaderLength
  ensure (minOutgoingFragmentLength ≤ maximumFragmentLength) .fragmentLengthTooLarge
  -- down to a whole number of blocks
  let size := match c.writeSuite.recordAlg.cipher.io with
    | .cbc x => minOutgoingFragmentLength - minOutgoingFragmentLength % x.blockSize
    | .composite x =>
      minOutgoingFragmentLength - minOutgoingFragmentLength % x.blockSize - x.macKeySize - 1
    | _ => minOutgoingFragmentLength
  ensure (tls13 ≤ c.actualProtocolVersion → 1 < size) .fragmentLengthTooSmall
  let size := if tls13 ≤ c.actualProtocolVersion then size - 1 else size
  let overhead := tlsRecordOverhead c
  ensure (overhead < size) .fragmentLengthTooSmall
  ensure (size - overhead ≤ 1500) .fragmentLengthTooLarge
  return size - overhead

def shouldFlush (totalMessageSize : ℕ) : ConnM K Bool := do
  let c ← get
  if c.send.multirecordSend = false then return true
  else if totalMessageSize ≤ c.send.currentUserDataConsumed then return true
  else
    match ← attempt recordMaxWritePayloadSize with
    | .error _ => return true
    | .ok maxPayloadSize =>
      let maxPayloadSize := min maxPayloadSize (totalMessageSize - c.send.currentUserDataConsumed)
      return c.send.out.spaceRemaining < recordMaxWriteSize c maxPayloadSize && !c.send.out.isFreed

/-- The loop of `s2n_sendv_with_offset_total_size`: the part of the offset that is left, and the
total. -/
def totalSizeLoop : List Iovec → (offs totalSize : ℕ) → Except Err (ℕ × ℕ)
  | [], offs, totalSize => .ok (offs, totalSize)
  | v :: vs, offs, totalSize =>
    let iovLen := v.len - min offs v.len
    if totalSize + iovLen < 2 ^ 64 then totalSizeLoop vs (offs - min offs v.len) (totalSize + iovLen)
    else .error .invalidArgument

/-- `s2n_sendv_with_offset_total_size`. -/
def sendvTotalSize (iov : List Iovec) (offs : ℤ) : Except Err ℕ := do
  let (offs, totalSize) ← if offs < 0 then .error .invalidArgument else totalSizeLoop iov offs.toNat 0
  if offs = 0 ∧ totalSize < 2 ^ 63 then .ok totalSize else .error .invalidArgument

/-! ### Sending -/

/-- After a time without sending the records are small again. -/
def dynamicRecordTimeout : ConnM K Unit := do
  let c ← get
  when (0 < c.send.dynamicRecordTimeoutThreshold) do
    match c.env.clock 0 with
    | none => throw .cancelled
    | some elapsed =>
      modify fun c => { c with env := { c.env with clock := fun i => c.env.clock (i + 1) } }
      when (c.send.dynamicRecordTimeoutThreshold * 1000000000 <
          (2 ^ 64 + elapsed - c.send.lastWriteElapsed) % 2 ^ 64) do
        modifySend fun s => { s with activeApplicationBytesConsumed := 0 }
      modifySend fun s => { s with lastWriteElapsed := elapsed }

/-- How much to put into the next record, and whether the first byte has been split off. -/
def sendvToWrite (totalSize maxPayloadSize : ℕ) (cbcHackUsed : Bool) : ConnM K (ℕ × Bool) := do
  let c ← get
  let toWrite := min (totalSize - c.send.currentUserDataConsumed) maxPayloadSize
  let toWrite ← (if c.send.activeApplicationBytesConsumed < c.send.dynamicRecordResizeThreshold then do
      return min (← recordMinWritePayloadSize) toWrite
    else return toWrite : ConnM K ℕ)
  if c.actualProtocolVersion < tls11 ∧ c.writeSuite.recordAlg.cipher.io.isCbc = true ∧
      c.mode ≠ .server ∧ 1 < toWrite ∧ cbcHackUsed = false then
    return (1, true)
  else return (toWrite, cbcHackUsed)

/-- The loop of `s2n_sendv_with_offset_impl`. The result is `some` number of bytes if the call returns
from within the loop. Every round takes at least one byte. -/
def sendvLoop (iov : List Iovec) (offs totalSize maxPayloadSize : ℕ) :
    ℕ → (cbcHackUsed : Bool) → (userDataSent : ℕ) → ConnM K (Option ℕ)
  | 0, _, _ => return none
  | fuel + 1, cbcHackUsed, userDataSent => do
    if (← get).send.currentUserDataConsumed = totalSize then return none
    else
      let (toWrite, cbcHackUsed) ← sendvToWrite totalSize maxPayloadSize cbcHackUsed
      postHandshakeSend
      let consumed := (← get).send.currentUserDataConsumed
      let writtenToRecord ← recordWritev tlsApplicationData (some iov) (consumed + offs) toWrite
      modifySend fun s => { s with
        currentUserDataConsumed := s.currentUserDataConsumed + writtenToRecord
        activeApplicationBytesConsumed := (s.activeApplicationBytesConsumed + writtenToRecord) % 2 ^ 64 }
      if (← shouldFlush totalSize) = true then
        match ← attempt flush with
        | .error e =>
          if e = .ioBlocked ∧ 0 < userDataSent then
            modifySend fun s => { s with
              currentUserDataConsumed := s.currentUserDataConsumed - userDataSent }
            return some userDataSent
          else throw e
        | .ok () =>
          let consumed := (← get).send.currentUserDataConsumed
          sendvLoop iov offs totalSize maxPayloadSize fuel cbcHackUsed consumed
      else sendvLoop iov offs totalSize maxPayloadSize fuel cbcHackUsed userDataSent

/-- `s2n_sendv_with_offset_impl` once everything before has been sent, without kTLS. -/
def sendvRecords (iov : List Iovec) (offs : ℤ) : ConnM K ℕ := do
  let userDataSent := (← get).send.currentUserDataConsumed
  let maxPayloadSize ← recordMaxWritePayloadSize
  let totalSize ← MonadExcept.ofExcept (sendvTotalSize iov offs)
  ensure (userDataSent ≤ totalSize) .sendSize
  earlyDataValidateSend totalSize
  dynamicRecordTimeout
  match ← sendvLoop iov offs.toNat totalSize maxPayloadSize (totalSize - userDataSent) false
      userDataSent with
  | some n => return n
  | none =>
    modifySend fun s => { s with currentUserDataConsumed := 0 }
    return totalSize

/-! ### Sending with kTLS -/

/-- `sizeof(struct iovec)` -/
def iovecSize : ℕ := 16

/-- The loop of `s2n_ktls_update_bufs_with_offset`: the entries that are not skipped and the rest of the offset. -/
def skipBufs : List Iovec → (offs : ℕ) → Except (Option Err) (List Iovec × ℕ)
  | [], offs => if 0 < offs then .error (some .invalidArgument) else .ok ([], 0)
  | v :: vs, offs => if 0 < offs ∧ v.len ≤ offs then skipBufs vs (offs - v.len) else .ok (v :: vs, offs)

/-- The memory for a copy of `size` bytes when `mem` bytes are at hand. `s2n_alloc` takes a `uint32_t`; the error
`none` is a copy to outside of the memory. -/
def allocCopy (malloc : ℕ → Bool) (mem size : ℕ) : Except (Option Err) Unit :=
  if size ≤ mem then .ok ()
  else if size % 2 ^ 32 = 0 then .error (some .null)
  else if malloc (size % 2 ^ 32) = false then .error (some .alloc)
  else if size % 2 ^ 32 < size then .error none
  else .ok ()

/-- `s2n_ktls_update_bufs_with_offset`: a part of the caller's entries, or a copy of it with another first entry. -/
def updateBufsWithOffset (malloc : ℕ → Bool) (mem : ℕ) (bufs : List Iovec) (offs : ℕ) :
    Except (Option Err) (List Iovec) := do
  let (rest, offs) ← skipBufs bufs offs
  match rest with
  | [] => return []
  | v :: vs =>
    if offs = 0 then return v :: vs
    else
      allocCopy malloc mem ((v :: vs).length * iovecSize)
      return { v with base := fun i => v.base (offs + i), len := v.len - offs } :: vs

def ktlsEstimateRecords (bytes : ℕ) : ℕ :=
  bytes / maximumFragmentLength + if bytes % maximumFragmentLength = 0 then 0 else 1

def ktlsCheckEstimatedRecordLimit (bytesRequested : ℕ) : ConnM K Unit := do
  let c ← get
  when (tls13 ≤ c.actualProtocolVersion) do
    let totalRecordsSent :=
      (c.crypto.side .secure c.mode).sequenceNumber.value + ktlsEstimateRecords bytesRequested
    ensure (totalRecordsSent < 2 ^ 64) .ktlsKeyLimit
    ensure (totalRecordsSent ≤ c.crypto.secure.cipherSuite.recordAlg.encryptionLimit) .ktlsKeyLimit

/-- `s2n_ktls_sendmsg` of entries with `size` bytes. -/
def ktlsSendmsg (size : ℕ) : ConnM K ℕ := do
  match (← get).env.socket with
  | [] => throw .ioBlocked
  | result :: rest =>
    modify fun c => { c with env := { c.env with socket := rest } }
    match result with
    | .blocked => throw .ioBlocked
    | .failed _ => throw .io
    | .sent n => return min n size

/-- The loop of `s2n_ktls_set_estimated_sequence_number`. -/
def ktlsIncrementLoop : ℕ → ConnM K Unit
  | 0 => return
  | records + 1 => do
    onSequence .secure (← get).mode SequenceNumber.increment
    ktlsIncrementLoop records

/-- `s2n_ktls_sendv_with_offset` -/
def ktlsSendvWithOffset (iov : List Iovec) (offs : ℤ) : ConnM K ℕ := do
  let totalBytes ← MonadExcept.ofExcept (sendvTotalSize iov offs)
  ktlsCheckEstimatedRecordLimit totalBytes
  let c ← get
  when (0 < offs) do
    discard (MonadExcept.ofExcept
      ((updateBufsWithOffset c.env.malloc 256 iov offs.toNat).mapError fun e => e.getD .safety))
  let bytesWritten ← ktlsSendmsg totalBytes
  when (tls13 ≤ c.actualProtocolVersion) do ktlsIncrementLoop (ktlsEstimateRecords bytesWritten)
  return bytesWritten

/-! ### The call -/

def sendvWithOffsetImpl (iov : List Iovec) (offs : ℤ) : ConnM K ℕ := do
  let c ← get
  ensure (c.isWritable = true) .closed
  ensure (c.quicEnabled = false) .unsupportedWithQuic
  flush
  if c.send.ktlsSendEnabled = true then ktlsSendvWithOffset iov offs else sendvRecords iov offs

def dynamicFreeOutBuffer : ConnM K Unit := do
  let c ← get
  when (c.send.dynamicBuffers = true ∧ c.send.out.isConsumed = true) do
    onOut (free ⟨c.env.malloc, !c.env.fault .free⟩)
    onOut (growableAlloc c.env.malloc 0)

/-- Early data is counted when the call returns a number of bytes. -/
def recordSentBytes : Except Err ℕ → ConnM K Unit
  | .ok n => earlyDataRecordBytes n
  | .error _ => return

/-- **`s2n_sendv_with_offset`.** -/
def sendvWithOffset (iov : List Iovec) (offs : ℤ) : ConnM K ℕ := do
  ensure ((← get).send.sendInUse = false) .reentrancy
  modifySend fun s => { s with sendInUse := true }
  let result ← attempt (sendvWithOffsetImpl iov offs)
  recordSentBytes result
  dynamicFreeOutBuffer
  modifySend fun s => { s with sendInUse := false }
  MonadExcept.ofExcept result

end S2nTls
