import S2nTls.Tls.Negotiate

/-!
The calls of the application (`s2n_send`, `s2n_recv`, `s2n_negotiate` and `tls/s2n_early_data_io.c`).

A call that is made while another one of the same kind is in progress on the connection is refused: each of them sets a
flag when it begins and clears the flag when it ends. The calls for early data make the handshake go on as far as it
can, and send or receive in between.
-/

namespace S2nTls

open Lib Stuffer

variable {K : Type} {α : Type}

/-! ### The state -/

inductive GuardedCall
  | send (iov : List Iovec) (offs : ℤ)
  | recv (size : ℤ)
  | negotiate (fuel : ℕ)

/-- A call that was begun, with the connection and the guards that it found. -/
structure Begun (K : Type) where
  call : GuardedCall
  io : Io K
  guards : Bool × Bool × Bool

/-- A call of `s2n_send` that has ended: the connection that it found, and how many bytes of the application it has put
into records. -/
structure Sent (K : Type) where
  conn : Conn K
  iov : List Iovec
  offs : ℤ
  written : ℕ

/-- A connection as the application has it. -/
structure Endpoint (K : Type) where
  io : Io K
  recvInUse : Bool := false
  negotiateInUse : Bool := false
  /-- `s2n_connection_supports_tls13` -/
  supportsTls13 : Bool := true
  /-- `*data_sent` of `s2n_send_early_data`, and what `*data_received` bytes of `s2n_recv_early_data` are. -/
  dataSent : ℕ := 0
  dataReceived : List UInt8 := []
  /-- Not in the source: the calls that were begun, also those that the calls for early data make. -/
  begun : List (Begun K) := []
  /-- Not in the source: the calls of `s2n_send` that have ended, likewise. -/
  sent : List (Sent K) := []

abbrev EndM (K : Type) := EStateM Err (Endpoint K)

def Endpoint.conn (e : Endpoint K) : Conn K := e.io.link.conn

/-- `conn->send_in_use`, `conn->recv_in_use` and `conn->negotiate_in_use`. -/
def Endpoint.guards (e : Endpoint K) : Bool × Bool × Bool :=
  (e.conn.send.sendInUse, e.recvInUse, e.negotiateInUse)

def onEndIo (f : IoM K α) : EndM K α := zoom Endpoint.io (fun s e => { e with io := s }) f

def onEndConn (f : ConnM K α) : EndM K α := onEndIo (onIoConn f)

/-! ### The guarded calls -/

def dynamicFreeInBuffer : LinkM K Unit := do
  let c := (← get).conn
  when (c.send.dynamicBuffers = true ∧ c.recv.bufferIn.isConsumed = true) do
    onPart bufferInPart (free ⟨c.env.malloc, !c.env.fault .free⟩)
    onPart bufferInPart (growableAlloc c.env.malloc 0)

def recv (size : ℤ) : EndM K (List UInt8) := do
  ensure ((← get).recvInUse = false) .reentrancy
  modify fun e => { e with recvInUse := true }
  let result ← attempt (onEndIo (recvImpl size))
  onEndConn (recordSentBytes (result.map List.length))
  onEndIo (onLink dynamicFreeInBuffer)
  modify fun e => { e with recvInUse := false }
  MonadExcept.ofExcept result

section Handshake

variable (hs : Handlers K) (fuel : ℕ)

/-- **`s2n_negotiate`**, for as many rounds as `fuel` says. -/
def negotiate : EndM K Unit := do
  ensure ((← get).negotiateInUse = false) .reentrancy
  modify fun e => { e with negotiateInUse := true }
  let result ← attempt (onEndIo (negotiateImpl hs fuel))
  onEndIo (onLink dynamicFreeInBuffer)
  onEndConn dynamicFreeOutBuffer
  modify fun e => { e with negotiateInUse := false }
  MonadExcept.ofExcept result

end Handshake

/-! ### The record of the calls -/

def begins (call : GuardedCall) : EndM K Unit := modify fun e =>
  { e with begun := e.begun ++ [⟨call, e.io, e.guards⟩] }

/-- The connection `c` after a call of `s2n_send`, which is recorded. -/
def Endpoint.ends (e : Endpoint K) (iov : List Iovec) (offs : ℤ) (c : Conn K) : Endpoint K :=
  { e with io := e.io.setConn c, sent := e.sent ++ [⟨e.conn, iov, offs, c.appBytes - e.conn.appBytes⟩] }

/-- A call of `s2n_sendv_with_offset`; those of `s2n_send` and `s2n_sendv` are special cases. -/
def sendCall (iov : List Iovec) (offs : ℤ) : EndM K ℕ := do
  begins (.send iov offs)
  zoom Endpoint.conn (fun c e => e.ends iov offs c) (sendvWithOffset iov offs)

def recvCall (size : ℤ) : EndM K (List UInt8) := do
  begins (.recv size)
  recv size

section EarlyData

variable (hs : Handlers K) (fuel : ℕ)

def negotiateCall : EndM K Unit := do
  begins (.negotiate fuel)
  negotiate hs fuel

/-! ### Early data -/

def canContinue : ConnM K Bool := do
  match ← attempt remainingEarlyDataSize with
  | .ok n => return 0 < n
  | .error _ => return false

/-- `s2n_connection_set_early_data_expected` and `s2n_connection_set_end_of_early_data`. -/
def setEarlyDataExpected (expected : Bool) : ConnM K Unit :=
  modify fun c => { c with earlyData := { c.earlyData with expected := expected } }

/-- The result of `s2n_negotiate` is passed on if it keeps the application from sending early data. -/
def earlyNegotiated (blocked : Blocked) : Except Err Unit → Except Err Unit
  | .ok () => .ok ()
  | .error e => if e.type = .blocked ∧ (blocked = .onEarlyData ∨ blocked = .onRead) then .ok () else .error e

def sendEarlyDataImpl (data : ℕ → UInt8) (dataLen : ℤ) : EndM K Unit := do
  ensure (0 ≤ dataLen) .safety
  onEndIo (setBlocked .notBlocked)
  modify fun e => { e with dataSent := 0 }
  ensure ((← get).conn.mode = .client) .serverMode
  ensure ((← get).supportsTls13 = true) .protocolVersionUnsupported
  if (← onEndConn canContinue) = false then return
  else
    let result ← attempt (negotiateCall hs fuel)
    let blocked := (← get).io.blocked
    MonadExcept.ofExcept (earlyNegotiated blocked result)
    let toSend := min dataLen.toNat (← onEndConn remainingEarlyDataSize)
    when (toSend ≠ 0) do
      let sent ← sendCall [⟨data, toSend, false⟩] 0
      modify fun e => { e with dataSent := sent }
    onEndIo (setBlocked .notBlocked)
    match result with
    | .ok () => return
    | .error e =>
      if blocked = .onEarlyData then return
      else if (← onEndConn canContinue) = true then
        onEndIo (setBlocked blocked)
        throw e
      else return

def sendEarlyData (data : ℕ → UInt8) (dataLen : ℤ) : EndM K Unit := do
  onEndConn (setEarlyDataExpected true)
  let result ← attempt (sendEarlyDataImpl hs fuel data dataLen)
  onEndConn (setEarlyDataExpected false)
  MonadExcept.ofExcept result

/-- The loop of `s2n_recv_early_data_impl`, for as many rounds as the number says. -/
def recvEarlyDataLoop (maxDataLen : ℤ) : ℕ → EndM K Unit
  | 0 => throw .ioBlocked
  | rounds + 1 => do
    match ← attempt (negotiateCall hs fuel) with
    | .ok () => return
    | .error e =>
      let received := (← get).dataReceived
      if e.type ≠ .blocked ∨ maxDataLen ≤ received.length then throw e
      else if (← get).io.blocked ≠ .onEarlyData then
        if (← onEndConn canContinue) = true then throw e
        else onEndIo (setBlocked .notBlocked)
      else
        let bs ← recvCall (maxDataLen - received.length)
        modify fun e => { e with dataReceived := e.dataReceived ++ bs }
        recvEarlyDataLoop maxDataLen rounds

def recvEarlyDataImpl (rounds : ℕ) (maxDataLen : ℤ) : EndM K Unit := do
  onEndIo (setBlocked .notBlocked)
  modify fun e => { e with dataReceived := [] }
  ensure ((← get).conn.mode = .server) .clientMode
  if (← onEndConn canContinue) = false then return
  else recvEarlyDataLoop hs fuel maxDataLen rounds

def recvEarlyData (rounds : ℕ) (maxDataLen : ℤ) : EndM K Unit := do
  onEndConn (setEarlyDataExpected true)
  let result ← attempt (recvEarlyDataImpl hs fuel rounds maxDataLen)
  onEndConn (setEarlyDataExpected false)
  MonadExcept.ofExcept result

end EarlyData

/-! ### Runs -/

/-- What happens to a connection: a call of the application, or something else that changes the connection or what it
meets outside. -/
inductive ApiCall (K : Type)
  | other (change : Io K → Io K)
  | send (iov : List Iovec) (offs : ℤ)
  | recv (size : ℤ)
  | negotiate (fuel : ℕ)
  | sendEarlyData (fuel : ℕ) (data : ℕ → UInt8) (dataLen : ℤ)
  | recvEarlyData (fuel rounds : ℕ) (maxDataLen : ℤ)

def ApiCall.run (hs : Handlers K) : ApiCall K → EndM K Unit
  | .other change => onEndIo (modify change)
  | .send iov offs => discard (sendCall iov offs)
  | .recv size => discard (recvCall size)
  | .negotiate fuel => negotiateCall hs fuel
  | .sendEarlyData fuel data dataLen => S2nTls.sendEarlyData hs fuel data dataLen
  | .recvEarlyData fuel rounds maxDataLen => S2nTls.recvEarlyData hs fuel rounds maxDataLen

/-- The connection after a run, with the record of the calls of that run. -/
def Endpoint.after (hs : Handlers K) (calls : List (ApiCall K)) (e : Endpoint K) : Endpoint K :=
  (runCalls (ApiCall.run hs) calls { e with begun := [], sent := [] }).2

/-- What is not one of the calls keeps the view. -/
def ApiCall.Quiet {ω : Type} (view : Io K → ω) : ApiCall K → Prop
  | .other change => ∀ s, view (change s) = view s
  | _ => True

end S2nTls
