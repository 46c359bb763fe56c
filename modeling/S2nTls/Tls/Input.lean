import S2nTls.Tls.PostHandshake
import S2nTls.Tls.RecordRead

/-!
Reading from the transport (`s2n_connection_recv_stuffer`, and `s2n_read_in_bytes`, `s2n_recv_buffer_in` and
`s2n_recv_in_init` of `tls/s2n_recv.c`).

Bytes that arrive are written to a stuffer of the connection. `conn->in` has no memory of its own: it is made to
point to the part of the memory of `conn->buffer_in` that holds the fragment of the record, or the message, that is
read.
-/

namespace S2nTls

open Lib Stuffer

variable {K : Type} {α : Type}

/-- What the transport does when it is asked for bytes: it has some, of which it hands over as many as were asked
for, would block, fails, or has been closed by the peer. -/
inductive RecvResult
  | received (first : UInt8) (rest : List UInt8)
  | blocked
  | failed
  | closed
  deriving DecidableEq, Repr

/-- The bytes that a result brings. -/
def RecvResult.bytes : RecvResult → List UInt8
  | .received b bs => b :: bs
  | _ => []

/-- The part of the memory of `conn->buffer_in` that `conn->in` points to, and which memory that was. -/
structure Window where
  memory : ℕ
  offset : ℕ
  size : ℕ
  deriving DecidableEq, Repr

/-- What happens to the memory of `conn->buffer_in`: it is freed or allocated again, or its bytes are moved. -/
inductive Move
  | reallocated | shifted
  deriving DecidableEq, Repr

/-- A connection and what its transport answers to the next calls; it would block after the last. The rest is not
in the source: how often the memory of `conn->buffer_in` has been exchanged, where `conn->in` points, and what
happened to the memory while `conn->in` pointed to some of it. -/
structure Link (K : Type) where
  conn : Conn K
  input : List RecvResult := []
  /-- The types of the records that the kernel hands over with kTLS, as far as it tells them. -/
  recordTypes : List (Option ContentType) := []
  memory : ℕ := 0
  window : Option Window := none
  moves : List Move := []

abbrev LinkM (K : Type) := EStateM Err (Link K)

def onLinkConn (f : ConnM K α) : LinkM K α := zoom Link.conn (fun c l => { l with conn := c }) f

/-- `conn->in` points to some memory. -/
def Link.aliases (l : Link K) : Bool := l.window.any fun w => w.size != 0

/-- Whether two blobs are the same memory, one of them being what a stuffer operation made of the other: memory
that is exchanged has another size, and `NULL` is none. -/
def Blob.sameMemory (b b' : Blob) : Bool := b.isNull == b'.isNull && b.size == b'.size

/-- A stuffer of the connection that bytes are read into, and whether it is the one whose memory `conn->in` points
to. -/
structure Part (K : Type) where
  get : Conn K → Stuffer
  put : Stuffer → Conn K → Conn K
  isBufferIn : Bool

def bufferInPart : Part K where
  get c := c.recv.bufferIn
  put t c := { c with recv := { c.recv with bufferIn := t } }
  isBufferIn := true

/-- `conn->handshake.io` -/
def ioPart : Part K where
  get c := c.handshake.io
  put t c := { c with handshake := { c.handshake with io := t } }
  isBufferIn := false

def Part.set (p : Part K) (t : Stuffer) (l : Link K) : Link K :=
  let exchanged := p.isBufferIn && !(p.get l.conn).blob.sameMemory t.blob
  { l with
    conn := p.put t l.conn
    memory := if exchanged then l.memory + 1 else l.memory
    moves := if exchanged && l.aliases then .reallocated :: l.moves else l.moves }

def onPart (p : Part K) (f : StufferM α) : LinkM K α := zoom (fun l => p.get l.conn) p.set f

/-- What is left of a result of which some bytes were taken. -/
def leftover (bs : List UInt8) (rest : List RecvResult) : List RecvResult :=
  match bs with
  | [] => rest
  | b :: bs => .received b bs :: rest

/-- `s2n_connection_recv_stuffer`, and `s2n_io_check_read_result` of what it returns: if there is no room in the
stuffer then the transport was not asked and `errno` is 0. -/
def recvStuffer (p : Part K) (len : ℕ) : LinkM K Unit := do
  let l ← get
  let malloc := l.conn.env.malloc
  match ← attempt (onPart p (reserveSpace malloc len)) with
  | .error _ => throw .io
  | .ok () =>
    match l.input with
    | [] => throw .ioBlocked
    | .blocked :: rest => do
      modify fun l => { l with input := rest }
      throw .ioBlocked
    | .failed :: rest => do
      modify fun l => { l with input := rest }
      throw .io
    | .closed :: _ => do
      modify fun l => { l with conn := { l.conn with readClosed := true } }
      throw .closed
    | .received b bs :: rest => do
      modify fun l => { l with input := leftover ((b :: bs).drop len) rest }
      onPart p (do
        poke (← get).writeCursor ((b :: bs).take len)
        skipWrite malloc ((b :: bs).take len).length)

/-- The loop of `s2n_read_in_bytes`; each round brings a byte at least, so `fuel` need not exceed the number of
bytes that are missing. -/
def readInBytesLoop (p : Part K) (length : ℕ) : ℕ → LinkM K Unit
  | 0 => return
  | fuel + 1 => do
    let l ← get
    let output := p.get l.conn
    if output.dataAvailable < length then
      let remaining := length - output.dataAvailable
      recvStuffer p (if l.conn.recv.recvBuffering then max remaining output.spaceRemaining else remaining)
      readInBytesLoop p length fuel
    else return

def readInBytes (p : Part K) (length : ℕ) : LinkM K Unit := readInBytesLoop p length length

/-- The memory of something that is not `NULL` may have any size. -/
lemma size_of_notNull (size : ℕ) (h : false = true) : size = 0 := Bool.noConfusion h

/-- The memory of a stuffer from an offset on, as a blob. -/
def Stuffer.blobAt (t : Stuffer) (offset size : ℕ) (h : size < 2 ^ 32) : Blob :=
  ⟨fun i => t.blob.data (offset + i), size, false, size_of_notNull size, h⟩

/-- `s2n_recv_in_init`: `conn->in` is made to point to the next `total` bytes of the memory of `conn->buffer_in`, of
which `written` have arrived. -/
def recvInInit (written total : ℕ) (h : total < 2 ^ 32) : LinkM K Unit := do
  ensure (written ≤ total) .safety
  ensure (total - written ≤ (← get).conn.recv.bufferIn.spaceRemaining) .safety
  match ← onPart bufferInPart (rawRead written) with
  | none => throw .null
  | some offset => do
    modify fun l => { l with
      conn := { l.conn with recv := { l.conn.recv with
        inStuffer := Stuffer.init (l.conn.recv.bufferIn.blobAt offset total h) } }
      window := some { memory := l.memory, offset := offset, size := total } }
    onLinkConn (onIn (skipWrite (← get).conn.env.malloc written))

end S2nTls
