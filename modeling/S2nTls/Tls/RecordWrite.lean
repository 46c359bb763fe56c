import S2nTls.Tls.Connection

/-!
Writing records (`tls/s2n_record_write.c`, `tls/s2n_aead.c`).

`recordWritev` is cut at the comments of the source into the pieces that lay out the record,
write it in the clear into the free space of `conn->out`, and encrypt it there.
-/

namespace S2nTls

open Lib Stuffer

variable {K : Type}

/-! ### Sizes -/

def recordHeaderLength : ℕ := 5

def maximumFragmentLength : ℕ := 2 ^ 14

/-- `S2N_TLS12_MAX_RECORD_LEN_FOR`, which is also `S2N_TLS_MAX_RECORD_LEN_FOR`. -/
def tls12MaxRecordLenFor (frag : ℕ) : ℕ := frag + 1024 + recordHeaderLength

def tls13MaxRecordLenFor (frag : ℕ) : ℕ := frag + 1 + 255 + recordHeaderLength

def Conn.isNegotiated (c : Conn K) : Bool := c.handshake.handshakeType.testBit 0

/-- The parameters that protect what the connection writes. -/
def Conn.writeRef (c : Conn K) : ParamsRef := c.crypto.ref c.mode
def Conn.writeSuite (c : Conn K) : CipherSuite K := c.crypto.suite c.writeRef
def Conn.writeSide (c : Conn K) : CryptoSide K := c.crypto.side c.writeRef c.mode

/-- The set that `s2n_record_writev` writes a record of the given type with. -/
def Conn.writeTarget (c : Conn K) (contentType : ContentType) : ParamsRef :=
  if c.actualProtocolVersion = tls13 ∧ contentType = tlsChangeCipherSpec then .initial else c.writeRef

def tlsRecordOverhead (c : Conn K) : ℕ :=
  let alg := c.writeSuite.recordAlg
  let extra := alg.hmacAlg.digestSize
  match alg.cipher.io with
  | .cbc x => extra + 1 + if c.actualProtocolVersion > tls10 then x.recordIvSize else 0
  | .aead x => extra + x.tagSize + x.recordIvSize
  | .composite x => if c.actualProtocolVersion > tls10 then extra + x.recordIvSize else extra
  | _ => extra

def recordMaxWriteSize (c : Conn K) (maxFragmentSize : ℕ) : ℕ :=
  if !c.isNegotiated then tls12MaxRecordLenFor maxFragmentSize
  else if c.actualProtocolVersion < tls13 then tls12MaxRecordLenFor maxFragmentSize
  else tls13MaxRecordLenFor maxFragmentSize

def recordMaxWritePayloadSize : ConnM K ℕ := do
  let c ← get
  ensure (c.send.maxOutgoingFragmentLength > 0) .fragmentLengthTooSmall
  let maxFragmentSize := min c.send.maxOutgoingFragmentLength maximumFragmentLength
  let override := c.config.sendBufferSizeOverride
  let maxRecordSize := recordMaxWriteSize c maxFragmentSize
  if override ≠ 0 ∧ override < maxRecordSize then
    let overhead := maxRecordSize - maxFragmentSize
    ensure (override > overhead) .safety
    return override - overhead
  else return maxFragmentSize

/-- `s2n_record_write_protocol_version`: the version that goes into the header. -/
def recordProtocolVersion (c : Conn K) (recordType : ContentType) : ℕ :=
  let v := c.actualProtocolVersion
  let v := if c.serverProtocolVersion = versionUnknown ∧ recordType = tlsHandshake then min v tls10
    else v
  let v := min v tls12
  if v = versionUnknown then tls10 else v

def versionBytes (v : ℕ) : List UInt8 := [UInt8.ofNat (v / 10), UInt8.ofNat (v % 10)]

/-- `RECORD_TYPE`: in TLS1.3 an encrypted record says that it is application data. -/
def recordType (isTls13Record : Bool) (contentType : ContentType) : ContentType :=
  if isTls13Record then tlsApplicationData else contentType

/-! ### Nonces and additional data -/

/-- The nonce of an AEAD cipher. `explicit` is the part of a partially explicit nonce that is
sent with the record. -/
def aeadNonce (flags : NonceFlag) (fixedIvSize : ℕ) (implicitIv : ℕ → UInt8)
    (sequenceNumber explicit : List UInt8) : Except Err (List UInt8) :=
  match flags with
  | .tls12AesGcm => .ok (slice implicitIv 0 fixedIvSize ++ explicit)
  | .tls12ChachaPoly | .tls13 =>
    .ok (([0, 0, 0, 0] ++ sequenceNumber).mapIdx fun i b =>
      if i < fixedIvSize then b ^^^ implicitIv i else b)
  | .none => .error .invalidNonceType

/-- `s2n_aead_aad_init`. -/
def aeadAad (version : ℕ) (sequenceNumber : List UInt8) (contentType : ContentType)
    (recordLength : ℕ) : List UInt8 :=
  sequenceNumber ++ [contentType] ++ versionBytes version ++ beBytes 2 recordLength

/-- `s2n_tls13_aead_aad_init`. -/
def tls13AeadAad (recordLength tagLength : ℕ) : Except Err (List UInt8) :=
  if tagLength = 0 then .error .safety
  else if 2 ^ 14 + 256 < recordLength + tagLength then .error .recordLimit
  else .ok ([tlsApplicationData, 3, 3] ++ beBytes 2 (recordLength + tagLength))

/-! ### The MAC -/

/-- Record that the key of `r` was used with a sequence number. -/
def traceUse (r : ParamsRef) (seq : ℕ) : ConnM K Unit := modify fun c =>
  { c with trace := { c.trace with
    sequenceUses := c.trace.sequenceUses ++
      [⟨r, c.mode, (c.crypto.side r c.mode).generation, seq⟩] } }

/-- `s2n_record_write_mac`: the MAC of the record goes to the end of the record stuffer `rs`. -/
def recordWriteMac (r : ParamsRef) (header plaintext : List UInt8) (rs : Stuffer) :
    ConnM K (ℕ × Stuffer) := do
  let c ← get
  let seq := (c.crypto.side r c.mode).sequenceNumber
  let fault := c.env.fault
  if (c.crypto.suite r).recordAlg.hmacAlg = .none then
    return (0, rs)
  else
    onMac r c.mode (HmacState.update fault seq.bytes)
    onMac r c.mode (HmacState.update fault (header.take 1))
    when (c.actualProtocolVersion > sslv3) do
      onMac r c.mode (HmacState.update fault ((header.drop 1).take 2))
    onMac r c.mode (HmacState.update fault (beBytes 2 plaintext.length))
    onMac r c.mode (HmacState.update fault plaintext)
    let macDigestSize := (c.crypto.side r c.mode).recordMac.alg.digestSize
    match ← onLocal (rawWrite c.env.malloc macDigestSize) rs with
    | (none, _) => throw .null
    | (some ptr, rs) =>
      let digest ← onMac r c.mode (HmacState.digest fault)
      traceUse r seq.value
      let rs ← execLocal (poke ptr digest) rs
      onMac r c.mode (HmacState.reset fault)
      return (macDigestSize, rs)

/-! ### Encryption -/

/-- The call of a cipher through its pointer: it may fail, and it may change the session key. -/
def callCipher {α : Type} (r : ParamsRef) (m : Mode) (f : Fault) (e : Err)
    (call : K → Option (K × α)) : ConnM K α := do
  let c ← get
  ensure (c.env.fault f = false) e
  match call (c.crypto.side r m).key with
  | none => throw e
  | some (k, a) =>
    onSide r m (modify fun d => { d with key := k })
    return a

/-- Replace the first bytes of the implicit IV. -/
def setImplicitIv (r : ParamsRef) (m : Mode) (bs : List UInt8) : ConnM K Unit :=
  onSide r m (modify fun d => { d with implicitIv := overwrite d.implicitIv 0 bs })

/-- `s2n_record_encrypt`: the bytes that replace `en`. The cipher of a record that the sequence
number `seq` authenticates leaves a trace. -/
def recordEncrypt (r : ParamsRef) (seq : ℕ) (iv aad en : List UInt8) : ConnM K (List UInt8) := do
  let c ← get
  match (c.crypto.suite r).recordAlg.cipher.io with
  | .null => return en
  | .stream x => callCipher r c.mode .encrypt .encrypt (x.encrypt · en)
  | .cbc x =>
    let en' ← callCipher r c.mode .encrypt .encrypt (x.encrypt · iv en)
    when (c.actualProtocolVersion < tls11) do
      ensure (x.blockSize ≤ en.length) .safety
      setImplicitIv r c.mode (en'.drop (en.length - x.blockSize))
    return en'
  | .aead x =>
    traceUse r seq
    callCipher r c.mode .encrypt .encrypt (x.encrypt · iv aad (en.take (en.length - x.tagSize)))
  | .composite x =>
    traceUse r seq
    let en' ← callCipher r c.mode .encrypt .encrypt (x.encrypt · iv en)
    ensure (x.blockSize ≤ en.length) .safety
    setImplicitIv r c.mode (en'.drop (en.length - x.blockSize))
    return en'

/-! ### The pieces of `s2n_record_writev` -/

/-- In TLS1.3 change cipher spec records are written with the initial parameters. -/
def recordSwitchToInitial (contentType : ContentType) : ConnM K Unit := do
  let c ← get
  when (c.actualProtocolVersion = tls13 ∧ contentType = tlsChangeCipherSpec) do
    ensure (c.crypto.initialFreed = false) .null
    modify fun c => { c with crypto := { c.crypto with client := .initial, server := .initial } }

/-- What has to hold before a record is written. -/
def recordCheckWrite (contentType : ContentType) : ConnM K Unit := do
  let c ← get
  when (c.writeSuite.recordAlg.cipher.io.isNull = true) do
    ensure (contentType ≠ tlsApplicationData) .encrypt
  when (c.send.multirecordSend = false) do
    ensure (c.send.out.dataAvailable = 0) .recordStufferNeedsDraining

/-- The padding of a CBC record with `n` bytes besides the padding itself. -/
def CipherIo.padding (x : CipherIo K) (n : ℕ) : ℕ :=
  match x with
  | .cbc x => if n % x.blockSize ≠ 0 then x.blockSize - n % x.blockSize else 0
  | _ => 0

/-- Allocate the output buffer if it has not been allocated yet. -/
def recordAllocOut (maxWritePayloadSize : ℕ) : ConnM K Unit := do
  let c ← get
  when (c.send.out.isFreed = true) do
    let size := max c.config.sendBufferSizeOverride (recordMaxWriteSize c maxWritePayloadSize)
    if h : size < 2 ^ 32 then onOut (growableAlloc c.env.malloc (.ofNatLT size h)) else throw .safety

/-- The local stuffer over the free space of the output buffer. -/
def recordStuffer (out : Stuffer) : Stuffer := Stuffer.init
  { data := fun i => out.blob.data (out.writeCursor + i)
    size := out.spaceRemaining
    isNull := out.blob.isNull
    null_size := fun h => by have := out.blob.null_size h; unfold spaceRemaining; omega
    size_lt := by have := out.blob.size_lt; unfold spaceRemaining; omega }

/-- Composite ciphers start their MAC here. The result is the number of bytes that MAC and
padding will take. -/
def recordInitialHmac (r : ParamsRef) (contentType : ContentType) (dataBytes : ℕ) : ConnM K ℕ := do
  let c ← get
  let side := c.crypto.side r c.mode
  match (c.crypto.suite r).recordAlg.cipher.io with
  | .composite x =>
    let payloadAndEivLen := dataBytes + if c.actualProtocolVersion > tls10 then x.blockSize else 0
    callCipher r c.mode .initialHmac .initialHmac
      (x.initialHmac · side.sequenceNumber.bytes contentType.toNat c.actualProtocolVersion
        payloadAndEivLen)
  | _ => return 0

/-- The nonce and the additional data of an AEAD record, the IV of a CBC record, and what of them
is sent in front of the payload. -/
def recordWriteIv (r : ParamsRef) (contentType : ContentType) (dataBytes : ℕ) (rs : Stuffer) :
    ConnM K (List UInt8 × List UInt8 × Stuffer) := do
  let c ← get
  let alg := (c.crypto.suite r).recordAlg
  let side := c.crypto.side r c.mode
  let seq := side.sequenceNumber.bytes
  match alg.cipher.io with
  | .aead x =>
    let rs ← execLocal (when (alg.flags = .tls12AesGcm) (writeBytes c.env.malloc seq)) rs
    let iv ← MonadExcept.ofExcept (aeadNonce alg.flags x.fixedIvSize side.implicitIv seq seq)
    let aad ← MonadExcept.ofExcept (if alg.isTls13Record then tls13AeadAad (dataBytes + 1) x.tagSize
      else .ok (aeadAad c.actualProtocolVersion seq contentType dataBytes))
    return (iv, aad, rs)
  | .cbc x =>
    if c.actualProtocolVersion > tls10 then
      let iv ← getPublicRandomData x.blockSize
      setImplicitIv r c.mode iv
      let rs ← execLocal (writeBytes c.env.malloc iv) rs
      return (iv, [], rs)
    else return (slice side.implicitIv 0 x.blockSize, [], rs)
  | .composite x =>
    if c.actualProtocolVersion > tls10 then
      let iv ← getPublicRandomData x.blockSize
      setImplicitIv r c.mode iv
      let placeholder ← getPublicRandomData x.blockSize
      let rs ← execLocal (writeBytes c.env.malloc placeholder) rs
      return (iv, [], rs)
    else return (slice side.implicitIv 0 x.blockSize, [], rs)
  | _ => return ([], [], rs)

/-- The number of entries that `s2n_stuffer_writev_bytes` visits: the count goes through an
`int`; a negative one makes the loop run to the end of the data. -/
def iovCount (n : ℕ) : ℕ := if n % 2 ^ 32 < 2 ^ 31 then n % 2 ^ 32 else n

/-- The bytes after the payload and the MAC: the content type of a TLS1.3 record, the padding of
a CBC record. -/
def recordWriteTrailer (r : ParamsRef) (contentType : ContentType) (padding : ℕ) (rs : Stuffer) :
    ConnM K Stuffer := do
  let c ← get
  let alg := (c.crypto.suite r).recordAlg
  let rs ← execLocal (when (alg.isTls13Record = true) (writeBytes c.env.malloc [contentType])) rs
  match alg.cipher.io with
  | .cbc _ =>
    execLocal (writeBytes c.env.malloc (List.replicate (padding + 1) (UInt8.ofNat padding))) rs
  | _ => return rs

/-- What stands between the header and the encrypted part, and the length of that part. -/
def recordEncryptedPart (c : Conn K) (alg : RecordAlg K) (dataBytes macDigestSize padding extra : ℕ) :
    ℕ × ℕ :=
  let n := dataBytes + macDigestSize
  match alg.cipher.io with
  | .aead x => (x.recordIvSize, n + x.tagSize + if alg.isTls13Record then 1 else 0)
  | .cbc x => (if c.actualProtocolVersion > tls10 then x.blockSize else 0, n + padding + 1)
  | .composite _ => (0, n + extra)
  | _ => (0, n)

/-- Rewind to the start of the record and encrypt it in place. -/
def recordEncryptInPlace (r : ParamsRef) (seq : ℕ) (iv aad : List UInt8) (skip encryptedLength : ℕ)
    (rs : Stuffer) : ConnM K Stuffer := do
  let c ← get
  let rs ← execLocal rewrite rs
  let rs ← execLocal (skipWrite c.env.malloc recordHeaderLength) rs
  let rs ← execLocal (skipWrite c.env.malloc skip) rs
  ensure (encryptedLength ≤ rs.spaceRemaining) .recordStufferSize
  match ← onLocal (rawWrite c.env.malloc encryptedLength) rs with
  | (none, _) => throw .null
  | (some ptr, rs) =>
    let en ← recordEncrypt r seq iv aad (slice rs.blob.data ptr encryptedLength)
    execLocal (poke ptr en) rs

/-- Give the finished record to the reader of the output buffer. -/
def recordSyncOut (contentType : ContentType) (plaintext : List UInt8) (rs : Stuffer) :
    ConnM K Unit := do
  let c ← get
  onOut do
    poke c.send.out.writeCursor rs.unread
    skipWrite c.env.malloc rs.dataAvailable
  modify fun c => { c with trace := { c.trace with
    records := c.trace.records ++ [⟨contentType, plaintext, rs.unread⟩] } }

/-- What is done to a record whose header, IV and payload have been written to `rs`: the MAC, the
next sequence number, the trailer, and the encryption. The result is the payload as it stands in
the record, and the stuffer with the record. -/
def recordProtect (r : ParamsRef) (contentType : ContentType) (iv aad : List UInt8)
    (dataBytes padding extra : ℕ) (rs : Stuffer) : ConnM K (List UInt8 × Stuffer) := do
  let c ← get
  let seq := (c.crypto.side r c.mode).sequenceNumber.value
  let plaintext := slice rs.blob.data (rs.writeCursor - dataBytes) dataBytes
  let (macDigestSize, rs) ← recordWriteMac r (slice rs.blob.data 0 recordHeaderLength) plaintext rs
  onSequence r c.mode SequenceNumber.increment
  let rs ← recordWriteTrailer r contentType padding rs
  let (skip, encryptedLength) :=
    recordEncryptedPart c (c.crypto.suite r).recordAlg dataBytes macDigestSize padding extra
  let rs ← recordEncryptInPlace r seq iv aad skip encryptedLength rs
  return (plaintext, rs)

/-- `POSIX_ENSURE_REF` -/
def ensureRef {α : Type} : Option α → Except Err α
  | none => .error .null
  | some a => .ok a

/-- Lay out the record in the stuffer `rs`, and encrypt it there. The array of the entries may be `NULL`. -/
def recordBuild (contentType : ContentType) (iov : Option (List Iovec)) (offs dataBytes : ℕ) (rs : Stuffer) :
    ConnM K (List UInt8 × Stuffer) := do
  let c ← get
  let r := c.writeRef
  let alg := c.writeSuite.recordAlg
  let extra := tlsRecordOverhead c
  let padding := alg.cipher.io.padding (dataBytes + extra)
  let rt := recordType alg.isTls13Record contentType
  let rs ← execLocal (writeBytes c.env.malloc [rt]) rs
  let rs ← execLocal (writeBytes c.env.malloc (versionBytes (recordProtocolVersion c rt))) rs
  let padAndMacLen ← recordInitialHmac r contentType dataBytes
  let extra := (extra + padAndMacLen + if alg.isTls13Record then 1 else 0) % 2 ^ 16
  let actualFragmentLength := (dataBytes + padding + extra) % 2 ^ 16
  ensure (actualFragmentLength + recordHeaderLength ≤
    if alg.isTls13Record then tls13MaxRecordLenFor maximumFragmentLength
    else tls12MaxRecordLenFor maximumFragmentLength) .recordLengthTooLarge
  let rs ← execLocal (writeUint c.env.malloc 2 actualFragmentLength) rs
  let (iv, aad, rs) ← recordWriteIv r contentType dataBytes rs
  let iov ← MonadExcept.ofExcept (ensureRef iov)
  let rs ← execLocal (writevBytes c.env.malloc (iov.take (iovCount iov.length)) offs dataBytes) rs
  recordProtect r contentType iv aad dataBytes padding extra rs

/-- `s2n_record_writev` without kTLS: one record with as much of the data as fits is added to `conn->out`; the result is
how much that is. -/
def recordWritevOut (contentType : ContentType) (iov : Option (List Iovec)) (offs toWrite : ℕ) : ConnM K ℕ := do
  let saved := (← get).crypto
  recordSwitchToInitial contentType
  recordCheckWrite contentType
  let maxWritePayloadSize ← recordMaxWritePayloadSize
  let dataBytes := min toWrite maxWritePayloadSize
  recordAllocOut maxWritePayloadSize
  let c ← get
  let (plaintext, rs) ← recordBuild contentType iov offs dataBytes (recordStuffer c.send.out)
  recordSyncOut contentType plaintext rs
  when (c.actualProtocolVersion = tls13 ∧ contentType = tlsChangeCipherSpec) do
    modify fun c => { c with crypto :=
      { c.crypto with client := saved.client, server := saved.server } }
  return dataBytes

/-- `s2n_ktls_record_writev`: the kernel makes the record. -/
def ktlsRecordWritev (contentType : ContentType) (iov : Option (List Iovec)) (offs toWrite : ℕ) : ConnM K ℕ := do
  let malloc := (← get).env.malloc
  let iov ← MonadExcept.ofExcept (ensureRef iov)
  ensure (0 < iov.length % 2 ^ 32 ∧ iov.length % 2 ^ 32 < 2 ^ 31) .invalidArgument
  ensure (contentType = tlsAlert) .unimplemented
  onOut do
    resizeIfEmpty malloc (.ofNat toWrite)
    writevBytes malloc (iov.take (iovCount iov.length)) offs (toWrite % 2 ^ 32)
  return toWrite

/-- **`s2n_record_writev`.** -/
def recordWritev (contentType : ContentType) (iov : Option (List Iovec)) (offs toWrite : ℕ) : ConnM K ℕ := do
  if (← get).send.ktlsSendEnabled = true then ktlsRecordWritev contentType iov offs toWrite
  else recordWritevOut contentType iov offs toWrite

def recordWrite (contentType : ContentType) (bs : List UInt8) : ConnM K Unit := do
  let written ← recordWritev contentType (some [⟨fun i => bs.getD i 0, bs.length, false⟩]) 0 bs.length
  ensure (written = bs.length) .fragmentLengthTooLarge

end S2nTls
