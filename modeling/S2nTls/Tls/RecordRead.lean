import S2nTls.Tls.RecordWrite

/-!
Reading records (`tls/s2n_record_read.c`, the `s2n_record_read_*.c` files for the kinds of ciphers,
`tls/s2n_cbc.c`).

`conn->header_in` holds the header of a record and `conn->in` its fragment. The functions below
decrypt the fragment in place, check it, and leave `conn->in` with the payload.
-/

namespace S2nTls

open Lib Stuffer

variable {K : Type}

/-! ### The header -/

/-- `s2n_record_header_parse`: the content type and the length of the fragment. -/
def recordHeaderParse : ConnM K (ContentType × ℕ) := do
  let c ← get
  ensure (recordHeaderLength ≤ c.recv.headerIn.dataAvailable) .badMessage
  let contentType ← onHeaderIn (readBytes 1)
  let protocolVersion ← onHeaderIn (readBytes 2)
  let version := ((protocolVersion.getD 0 0).toNat * 10 + (protocolVersion.getD 1 0).toNat) % 2 ^ 8
  modify fun c => if c.recv.recordVersionRecorded then c else
    { c with recv := { c.recv with recordVersionRecorded := true, legacyRecordVersion := version } }
  ensure (c.actualProtocolVersionEstablished = true → min c.actualProtocolVersion tls12 = version)
    .badMessage
  let fragmentLength ← onHeaderIn (readUint 2)
  onHeaderIn reread
  return (contentType.getD 0 0, fragmentLength)

def isTls13PlaintextContent (c : Conn K) (contentType : ContentType) : Bool :=
  c.actualProtocolVersion == tls13 &&
    (contentType == tlsAlert || contentType == tlsChangeCipherSpec)

/-- The parameters that a record with the given type in its header is read with. -/
def Conn.readTarget (c : Conn K) (contentType : ContentType) : ParamsRef :=
  if isTls13PlaintextContent c contentType then .initial else c.crypto.ref c.mode.peer

/-! ### Common pieces -/

/-- The difference of two numbers of 32 bits. -/
def sub32 (a b : ℕ) : ℕ := (2 ^ 32 + a - b) % 2 ^ 32

/-- Align the stuffers for reading the plaintext: pass over the IV and drop all after the payload. -/
def recordParseDone (skip payloadLength : ℕ) : ConnM K Unit := do
  onIn reread
  onHeaderIn reread
  onIn (skipRead skip)
  let available := (← get).recv.inStuffer.dataAvailable
  onIn (wipeN (sub32 available payloadLength))
  modify fun c => { c with recv := { c.recv with inStatus := .plaintext } }

/-- Start the MAC of a record: the length in the header is replaced by that of the payload. -/
def recordParseMac (r : ParamsRef) (m : Mode) (headerPtr payloadLength : ℕ) : ConnM K Unit := do
  let c ← get
  let fault := c.env.fault
  onHeaderIn (poke (headerPtr + 3) (beBytes 2 payloadLength))
  let header := slice (← get).recv.headerIn.blob.data headerPtr recordHeaderLength
  onMac r m (HmacState.reset fault)
  onMac r m (HmacState.update fault (c.crypto.side r m).sequenceNumber.bytes)
  if c.actualProtocolVersion = sslv3 then
    onMac r m (HmacState.update fault (header.take 1))
    onMac r m (HmacState.update fault (header.drop 3))
  else onMac r m (HmacState.update fault header)

/-- `s2n_stuffer_raw_read` of the header or of the fragment, which must not return `NULL`; `e` is
the error otherwise. -/
def rawReadRef (e : Err) (n : ℕ) : StufferM ℕ := do
  match ← rawRead n with
  | none => throw e
  | some ptr => return ptr

/-! ### Stream ciphers -/

/-- `decrypt` of a stream cipher; that of the null cipher copies. -/
def streamDecrypt (r : ParamsRef) (m : Mode) (en : List UInt8) : ConnM K (List UInt8) := do
  match ((← get).crypto.suite r).recordAlg.cipher.io with
  | .stream x => callCipher r m .decrypt .decrypt (x.decrypt · en)
  | _ => return en

def recordParseStream (r : ParamsRef) (m : Mode) (encryptedLength : ℕ) : ConnM K Unit := do
  let headerPtr ← onHeaderIn (rawReadRef .null recordHeaderLength)
  let enPtr ← onIn (rawReadRef .null encryptedLength)
  let c ← get
  let macDigestSize := (c.crypto.side r m).recordMac.alg.digestSize
  ensure (macDigestSize ≤ encryptedLength) .safety
  let payloadLength := encryptedLength - macDigestSize
  let en ← streamDecrypt r m (slice c.recv.inStuffer.blob.data enPtr encryptedLength)
  onIn (poke enPtr en)
  recordParseMac r m headerPtr payloadLength
  onSequence r m SequenceNumber.increment
  onMac r m (HmacState.update c.env.fault (en.take payloadLength))
  let checkDigest ← onMac r m (HmacState.digest c.env.fault)
  ensure (en.drop payloadLength = checkDigest) .badMessage
  recordParseDone 0 payloadLength

/-! ### CBC ciphers -/

/-- The loop of `s2n_verify_cbc` over the bytes that may be padding: the differences from the
padding length, of those from the `cutoff`-th on. -/
def paddingMismatches (bytes : List UInt8) (cutoff : ℕ) (paddingLength : UInt8) : UInt8 :=
  (bytes.zipIdx.foldl fun acc p =>
    acc ||| ((p.1 ^^^ paddingLength) &&& if cutoff ≤ p.2 then 0xff else 0)) 0

/-- `s2n_verify_cbc`, on the `size` bytes that `data` points to. -/
def verifyCbc (r : ParamsRef) (m : Mode) (data : ℕ → UInt8) (size : ℕ) : ConnM K Unit := do
  let c ← get
  let fault := c.env.fault
  let macDigestSize := (c.crypto.side r m).recordMac.alg.digestSize
  ensure (macDigestSize < size) .safety
  let payloadAndPaddingSize := size - macDigestSize
  let padding := data (size - 1)
  let payloadLength := payloadAndPaddingSize - padding.toNat - 1
  onMac r m (HmacState.update fault (slice data 0 payloadLength))
  let inBlock := ((← get).crypto.side r m).recordMac.currentlyInHashBlock
  let checkDigest ← onMac r m (HmacState.digestTwoCompressionRounds fault)
  -- a MAC of the rest, so that the number of hashed blocks does not depend on the padding
  onMac r m (HmacState.reset fault)
  onMac r m (HmacState.update fault (slice data 0 inBlock))
  onMac r m (HmacState.update fault (slice data (payloadLength + macDigestSize)
    (size - payloadLength - macDigestSize - 1)))
  if c.actualProtocolVersion = sslv3 then
    ensure (slice data payloadLength macDigestSize = checkDigest) .cbcVerify
  else
    let check := min 255 (payloadAndPaddingSize - 1)
    ensure (padding.toNat ≤ check) .safety
    ensure (slice data payloadLength macDigestSize = checkDigest ∧
      paddingMismatches (slice data (size - 1 - check) check) (check - padding.toNat) padding = 0)
      .cbcVerify

/-- The explicit IV of a record replaces the implicit one. -/
def recordParseIv (r : ParamsRef) (m : Mode) (ivSize encryptedLength : ℕ) : ConnM K ℕ := do
  if (← get).actualProtocolVersion > tls10 then
    let iv ← onIn (readBytes ivSize)
    setImplicitIv r m iv
    ensure (ivSize ≤ encryptedLength) .safety
    return encryptedLength - ivSize
  else return encryptedLength

def recordParseCbc (x : CbcCipher K) (r : ParamsRef) (m : Mode) (encryptedLength : ℕ) :
    ConnM K Unit := do
  let headerPtr ← onHeaderIn (rawReadRef .null recordHeaderLength)
  ensure (x.recordIvSize ≤ 16) .safety
  let encryptedLength ← recordParseIv r m x.recordIvSize encryptedLength
  let enPtr ← onIn (rawReadRef .null encryptedLength)
  let c ← get
  let macDigestSize := (c.crypto.side r m).recordMac.alg.digestSize
  ensure (macDigestSize ≤ encryptedLength) .safety
  ensure (encryptedLength ≠ 0) .safety
  ensure (encryptedLength % x.recordIvSize = 0) .safety
  let en := slice c.recv.inStuffer.blob.data enPtr encryptedLength
  let iv := slice (c.crypto.side r m).implicitIv 0 x.recordIvSize
  let de ← callCipher r m .decrypt .decrypt (x.decrypt · iv en)
  onIn (poke enPtr de)
  when (c.actualProtocolVersion < tls11) do
    setImplicitIv r m (en.drop (encryptedLength - x.recordIvSize))
  let padding := (de.getD (encryptedLength - 1) 0).toNat
  ensure (padding + 1 ≤ encryptedLength - macDigestSize) .integerOverflow
  let payloadLength := encryptedLength - macDigestSize - (padding + 1)
  recordParseMac r m headerPtr payloadLength
  onSequence r m SequenceNumber.increment
  let data := (← get).recv.inStuffer.blob.data
  match ← attempt (verifyCbc r m (fun i => data (enPtr + i)) encryptedLength) with
  | .error _ => throw .badMessage
  | .ok () =>
    recordParseDone (if c.actualProtocolVersion > tls10 then x.recordIvSize else 0) payloadLength

/-! ### Composite ciphers -/

def recordParseComposite (x : CompositeCipher K) (r : ParamsRef) (m : Mode)
    (contentType : ContentType) (encryptedLength : ℕ) : ConnM K Unit := do
  let _ ← onHeaderIn (rawReadRef .null recordHeaderLength)
  let enPtr ← onIn (rawReadRef .null encryptedLength)
  let c ← get
  let side := c.crypto.side r m
  let macDigestSize := side.recordMac.alg.digestSize
  ensure (macDigestSize ≤ encryptedLength) .safety
  let payloadLength := encryptedLength - macDigestSize
  let macSize ← callCipher r m .initialHmac .initialHmac
    (x.initialHmac · side.sequenceNumber.bytes contentType.toNat c.actualProtocolVersion payloadLength)
  ensure (macSize ≤ payloadLength) .safety
  let eivSize := if c.actualProtocolVersion > tls10 then x.recordIvSize else 0
  ensure (eivSize ≤ payloadLength - macSize) .integerOverflow
  ensure (encryptedLength ≠ 0) .safety
  ensure (encryptedLength % x.recordIvSize = 0) .safety
  let en := slice c.recv.inStuffer.blob.data enPtr encryptedLength
  let de ← callCipher r m .decrypt .decrypt (x.decrypt · (slice side.implicitIv 0 x.recordIvSize) en)
  onIn (poke enPtr de)
  setImplicitIv r m (en.drop (encryptedLength - x.recordIvSize))
  let padding := (de.getD (encryptedLength - 1) 0).toNat
  ensure (padding + 1 ≤ payloadLength - macSize - eivSize) .integerOverflow
  onSequence r m SequenceNumber.increment
  recordParseDone eivSize (payloadLength - macSize - eivSize - (padding + 1))

/-! ### AEAD ciphers -/

def recordParseAead (x : AeadCipher K) (r : ParamsRef) (m : Mode) (contentType : ContentType)
    (encryptedLength : ℕ) : ConnM K Unit := do
  let c ← get
  let alg := (c.crypto.suite r).recordAlg
  let side := c.crypto.side r m
  let seq := side.sequenceNumber.bytes
  -- `s2n_blob_init` refuses `NULL` with a size
  let enPtr ← onIn (rawReadRef (if encryptedLength = 0 then .null else .safety) encryptedLength)
  let data := c.recv.inStuffer.blob.data
  ensure (x.recordIvSize ≤ encryptedLength) .safety
  let iv ← MonadExcept.ofExcept (aeadNonce alg.flags x.fixedIvSize side.implicitIv seq
    (slice data enPtr x.recordIvSize))
  ensure (x.recordIvSize + x.tagSize ≤ encryptedLength) .safety
  let payloadLength := encryptedLength - x.recordIvSize - x.tagSize
  let aad ← MonadExcept.ofExcept (if alg.isTls13Record then tls13AeadAad payloadLength x.tagSize
    else .ok (aeadAad c.actualProtocolVersion seq contentType payloadLength))
  ensure (encryptedLength - x.recordIvSize ≠ 0) .safety
  let en := slice data (enPtr + x.recordIvSize) (encryptedLength - x.recordIvSize)
  let de ← callCipher r m .decrypt .decrypt (x.decrypt · iv aad en)
  onIn (poke (enPtr + x.recordIvSize) de)
  onSequence r m SequenceNumber.increment
  recordParseDone (if c.actualProtocolVersion ≥ tls12 then x.recordIvSize else 0) payloadLength

/-! ### Records -/

/-- The fragment is read as the kind of cipher asks for. -/
def recordParseFragment (io : CipherIo K) (r : ParamsRef) (m : Mode) (contentType : ContentType)
    (encryptedLength : ℕ) : ConnM K Unit :=
  match io with
  | .aead x => recordParseAead x r m contentType encryptedLength
  | .cbc x => recordParseCbc x r m encryptedLength
  | .composite x => recordParseComposite x r m contentType encryptedLength
  | .null | .stream _ => recordParseStream r m encryptedLength

def recordParse : ConnM K Unit := do
  let (contentType, encryptedLength) ← recordHeaderParse
  let c ← get
  when (isTls13PlaintextContent c contentType = true) do
    ensure (c.crypto.initialFreed = false) .null
  let r := c.readTarget contentType
  let io := (c.crypto.suite r).recordAlg.cipher.io
  when (io.isNull = true) do ensure (contentType ≠ tlsApplicationData) .decrypt
  recordParseFragment io r c.mode.peer contentType encryptedLength

def maximumInnerPlaintextLength : ℕ := 2 ^ 14 + 1

/-- The loop of `s2n_tls13_parse_record_type`, which reads and wipes bytes from the back until one
is not zero; `fuel` bounds the number of bytes. -/
def parseRecordTypeLoop : ℕ → StufferM ContentType
  | 0 => throw .stufferOutOfData
  | fuel + 1 => do
    rewindRead 1
    let recordType ← readUint 1
    wipeN 1
    if recordType = 0 then parseRecordTypeLoop fuel else return UInt8.ofNat recordType

/-- `s2n_tls13_parse_record_type`. When the bytes run out, `s2n_stuffer_rewind_read` fails. -/
def tls13ParseRecordType : StufferM ContentType := do
  let bytesLeft := (← get).dataAvailable
  ensure (bytesLeft ≤ maximumInnerPlaintextLength + 16) .maxInnerPlaintextSize
  skipRead bytesLeft
  let recordType ← parseRecordTypeLoop ((← get).readCursor + 1)
  reread
  let s ← get
  ensure (s.dataAvailable ≤ maximumInnerPlaintextLength - 1) .maxInnerPlaintextSize
  return recordType

/-- The end of `s2n_read_full_record`: the record is decrypted, and in TLS1.3 the content type is
found in what was encrypted. -/
def recordParseTyped (recordType : ContentType) : ConnM K ContentType := do
  recordParse
  if (← get).actualProtocolVersion = tls13 ∧ recordType = tlsApplicationData then
    onIn tls13ParseRecordType
  else return recordType

def recordWipe : ConnM K Unit := do
  onHeaderIn wipe
  onIn wipe
  modify fun c => { c with recv := { c.recv with inStatus := .encrypted } }
  onIn (free (← get).env.malloc)
  onBufferIn (modify fun t => { t with tainted := false })
  when ((← get).recv.bufferIn.isConsumed = true) do onBufferIn rewrite

end S2nTls
