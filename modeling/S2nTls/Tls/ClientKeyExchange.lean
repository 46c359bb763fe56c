import S2nTls.Crypto.Pkey
import S2nTls.Tls.Finished
import S2nTls.Tls.RecordWrite

/-!
Receiving a ClientKeyExchange message with an RSA cipher suite (`tls/s2n_client_key_exchange.c`,
`tls/s2n_async_pkey.c`, the key expansion of `tls/s2n_prf.c`).

The private key is used by the handler itself, or handed to the application as an operation. The
application performs the operation, applies it to the connection and calls the handler again;
until then the handler reports that it is blocked.
-/

namespace S2nTls

open Lib Stuffer

variable {K : Type}

/-! ### State -/

inductive AsyncState
  | notInvoked | invoked | complete
  deriving DecidableEq, Repr

/-- `struct s2n_async_pkey_op` of a decryption. -/
structure AsyncPkeyOp where
  encrypted : List UInt8
  decrypted : List UInt8
  rsaFailed : Bool := false
  complete : Bool := false
  applied : Bool := false

/-- What an application does with an operation: `s2n_async_pkey_op_perform` and
`s2n_async_pkey_op_apply`. -/
inductive PkeyCall
  | perform | apply
  deriving DecidableEq, Repr

/-- `async_pkey_cb`: the calls it makes itself, and whether it succeeds. -/
structure PkeyCallback where
  calls : List PkeyCall := []
  succeeds : Bool := true

/-- `struct s2n_key_material`: the parts of the key block. -/
structure KeyMaterial where
  clientMac : List UInt8 := []
  serverMac : List UInt8 := []
  clientKey : List UInt8 := []
  serverKey : List UInt8 := []
  clientIv : List UInt8 := []
  serverIv : List UInt8 := []

/-- The fields of the key exchange. The keys of `conn->secure` are represented by the bytes they
are made from. -/
structure KexState where
  clientHelloVersion : ℕ
  emsNegotiated : Bool := false
  clientRandom : List UInt8 := []
  serverRandom : List UInt8 := []
  /-- `cipher_suite->available` -/
  suiteAvailable : Bool := true
  rsaPremasterSecret : List UInt8 := []
  keys : KeyMaterial := {}
  asyncState : AsyncState := .notInvoked
  asyncPkeyCb : Option PkeyCallback := none
  /-- `sizeof(struct s2n_async_pkey_op)` -/
  opSize : ℕ := 0
  /-- The operation that the application was given. -/
  op : Option AsyncPkeyOp := none
  /-- Not in the source: the secrets from which a master secret was derived. -/
  premasters : List (List UInt8) := []

/-- A connection with the fields of the key exchange. -/
structure KexConn (K : Type) where
  conn : Conn K
  kex : KexState

abbrev KexM (K : Type) := EStateM Err (KexConn K)

def onConn {α : Type} (f : ConnM K α) : KexM K α :=
  zoom KexConn.conn (fun c s => { s with conn := c }) f

def modifyKex (f : KexState → KexState) : KexM K Unit := modify fun s => { s with kex := f s.kex }

def KexConn.clientHelloProtocolVersion (c : KexConn K) : ℕ :=
  if c.kex.clientHelloVersion = sslv2 then c.conn.clientProtocolVersion
  else c.kex.clientHelloVersion

/-- The version of the ClientHello in wire format. -/
def KexConn.clientHelloVersionBytes (c : KexConn K) : List UInt8 :=
  versionBytes c.clientHelloProtocolVersion

/-! ### Deriving the keys -/

/-- The sizes of the parts of the key block. -/
def macKeySize (r : RecordAlg K) : ℕ :=
  match r.cipher.io with
  | .composite x => x.macKeySize
  | _ => r.hmacAlg.digestSize

/-- Only AEAD ciphers have implicit IVs from TLS1.1 on. -/
def implicitIvSize (version : ℕ) (r : RecordAlg K) : ℕ :=
  match r.cipher.io with
  | .aead x => x.fixedIvSize
  | .cbc x => if version ≤ tls10 then x.blockSize else 0
  | .composite x => if version ≤ tls10 then x.blockSize else 0
  | _ => 0

def maxKeyBlockLen : ℕ := 160

/-- `s2n_key_material_init`: the parts lie in the block one after the other. -/
def keyMaterialInit (block : List UInt8) (mac key iv : ℕ) : KeyMaterial where
  clientMac := block.take mac
  serverMac := (block.drop mac).take mac
  clientKey := (block.drop (2 * mac)).take key
  serverKey := (block.drop (2 * mac + key)).take key
  clientIv := (block.drop (2 * mac + 2 * key)).take iv
  serverIv := (block.drop (2 * mac + 2 * key + iv)).take iv

def prfKeyExpansion : KexM K Unit := do
  let s ← get
  let c := s.conn
  let suite := c.crypto.secure.cipherSuite
  let mac := macKeySize suite.recordAlg
  let key := suite.recordAlg.cipher.keyMaterialSize
  let iv := implicitIvSize c.actualProtocolVersion suite.recordAlg
  ensure (2 * mac + 2 * key + 2 * iv ≤ maxKeyBlockLen) .null
  ensure (c.env.fault .kdf = false) .prfDerive
  let block := c.env.lib.prf c.actualProtocolVersion suite.prfAlg c.secrets.masterSecret
    (labelBytes "key expansion") (s.kex.serverRandom ++ s.kex.clientRandom) maxKeyBlockLen
  let material := keyMaterialInit block mac key iv
  ensure (s.kex.suiteAvailable = true) .prfInvalidAlgorithm
  ensure (c.env.fault .initialHmac = false) .initialHmac
  modifyKex fun k => { k with keys := { k.keys with
    clientMac := material.clientMac, serverMac := material.serverMac } }
  ensure (c.env.fault .setKey = false) .keyInit
  modifyKex fun k => { k with keys := { k.keys with
    clientKey := material.clientKey, serverKey := material.serverKey } }
  ensure (iv ≤ 16) .safety
  modifyKex fun k => { k with keys := { k.keys with
    clientIv := material.clientIv, serverIv := material.serverIv } }

/-- `s2n_prf_get_digest_for_ems`: the hash of the transcript and the message. -/
def emsDigest (c : Conn K) (alg : HashAlg) : List UInt8 :=
  c.env.lib.hash alg (c.handshake.hashes alg ++ slice c.handshake.io.blob.data 0 c.handshake.io.writeCursor)

/-- The label and the seed of the master secret. -/
def masterSecretInput (s : KexConn K) : List UInt8 × List UInt8 :=
  let c := s.conn
  if s.kex.emsNegotiated = false then
    (labelBytes "master secret", s.kex.clientRandom ++ s.kex.serverRandom)
  else if c.actualProtocolVersion < tls12 then
    (labelBytes "extended master secret", emsDigest c .md5 ++ emsDigest c .sha1)
  else
    (labelBytes "extended master secret",
      emsDigest c c.crypto.secure.cipherSuite.prfAlg.hashAlg)

/-- `s2n_prf_calculate_master_secret`, which a server calls with its premaster secret. -/
def prfCalculateMasterSecret (premaster : List UInt8) : KexM K Unit := do
  let s ← get
  let c := s.conn
  ensure (c.currentMessageType = .clientKey) .safety
  when (s.kex.emsNegotiated = true) do ensure (c.env.fault .hash = false) .hashCopyFailed
  ensure (c.env.fault .kdf = false) .prfDerive
  let master := c.env.lib.prf c.actualProtocolVersion c.crypto.secure.cipherSuite.prfAlg premaster
    (masterSecretInput s).1 (masterSecretInput s).2 tlsSecretLen
  modify fun s => { s with conn := { s.conn with
    secrets := { s.conn.secrets with masterSecret := master } } }

/-- `s2n_calculate_keys`. The session cache and the key log, whose failures are ignored, get a copy
of the secret. -/
def calculateKeys : KexM K Unit := do
  let premaster := (← get).kex.rsaPremasterSecret
  modifyKex fun k => { k with premasters := premaster :: k.premasters }
  prfCalculateMasterSecret premaster
  prfKeyExpansion

/-! ### Operations of the private key -/

/-- `s2n_rsa_client_key_recv_complete`: the version is compared and then overwritten. -/
def rsaClientKeyRecvComplete (rsaFailed : Bool) (decrypted : List UInt8) : KexM K Unit := do
  ensure (decrypted.length = tlsSecretLen) .sizeMismatch
  let version := (← get).clientHelloVersionBytes
  modify fun s =>
    { conn := { s.conn with handshake := { s.conn.handshake with
        rsaFailed := rsaFailed || decide (version ≠ decrypted.take 2) } }
      kex := { s.kex with rsaPremasterSecret := version ++ decrypted.drop 2 } }

/-- `s2n_pkey_decrypt`: whether it fails, and the output. -/
def pkeyDecrypt (key : RsaKey) (encrypted out : List UInt8) : Bool × List UInt8 :=
  match (pkeyEvpDecrypt key encrypted).run out with
  | .ok _ out' => (false, out')
  | .error _ out' => (true, out')

def asyncPkeyOpPerform (key : RsaKey) : KexM K Unit := do
  match (← get).kex.op with
  | none => throw .null
  | some op =>
    ensure (op.complete = false) .asyncAlreadyPerformed
    let out := pkeyDecrypt key op.encrypted op.decrypted
    modifyKex fun k => { k with
      op := some { op with rsaFailed := out.1, decrypted := out.2, complete := true } }

/-- `s2n_async_pkey_op_apply`, to the connection that the operation belongs to. -/
def asyncPkeyOpApply : KexM K Unit := do
  let s ← get
  match s.kex.op with
  | none => throw .null
  | some op =>
    ensure (op.complete = true) .asyncNotPerformed
    ensure (op.applied = false) .asyncAlreadyApplied
    ensure (s.kex.asyncState = .invoked) .asyncWrongConnection
    rsaClientKeyRecvComplete op.rsaFailed op.decrypted
    modifyKex fun k => { k with
      asyncState := .complete
      op := some { op with applied := true, encrypted := [], decrypted := [] } }

def PkeyCall.exec (key : RsaKey) : PkeyCall → KexM K Unit
  | .perform => asyncPkeyOpPerform key
  | .apply => asyncPkeyOpApply

/-- The calls that a callback makes; it does not stop at a call that fails. -/
def execPkeyCalls (key : RsaKey) : List PkeyCall → KexM K Unit
  | [] => pure ()
  | call :: calls => do
    let _ ← attempt (call.exec key)
    execPkeyCalls key calls

def asyncCbExecute (key : RsaKey) (cb : PkeyCallback) (op : AsyncPkeyOp) : KexM K Unit := do
  ensure ((← get).kex.asyncState = .notInvoked) .asyncMoreThanOne
  modifyKex fun k => { k with asyncState := .invoked, op := some op }
  execPkeyCalls key cb.calls
  ensure (cb.succeeds = true) .asyncCallbackFailed
  ensure ((← get).kex.asyncState = .complete) .asyncBlocked

/-- `s2n_async_pkey_decrypt`, with the premaster secret as the first value of the output. -/
def asyncPkeyDecrypt (key : RsaKey) (encrypted : List UInt8) : KexM K Unit := do
  let s ← get
  match s.kex.asyncPkeyCb with
  | some cb =>
    ensure (s.conn.env.malloc s.kex.opSize = true) .alloc
    ensure (s.conn.env.malloc encrypted.length = true) .alloc
    ensure (s.conn.env.malloc s.kex.rsaPremasterSecret.length = true) .alloc
    asyncCbExecute key cb ⟨encrypted, s.kex.rsaPremasterSecret, false, false, false⟩
  | none =>
    let out := pkeyDecrypt key encrypted s.kex.rsaPremasterSecret
    modifyKex fun k => { k with rsaPremasterSecret := out.2 }
    rsaClientKeyRecvComplete out.1 out.2

/-! ### The handler -/

def getPrivateRandomData (size : ℕ) : ConnM K (List UInt8) := getPublicRandomData size

/-- The length of the encrypted secret, which SSLv3 does not send. -/
def encryptedLength (c : Conn K) : ConnM K ℕ :=
  if c.actualProtocolVersion = sslv3 then return c.handshake.io.dataAvailable % 2 ^ 16
  else onIo (readUint 2)

/-- The part of `s2n_rsa_client_key_recv` that reads the message. -/
def readEncrypted : ConnM K (List UInt8) := do
  let length ← encryptedLength (← get)
  let c ← get
  ensure (length ≤ c.handshake.io.dataAvailable) .badMessage
  match ← onIo (rawRead length) with
  | none => throw .null
  | some ptr =>
    ensure (0 < length) .safety
    return slice c.handshake.io.blob.data ptr length

/-- `s2n_rsa_client_key_recv`. A handler that was paused goes on with what the operation left in the
premaster secret. -/
def rsaClientKeyRecv (key : RsaKey) : KexM K Unit := do
  let s ← get
  match s.kex.asyncState with
  | .invoked => throw .asyncBlocked
  | .complete => modifyKex fun k => { k with asyncState := .notInvoked }
  | .notInvoked =>
    let encrypted ← onConn readEncrypted
    let random ← onConn (getPrivateRandomData tlsSecretLen)
    modifyKex fun k => { k with rsaPremasterSecret := s.clientHelloVersionBytes ++ random.drop 2 }
    asyncPkeyDecrypt key encrypted

/-- `s2n_client_key_recv`. The premaster secret is wiped however the function returns. -/
def clientKeyRecv (key : RsaKey) : KexM K Unit := do
  let result ← attempt (do
    rsaClientKeyRecv key
    calculateKeys)
  modifyKex fun k => { k with rsaPremasterSecret := List.replicate tlsSecretLen 0 }
  MonadExcept.ofExcept result

end S2nTls
