import S2nTls.Tls.RecordWrite

/-!
Changing the application traffic keys of TLS1.3 (`tls/s2n_tls13_handshake.c`,
`tls/s2n_key_update.c`).
-/

namespace S2nTls

open Lib

variable {K : Type}

/-- `keyupdate_status`: which end of a direction changes its key. -/
inductive KeyUpdateStatus
  | sending | receiving
  deriving DecidableEq, Repr

def Secrets.appSecret (s : Secrets) : Mode → List UInt8
  | .client => s.clientAppSecret
  | .server => s.serverAppSecret

def Secrets.setAppSecret (s : Secrets) (m : Mode) (bs : List UInt8) : Secrets :=
  match m with
  | .client => { s with clientAppSecret := bs }
  | .server => { s with serverAppSecret := bs }

/-- The function that installs a key for the given use. -/
def Cipher.setKey (x : Cipher K) : KeyUpdateStatus → K → List UInt8 → Option K
  | .receiving => x.setDecryptionKey
  | .sending => x.setEncryptionKey

/-- The counters of key updates stop at the largest value of a byte. -/
def Conn.countKeyUpdate (c : Conn K) : KeyUpdateStatus → Conn K
  | .receiving => { c with recvKeyUpdated := min 255 (c.recvKeyUpdated + 1) }
  | .sending => { c with sendKeyUpdated := min 255 (c.sendKeyUpdated + 1) }

/-- `s2n_update_application_traffic_keys`, for what `m` writes. -/
def updateApplicationTrafficKeys (m : Mode) (status : KeyUpdateStatus) : ConnM K Unit := do
  let c ← get
  ensure (c.actualProtocolVersion ≥ tls13) .safety
  let suite := c.crypto.secure.cipherSuite
  let expand := c.env.lib.hkdfExpandLabel suite.prfAlg
  let size := suite.prfAlg.hashAlg.digestSize
  ensure (c.env.fault .kdf = false) .hkdf
  let appSecret := expand (c.secrets.appSecret m) (labelBytes "traffic upd") [] size
  let appKey := expand appSecret (labelBytes "key") [] suite.recordAlg.cipher.keyMaterialSize
  -- the new IV is derived into its place, before the new key is installed
  setImplicitIv .secure m (expand appSecret (labelBytes "iv") [] 12)
  ensure (c.env.fault .setKey = false) .keyInit
  match suite.recordAlg.cipher.setKey status (c.crypto.side .secure m).key appKey with
  | none => throw .keyInit
  | some k =>
    onSide .secure m (modify fun d => { d with key := k, generation := d.generation + 1 })
    modify fun c => c.countKeyUpdate status
    onSequence .secure m (set SequenceNumber.zero)
    modify fun c => { c with secrets := c.secrets.setAppSecret m appSecret }

end S2nTls
