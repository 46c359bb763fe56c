import S2nTls.Lib.Wp
import S2nTls.Utils.Error

/-!
Hashes and message authentication codes (`crypto/s2n_hash.c`, `crypto/s2n_hmac.c`).

The hash functions belong to libcrypto. A running HMAC is its key, as the function it computes of
the bytes fed to it, those bytes, and whether it may be fed: after a digest it has to be reset.
Every call into libcrypto may fail; `Fault` names these calls.
-/

namespace S2nTls

open Lib

inductive HashAlg
  | none | md5 | sha1 | sha224 | sha256 | sha384 | sha512 | md5Sha1
  deriving DecidableEq, Repr

def HashAlg.digestSize : HashAlg → ℕ
  | .none => 0
  | .md5 => 16
  | .sha1 => 20
  | .sha224 => 28
  | .sha256 => 32
  | .sha384 => 48
  | .sha512 => 64
  | .md5Sha1 => 36

inductive HmacAlg
  | none | md5 | sha1 | sha224 | sha256 | sha384 | sha512 | sslv3Md5 | sslv3Sha1
  deriving DecidableEq, Repr

/-- One of the two hashes of a PRF. -/
lemma sha256_valid : HmacAlg.sha256 = .sha256 ∨ HmacAlg.sha256 = .sha384 := .inl rfl

def HmacAlg.hashAlg : HmacAlg → HashAlg
  | .none => .none
  | .md5 | .sslv3Md5 => .md5
  | .sha1 | .sslv3Sha1 => .sha1
  | .sha224 => .sha224
  | .sha256 => .sha256
  | .sha384 => .sha384
  | .sha512 => .sha512

def HmacAlg.digestSize (alg : HmacAlg) : ℕ := alg.hashAlg.digestSize

def HmacAlg.hashBlockSize : HmacAlg → ℕ
  | .sha384 | .sha512 => 128
  | _ => 64

/-- How far the key alone reaches into a hash block: the padded key of an HMAC fills it, the
20-byte key and the 40-byte pad of the SSLv3 MAC with SHA1 do not. -/
def HmacAlg.keyInHashBlock : HmacAlg → ℕ
  | .sslv3Sha1 => 60
  | _ => 0

lemma HmacAlg.digestSize_le (alg : HmacAlg) : alg.digestSize ≤ 64 := by
  cases alg <;> decide

/-- Calls into code outside the library (libcrypto, the allocator, the random generator) that may
fail. An HMAC is fed several times for a record; its calls are told apart by how much it was fed
before. -/
inductive Fault
  | hmacUpdate (fed : ℕ) | hmacDigest | hmacReset
  | random (size : ℕ) | initialHmac | encrypt | decrypt | setKey | kdf | hash | free
  deriving DecidableEq, Repr

structure HmacState where
  alg : HmacAlg
  /-- The MAC under the key of this state, as a function of its input. -/
  mac : List UInt8 → List UInt8
  mac_length : ∀ m, (mac m).length = alg.digestSize
  /-- The bytes fed since the last reset. -/
  fed : List UInt8
  /-- Cleared by a digest: a finished hash takes no more input. -/
  ready : Bool
  /-- Cleared if the hash could not be set back to the key alone. -/
  intact : Bool := true

namespace HmacState

/-- A state without an algorithm, as `s2n_hmac_new` leaves it. -/
def new : HmacState where
  alg := .none
  mac _ := []
  mac_length _ := rfl
  fed := []
  ready := true

variable (fault : Fault → Bool)

/-- `UINT32_MAX - HIGHEST_32_BIT`, the most bytes one update takes. -/
def maxUpdate : ℕ := 17535

def update (bs : List UInt8) : EStateM Err HmacState Unit := do
  let st ← get
  ensure (bs.length ≤ maxUpdate) .integerOverflow
  ensure (st.ready = true) .hashNotReady
  ensure (fault (.hmacUpdate st.fed.length) = false) .hashUpdateFailed
  set { st with fed := st.fed ++ bs }

/-- `s2n_hmac_digest`, with the size of the algorithm's digest. -/
def digest : EStateM Err HmacState (List UInt8) := do
  let st ← get
  ensure (st.ready = true) .hashNotReady
  set { st with ready := false }
  ensure (fault .hmacDigest = false) .hashDigestFailed
  return st.mac st.fed

/-- `s2n_hmac_reset`. The flag is copied from `inner_just_key` before the hash itself. -/
def reset : EStateM Err HmacState Unit := do
  modify fun st => { st with ready := true, intact := false }
  ensure (fault .hmacReset = false) .hashCopyFailed
  modify fun st => { st with fed := [], intact := true }

def currentlyInHashBlock (st : HmacState) : ℕ :=
  (st.alg.keyInHashBlock + st.fed.length) % st.alg.hashBlockSize

/-- `s2n_hmac_digest_two_compression_rounds`: if the length did not need a block of its own,
another block is hashed for nothing, so that two were hashed in any case. -/
def digestTwoCompressionRounds : EStateM Err HmacState (List UInt8) := do
  let inBlock := (← get).currentlyInHashBlock
  let bs ← digest fault
  let st ← get
  let spaceLeft := if st.alg.hashBlockSize = 128 then 17 else 9
  when (inBlock ≤ st.alg.hashBlockSize - spaceLeft) do
    ensure (fault .hash = false) .hashUpdateFailed
  return bs

end HmacState

/-- The hashes and key derivations of libcrypto. Nothing is assumed of them but the length of what
they return. -/
structure CryptoLib where
  hash : HashAlg → List UInt8 → List UInt8
  /-- The PRF of TLS up to version 1.2, for a version and an algorithm: `seed` is what follows the
  label. -/
  prf : (version : ℕ) → HmacAlg → (secret label seed : List UInt8) → ℕ → List UInt8
  hkdfExtract : HmacAlg → (salt key : List UInt8) → List UInt8
  hkdfExpandLabel : HmacAlg → (secret label context : List UInt8) → ℕ → List UInt8
  hash_length : ∀ a m, (hash a m).length = a.digestSize
  prf_length : ∀ v a s l d n, (prf v a s l d n).length = n
  hkdfExtract_length : ∀ a s k, (hkdfExtract a s k).length = a.digestSize
  hkdfExpandLabel_length : ∀ a s l x n, (hkdfExpandLabel a s l x n).length = n

def CryptoLib.zeros : CryptoLib where
  hash a _ := List.replicate a.digestSize 0
  prf _ _ _ _ _ n := List.replicate n 0
  hkdfExtract a _ _ := List.replicate a.digestSize 0
  hkdfExpandLabel _ _ _ _ n := List.replicate n 0
  hash_length _ _ := List.length_replicate
  prf_length _ _ _ _ _ _ := List.length_replicate
  hkdfExtract_length _ _ _ := List.length_replicate
  hkdfExpandLabel_length _ _ _ _ _ := List.length_replicate

end S2nTls
