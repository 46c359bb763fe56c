import Mathlib.Algebra.Order.Ring.Nat
import S2nTls.Crypto.Hmac

/-!
The ciphers of the record layer (`crypto/s2n_cipher.h`) and the record algorithms that use them
(`tls/s2n_cipher_suites.h`).

A cipher is a record of functions of libcrypto, called through pointers. All of them work in
place: the result takes exactly the memory of the input. `K` is the type of session keys, the
state of libcrypto's cipher context; a call may change it.
-/

namespace S2nTls

variable {K : Type}

structure StreamCipher (K : Type) where
  encrypt : K → List UInt8 → Option (K × List UInt8)
  decrypt : K → List UInt8 → Option (K × List UInt8)
  encrypt_length : ∀ {k k' d d'}, encrypt k d = some (k', d') → d'.length = d.length
  decrypt_length : ∀ {k k' d d'}, decrypt k d = some (k', d') → d'.length = d.length

structure CbcCipher (K : Type) where
  blockSize : ℕ
  recordIvSize : ℕ
  encrypt : K → (iv data : List UInt8) → Option (K × List UInt8)
  decrypt : K → (iv data : List UInt8) → Option (K × List UInt8)
  encrypt_length : ∀ {k k' iv d d'}, encrypt k iv d = some (k', d') → d'.length = d.length
  decrypt_length : ∀ {k k' iv d d'}, decrypt k iv d = some (k', d') → d'.length = d.length

/-- `struct s2n_aead_cipher`. Encryption reads the plaintext and appends the tag, in memory that
the caller reserved for it; decryption leaves the plaintext without the tag. -/
structure AeadCipher (K : Type) where
  fixedIvSize : ℕ
  recordIvSize : ℕ
  tagSize : ℕ
  encrypt : K → (iv aad data : List UInt8) → Option (K × List UInt8)
  decrypt : K → (iv aad data : List UInt8) → Option (K × List UInt8)
  encrypt_length : ∀ {k k' iv aad d d'}, encrypt k iv aad d = some (k', d') →
    d'.length = d.length + tagSize
  decrypt_length : ∀ {k k' iv aad d d'}, decrypt k iv aad d = some (k', d') →
    d'.length + tagSize = d.length

/-- `struct s2n_composite_cipher`. `initialHmac` starts the MAC of a record with the sequence
number, content type, version and length; it returns how many bytes MAC and padding take when
encrypting, and the MAC alone when decrypting. -/
structure CompositeCipher (K : Type) where
  blockSize : ℕ
  recordIvSize : ℕ
  macKeySize : ℕ
  encrypt : K → (iv data : List UInt8) → Option (K × List UInt8)
  decrypt : K → (iv data : List UInt8) → Option (K × List UInt8)
  initialHmac : K → (seq : List UInt8) → (contentType version len : ℕ) → Option (K × ℕ)
  encrypt_length : ∀ {k k' iv d d'}, encrypt k iv d = some (k', d') → d'.length = d.length
  decrypt_length : ∀ {k k' iv d d'}, decrypt k iv d = some (k', d') → d'.length = d.length

/-- The type of a `struct s2n_cipher` with the functions that go with it. The null cipher is a
stream cipher that copies. -/
inductive CipherIo (K : Type)
  | null
  | stream (c : StreamCipher K)
  | cbc (c : CbcCipher K)
  | aead (c : AeadCipher K)
  | composite (c : CompositeCipher K)

def CipherIo.isNull : CipherIo K → Bool
  | .null => true
  | _ => false

def CipherIo.isCbc : CipherIo K → Bool
  | .cbc _ => true
  | _ => false

structure Cipher (K : Type) where
  io : CipherIo K
  keyMaterialSize : ℕ
  setEncryptionKey : K → List UInt8 → Option K
  setDecryptionKey : K → List UInt8 → Option K

/-- The flags of a record algorithm: how the nonce of an AEAD cipher is made. -/
inductive NonceFlag
  /-- No flag is set. -/
  | none
  /-- `S2N_TLS12_AES_GCM_AEAD_NONCE` -/
  | tls12AesGcm
  /-- `S2N_TLS12_CHACHA_POLY_AEAD_NONCE` -/
  | tls12ChachaPoly
  /-- `S2N_TLS13_RECORD_AEAD_NONCE` -/
  | tls13
  deriving DecidableEq, Repr

/-- What all record algorithms of `tls/s2n_cipher_suites.c` have in common: the ciphers that
authenticate what they encrypt come without a MAC, a CBC cipher takes a block as IV, and an AEAD
cipher has the sizes that go with its nonce. -/
def RecordAlg.WellFormed (io : CipherIo K) (hmacAlg : HmacAlg) (flags : NonceFlag) : Prop :=
  match io with
  | .null => hmacAlg = .none ∧ flags = .none
  | .stream _ => hmacAlg ≠ .none ∧ flags = .none
  | .cbc c => hmacAlg ≠ .none ∧ flags = .none ∧ c.recordIvSize = c.blockSize ∧
      (c.blockSize = 8 ∨ c.blockSize = 16)
  | .aead c => hmacAlg = .none ∧ c.tagSize = 16 ∧
      (flags = .tls12AesGcm ∧ c.fixedIvSize = 4 ∧ c.recordIvSize = 8 ∨
        (flags = .tls12ChachaPoly ∨ flags = .tls13) ∧ c.fixedIvSize = 12 ∧ c.recordIvSize = 0)
  | .composite c => hmacAlg = .none ∧ flags = .none ∧ c.blockSize = 16 ∧ c.recordIvSize = 16 ∧
      (c.macKeySize = 20 ∨ c.macKeySize = 32)

structure RecordAlg (K : Type) where
  cipher : Cipher K
  hmacAlg : HmacAlg
  flags : NonceFlag
  encryptionLimit : ℕ
  wellFormed : RecordAlg.WellFormed cipher.io hmacAlg flags

structure CipherSuite (K : Type) where
  recordAlg : RecordAlg K
  prfAlg : HmacAlg

lemma RecordAlg.wellFormed_of {alg : RecordAlg K} {io : CipherIo K} (hio : alg.cipher.io = io) :
    WellFormed io alg.hmacAlg alg.flags := hio ▸ alg.wellFormed

def RecordAlg.isTls13Record (r : RecordAlg K) : Bool := r.flags == .tls13

def nullCipherSuite : CipherSuite K where
  recordAlg :=
    { cipher := ⟨.null, 0, fun k _ => some k, fun k _ => some k⟩
      hmacAlg := .none
      flags := .none
      encryptionLimit := 2 ^ 64 - 1
      wellFormed := ⟨rfl, rfl⟩ }
  prfAlg := .sha256

/-- An AEAD cipher that copies, with a tag of zeros. -/
def copyingAead : AeadCipher K where
  fixedIvSize := 12
  recordIvSize := 0
  tagSize := 16
  encrypt k _ _ d := some (k, d ++ List.replicate 16 0)
  decrypt k _ _ d := if 16 ≤ d.length then some (k, d.take (d.length - 16)) else none
  encrypt_length := by
    rintro k k' iv aad d d' ⟨⟩
    simp
  decrypt_length := by
    intro k k' iv aad d d' h
    split at h
    · cases h
      simp
      omega
    · cases h

/-- A TLS1.3 suite with the cipher that copies. -/
def copyingCipherSuite : CipherSuite K where
  recordAlg :=
    { cipher := ⟨.aead copyingAead, 32, fun k _ => some k, fun k _ => some k⟩
      hmacAlg := .none
      flags := .tls13
      encryptionLimit := 2 ^ 64 - 1
      wellFormed := ⟨rfl, rfl, .inr ⟨.inr rfl, rfl, rfl⟩⟩ }
  prfAlg := .sha256

end S2nTls
