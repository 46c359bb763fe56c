import S2nTls.Tls.RecordWrite

/-!
What a protected record is.

`Sealed` relates a payload to the fragments that stand for it, one case for each kind of cipher,
together with what sealing does to the parameters of the direction. It is stated with lists of
bytes and without buffers, and it is what the writer of `tls/s2n_record_write.c` is shown to
produce and the readers of `tls/s2n_record_read_*.c` are shown to undo. `CipherLaw` is what is
assumed of the ciphers of libcrypto.
-/

namespace S2nTls

open Lib

variable {K : Type}

def recordHeader (rt : ContentType) (version length : ℕ) : List UInt8 :=
  [rt] ++ versionBytes version ++ beBytes 2 length

@[simp] lemma recordHeader_length (rt : ContentType) (version length : ℕ) :
    (recordHeader rt version length).length = recordHeaderLength := by
  simp [recordHeader, versionBytes, recordHeaderLength]

/-- What the MAC of a record is computed of. `headerVersion` is the version that stands in the
header; SSLv3 leaves it out. -/
def macInput (version headerVersion : ℕ) (seq : List UInt8) (ct : ContentType)
    (payload : List UInt8) : List UInt8 :=
  seq ++ [ct] ++ (if sslv3 < version then versionBytes headerVersion else []) ++
    beBytes 2 payload.length ++ payload

/-- The additional data of an AEAD record. -/
def recordAad (alg : RecordAlg K) (x : AeadCipher K) (version : ℕ) (seq : List UInt8)
    (ct : ContentType) (payloadLength : ℕ) : Except Err (List UInt8) :=
  if alg.isTls13Record then tls13AeadAad (payloadLength + 1) x.tagSize
  else .ok (aeadAad version seq ct payloadLength)

abbrev SequenceNumber.next (n : SequenceNumber) : SequenceNumber := .ofNat (n.value + 1)

namespace CryptoSide

def seq (d : CryptoSide K) : List UInt8 := d.sequenceNumber.bytes

def advance (d : CryptoSide K) : CryptoSide K := { d with sequenceNumber := d.sequenceNumber.next }

def recordMacOf (d : CryptoSide K) (version headerVersion : ℕ) (ct : ContentType)
    (payload : List UInt8) : List UInt8 :=
  d.recordMac.mac (macInput version headerVersion d.seq ct payload)

end CryptoSide

/-- The size of an explicit IV, from TLS1.1 on. -/
def eivSize (version blockSize : ℕ) : ℕ := if tls10 < version then blockSize else 0

/-- The padding of a CBC record, with the byte that gives its length. -/
def cbcPadding (pad : ℕ) : List UInt8 := List.replicate (pad + 1) (UInt8.ofNat pad)

/-- **A protected record.** `Sealed alg version hv ct d payload d' fragment`: with the parameters
`d`, the payload is sent as `fragment`, and the parameters become `d'`. -/
inductive Sealed (alg : RecordAlg K) (version headerVersion : ℕ) (ct : ContentType)
    (d : CryptoSide K) (payload : List UInt8) : CryptoSide K → List UInt8 → Prop
  | null : alg.cipher.io = .null → Sealed alg version headerVersion ct d payload d.advance payload
  | stream {x : StreamCipher K} {k : K} {en : List UInt8} :
      alg.cipher.io = .stream x →
      x.encrypt d.key (payload ++ d.recordMacOf version headerVersion ct payload) = some (k, en) →
      Sealed alg version headerVersion ct d payload { d.advance with key := k } en
  | cbcExplicit {x : CbcCipher K} {k : K} {en iv : List UInt8} {pad : ℕ} :
      alg.cipher.io = .cbc x → tls10 < version → iv.length = x.blockSize → pad < x.blockSize →
      x.blockSize ∣ payload.length + d.recordMac.alg.digestSize + (pad + 1) →
      x.encrypt d.key iv (payload ++ d.recordMacOf version headerVersion ct payload ++
        cbcPadding pad) = some (k, en) →
      Sealed alg version headerVersion ct d payload
        { d.advance with key := k, implicitIv := overwrite d.implicitIv 0 iv } (iv ++ en)
  /-- Before TLS1.1 the last block of a record is the IV of the next. -/
  | cbcChained {x : CbcCipher K} {k : K} {en : List UInt8} {pad : ℕ} :
      alg.cipher.io = .cbc x → version ≤ tls10 → pad < x.blockSize →
      x.blockSize ∣ payload.length + d.recordMac.alg.digestSize + (pad + 1) →
      x.encrypt d.key (slice d.implicitIv 0 x.blockSize)
        (payload ++ d.recordMacOf version headerVersion ct payload ++ cbcPadding pad) =
          some (k, en) →
      Sealed alg version headerVersion ct d payload
        { d.advance with
          key := k, implicitIv := overwrite d.implicitIv 0 (en.drop (en.length - x.blockSize)) } en
  | aead {x : AeadCipher K} {k : K} {en iv aad : List UInt8} :
      alg.cipher.io = .aead x →
      aeadNonce alg.flags x.fixedIvSize d.implicitIv d.seq d.seq = .ok iv →
      recordAad alg x version d.seq ct payload.length = .ok aad →
      x.encrypt d.key iv aad (payload ++ if alg.isTls13Record then [ct] else []) = some (k, en) →
      Sealed alg version headerVersion ct d payload { d.advance with key := k }
        ((if alg.flags = .tls12AesGcm then d.seq else []) ++ en)
  /-- The cipher computes the MAC and the padding itself, in the `n` bytes of `back`. The first
  block of the data is a placeholder for the explicit IV. -/
  | composite {x : CompositeCipher K} {k₁ k : K} {n : ℕ} {en iv front back : List UInt8} :
      alg.cipher.io = .composite x →
      x.initialHmac d.key d.seq ct.toNat version
        (payload.length + eivSize version x.blockSize) = some (k₁, n) →
      iv.length = x.blockSize → (version ≤ tls10 → iv = slice d.implicitIv 0 x.blockSize) →
      front.length = eivSize version x.blockSize → back.length = n →
      x.encrypt k₁ iv (front ++ payload ++ back) = some (k, en) →
      Sealed alg version headerVersion ct d payload
        { d.advance with
          key := k, implicitIv := overwrite d.implicitIv 0 (en.drop (en.length - x.blockSize)) } en

/-! ### What is assumed of the ciphers -/

/-- The versions that the cipher suites with this record algorithm are used with. -/
def RecordAlg.Supports (alg : RecordAlg K) (version : ℕ) : Prop :=
  match alg.cipher.io with
  | .null => True
  | .aead _ => version = if alg.isTls13Record then tls13 else tls12
  | _ => version ≤ tls12

/-- `paired n k k'` says that the session keys of the two ends of a direction belong together when it comes to record
`n`. -/
abbrev Pairing (K : Type) := SequenceNumber → K → K → Prop

/-- **Decryption inverts encryption**, and the keys belong together again for the next record. A cipher is asked only
for what a record gives it: no more than a record can hold, IVs of one block, and with an AEAD cipher the nonce of the
record, which is made of the `implicitIv` of the direction. A composite cipher also computes and checks the MAC: it says
how many bytes it takes for it (the MAC, the padding and the byte with its length), and from TLS1.1 on it does not use
the IV it is given for decrypting. -/
def CipherLaw (alg : RecordAlg K) (implicitIv : ℕ → UInt8) (paired : Pairing K) : Prop :=
  match alg.cipher.io with
  | .null => ∀ n k k', paired n k k' → paired n.next k k'
  | .stream x => ∀ n k k' d, paired n k k' → List.length d < 2 ^ 15 → ∃ k₁ k₁' en,
      x.encrypt k d = some (k₁, en) ∧ x.decrypt k' en = some (k₁', d) ∧ paired n.next k₁ k₁'
  | .cbc x => ∀ n k k' iv d, paired n k k' → List.length iv = x.blockSize → List.length d < 2 ^ 15 →
      x.blockSize ∣ d.length → ∃ k₁ k₁' en,
      x.encrypt k iv d = some (k₁, en) ∧ x.decrypt k' iv en = some (k₁', d) ∧ paired n.next k₁ k₁'
  | .aead x => ∀ n k k' iv aad d, paired n k k' → n.value + 1 < 2 ^ 64 →
      aeadNonce alg.flags x.fixedIvSize implicitIv n.bytes n.bytes = .ok iv → List.length aad < 2 ^ 15 →
      List.length d < 2 ^ 15 → ∃ k₁ k₁' en,
      x.encrypt k iv aad d = some (k₁, en) ∧ x.decrypt k' iv aad en = some (k₁', d) ∧ paired n.next k₁ k₁'
  | .composite x => ∀ n k k' (ct : ContentType) version payload, paired n k k' → alg.Supports version →
      List.length payload ≤ 2 ^ 14 → ∃ k₁ k₁' pad,
      pad < x.blockSize ∧ x.blockSize ∣ payload.length + (x.macKeySize + (pad + 1)) ∧
      x.initialHmac k n.bytes ct.toNat version (payload.length + eivSize version x.blockSize) =
        some (k₁, x.macKeySize + (pad + 1)) ∧
      x.initialHmac k' n.bytes ct.toNat version
        (eivSize version x.blockSize + payload.length + (x.macKeySize + (pad + 1))) =
          some (k₁', x.macKeySize) ∧
      ∀ iv iv' front back, List.length iv = x.blockSize → List.length iv' = x.blockSize →
        (version ≤ tls10 → iv' = iv) → List.length front = eivSize version x.blockSize →
        List.length back = x.macKeySize + (pad + 1) →
        ∃ k₂ k₂' en front' mac, x.encrypt k₁ iv (front ++ payload ++ back) = some (k₂, en) ∧
          x.decrypt k₁' iv' en = some (k₂', front' ++ payload ++ mac ++ cbcPadding pad) ∧
          List.length front' = eivSize version x.blockSize ∧ List.length mac = x.macKeySize ∧
          paired n.next k₂ k₂'

/-- The two ends of a direction are in the same state. -/
structure SideMatch (paired : Pairing K) (d d' : CryptoSide K) : Prop where
  key : paired d.sequenceNumber d.key d'.key
  macAlg : d'.recordMac.alg = d.recordMac.alg
  mac : d'.recordMac.mac = d.recordMac.mac
  sequenceNumber : d'.sequenceNumber = d.sequenceNumber
  implicitIv : ∀ i < 16, d'.implicitIv i = d.implicitIv i

end S2nTls
