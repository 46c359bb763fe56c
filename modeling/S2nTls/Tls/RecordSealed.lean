import S2nTls.Tls.RecordWriteSpec

/-!
`s2n_record_writev` produces protected records.

The length of a record is computed twice by the source, once for the header and once for the
encryption; `RecordParts` says how the bytes that were laid out are cut for the encryption, and
for each kind of cipher the two computations are shown to agree.
-/

namespace S2nTls

open Lib Stuffer

variable {K : Type}
variable {x : CbcCipher K} {n : ℕ}

/-! ### The parts of a record -/

/-- The bytes `a ++ e` were laid out after the header. `a` stays in the clear; `e`, extended by
what is in the memory after it to `len` bytes, is encrypted, and the result is a protected
record. -/
structure RecordParts (alg : RecordAlg K) (version hv : ℕ) (ct : ContentType)
    (d d₂ : CryptoSide K) (iv aad payload : List UInt8) (skip len : ℕ) (a e : List UInt8) : Prop where
  skip_eq : a.length = skip
  fits : e.length ≤ len
  tag_le : ∀ x, alg.cipher.io = .aead x → x.tagSize ≤ len
  encrypts : d.sequenceNumber.value + 1 < 2 ^ 64 → ∀ junk, junk.length = len - e.length →
    alg.cipher.io.Encrypts d₂.key iv aad (e ++ junk)
  isSealed : ∀ junk d' en', junk.length = len - e.length →
    Encrypted alg version iv aad d₂.advance (e ++ junk) d' en' →
    Sealed alg version hv ct d payload d' (a ++ en')

variable (d : CryptoSide K) {paired : Pairing K} {ct : ContentType} {k' : K}

@[simp] lemma CryptoSide.recordMacOf_length (version hv : ℕ) (ct : ContentType)
    (payload : List UInt8) :
    (d.recordMacOf version hv ct payload).length = d.recordMac.alg.digestSize :=
  HmacState.mac_length _ _

lemma CryptoSide.recordMacOf_none {d : CryptoSide K} (h : d.recordMac.alg = .none)
    (version hv : ℕ) (ct : ContentType) (payload : List UInt8) :
    d.recordMacOf version hv ct payload = [] := by
  refine List.length_eq_zero_iff.mp ?_
  rw [d.recordMacOf_length, h]
  rfl

section Parts

variable {alg : RecordAlg K} {version hv : ℕ} {d : CryptoSide K}
  {payload : List UInt8}

lemma RecordParts.null (hio : alg.cipher.io = .null) :
    RecordParts alg version hv ct d d [] [] payload 0 payload.length [] payload where
  skip_eq := rfl
  fits := le_rfl
  tag_le x hx := by rw [hio] at hx; cases hx
  encrypts _ junk _ := by rw [hio]; trivial
  isSealed junk d' en' hjunk henc := by
    obtain rfl : junk = [] := List.length_eq_zero_iff.mp (hjunk.trans (Nat.sub_self _))
    rw [List.append_nil] at henc
    cases henc with
    | null => exact .null hio
    | _ => simp_all

lemma RecordParts.stream {x : StreamCipher K} (hio : alg.cipher.io = .stream x)
    (hlaw : CipherLaw alg d.implicitIv paired) (hpair : paired d.sequenceNumber d.key k')
    (hpay : payload.length ≤ 2 ^ 14) :
    RecordParts alg version hv ct d d [] [] payload 0
      (payload.length + d.recordMac.alg.digestSize) []
      (payload ++ d.recordMacOf version hv ct payload) where
  skip_eq := rfl
  fits := by rw [List.length_append, CryptoSide.recordMacOf_length]
  tag_le x hx := by rw [hio] at hx; cases hx
  encrypts _ junk hjunk := by
    obtain rfl : junk = [] := List.length_eq_zero_iff.mp (by simpa using hjunk)
    have hdig := HmacAlg.digestSize_le d.recordMac.alg
    rw [CipherLaw, hio] at hlaw
    obtain ⟨k₁, -, en, henc, -⟩ := hlaw _ d.key k' (payload ++ d.recordMacOf version hv ct payload) hpair
      (by rw [List.length_append, CryptoSide.recordMacOf_length]; omega)
    rw [hio, List.append_nil, CipherIo.Encrypts, henc]
    exact Option.some_ne_none _
  isSealed junk d' en' hjunk henc := by
    obtain rfl : junk = [] := List.length_eq_zero_iff.mp (by simpa using hjunk)
    rw [List.append_nil] at henc
    cases henc with
    | stream h henc =>
      obtain rfl : x = _ := by simpa [hio] using h
      exact .stream hio henc
    | _ => simp_all

lemma CipherLaw.cbc_encrypts {v : ℕ → UInt8} (hio : alg.cipher.io = .cbc x) (hlaw : CipherLaw alg v paired) {k : K}
    {m : SequenceNumber} (hpair : paired m k k') {iv aad en : List UInt8} (hiv : iv.length = x.blockSize)
    (hlen : en.length < 2 ^ 15) (hdvd : x.blockSize ∣ en.length) (hne : 0 < en.length) :
    alg.cipher.io.Encrypts k iv aad en := by
  rw [CipherLaw, hio] at hlaw
  obtain ⟨k₁, -, en', henc, -⟩ := hlaw m k k' iv en hpair hiv hlen hdvd
  rw [hio]
  refine ⟨?_, Nat.le_of_dvd hne hdvd⟩
  rw [henc]
  exact Option.some_ne_none _

lemma cbcPlaintext_length (version hv : ℕ) (ct : ContentType)
    (payload : List UInt8) (pad : ℕ) :
    (payload ++ d.recordMacOf version hv ct payload ++ cbcPadding pad).length =
      payload.length + d.recordMac.alg.digestSize + pad + 1 := by
  simp [cbcPadding]
  omega

variable {d₂ : CryptoSide K}

/-- The parts with a block cipher: what is left to show is that the result is a protected record. -/
lemma RecordParts.cbc {iv a : List UInt8} {skip pad : ℕ}
    (hio : alg.cipher.io = .cbc x) (hlaw : CipherLaw alg d.implicitIv paired)
    (hpair : paired d.sequenceNumber d₂.key k') (hpay : payload.length ≤ 2 ^ 14) (hiv : iv.length = x.blockSize)
    (hpad : pad < x.blockSize)
    (hdvd : x.blockSize ∣ payload.length + d.recordMac.alg.digestSize + (pad + 1)) (hskip : a.length = skip)
    (hsealed : ∀ d' en', Encrypted alg version iv [] d₂.advance
        (payload ++ d.recordMacOf version hv ct payload ++ cbcPadding pad) d' en' →
      Sealed alg version hv ct d payload d' (a ++ en')) :
    RecordParts alg version hv ct d d₂ iv [] payload skip
      (payload.length + d.recordMac.alg.digestSize + pad + 1) a
      (payload ++ d.recordMacOf version hv ct payload ++ cbcPadding pad) where
  skip_eq := hskip
  fits := (cbcPlaintext_length ..).le
  tag_le x hx := by rw [hio] at hx; cases hx
  encrypts _ junk hjunk := by
    have hdig := HmacAlg.digestSize_le d.recordMac.alg
    obtain ⟨-, -, -, hblock⟩ := RecordAlg.wellFormed_of hio
    rw [cbcPlaintext_length, Nat.sub_self] at hjunk
    obtain rfl := List.length_eq_zero_iff.mp hjunk
    rw [List.append_nil]
    refine hlaw.cbc_encrypts hio hpair hiv ?_ ?_ ?_ <;> rw [cbcPlaintext_length]
    · omega
    · exact hdvd
    · omega
  isSealed junk d' en' hjunk henc := by
    rw [cbcPlaintext_length, Nat.sub_self] at hjunk
    obtain rfl := List.length_eq_zero_iff.mp hjunk
    rw [List.append_nil] at henc
    exact hsealed d' en' henc

lemma recordAad_length {x : AeadCipher K} {aad : List UInt8} {n : ℕ}
    (h : recordAad alg x version d.seq ct n = .ok aad) : aad.length < 2 ^ 15 := by
  have hseq : d.seq.length = 8 := d.sequenceNumber.bytes_length
  unfold recordAad tls13AeadAad at h
  split_ifs at h <;> cases h <;> simp [aeadAad, versionBytes, hseq]

lemma RecordParts.aead {x : AeadCipher K} {iv aad : List UInt8} (hio : alg.cipher.io = .aead x)
    (hlaw : CipherLaw alg d.implicitIv paired) (hpair : paired d.sequenceNumber d.key k')
    (hpay : payload.length ≤ 2 ^ 14)
    (hiv : aeadNonce alg.flags x.fixedIvSize d.implicitIv d.seq d.seq = .ok iv)
    (haad : recordAad alg x version d.seq ct payload.length = .ok aad) :
    RecordParts alg version hv ct d d iv aad payload
      (if alg.flags = .tls12AesGcm then d.seq else []).length
      (payload.length + x.tagSize + if alg.isTls13Record then 1 else 0)
      (if alg.flags = .tls12AesGcm then d.seq else [])
      (payload ++ if alg.isTls13Record then [ct] else []) := by
  obtain ⟨e, he⟩ : ∃ e, payload ++ (if alg.isTls13Record then [ct] else []) = e := ⟨_, rfl⟩
  have hlen : payload.length + x.tagSize + (if alg.isTls13Record then 1 else 0) = e.length + x.tagSize := by
    rw [← he]
    split <;> simp
    omega
  have helen : e.length < 2 ^ 15 := by
    rw [← he]
    split <;> simp <;> omega
  rw [hlen, he]
  -- the tag takes the place of the memory after `e`
  have htake : ∀ junk : List UInt8, junk.length = e.length + x.tagSize - e.length →
      (e ++ junk).take ((e ++ junk).length - x.tagSize) = e := by
    intro junk hjunk
    exact List.take_left' (by rw [List.length_append]; omega)
  refine ⟨rfl, Nat.le_add_right _ _, fun y hy => ?_, fun hnum junk hjunk => ?_, fun junk d' en' hjunk henc => ?_⟩
  · obtain rfl : x = y := by simpa [hio] using hy
    exact Nat.le_add_left _ _
  · rw [CipherLaw, hio] at hlaw
    obtain ⟨k₁, -, en, henc, -⟩ := hlaw _ d.key k' iv aad e hpair hnum hiv (recordAad_length haad) helen
    rw [hio, CipherIo.Encrypts, htake junk hjunk, henc]
    exact Option.some_ne_none _
  · cases henc with
    | aead h henc =>
      obtain rfl : x = _ := by simpa [hio] using h
      rw [htake junk hjunk, ← he] at henc
      exact .aead hio hiv haad henc
    | _ => simp_all

lemma RecordParts.composite {x : CompositeCipher K} {k₁ : K} {m : ℕ} {iv front : List UInt8}
    {v : ℕ → UInt8} (hio : alg.cipher.io = .composite x) (hlaw : CipherLaw alg d.implicitIv paired)
    (hpair : paired d.sequenceNumber d.key k') (hsup : alg.Supports version) (hpay : payload.length ≤ 2 ^ 14)
    (hstart : x.initialHmac d.key d.seq ct.toNat version
      (payload.length + eivSize version x.blockSize) = some (k₁, m))
    (hivLen : iv.length = x.blockSize) (hiv : version ≤ tls10 → iv = slice d.implicitIv 0 x.blockSize)
    (hfront : front.length = eivSize version x.blockSize)
    (hover : ∀ bs : List UInt8, bs.length = x.blockSize → overwrite v 0 bs = overwrite d.implicitIv 0 bs) :
    RecordParts alg version hv ct d { d with key := k₁, implicitIv := v } iv [] payload
      0 (front.length + payload.length + m) [] (front ++ payload) := by
  rw [CipherLaw, hio] at hlaw
  obtain ⟨k₂, k₂', pad, hpad, hdvd, hstart', -, hcrypt⟩ :=
    hlaw _ d.key k' ct version payload hpair hsup hpay
  obtain ⟨rfl, rfl⟩ := Prod.mk.inj (Option.some.inj (hstart.symm.trans hstart'))
  have hblock : x.blockSize ≤ payload.length + (x.macKeySize + (pad + 1)) :=
    Nat.le_of_dvd (by omega) hdvd
  have hback : ∀ junk : List UInt8, junk.length = front.length + payload.length +
      (x.macKeySize + (pad + 1)) - (front ++ payload).length →
      junk.length = x.macKeySize + (pad + 1) := by
    intro junk h
    rw [h, List.length_append]
    omega
  refine ⟨rfl, by rw [List.length_append]; omega, fun y hy => by simp [hio] at hy,
    fun _ junk hjunk => ?_, fun junk d' en' hjunk henc => ?_⟩
  · obtain ⟨k₃, -, en, -, -, henc, -⟩ := hcrypt iv iv front junk hivLen hivLen (fun _ => rfl) hfront
      (hback junk hjunk)
    rw [hio]
    refine ⟨?_, by simp [hback junk hjunk]; omega⟩
    rw [henc]
    exact Option.some_ne_none _
  · cases henc with
    | composite h henc =>
      obtain rfl : x = _ := by simpa [hio] using h
      have hen := x.encrypt_length henc
      have hlast : (en'.drop (en'.length - x.blockSize)).length = x.blockSize := by
        rw [List.length_drop, hen]
        simp only [List.length_append, hback junk hjunk]
        omega
      have hsealed : Sealed alg version hv ct d payload _ en' :=
        .composite hio hstart hivLen hiv hfront (hback junk hjunk) henc
      rw [← hover _ hlast, hen] at hsealed
      exact hsealed
    | _ => simp_all

/-- How many bytes a composite cipher takes for a record. -/
lemma CipherLaw.initialHmac_eq {x : CompositeCipher K} {v : ℕ → UInt8} (hlaw : CipherLaw alg v paired)
    (hio : alg.cipher.io = .composite x) (hpair : paired d.sequenceNumber d.key k') (hsup : alg.Supports version)
    (hn : n ≤ 2 ^ 14) (ct : ContentType) :
    ∃ k₁ pad, pad < x.blockSize ∧ x.initialHmac d.key d.seq ct.toNat version (n + eivSize version x.blockSize) =
      some (k₁, x.macKeySize + (pad + 1)) := by
  rw [CipherLaw, hio] at hlaw
  obtain ⟨k₁, -, pad, hpad, -, hstart, -⟩ := hlaw _ d.key k' ct version (List.replicate n 0) hpair hsup
    (by rwa [List.length_replicate])
  rw [List.length_replicate] at hstart
  exact ⟨k₁, pad, hpad, hstart⟩

lemma CipherLaw.initialHmac_le {x : CompositeCipher K} {k₁ : K} {v : ℕ → UInt8} {m : ℕ}
    (hlaw : CipherLaw alg v paired) (hio : alg.cipher.io = .composite x) (hpair : paired d.sequenceNumber d.key k')
    (hsup : alg.Supports version) (hn : n ≤ 2 ^ 14)
    (hstart : x.initialHmac d.key d.seq ct.toNat version (n + eivSize version x.blockSize) = some (k₁, m)) :
    m ≤ x.macKeySize + x.blockSize := by
  obtain ⟨k₂, pad, hpad, heq⟩ := hlaw.initialHmac_eq hio hpair hsup hn ct
  obtain ⟨-, rfl⟩ : k₁ = k₂ ∧ m = x.macKeySize + (pad + 1) := by simpa [hstart] using heq
  omega

lemma HmacStarted.same {m : ℕ} {d₁ : CryptoSide K} (h : HmacStarted alg version ct n d m d₁) :
    d₁.recordMac = d.recordMac ∧ d₁.sequenceNumber = d.sequenceNumber := by
  cases h <;> exact ⟨rfl, rfl⟩

lemma RecordAlg.isTls13Record_eq_false (h : alg.flags = .none) : alg.isTls13Record = false := by
  rw [RecordAlg.isTls13Record, h]
  rfl

lemma RecordAlg.flags_of_isNull (h : alg.cipher.io.isNull = true) : alg.flags = .none := by
  cases hio : alg.cipher.io with
  | null => exact (wellFormed_of hio).2
  | stream _ | cbc _ | aead _ | composite _ =>
    rw [hio] at h
    cases h

variable {iv aad explicit : List UInt8}

lemma IvWritten.same
    (h : IvWritten alg version ct n d iv aad explicit d₂) :
    d₂.recordMac = d.recordMac ∧ d₂.sequenceNumber = d.sequenceNumber := by
  cases h <;> exact ⟨rfl, rfl⟩

lemma IvWritten.explicit_length_le
    (h : IvWritten alg version ct n d iv aad explicit d₂) : explicit.length ≤ 16 := by
  have hseq : d.seq.length = 8 := d.sequenceNumber.bytes_length
  cases h with
  | none | stream | cbcChained | compositeChained => exact Nat.zero_le _
  | aead => split <;> simp [hseq]
  | cbcExplicit hio _ hlen =>
    obtain ⟨-, -, -, hblock⟩ := RecordAlg.wellFormed_of hio
    omega
  | compositeExplicit hio _ _ hlen =>
    obtain ⟨-, -, hblock, -⟩ := RecordAlg.wellFormed_of hio
    omega

lemma CryptoSide.explicitNonce_length {x : AeadCipher K} (hio : alg.cipher.io = .aead x) :
    (if alg.flags = .tls12AesGcm then d.seq else []).length = x.recordIvSize := by
  have hseq : d.seq.length = 8 := d.sequenceNumber.bytes_length
  obtain ⟨-, -, ⟨hf, -, hr⟩ | ⟨hf | hf, -, hr⟩⟩ := RecordAlg.wellFormed_of hio <;> rw [hf, hr] <;> simp [hseq]

lemma cbc_padding (n extra : ℕ) (hpos : 0 < x.blockSize) (hextra : x.blockSize ∣ extra) :
    (CipherIo.cbc x).padding (n + extra) < x.blockSize ∧
      x.blockSize ∣ n + (CipherIo.cbc x).padding (n + extra) := by
  obtain ⟨q, rfl⟩ := hextra
  have hmod := Nat.mod_lt n hpos
  have hdiv := Nat.div_add_mod n x.blockSize
  simp only [CipherIo.padding, Nat.add_mul_mod_self_left]
  by_cases h : n % x.blockSize = 0
  · rw [if_neg (not_not.mpr h)]
    exact ⟨hpos, Nat.dvd_of_mod_eq_zero h⟩
  · rw [if_pos h]
    refine ⟨by omega, n / x.blockSize + 1, ?_⟩
    rw [Nat.mul_add, Nat.mul_one]
    omega

end Parts

/-- What the source computes for a record before it is laid out: the padding, what it takes
besides payload and padding, and how it is cut for the encryption. -/
def recordSizes (c : Conn K) (n m : ℕ) : ℕ × ℕ × (ℕ × ℕ) :=
  let alg := c.writeSuite.recordAlg
  let padding := alg.cipher.io.padding (n + tlsRecordOverhead c)
  let extra := (tlsRecordOverhead c + m + if alg.isTls13Record then 1 else 0) % 2 ^ 16
  (padding, extra, recordEncryptedPart c alg n alg.hmacAlg.digestSize padding extra)

/-- **The two computations of the length agree**, and the bytes laid out for the record have the
parts that make a protected record. -/
structure RecordFits (c : Conn K) (hv : ℕ) (ct : ContentType) (d d₂ : CryptoSide K)
    (iv aad explicit payload : List UInt8)
    (sizes : ℕ × ℕ × (ℕ × ℕ)) : Prop where
  parts : ∃ a e, explicit ++ payload ++ d.recordMacOf c.actualProtocolVersion hv
      (recordType c.writeSuite.recordAlg.isTls13Record ct) payload ++
      trailerBytes c.writeSuite.recordAlg ct sizes.1 = a ++ e ∧
    RecordParts c.writeSuite.recordAlg c.actualProtocolVersion hv ct d d₂ iv aad payload
      sizes.2.2.1 sizes.2.2.2 a e
  length_eq : sizes.2.2.1 + sizes.2.2.2 = payload.length + sizes.1 + sizes.2.1
  padding_lt : sizes.1 < 16
  length_le : sizes.2.2.1 + sizes.2.2.2 ≤ payload.length + 112

section Fits

variable {c : Conn K} {hv m : ℕ} {d d₁ d₂ : CryptoSide K}
  {payload iv aad explicit : List UInt8}

lemma recordSizes_le (hlaw : CipherLaw c.writeSuite.recordAlg d.implicitIv paired)
    (hpair : paired d.sequenceNumber d.key k') (hsup : c.writeSuite.recordAlg.Supports c.actualProtocolVersion)
    (hn : n ≤ 2 ^ 14)
    (hstart : HmacStarted c.writeSuite.recordAlg c.actualProtocolVersion ct n d m d₁) :
    (recordSizes c n m).1 + (recordSizes c n m).2.1 ≤ 112 := by
  have hdig := HmacAlg.digestSize_le c.writeSuite.recordAlg.hmacAlg
  have hone : (if c.writeSuite.recordAlg.isTls13Record then 1 else 0) ≤ 1 := by split <;> omega
  have hmod := Nat.mod_le (tlsRecordOverhead c + m +
    if c.writeSuite.recordAlg.isTls13Record then 1 else 0) (2 ^ 16)
  simp only [recordSizes]
  cases hstart with
  | none hne =>
    cases hio : c.writeSuite.recordAlg.cipher.io with
    | null | stream =>
      simp only [tlsRecordOverhead, hio, CipherIo.padding] at hmod ⊢
      omega
    | aead x =>
      obtain ⟨-, htag, ⟨-, -, hr⟩ | ⟨-, -, hr⟩⟩ := RecordAlg.wellFormed_of hio
      all_goals
        simp only [tlsRecordOverhead, hio, CipherIo.padding] at hmod ⊢
        omega
    | cbc x =>
      obtain ⟨-, -, hrecIv, hblock⟩ := RecordAlg.wellFormed_of hio
      have hpad : (CipherIo.cbc x).padding (n + tlsRecordOverhead c) < 16 := by
        unfold CipherIo.padding
        dsimp only
        split <;> omega
      have hiv : (if c.actualProtocolVersion > tls10 then x.recordIvSize else 0) ≤ 16 := by
        split <;> omega
      have hover : tlsRecordOverhead c ≤ 81 := by
        simp only [tlsRecordOverhead, hio]
        omega
      omega
    | composite x => exact absurd hio (hne x)
  | @composite x k m hio hcall =>
    obtain ⟨hnone, -, hblock, hrecIv, hkey⟩ := RecordAlg.wellFormed_of hio
    have hm := hlaw.initialHmac_le hio hpair hsup hn hcall
    have hzero : HmacAlg.none.digestSize = 0 := rfl
    have hover : tlsRecordOverhead c ≤ 16 := by
      simp only [tlsRecordOverhead, hio, hnone, hzero]
      split <;> omega
    simp only [hio, CipherIo.padding]
    omega

variable (hmac : d.recordMac.alg = c.writeSuite.recordAlg.hmacAlg)
include hmac

lemma recordFits_null (hio : c.writeSuite.recordAlg.cipher.io = .null) :
    RecordFits c hv ct d d [] [] [] payload (recordSizes c payload.length 0) := by
  obtain ⟨hnone, hflags⟩ := RecordAlg.wellFormed_of hio
  have hrec := RecordAlg.isTls13Record_eq_false hflags
  have hsizes : recordSizes c payload.length 0 = (0, 0, 0, payload.length) := by
    have hzero : HmacAlg.none.digestSize = 0 := rfl
    simp [recordSizes, tlsRecordOverhead, recordEncryptedPart, CipherIo.padding, hio, hnone, hrec, hzero]
  rw [hsizes]
  refine ⟨⟨[], payload, ?_, .null hio⟩, ?_, ?_, ?_⟩ <;> dsimp only
  · rw [CryptoSide.recordMacOf_none (hmac.trans hnone)]
    simp [trailerBytes, hio, hrec]
  all_goals omega

lemma recordSizes_cbc (hio : c.writeSuite.recordAlg.cipher.io = .cbc x) (n : ℕ) :
    ∃ pad, pad < x.blockSize ∧ x.blockSize ∣ n + d.recordMac.alg.digestSize + (pad + 1) ∧
      recordSizes c n 0 = (pad, d.recordMac.alg.digestSize + 1 + eivSize c.actualProtocolVersion x.blockSize,
        eivSize c.actualProtocolVersion x.blockSize, n + d.recordMac.alg.digestSize + pad + 1) := by
  obtain ⟨-, hflags, hrecIv, hblock⟩ := RecordAlg.wellFormed_of hio
  have hrec := RecordAlg.isTls13Record_eq_false hflags
  have hdig := HmacAlg.digestSize_le d.recordMac.alg
  have heiv : eivSize c.actualProtocolVersion x.blockSize ≤ x.blockSize ∧
      x.blockSize ∣ eivSize c.actualProtocolVersion x.blockSize := by
    unfold eivSize
    split
    · exact ⟨le_rfl, dvd_rfl⟩
    · exact ⟨Nat.zero_le _, dvd_zero _⟩
  obtain ⟨hpad, hdvd⟩ := cbc_padding (x := x) (n + d.recordMac.alg.digestSize + 1)
    (eivSize c.actualProtocolVersion x.blockSize) (by omega) heiv.2
  refine ⟨_, hpad, ?_, ?_⟩
  · rwa [Nat.add_assoc, Nat.add_comm 1, ← Nat.add_assoc] at hdvd
  · have hmod : (d.recordMac.alg.digestSize + 1 + eivSize c.actualProtocolVersion x.blockSize) %
        2 ^ 16 = d.recordMac.alg.digestSize + 1 + eivSize c.actualProtocolVersion x.blockSize :=
      Nat.mod_eq_of_lt (by omega)
    have hover : tlsRecordOverhead c = d.recordMac.alg.digestSize + 1 +
        eivSize c.actualProtocolVersion x.blockSize := by
      simp only [tlsRecordOverhead, hio, hrecIv, hmac]
      rfl
    simp only [recordSizes, recordEncryptedPart, hio, hrec, hover, ← hmac, ← Nat.add_assoc,
      Nat.add_zero, hmod, if_false, Bool.false_eq_true]
    rfl

lemma recordFits_cbc (hio : c.writeSuite.recordAlg.cipher.io = .cbc x)
    (hparts : ∀ pad, pad < x.blockSize → x.blockSize ∣ payload.length + d.recordMac.alg.digestSize + (pad + 1) →
      RecordParts c.writeSuite.recordAlg c.actualProtocolVersion hv ct d d₂ iv [] payload
        (eivSize c.actualProtocolVersion x.blockSize) (payload.length + d.recordMac.alg.digestSize + pad + 1)
        explicit (payload ++ d.recordMacOf c.actualProtocolVersion hv ct payload ++ cbcPadding pad)) :
    RecordFits c hv ct d d₂ iv [] explicit payload (recordSizes c payload.length 0) := by
  obtain ⟨-, hflags, -, hblock⟩ := RecordAlg.wellFormed_of hio
  have hrec := RecordAlg.isTls13Record_eq_false hflags
  have hdig := HmacAlg.digestSize_le d.recordMac.alg
  have heiv : eivSize c.actualProtocolVersion x.blockSize ≤ x.blockSize := by
    unfold eivSize
    split <;> omega
  obtain ⟨pad, hpad, hdvd, hsizes⟩ := recordSizes_cbc hmac hio payload.length
  rw [hsizes]
  refine ⟨⟨explicit, payload ++ d.recordMacOf c.actualProtocolVersion hv ct payload ++ cbcPadding pad, ?_,
    hparts pad hpad hdvd⟩, ?_, ?_, ?_⟩ <;> dsimp only
  · simp [trailerBytes, recordType, hio, hrec]
  all_goals omega

variable (hlaw : CipherLaw c.writeSuite.recordAlg d.implicitIv paired) (hpair : paired d.sequenceNumber d.key k')
  (hpay : payload.length ≤ 2 ^ 14)
include hlaw hpair hpay

lemma recordFits_stream {x : StreamCipher K} (hio : c.writeSuite.recordAlg.cipher.io = .stream x) :
    RecordFits c hv ct d d [] [] [] payload (recordSizes c payload.length 0) := by
  have hrec := RecordAlg.isTls13Record_eq_false (RecordAlg.wellFormed_of hio).2
  have hdig := HmacAlg.digestSize_le d.recordMac.alg
  have hsizes : recordSizes c payload.length 0 = (0, d.recordMac.alg.digestSize, 0,
      payload.length + d.recordMac.alg.digestSize) := by
    simp [recordSizes, tlsRecordOverhead, recordEncryptedPart, CipherIo.padding, hio, hrec, hmac]
    rw [← hmac]
    omega
  rw [hsizes]
  refine ⟨⟨[], payload ++ d.recordMacOf c.actualProtocolVersion hv ct payload, ?_,
    .stream hio hlaw hpair hpay⟩, ?_, ?_, ?_⟩ <;> dsimp only
  · simp [trailerBytes, recordType, hio, hrec]
  all_goals omega

lemma recordFits_cbcExplicit (hio : c.writeSuite.recordAlg.cipher.io = .cbc x)
    (hver : tls10 < c.actualProtocolVersion) (hiv : iv.length = x.blockSize) :
    RecordFits c hv ct d { d with implicitIv := overwrite d.implicitIv 0 iv } iv [] iv payload
      (recordSizes c payload.length 0) := by
  refine recordFits_cbc hmac hio fun pad hpad hdvd => ?_
  rw [eivSize, if_pos hver]
  refine .cbc hio hlaw hpair hpay hiv hpad hdvd hiv fun d' en' henc => ?_
  cases henc with
  | cbcExplicit h _ henc =>
    obtain rfl : x = _ := by simpa [hio] using h
    exact .cbcExplicit hio hver hiv hpad hdvd henc
  | cbcChained _ hle _ => omega
  | _ => simp_all

lemma recordFits_cbcChained (hio : c.writeSuite.recordAlg.cipher.io = .cbc x)
    (hver : c.actualProtocolVersion ≤ tls10) :
    RecordFits c hv ct d d (slice d.implicitIv 0 x.blockSize) [] [] payload
      (recordSizes c payload.length 0) := by
  refine recordFits_cbc hmac hio fun pad hpad hdvd => ?_
  rw [eivSize, if_neg (Nat.not_lt.mpr hver)]
  refine .cbc hio hlaw hpair hpay (slice_length _ _ _) hpad hdvd rfl fun d' en' henc => ?_
  cases henc with
  | cbcExplicit _ hlt _ => omega
  | cbcChained h _ henc =>
    obtain rfl : x = _ := by simpa [hio] using h
    rw [← x.encrypt_length henc]
    exact .cbcChained hio hver hpad hdvd henc
  | _ => simp_all

lemma recordFits_aead {x : AeadCipher K} (hio : c.writeSuite.recordAlg.cipher.io = .aead x)
    (hiv : aeadNonce c.writeSuite.recordAlg.flags x.fixedIvSize d.implicitIv d.seq d.seq = .ok iv)
    (haad : recordAad c.writeSuite.recordAlg x c.actualProtocolVersion d.seq ct payload.length = .ok aad) :
    RecordFits c hv ct d d iv aad
      (if c.writeSuite.recordAlg.flags = .tls12AesGcm then d.seq else []) payload
      (recordSizes c payload.length 0) := by
  obtain ⟨hnone, htag, hnonce⟩ := RecordAlg.wellFormed_of hio
  have hle : x.recordIvSize ≤ 8 := by
    obtain ⟨-, -, hr⟩ | ⟨-, -, hr⟩ := hnonce <;> omega
  obtain ⟨one, hone⟩ : ∃ one, (if c.writeSuite.recordAlg.isTls13Record then 1 else 0) = one :=
    ⟨_, rfl⟩
  have hone_le : one ≤ 1 := by rw [← hone]; split <;> omega
  have hsizes : recordSizes c payload.length 0 = (0, x.tagSize + x.recordIvSize + one,
      x.recordIvSize, payload.length + x.tagSize + one) := by
    have hzero : HmacAlg.none.digestSize = 0 := rfl
    have hmod : (x.tagSize + x.recordIvSize + one) % 2 ^ 16 = x.tagSize + x.recordIvSize + one :=
      Nat.mod_eq_of_lt (by omega)
    simp only [recordSizes, tlsRecordOverhead, recordEncryptedPart, CipherIo.padding, hio, hnone,
      hzero, hone, Nat.zero_add, Nat.add_zero, hmod]
  have hparts : RecordParts c.writeSuite.recordAlg c.actualProtocolVersion hv ct d d iv aad payload
    _ _ _ _ := .aead hio hlaw hpair hpay hiv haad
  rw [d.explicitNonce_length hio, hone] at hparts
  rw [hsizes]
  refine ⟨⟨_, _, ?_, hparts⟩, ?_, ?_, ?_⟩ <;> dsimp only
  · rw [CryptoSide.recordMacOf_none (hmac.trans hnone)]
    simp [trailerBytes, hio]
  all_goals omega

variable (hsup : c.writeSuite.recordAlg.Supports c.actualProtocolVersion)
include hsup

lemma recordFits_composite {x : CompositeCipher K} {k₁ : K} {front : List UInt8} {v : ℕ → UInt8}
    (hio : c.writeSuite.recordAlg.cipher.io = .composite x)
    (hstart : x.initialHmac d.key d.seq ct.toNat c.actualProtocolVersion
      (payload.length + eivSize c.actualProtocolVersion x.blockSize) = some (k₁, m))
    (hivLen : iv.length = x.blockSize)
    (hiv : c.actualProtocolVersion ≤ tls10 → iv = slice d.implicitIv 0 x.blockSize)
    (hfront : front.length = eivSize c.actualProtocolVersion x.blockSize)
    (hover : ∀ bs : List UInt8, bs.length = x.blockSize → overwrite v 0 bs = overwrite d.implicitIv 0 bs) :
    RecordFits c hv ct d { d with key := k₁, implicitIv := v } iv [] front payload
      (recordSizes c payload.length m) := by
  obtain ⟨hnone, hflags, hblock, hrecIv, hkey⟩ := RecordAlg.wellFormed_of hio
  have hrec := RecordAlg.isTls13Record_eq_false hflags
  have hm := hlaw.initialHmac_le hio hpair hsup hpay hstart
  have heiv : eivSize c.actualProtocolVersion x.blockSize ≤ 16 := by
    unfold eivSize
    split <;> omega
  have hsizes : recordSizes c payload.length m = (0, front.length + m, 0,
      front.length + payload.length + m) := by
    have hzero : HmacAlg.none.digestSize = 0 := rfl
    have hmod : (front.length + m) % 2 ^ 16 = front.length + m := Nat.mod_eq_of_lt (by omega)
    have hoverhead : tlsRecordOverhead c = front.length := by
      simp only [tlsRecordOverhead, hio, hnone, hzero, hrecIv, hfront, hblock, eivSize, Nat.zero_add]
    simp only [recordSizes, recordEncryptedPart, CipherIo.padding, hio, hnone, hrec,
      hzero, hoverhead, Nat.add_zero, hmod, if_false, Bool.false_eq_true]
    rw [← Nat.add_assoc, Nat.add_comm payload.length]
  rw [hsizes]
  refine ⟨⟨[], front ++ payload, ?_, .composite hio hlaw hpair hsup hpay hstart hivLen hiv hfront hover⟩, ?_, ?_, ?_⟩
    <;> dsimp only
  · rw [CryptoSide.recordMacOf_none (hmac.trans hnone)]
    simp [trailerBytes, hio, hrec]
  all_goals omega

lemma recordFits (hstart : HmacStarted c.writeSuite.recordAlg c.actualProtocolVersion ct payload.length d m d₁)
    (hiv : IvWritten c.writeSuite.recordAlg c.actualProtocolVersion ct payload.length d₁ iv aad explicit d₂) :
    RecordFits c hv ct d d₂ iv aad explicit payload (recordSizes c payload.length m) := by
  cases hstart with
  | none hne =>
    cases hiv with
    | none hio => exact recordFits_null hmac hio
    | stream hio => exact recordFits_stream hmac hlaw hpair hpay hio
    | cbcExplicit hio hver hlen => exact recordFits_cbcExplicit hmac hlaw hpair hpay hio hver hlen
    | cbcChained hio hver => exact recordFits_cbcChained hmac hlaw hpair hpay hio hver
    | aead hio hnonce haad => exact recordFits_aead hmac hlaw hpair hpay hio hnonce haad
    | compositeExplicit hio => exact absurd hio (hne _)
    | compositeChained hio => exact absurd hio (hne _)
  | composite hio hcall =>
    cases hiv with
    | compositeExplicit hio' hver hlen hfront =>
      obtain rfl := CipherIo.composite.inj (hio.symm.trans hio')
      refine recordFits_composite hmac hlaw hpair hpay hsup hio hcall hlen (fun h => by omega)
        (by rw [hfront, eivSize, if_pos hver]) fun bs hbs => ?_
      exact overwrite_overwrite_of_length (hlen.trans hbs.symm)
    | compositeChained hio' hver =>
      obtain rfl := CipherIo.composite.inj (hio.symm.trans hio')
      exact recordFits_composite hmac hlaw hpair hpay hsup hio hcall (slice_length _ _ _) (fun _ => rfl)
        (by rw [eivSize, if_neg (Nat.not_lt.mpr hver)]; rfl) fun _ _ => rfl
    | _ => simp_all

end Fits

end S2nTls
