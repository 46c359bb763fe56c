import S2nTls.Tls.InnerPlaintext
import S2nTls.Tls.RecordReadCbc
import S2nTls.Tls.RecordWritev

/-!
**The round trip of record protection.** What `s2n_record_writev` appends to the output of one end,
`s2n_record_parse` of the other end reads as the payload that was written, and both ends are in
matching states again.
-/

namespace S2nTls

open Lib Stuffer

variable {K : Type} {payload fragment : List UInt8} {paired : Pairing K} {x : ReaderState K} {rt : ContentType}
  {ct : ContentType} {r : ParamsRef} {hv len : ℕ}

/-! ### The header -/

section Header

variable {R : Err → Conn K → Prop} {c : Conn K} {fragment : List UInt8}

lemma versionBytes_value {v : ℕ} (h : v < 256) :
    (((versionBytes v).getD 0 0).toNat * 10 + ((versionBytes v).getD 1 0).toNat) % 2 ^ 8 = v := by
  have h₁ : (UInt8.ofNat (v / 10)).toNat = v / 10 := Nat.mod_eq_of_lt (by omega)
  have h₂ : (UInt8.ofNat (v % 10)).toNat = v % 10 := Nat.mod_eq_of_lt (by omega)
  simp only [versionBytes, List.getD_cons_zero, List.getD_cons_succ, h₁, h₂]
  omega

lemma wp_recordHeaderParse {Q : ContentType × ℕ → Conn K → Prop} (hlen : len < 2 ^ 16)
    (hhv : hv < 256)
    (hload : Loaded x.recv (recordHeader rt hv len) fragment)
    (hver : c.actualProtocolVersionEstablished = true → min c.actualProtocolVersion tls12 = hv)
    (hok : ∀ s, Loaded s (recordHeader rt hv len) fragment →
      Q (rt, len) (c.withReader r { x with recv := s })) :
    wp recordHeaderParse Q R (c.withReader r x) := by
  have hh := hload.header_available
  rw [recordHeader_length] at hh
  have hnull := isNull_eq_false_of_pos (show 0 < x.recv.headerIn.dataAvailable by rw [hh]; decide)
  unfold recordHeaderParse
  rw [wp_read]
  refine wp_ensured (by rw [withReader_recv, hh]) ?_
  have hun : x.recv.headerIn.unread = [rt] ++ (versionBytes hv ++ (beBytes 2 len ++ [])) := by
    rw [hload.header_eq, recordHeader, List.append_nil, List.append_assoc]
  rw [wp_bind, wp_onHeaderIn_withReader]
  refine wp_readBytes_append hun hnull fun t₁ hun₁ hb₁ hw₁ => ?_
  rw [wp_bind, wp_onHeaderIn_withReader]
  refine wp_readBytes_append hun₁ (by rw [hb₁]; exact hnull) fun t₂ hun₂ hb₂ hw₂ => ?_
  dsimp only
  rw [versionBytes_value hhv, wp_update]
  have hrecorded : ∀ s : RecvState, ∃ s' : RecvState,
      (if (c.withReader r { x with recv := s }).recv.recordVersionRecorded = true then
        c.withReader r { x with recv := s }
      else
        { c.withReader r { x with recv := s } with
          recv := { s with recordVersionRecorded := true, legacyRecordVersion := hv } }) =
        c.withReader r { x with recv := s' } ∧ s'.headerIn = s.headerIn ∧ s'.inStuffer = s.inStuffer := by
    intro s
    split
    · exact ⟨s, rfl, rfl, rfl⟩
    · exact ⟨{ s with recordVersionRecorded := true, legacyRecordVersion := hv }, rfl, rfl, rfl⟩
  obtain ⟨s, hs, hsh, hsi⟩ := hrecorded { x.recv with headerIn := t₂ }
  refine Eq.mpr (congrArg (wp _ Q R) hs) ?_
  refine wp_ensured hver ?_
  rw [wp_bind, wp_onHeaderIn_withReader, hsh, readUint, wp_bind, ← beBytes_length 2 len]
  refine wp_readBytes_append hun₂ (by rw [hb₂, hb₁]; exact hnull) fun t₃ hun₃ hb₃ hw₃ => ?_
  rw [wp_pure, wp_bind, wp_onHeaderIn_withReader, reread, wp_modify, wp_pure, beNat_beBytes,
    Nat.mod_eq_of_lt (show len < 256 ^ 2 by omega)]
  refine hok _ ⟨?_, rfl, ?_, ?_, ?_⟩
  · -- the header is there to be read again
    rw [← hload.header_eq, unread, unread, dataAvailable, dataAvailable, hload.header_start]
    show slice t₃.blob.data 0 (t₃.writeCursor - 0) = _
    rw [hb₃, hb₂, hb₁, hw₃, hw₂, hw₁]
  all_goals dsimp only; rw [hsi]
  · exact hload.input_eq
  · exact hload.input_start
  · exact hload.input_ref

end Header

/-! ### The inner content type -/

/-- **The content type of a TLS1.3 record** is the last byte of the inner plaintext. -/
lemma wp_tls13ParseRecordType {t : Stuffer} {payload : List UInt8} {ct : ContentType}
    (hun : t.unread = payload ++ [ct]) (hstart : t.readCursor = 0) (hct : ct ≠ 0)
    (hpay : payload.length ≤ 2 ^ 14) :
    wp tls13ParseRecordType (fun a u => a = ct ∧ u.unread = payload) noError t := by
  have hw : t.written = paddedPlaintext payload ct 0 := (unread_eq_written hstart).symm.trans hun
  obtain ⟨u, hrun, hu, -⟩ := tls13ParseRecordType_padded hw hct (by omega) hpay
  exact (wp_of_ok hrun).mpr ⟨rfl, hu⟩

/-! ### The record -/

@[simp] lemma withReader_readTarget (c : Conn K) (r : ParamsRef) (x : ReaderState K) (rt : ContentType) :
    (c.withReader r x).readTarget rt = c.readTarget rt := by
  simp [Conn.readTarget, Conn.withReader, isTls13PlaintextContent]

/-- **Matching ends.** `t` is ready to read what `s` writes as content type `ct`: the same version
and cipher suite, parameters in the same state, and a MAC that nothing has been fed to. While the
client does not know the version of the server, the server has not settled on one. The keys are not with the kernel. -/
structure Matching (paired : Pairing K) (ct : ContentType) (s t : Conn K) : Prop where
  mode : t.mode = s.mode.peer
  version : t.actualProtocolVersion = s.actualProtocolVersion
  suite : t.crypto.suite (t.readTarget (s.headerType ct)) = s.crypto.suite (s.writeTarget ct)
  side : SideMatch paired (s.crypto.side (s.writeTarget ct) s.mode)
    (t.crypto.side (t.readTarget (s.headerType ct)) s.mode)
  macAlg : (s.crypto.side (s.writeTarget ct) s.mode).recordMac.alg =
    (s.crypto.suite (s.writeTarget ct)).recordAlg.hmacAlg
  fresh : (s.crypto.side (s.writeTarget ct) s.mode).recordMac.Fresh
  negotiated : t.actualProtocolVersionEstablished = true →
    ¬ (s.serverProtocolVersion = versionUnknown ∧ s.headerType ct = tlsHandshake)
  initial : isTls13PlaintextContent t (s.headerType ct) = true → t.crypto.initialFreed = false
  ktls : s.send.ktlsSendEnabled = false

lemma headerVersion_of_negotiated {s : Conn K} {ct : ContentType} (hver : sslv3 ≤ s.actualProtocolVersion)
    (h : ¬ (s.serverProtocolVersion = versionUnknown ∧ s.headerType ct = tlsHandshake)) :
    s.headerVersion ct = min s.actualProtocolVersion tls12 := by
  have hne : min s.actualProtocolVersion tls12 ≠ versionUnknown := by
    unfold sslv3 at hver
    unfold versionUnknown tls12
    omega
  rw [Conn.headerVersion, recordProtocolVersion, if_neg h, if_neg hne]

lemma headerVersion_lt (s : Conn K) (ct : ContentType) : s.headerVersion ct < 256 := by
  unfold Conn.headerVersion recordProtocolVersion
  dsimp only
  generalize (if s.serverProtocolVersion = versionUnknown ∧ s.headerType ct = tlsHandshake then
    min s.actualProtocolVersion tls10 else s.actualProtocolVersion) = v
  split
  · decide
  · unfold tls12
    omega

/-! ### The fragment -/

lemma RecordAlg.Supports.isTls13Record_iff {alg : RecordAlg K} {version : ℕ} {ct rt : ContentType}
    (h : alg.Supports version) (hnull : alg.cipher.io.isNull = true → rt ≠ tlsApplicationData)
    (hrt : recordType alg.isTls13Record ct = rt) :
    alg.isTls13Record = true ↔ version = tls13 ∧ rt = tlsApplicationData := by
  have hwf := alg.wellFormed
  have hold : alg.flags = .none → version ≤ tls12 →
      (alg.isTls13Record = true ↔ version = tls13 ∧ rt = tlsApplicationData) := by
    intro hflags hle
    rw [RecordAlg.isTls13Record_eq_false hflags]
    refine ⟨fun h => absurd h Bool.false_ne_true, fun h => absurd hle ?_⟩
    rw [h.1]
    decide
  unfold RecordAlg.Supports at h
  cases hio : alg.cipher.io with
  | null =>
    rw [hio] at hwf hnull
    rw [RecordAlg.isTls13Record_eq_false hwf.2]
    exact ⟨fun h => absurd h Bool.false_ne_true, fun h => absurd h.2 (hnull rfl)⟩
  | stream y => rw [hio] at h hwf; exact hold hwf.2 h
  | cbc y => rw [hio] at h hwf; exact hold hwf.2.1 h
  | composite y => rw [hio] at h hwf; exact hold hwf.2.1 h
  | aead y =>
    rw [hio] at h
    dsimp only at h
    rw [h]
    cases hrec : alg.isTls13Record
    · simp [tls12, tls13]
    · rw [hrec] at hrt
      exact ⟨fun _ => ⟨rfl, hrt.symm⟩, fun _ => rfl⟩

/-- What the cipher protects: in TLS1.3 the content type follows the payload. -/
def innerPlaintext (alg : RecordAlg K) (ct : ContentType) (payload : List UInt8) : List UInt8 :=
  payload ++ if alg.isTls13Record then [ct] else []

/-- What was sealed lies in `conn->in`; in TLS1.3 from its start. -/
def ReadsInner (c : Conn K) (r : ParamsRef) (paired : Pairing K) (d : CryptoSide K) (ct : ContentType)
    (payload : List UInt8) (c' : Conn K) : Prop :=
  ∃ start, ReadsAs c r paired d (innerPlaintext (c.crypto.suite r).recordAlg ct payload) start c' ∧
    ((c.crypto.suite r).recordAlg.isTls13Record = true → start = 0)

section Fragment

variable {c : Conn K}
  {d d' : CryptoSide K}
variable {k : K} {en : List UInt8} {n : ℕ}

lemma SideMatch.slice_implicitIv {e : CryptoSide K} (h : SideMatch paired d e) (hn : n ≤ 16) :
    slice e.implicitIv 0 n = slice d.implicitIv 0 n :=
  slice_ext fun i hi => h.implicitIv _ (by omega)

lemma SideMatch.aeadNonce_eq {e : CryptoSide K} (h : SideMatch paired d e) {flags : NonceFlag}
    (hn : n ≤ 16) (explicit : List UInt8) (hexp : flags = .tls12AesGcm → explicit = d.seq) :
    aeadNonce flags n e.implicitIv e.seq explicit = aeadNonce flags n d.implicitIv d.seq d.seq := by
  have hseq : e.seq = d.seq := congrArg SequenceNumber.bytes h.sequenceNumber
  have hmap : ∀ bs : List UInt8, bs.mapIdx (fun i b => if i < n then b ^^^ e.implicitIv i else b) =
      bs.mapIdx fun i b => if i < n then b ^^^ d.implicitIv i else b := by
    intro bs
    congr 1
    funext i b
    split
    · rw [h.implicitIv i (by omega)]
    · rfl
  cases flags with
  | none => rfl
  | tls12AesGcm => rw [aeadNonce, aeadNonce, h.slice_implicitIv hn, hexp rfl]
  | tls12ChachaPoly | tls13 => rw [aeadNonce, aeadNonce, hseq, hmap]

variable (hs : c.Sound) (hver : sslv3 ≤ c.actualProtocolVersion)
  (hlaw : CipherLaw (c.crypto.suite r).recordAlg d.implicitIv paired) (hmatch : SideMatch paired d x.side)
  (hmac : d.recordMac.alg = (c.crypto.suite r).recordAlg.hmacAlg)
  (hnum : d.sequenceNumber.value + 1 < 2 ^ 64) (hpay : payload.length ≤ 2 ^ 14)

section Stream

include hs hver hlaw hmatch hnum hpay

include hmac in
lemma readsAs_null (hio : (c.crypto.suite r).recordAlg.cipher.io = .null)
    (hload : Loaded x.recv (recordHeader ct hv len) payload) :
    wp (recordParseStream r c.mode.peer payload.length)
      (fun _ => ReadsAs c r paired d.advance payload 0) noError (c.withReader r x) := by
  have hnone := hmac.trans (RecordAlg.wellFormed_of hio).1
  rw [CipherLaw, hio] at hlaw
  refine wp_recordParseStream hs hver hload hmatch hnum hpay ?_ ?_ (hlaw _ _ _ hmatch.key)
  · rw [hnone]
    rfl
  · intro Q R s hq
    rw [CryptoSide.recordMacOf_none hnone, List.append_nil] at hq
    rw [streamDecrypt, wp_read, withReader_suite, hio]
    exact hq

lemma readsAs_stream {y : StreamCipher K} (hio : (c.crypto.suite r).recordAlg.cipher.io = .stream y)
    (henc : y.encrypt d.key (payload ++ d.recordMacOf c.actualProtocolVersion hv ct payload) = some (k, en))
    (hload : Loaded x.recv (recordHeader ct hv len) en) :
    wp (recordParseStream r c.mode.peer en.length)
      (fun _ => ReadsAs c r paired { d.advance with key := k } payload 0) noError
      (c.withReader r x) := by
  have hdig := HmacAlg.digestSize_le d.recordMac.alg
  rw [CipherLaw, hio] at hlaw
  obtain ⟨k₁, k', en', henc', hdec, hpair⟩ := hlaw _ d.key x.side.key
    (payload ++ d.recordMacOf c.actualProtocolVersion hv ct payload) hmatch.key
    (by rw [List.length_append, CryptoSide.recordMacOf_length]; omega)
  obtain ⟨rfl, rfl⟩ := Prod.mk.inj (Option.some.inj (henc.symm.trans henc'))
  refine wp_recordParseStream hs hver hload hmatch hnum hpay ?_ ?_ hpair
  · rw [y.encrypt_length henc, List.length_append, CryptoSide.recordMacOf_length]
  · intro Q R s hq
    rw [streamDecrypt, wp_read, withReader_suite, hio]
    rwa [wp_callCipher_withReader hs hdec]

end Stream

section Cbc

include hs hver hlaw hmatch hnum hpay

lemma readsAs_cbc {y : CbcCipher K} {pad : ℕ} {explicit : List UInt8}
    (hio : (c.crypto.suite r).recordAlg.cipher.io = .cbc y)
    (hexp : explicit.length = eivSize c.actualProtocolVersion y.blockSize)
    (hpad : pad < y.blockSize)
    (hdvd : y.blockSize ∣ payload.length + d.recordMac.alg.digestSize + (pad + 1))
    (henc : y.encrypt d.key (if tls10 < c.actualProtocolVersion then explicit
        else slice d.implicitIv 0 y.blockSize)
      (payload ++ d.recordMacOf c.actualProtocolVersion hv ct payload ++ cbcPadding pad) = some (k, en))
    (hload : Loaded x.recv (recordHeader ct hv len) (explicit ++ en)) :
    wp (recordParseCbc y r c.mode.peer (explicit ++ en).length)
      (fun _ => ReadsAs c r paired { d.advance with
          key := k
          implicitIv := overwrite d.implicitIv 0 (if tls10 < c.actualProtocolVersion then explicit
            else en.drop (en.length - y.blockSize)) }
        payload explicit.length) noError (c.withReader r x) := by
  obtain ⟨-, -, hrecIv, hblock⟩ := RecordAlg.wellFormed_of hio
  have hlen : en.length = payload.length + d.recordMac.alg.digestSize + pad + 1 := by
    rw [y.encrypt_length henc, cbcPlaintext_length]
  have hdig := HmacAlg.digestSize_le d.recordMac.alg
  have hiv : (if tls10 < c.actualProtocolVersion then explicit else slice d.implicitIv 0 y.blockSize).length =
      y.blockSize := by
    split
    · rename_i h
      rw [hexp, eivSize, if_pos h]
    · exact slice_length _ _ _
  rw [CipherLaw, hio] at hlaw
  obtain ⟨k₁, k', en', henc', hdec, hpair⟩ := hlaw _ d.key x.side.key
    (if tls10 < c.actualProtocolVersion then explicit else slice d.implicitIv 0 y.blockSize)
    (payload ++ d.recordMacOf c.actualProtocolVersion hv ct payload ++ cbcPadding pad) hmatch.key hiv
    (by rw [cbcPlaintext_length]; omega) (by rw [cbcPlaintext_length]; exact hdvd)
  obtain ⟨rfl, rfl⟩ := Prod.mk.inj (Option.some.inj (henc.symm.trans henc'))
  rw [← hmatch.slice_implicitIv (by omega)] at hdec
  exact wp_recordParseCbc hs hver hload hmatch hnum hpay hrecIv (by omega) (by omega) hexp hdec
    (by rw [hlen]; exact hdvd) hpair

end Cbc

section Aead

include hs hlaw hmatch hnum hpay

lemma readsAs_aead {y : AeadCipher K} {iv aad : List UInt8} (hver : tls12 ≤ c.actualProtocolVersion)
    (hio : (c.crypto.suite r).recordAlg.cipher.io = .aead y)
    (hiv : aeadNonce (c.crypto.suite r).recordAlg.flags y.fixedIvSize d.implicitIv d.seq d.seq = .ok iv)
    (haad : recordAad (c.crypto.suite r).recordAlg y c.actualProtocolVersion d.seq ct payload.length =
      .ok aad)
    (henc : y.encrypt d.key iv aad (innerPlaintext (c.crypto.suite r).recordAlg ct payload) = some (k, en))
    {header : List UInt8} (hload : Loaded x.recv header
      ((if (c.crypto.suite r).recordAlg.flags = .tls12AesGcm then d.seq else []) ++ en)) :
    wp (recordParseAead y r c.mode.peer (recordType (c.crypto.suite r).recordAlg.isTls13Record ct)
        ((if (c.crypto.suite r).recordAlg.flags = .tls12AesGcm then d.seq else []) ++ en).length)
      (fun _ => ReadsAs c r paired { d.advance with key := k }
        (innerPlaintext (c.crypto.suite r).recordAlg ct payload) y.recordIvSize)
      noError (c.withReader r x) := by
  obtain ⟨-, htag, hnonce⟩ := RecordAlg.wellFormed_of hio
  have hseq' : x.side.seq = d.seq := congrArg SequenceNumber.bytes hmatch.sequenceNumber
  have hfix : y.fixedIvSize ≤ 16 := by
    obtain ⟨-, hr, -⟩ | ⟨-, hr, -⟩ := hnonce <;> omega
  rw [CipherLaw, hio] at hlaw
  obtain ⟨k₁, k', en', henc', hdec, hpair⟩ := hlaw _ d.key x.side.key iv aad
    (innerPlaintext (c.crypto.suite r).recordAlg ct payload) hmatch.key hnum hiv (recordAad_length haad)
    (by unfold innerPlaintext; split <;> simp <;> omega)
  obtain ⟨rfl, rfl⟩ := Prod.mk.inj (Option.some.inj (henc.symm.trans henc'))
  refine wp_recordParseAead hs hver hload hmatch hnum (d.explicitNonce_length hio) (by omega) ?_ ?_ hdec hpair
  · rw [hmatch.aeadNonce_eq hfix _ fun hf => if_pos hf]
    exact hiv
  · rw [← haad, hseq', recordAad, innerPlaintext]
    cases (c.crypto.suite r).recordAlg.isTls13Record
    · simp [recordType]
    · simp

end Aead

section Composite

include hs hlaw hmatch hmac hnum hpay

lemma readsAs_composite {y : CompositeCipher K} {k₁ : K} {iv front back : List UInt8}
    (hsup : (c.crypto.suite r).recordAlg.Supports c.actualProtocolVersion)
    (hio : (c.crypto.suite r).recordAlg.cipher.io = .composite y)
    (hstart : y.initialHmac d.key d.seq ct.toNat c.actualProtocolVersion
      (payload.length + eivSize c.actualProtocolVersion y.blockSize) = some (k₁, n))
    (hivLen : iv.length = y.blockSize) (hiv : c.actualProtocolVersion ≤ tls10 → iv = slice d.implicitIv 0 y.blockSize)
    (hfront : front.length = eivSize c.actualProtocolVersion y.blockSize) (hback : back.length = n)
    (henc : y.encrypt k₁ iv (front ++ payload ++ back) = some (k, en))
    (hload : Loaded x.recv (recordHeader ct hv len) en) :
    wp (recordParseComposite y r c.mode.peer ct en.length)
      (fun _ => ReadsAs c r paired { d.advance with
          key := k, implicitIv := overwrite d.implicitIv 0 (en.drop (en.length - y.blockSize)) }
        payload front.length) noError (c.withReader r x) := by
  obtain ⟨hnone, -, hblock, hrecIv, -⟩ := RecordAlg.wellFormed_of hio
  have hseq' : x.side.seq = d.seq := congrArg SequenceNumber.bytes hmatch.sequenceNumber
  rw [CipherLaw, hio] at hlaw
  obtain ⟨k₂, k₂', pad, hpad, hdvd, hstart', hstartR, hcrypt⟩ := hlaw _ d.key x.side.key ct
    c.actualProtocolVersion payload hmatch.key hsup hpay
  obtain ⟨rfl, rfl⟩ := Prod.mk.inj (Option.some.inj (hstart.symm.trans hstart'))
  obtain ⟨k₃, k₃', en', front', mac, henc', hdec, hfront', hmacLen, hpair⟩ :=
    hcrypt iv (slice x.side.implicitIv 0 y.blockSize) front back hivLen (slice_length _ _ _)
      (fun h => by rw [hmatch.slice_implicitIv hblock.le, hiv h]) hfront hback
  obtain ⟨rfl, rfl⟩ := Prod.mk.inj (Option.some.inj (henc.symm.trans henc'))
  have hlen : en.length = eivSize c.actualProtocolVersion y.blockSize + payload.length +
      (y.macKeySize + (pad + 1)) := by
    rw [y.encrypt_length henc, List.length_append, List.length_append, hfront, hback]
  have hdvd' : y.blockSize ∣ en.length := by
    rw [hlen, Nat.add_assoc]
    refine Nat.dvd_add ?_ hdvd
    unfold eivSize
    split
    · exact dvd_rfl
    · exact dvd_zero _
  rw [hfront.trans hfront'.symm]
  refine wp_recordParseComposite hs hload hmatch hnum (hrecIv.trans hblock.symm) (by omega) ?_ ?_ hdec
    hfront' hmacLen hdvd' hpair
  · rw [hmatch.macAlg, hmac, hnone]
    rfl
  · rw [hseq', hlen]
    exact hstartR

end Composite

variable (hsup : (c.crypto.suite r).recordAlg.Supports c.actualProtocolVersion)

include hs hver hlaw hmatch hmac hnum hpay hsup

/-- **A sealed fragment is read as what was sealed.** -/
lemma wp_recordParseFragment
    (hsealed : Sealed (c.crypto.suite r).recordAlg c.actualProtocolVersion hv ct d payload d' fragment)
    (hload : Loaded x.recv
      (recordHeader (recordType (c.crypto.suite r).recordAlg.isTls13Record ct) hv len) fragment) :
    wp (recordParseFragment (c.crypto.suite r).recordAlg.cipher.io r c.mode.peer
        (recordType (c.crypto.suite r).recordAlg.isTls13Record ct) fragment.length)
      (fun _ => ReadsInner c r paired d' ct payload)
      noError (c.withReader r x) := by
  have hwf := (c.crypto.suite r).recordAlg.wellFormed
  -- without TLS1.3 the inner plaintext is the payload
  have hplain : (c.crypto.suite r).recordAlg.flags = .none → ∀ c' start,
      ReadsAs c r paired d' payload start c' → ReadsInner c r paired d' ct payload c' := by
    intro hflags c' start h
    have hrec := RecordAlg.isTls13Record_eq_false hflags
    rw [ReadsInner, innerPlaintext, hrec, if_neg Bool.false_ne_true, List.append_nil]
    exact ⟨start, h, fun h => absurd h Bool.false_ne_true⟩
  have htype : (c.crypto.suite r).recordAlg.flags = .none →
      recordType (c.crypto.suite r).recordAlg.isTls13Record ct = ct := by
    intro hflags
    rw [RecordAlg.isTls13Record_eq_false hflags]
    rfl
  cases hsealed with
  | null hio =>
    rw [hio] at hwf ⊢
    rw [htype hwf.2] at hload
    exact wp_mono_ok (fun _ c' h => hplain hwf.2 c' _ h)
      (readsAs_null hs hver hlaw hmatch hmac hnum hpay hio hload)
  | stream hio henc =>
    rw [hio] at hwf ⊢
    rw [htype hwf.2] at hload
    exact wp_mono_ok (fun _ c' h => hplain hwf.2 c' _ h)
      (readsAs_stream hs hver hlaw hmatch hnum hpay hio henc hload)
  | @cbcExplicit y k en iv pad hio hver11 hiv hpad hdvd henc =>
    rw [hio] at hwf ⊢
    rw [htype hwf.2.1] at hload
    have h := readsAs_cbc hs hver hlaw hmatch hnum hpay hio
      (by rw [hiv, eivSize, if_pos hver11]) hpad hdvd (by rw [if_pos hver11]; exact henc) hload
    rw [if_pos hver11] at h
    exact wp_mono_ok (fun _ c' h => hplain hwf.2.1 c' _ h) h
  | @cbcChained y k en pad hio hver10 hpad hdvd henc =>
    rw [hio] at hwf ⊢
    rw [htype hwf.2.1] at hload
    have hno : ¬ tls10 < c.actualProtocolVersion := Nat.not_lt.mpr hver10
    have hexp : ([] : List UInt8).length = eivSize c.actualProtocolVersion y.blockSize := by
      rw [eivSize, if_neg hno]
      rfl
    have h := readsAs_cbc hs hver hlaw hmatch hnum hpay hio hexp hpad hdvd
      (by rw [if_neg hno]; exact henc) hload
    rw [if_neg hno] at h
    exact wp_mono_ok (fun _ c' h => hplain hwf.2.1 c' _ h) h
  | @aead y k en iv aad hio hiv haad henc =>
    have hver12 : tls12 ≤ c.actualProtocolVersion := by
      rw [RecordAlg.Supports, hio] at hsup
      rw [hsup]
      split <;> decide
    rw [hio] at hwf ⊢
    refine wp_mono_ok (fun _ c' h => ⟨y.recordIvSize, h, fun hrec => ?_⟩)
      (readsAs_aead hs hlaw hmatch hnum hpay hver12 hio hiv haad henc hload)
    obtain ⟨-, -, ⟨hf, -, -⟩ | ⟨-, -, hr⟩⟩ := hwf
    · rw [RecordAlg.isTls13Record, hf] at hrec
      cases hrec
    · exact hr
  | composite hio hstart hivLen hiv hfront hback henc =>
    rw [hio] at hwf ⊢
    rw [htype hwf.2.1] at hload ⊢
    exact wp_mono_ok (fun _ c' h => hplain hwf.2.1 c' _ h)
      (readsAs_composite hs hlaw hmatch hmac hnum hpay hsup hio hstart hivLen hiv hfront hback henc hload)

variable (hrt : recordType (c.crypto.suite r).recordAlg.isTls13Record ct = rt)
  (htarget : c.readTarget rt = r) (hhv : hv < 256) (hlen : fragment.length < 2 ^ 16)
  (hest : c.actualProtocolVersionEstablished = true → min c.actualProtocolVersion tls12 = hv)
  (hinitial : isTls13PlaintextContent c rt = true → c.crypto.initialFreed = false)
  (hencrypted : (c.crypto.suite r).recordAlg.cipher.io.isNull = true → rt ≠ tlsApplicationData)
  (hsealed : Sealed (c.crypto.suite r).recordAlg c.actualProtocolVersion hv ct d payload d' fragment)
  (hload : Loaded x.recv (recordHeader rt hv fragment.length) fragment)

include hrt htarget hhv hlen hest hinitial hencrypted hsealed hload

/-- **`s2n_record_parse` reads a protected record.** -/
lemma wp_recordParse :
    wp recordParse
      (fun _ => ReadsInner c r paired d' ct payload)
      noError (c.withReader r x) := by
  unfold recordParse
  rw [wp_bind]
  refine wp_recordHeaderParse hlen hhv hload hest fun s hload' => ?_
  rw [wp_read]
  dsimp only
  rw [withReader_readTarget, htarget, withReader_suite, withReader_mode, wp_bind, wp_when]
  have hrest : wp (do
        when ((c.crypto.suite r).recordAlg.cipher.io.isNull = true)
          (ensure (rt ≠ tlsApplicationData) Err.decrypt)
        recordParseFragment (c.crypto.suite r).recordAlg.cipher.io r c.mode.peer rt fragment.length)
      (fun _ => ReadsInner c r paired d' ct payload)
      noError (c.withReader r { x with recv := s }) := by
    rw [← hrt] at hload' ⊢
    have hfrag := wp_recordParseFragment hs hver hlaw (x := { x with recv := s }) hmatch hmac hnum
      hpay hsup hsealed hload'
    rw [wp_bind, wp_when]
    refine ⟨fun hnull => ?_, fun _ => hfrag⟩
    rw [wp_ensure]
    exact ⟨fun _ => hfrag, fun h => h (hrt ▸ hencrypted hnull)⟩
  refine ⟨fun hplain => ?_, fun _ => hrest⟩
  rw [wp_ensure]
  refine ⟨fun _ => hrest, fun h => h ?_⟩
  exact (CryptoState.initialFreed_setSide _ _ _ _).trans (hinitial hplain)

/-- **The content type and the payload come back.** -/
lemma wp_recordParseTyped (hct : (c.crypto.suite r).recordAlg.isTls13Record = true → ct ≠ 0) :
    wp (recordParseTyped rt)
      (fun a c' => a = ct ∧ ∃ y : ReaderState K, c' = c.withReader r y ∧ SideMatch paired d' y.side ∧
        y.recv.inStuffer.unread = payload)
      noError (c.withReader r x) := by
  have hiff := hsup.isTls13Record_iff hencrypted hrt
  unfold recordParseTyped
  refine wp_then (wp_recordParse hs hver hlaw hmatch hmac hnum hpay hsup hrt htarget hhv hlen hest
    hinitial hencrypted hsealed hload) fun _ c' h => ?_
  obtain ⟨start, ⟨y, rfl, hside, hun, hstart, -⟩, hzero⟩ := h
  rw [wp_read, wp_ite, withReader_version]
  refine ⟨fun h => ?_, fun h => ?_⟩
  · have hrec := hiff.mpr h
    rw [innerPlaintext, hrec, if_pos rfl] at hun
    rw [wp_onIn_withReader]
    refine wp_mono_ok (fun a u hu => ⟨hu.1, _, rfl, hside, hu.2⟩)
      (wp_tls13ParseRecordType hun (hstart.trans (hzero hrec)) (hct hrec) hpay)
  · have hrec := fun h' => h (hiff.mp h')
    rw [innerPlaintext, if_neg hrec, List.append_nil] at hun
    rw [wp_pure]
    rw [recordType, if_neg hrec] at hrt
    exact ⟨hrt.symm, y, rfl, hside, hun⟩

end Fragment

/-! ### The round trip -/

namespace Appended

variable {s s' t : Conn K} {d' : CryptoSide K} (h : Appended s ct payload d' fragment s')
include h

lemma side_eq : s'.crypto.side (s.writeTarget ct) s.mode = d' := by
  rw [h.crypto, CryptoState.side_setSide_self]

lemma suite_eq (r : ParamsRef) : s'.crypto.suite r = s.crypto.suite r := by
  rw [h.crypto, CryptoState.suite_setSide]

lemma writeTarget_eq : s'.writeTarget ct = s.writeTarget ct := by
  unfold Conn.writeTarget Conn.writeRef
  rw [h.version, h.crypto, h.mode, CryptoState.ref_setSide]

lemma headerType_eq : s'.headerType ct = s.headerType ct := by
  unfold Conn.headerType
  rw [h.writeTarget_eq, h.suite_eq]

lemma recordMac_eq : d'.recordMac = (s.crypto.side (s.writeTarget ct) s.mode).recordMac := by
  cases h.isSealed <;> rfl

lemma matching (hm : Matching paired ct s t) {y : ReaderState K} (hside : SideMatch paired d' y.side) :
    Matching paired ct s' (t.withReader (t.readTarget (s.headerType ct)) y) where
  mode := by rw [withReader_mode, h.mode, hm.mode]
  version := by rw [withReader_version, h.version, hm.version]
  suite := by rw [withReader_readTarget, withReader_suite, h.headerType_eq, h.writeTarget_eq, h.suite_eq,
    hm.suite]
  side := by
    rw [withReader_readTarget, h.headerType_eq, h.writeTarget_eq, h.mode, h.side_eq,
      ← Mode.peer_peer s.mode, ← hm.mode, withReader_side]
    exact hside
  macAlg := by rw [h.writeTarget_eq, h.mode, h.side_eq, h.recordMac_eq, h.suite_eq, hm.macAlg]
  fresh := by
    rw [h.writeTarget_eq, h.mode, h.side_eq, h.recordMac_eq]
    exact hm.fresh
  negotiated := by
    rw [h.serverVersion, h.headerType_eq]
    exact hm.negotiated
  initial := by
    rw [h.headerType_eq]
    intro hplain
    exact (CryptoState.initialFreed_setSide _ _ _ _).trans (hm.initial hplain)
  ktls := h.ktls.trans hm.ktls

end Appended

/-- **The round trip of record protection.** Let `t` be ready to read what `s` writes. A call of
`s2n_record_writev` on `s` that can succeed does so. When it succeeds, it appends to the output one
record, a header whose length field is the number of bytes after it and a fragment. From this
record, in `conn->header_in` and `conn->in`, `t` reads the payload that was written and its content
type, and the two ends match again. -/
theorem record_round_trip {s t : Conn K} {paired : Pairing K} {ct : ContentType} {iov : List Iovec}
    {offs n : ℕ} (hver : sslv3 ≤ s.actualProtocolVersion)
    (hsup : (s.crypto.suite (s.writeTarget ct)).recordAlg.Supports s.actualProtocolVersion)
    (hlaw : CipherLaw (s.crypto.suite (s.writeTarget ct)).recordAlg
      (s.crypto.side (s.writeTarget ct) s.mode).implicitIv paired)
    (hmatch : Matching paired ct s t) (hsound : t.Sound)
    (hct : (s.crypto.suite (s.writeTarget ct)).recordAlg.isTls13Record = true → ct ≠ 0) :
    wp (recordWritev ct (some iov) offs n)
      (fun written s' => ∃ payload header fragment, payload.length = written ∧ written ≤ n ∧
        (s.config.sendBufferSizeOverride = 0 →
          written = min n (min s.send.maxOutgoingFragmentLength (2 ^ 14))) ∧
        (iov.length < 2 ^ 31 → offs < 2 ^ 32 → offs + written ≤ (iovBytes iov).length →
          payload = ((iovBytes iov).drop offs).take written) ∧
        s'.send.out.unread = s.send.out.unread ++ (header ++ fragment) ∧
        header.length = recordHeaderLength ∧ beNat (header.drop 3) = fragment.length ∧
        ∀ recv, Loaded recv header fragment → wp (do
              let (rt, _) ← recordHeaderParse
              recordParseTyped rt)
            (fun a t' => a = ct ∧ t'.recv.inStuffer.unread = payload ∧ Matching paired ct s' t')
            (fun _ _ => False) { t with recv := recv })
      (fun _ _ => ¬ CanWrite s ct iov n) s := by
  refine wp_mono_ok (fun written s' h => ?_)
    (recordWritev_appends hmatch.ktls hsup hlaw hmatch.side.key hmatch.macAlg hmatch.fresh)
  obtain ⟨payload, d', fragment, happ, hlen, hle, hmax, hfull, hdata⟩ := h
  have hfrag : fragment.length < 2 ^ 16 := by
    have := happ.length_le
    omega
  refine ⟨payload, recordHeader (s.headerType ct) (s.headerVersion ct) fragment.length, fragment, hlen,
    hle, hfull, ?_, happ.out, recordHeader_length _ _ _, ?_, ?_⟩
  · intro hiov hoffs hbytes
    have hcount : iovCount iov.length = iov.length := by
      rw [iovCount, Nat.mod_eq_of_lt (by omega), if_pos hiov]
    rw [hcount, List.take_length, Nat.mod_eq_of_lt hoffs] at hdata
    exact hdata hbytes
  · show beNat (beBytes 2 fragment.length) = _
    rw [beNat_beBytes, Nat.mod_eq_of_lt (by omega)]
  · intro recv hload
    have hread : { t with recv := recv } = t.withReader (t.readTarget (s.headerType ct))
        ⟨recv, t.crypto.side (t.readTarget (s.headerType ct)) s.mode⟩ := by
      rw [Conn.withReader, hmatch.mode, Mode.peer_peer, CryptoState.setSide_side]
    have hest : t.actualProtocolVersionEstablished = true →
        min t.actualProtocolVersion tls12 = s.headerVersion ct := by
      intro h
      rw [headerVersion_of_negotiated hver (hmatch.negotiated h), hmatch.version]
    rw [hread, wp_bind]
    refine wp_recordHeaderParse hfrag (headerVersion_lt s ct) hload hest fun recv' hload' => ?_
    have hsealed := happ.isSealed
    have hnull := happ.encrypted
    have hmac := hmatch.macAlg
    have hrt : recordType (s.crypto.suite (s.writeTarget ct)).recordAlg.isTls13Record ct =
      s.headerType ct := rfl
    rw [← hmatch.suite] at hsup hlaw hct hsealed hnull hmac hrt
    rw [← hmatch.version] at hver hsup hsealed
    refine wp_mono_ok (fun a t' h => ?_)
      (wp_recordParseTyped (x := ⟨recv', t.crypto.side (t.readTarget (s.headerType ct)) s.mode⟩)
        hsound hver hlaw hmatch.side hmac happ.number (by omega) hsup hrt rfl (headerVersion_lt s ct)
        hfrag hest hmatch.initial ?_ hsealed hload' hct)
    · obtain ⟨rfl, y, rfl, hside, hun⟩ := h
      exact ⟨rfl, hun, happ.matching hmatch hside⟩
    · -- a record that is not encrypted has its own type in the header
      intro hio
      have hflags := (t.crypto.suite (t.readTarget (s.headerType ct))).recordAlg.flags_of_isNull hio
      rw [← hrt, RecordAlg.isTls13Record_eq_false hflags]
      exact hnull hio

/-- One end of a TLS1.3 connection after the handshake, with the cipher that copies. -/
def tls13End (m : Mode) : Conn Unit where
  mode := m
  serverProtocolVersion := tls13
  actualProtocolVersionEstablished := true
  crypto :=
    { initial := CryptoParameters.new ()
      secure := { CryptoParameters.new () with cipherSuite := copyingCipherSuite }
      client := .secure
      server := .secure }

/-- A key update message goes from the client to the server. -/
theorem record_round_trip_key_update :
    wp (recordWritev tlsHandshake (some [⟨fun i => [24, 0, 0, 1, 0].getD i 0, 5, false⟩]) 0 5)
      (fun written s' => written = 5 ∧ ∃ header fragment,
        s'.send.out.unread = header ++ fragment ∧ beNat (header.drop 3) = fragment.length ∧
        ∀ recv, Loaded recv header fragment → wp (do
              let (rt, _) ← recordHeaderParse
              recordParseTyped rt)
            (fun a t' => a = tlsHandshake ∧ t'.recv.inStuffer.unread = [24, 0, 0, 1, 0] ∧
              Matching (fun _ _ _ => True) tlsHandshake s' t')
            (fun _ _ => False) { tls13End .server with recv := recv })
      (fun _ _ => False) (tls13End .client) := by
  have hmatch : Matching (fun _ _ _ => True) tlsHandshake (tls13End .client) (tls13End .server) :=
    { mode := rfl
      version := rfl
      suite := rfl
      side := ⟨trivial, rfl, rfl, rfl, fun _ _ => rfl⟩
      macAlg := rfl
      fresh := ⟨rfl, rfl, rfl⟩
      negotiated := fun _ h => absurd h.1 (by decide)
      initial := fun _ => rfl
      ktls := rfl }
  have hcan : CanWrite (tls13End .client) tlsHandshake
      [⟨fun i => [24, 0, 0, 1, 0].getD i 0, 5, false⟩] 5 :=
    { calls := fun ⟨_, h⟩ => Bool.noConfusion h
      initial := fun _ _ => rfl
      encrypted := fun h => Bool.noConfusion h
      drained := fun _ => rfl
      fragment := by decide
      override := Or.inl rfl
      room := ⟨fun _ => rfl, by decide⟩
      data := fun v hv => by
        rw [List.mem_singleton.mp hv]
        exact ⟨by decide, rfl⟩
      number := by decide }
  have hlaw : CipherLaw (copyingCipherSuite (K := Unit)).recordAlg (fun _ => 0) fun _ _ _ => True :=
    fun _ k _ iv aad d _ _ _ _ _ => ⟨k, k, _, rfl, by simp [copyingAead], trivial⟩
  refine wp_mono (fun written s' h => ?_) (fun _ _ h => h hcan)
    (record_round_trip (s := tls13End .client) (t := tls13End .server) (by decide) rfl hlaw hmatch
      (fun _ => rfl) fun _ => by decide)
  obtain ⟨payload, header, fragment, -, -, hfull, hdata, hout, -, hlen, hread⟩ := h
  obtain rfl : written = 5 := hfull rfl
  rw [hdata (by decide) (by decide) (by decide)] at hread
  exact ⟨rfl, header, fragment, hout, hlen, hread⟩

end S2nTls
