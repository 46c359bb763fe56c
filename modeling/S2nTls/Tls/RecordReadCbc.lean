import S2nTls.Tls.CbcVerify

/-!
Reading the records of CBC ciphers: `s2n_verify_cbc` accepts the padding and the MAC that the
writer made, and `s2n_record_parse_cbc` returns the payload.
-/

namespace S2nTls

open Lib Stuffer

variable {K : Type}

section Verify

variable {Q : Unit → Conn K → Prop} {R : Err → Conn K → Prop} {c : Conn K} {r : ParamsRef}
  {x : ReaderState K}

/-- **The padding and the MAC of the writer are accepted.** -/
lemma wp_verifyCbc_written (hs : c.Sound) {data : ℕ → UInt8} {payload mac : List UInt8} {pad n : ℕ}
    (hdata : slice data 0 n = payload ++ mac ++ cbcPadding pad)
    (hready : x.side.recordMac.ready = true)
    (hmac : mac = x.side.recordMac.mac (x.side.recordMac.fed ++ payload)) (hpad : pad < 256)
    (hpay : payload.length ≤ 2 ^ 14)
    (hok : ∀ h : HmacState, h.alg = x.side.recordMac.alg ∧ h.mac = x.side.recordMac.mac →
      Q () (c.withReader r { x with side := { x.side with recordMac := h } })) :
    wp (verifyCbc r c.mode.peer data n) Q R (c.withReader r x) := by
  have hpadNat : (UInt8.ofNat pad).toNat = pad := Nat.mod_eq_of_lt hpad
  have hblob : slice data 0 n = payload ++ x.side.recordMac.mac (x.side.recordMac.fed ++ payload) ++
      List.replicate pad (UInt8.ofNat pad) ++ [UInt8.ofNat pad] := by
    rw [hdata, hmac, cbcPadding, List.replicate_succ', List.append_assoc]
    simp only [List.append_assoc]
  have hlen : (List.replicate pad (UInt8.ofNat pad)).length = (UInt8.ofNat pad).toNat := by
    rw [List.length_replicate, hpadNat]
  have hwf : CbcPlaintext c.actualProtocolVersion x.side.recordMac (slice data 0 n) :=
    ⟨_, _, _, hblob, hlen, fun _ _ hb => List.eq_of_mem_replicate hb⟩
  have hle : cbcPayloadLength x.side.recordMac data n ≤ HmacState.maxUpdate := by
    rw [(cbc_parts hblob (HmacState.mac_length _ _) hlen).2.2.1]
    unfold HmacState.maxUpdate
    omega
  exact wp_verifyCbc hs hready (fun _ => hok) fun h => absurd (hwf.accepted hle) h

variable {explicit en : List UInt8}

lemma wp_recordParseIv {Q : ℕ → Conn K → Prop} {n : ℕ}
    (hun : x.recv.inStuffer.unread = explicit ++ en) (hstart : x.recv.inStuffer.readCursor = 0)
    (href : x.recv.inStuffer.blob.isNull = false)
    (hexp : explicit.length = eivSize c.actualProtocolVersion n)
    (hok : ∀ t v, t.blob = x.recv.inStuffer.blob → t.readCursor = explicit.length →
      t.writeCursor = x.recv.inStuffer.writeCursor → t.dataAvailable = en.length →
      (tls10 < c.actualProtocolVersion → v = overwrite x.side.implicitIv 0 explicit) →
      (c.actualProtocolVersion ≤ tls10 → v = x.side.implicitIv) →
      Q en.length (c.withReader r ⟨{ x.recv with inStuffer := t }, { x.side with implicitIv := v }⟩)) :
    wp (recordParseIv r c.mode.peer n (explicit ++ en).length) Q R (c.withReader r x) := by
  have havail := congrArg List.length hun
  rw [unread_length, List.length_append] at havail
  unfold recordParseIv
  rw [wp_read, withReader_version, wp_ite]
  unfold eivSize at hexp
  refine ⟨fun hver => ?_, fun hver => ?_⟩
  · rw [if_pos hver] at hexp
    subst hexp
    rw [wp_bind, wp_onIn_withReader, wp_readBytes_of_le href (by omega), hun, wp_bind, wp_setImplicitIv_withReader,
      List.take_left]
    refine wp_ensured ?_ ?_
    · rw [List.length_append]
      omega
    rw [wp_pure, List.length_append, Nat.add_sub_cancel_left]
    refine hok _ _ rfl ?_ rfl ?_ (fun _ => rfl) fun h => absurd hver (Nat.not_lt.mpr h)
    · show x.recv.inStuffer.readCursor + explicit.length = explicit.length
      rw [hstart, Nat.zero_add]
    · rw [dataAvailable_advanceRead, havail, Nat.add_sub_cancel_left]
  · rw [if_neg hver] at hexp
    obtain rfl := List.length_eq_zero_iff.mp hexp
    rw [wp_pure]
    exact hok _ _ rfl hstart rfl (by rw [havail]; exact Nat.zero_add _)
      (fun h => absurd h hver) fun _ => rfl

variable {paired : Pairing K} {d : CryptoSide K} {rt : ContentType} {hv len : ℕ}
  {payload : List UInt8}

/-- The IV that the cipher is given, when `v` is the implicit IV after `recordParseIv`. -/
lemma slice_recordParseIv {v w : ℕ → UInt8} {n version : ℕ} (hexp : explicit.length = eivSize version n)
    (hexpl : tls10 < version → v = overwrite w 0 explicit) (himpl : version ≤ tls10 → v = w) :
    slice v 0 n = if tls10 < version then explicit else slice w 0 n := by
  split
  · rename_i h
    rw [eivSize, if_pos h] at hexp
    rw [hexpl h, ← hexp]
    exact slice_overwrite _ _ _
  · rename_i h
    rw [himpl (Nat.le_of_not_lt h)]

/-- The next IV, which the writer has too. -/
lemma wp_recordNextIv (hmatch : SideMatch paired d x.side) {s : RecvState} {e : CryptoSide K} {n : ℕ}
    (hexpl : tls10 < c.actualProtocolVersion → e.implicitIv = overwrite x.side.implicitIv 0 explicit)
    (himpl : c.actualProtocolVersion ≤ tls10 → e.implicitIv = x.side.implicitIv) :
    wp (when (c.actualProtocolVersion < tls11) (setImplicitIv r c.mode.peer (en.drop (en.length - n))))
      (fun _ c' => ∃ v' : ℕ → UInt8, c' = c.withReader r ⟨s, { e with implicitIv := v' }⟩ ∧
        ∀ i < 16, v' i = overwrite d.implicitIv 0 (if tls10 < c.actualProtocolVersion then explicit
          else en.drop (en.length - n)) i)
      noError (c.withReader r ⟨s, e⟩) := by
  rw [wp_when]
  refine ⟨fun hlt => ?_, fun hnlt => ⟨e.implicitIv, rfl, fun i hi => ?_⟩⟩
  · have hle : c.actualProtocolVersion ≤ tls10 := Nat.le_of_lt_succ hlt
    rw [wp_setImplicitIv_withReader]
    refine ⟨_, rfl, fun i hi => ?_⟩
    rw [if_neg (Nat.not_lt.mpr hle)]
    dsimp only
    rw [himpl hle]
    exact overwrite_congr _ (hmatch.implicitIv i hi)
  · have hlt : tls10 < c.actualProtocolVersion := Nat.lt_of_not_le fun h => hnlt (Nat.lt_succ_of_le h)
    rw [if_pos hlt, hexpl hlt]
    exact overwrite_congr _ (hmatch.implicitIv i hi)

lemma wp_recordParseCbc (hs : c.Sound) (hver : sslv3 ≤ c.actualProtocolVersion) {y : CbcCipher K}
    {k k' : K} {pad : ℕ}
    (hload : Loaded x.recv (recordHeader rt hv len) (explicit ++ en))
    (hmatch : SideMatch paired d x.side) (hnum : d.sequenceNumber.value + 1 < 2 ^ 64)
    (hpay : payload.length ≤ 2 ^ 14) (hblock : y.recordIvSize = y.blockSize)
    (hblock16 : y.blockSize ≤ 16) (hpad : pad < 256)
    (hexp : explicit.length = eivSize c.actualProtocolVersion y.blockSize)
    (hdec : y.decrypt x.side.key (if tls10 < c.actualProtocolVersion then explicit
      else slice x.side.implicitIv 0 y.blockSize) en =
        some (k', payload ++ d.recordMacOf c.actualProtocolVersion hv rt payload ++ cbcPadding pad))
    (hdvd : y.blockSize ∣ en.length) (hpair : paired d.sequenceNumber.next k k') :
    wp (recordParseCbc y r c.mode.peer (explicit ++ en).length)
      (fun _ => ReadsAs c r paired { d.advance with
          key := k
          implicitIv := overwrite d.implicitIv 0 (if tls10 < c.actualProtocolVersion then explicit
            else en.drop (en.length - y.blockSize)) }
        payload explicit.length) noError (c.withReader r x) := by
  have hde := y.decrypt_length hdec
  have hmacAlg := hmatch.macAlg
  have hmacLen : (d.recordMacOf c.actualProtocolVersion hv rt payload).length =
    d.recordMac.alg.digestSize := HmacState.mac_length _ _
  have hmacOf : x.side.recordMacOf c.actualProtocolVersion hv rt payload = _ :=
    hmatch.recordMacOf_eq _
  generalize hmac : d.recordMacOf c.actualProtocolVersion hv rt payload = mac at hdec hde hmacLen hmacOf
  have hpadLen : (cbcPadding pad).length = pad + 1 := List.length_replicate
  have hlen : payload.length + mac.length + (pad + 1) = en.length := by
    rw [← hde]
    simp only [List.length_append, hpadLen]
  unfold recordParseCbc
  rw [wp_bind]
  refine wp_readHeader hload fun th hth => ?_
  rw [hblock]
  refine wp_ensured hblock16 ?_
  rw [wp_bind]
  refine wp_recordParseIv hload.input_eq hload.input_start hload.input_ref hexp
    fun ti v hti hri hwi havail hexpl himpl => ?_
  rw [wp_bind]
  refine wp_readInput havail.ge (by dsimp only; rw [hti]; exact hload.input_ref) hri
    fun tj htj hwj => ?_
  rw [wp_read]
  dsimp only
  rw [withReader_side, withReader_recv, withReader_version]
  dsimp only
  rw [htj, hti, hload.slice_append.2, slice_recordParseIv hexp hexpl himpl, hmacAlg, ← hmacLen]
  refine wp_ensured (by omega) ?_
  refine wp_ensured (by omega) ?_
  refine wp_ensured (Nat.mod_eq_zero_of_dvd hdvd) ?_
  rw [wp_bind, wp_callCipher_withReader hs hdec, wp_bind, wp_pokeInput]
  dsimp only
  have hpadding := getD_cbcPadding (payload ++ mac) hpad
  rw [hde] at hpadding
  rw [hpadding]
  refine wp_then (wp_recordNextIv hmatch hexpl himpl) fun _ c' hc' => ?_
  obtain ⟨v', rfl, hv'⟩ := hc'
  refine wp_ensured (by omega) ?_
  have hsub : en.length - mac.length - (pad + 1) = payload.length := by omega
  rw [hsub, wp_bind]
  refine wp_recordParseMac hs hver hth fun th' fed hfed => ?_
  rw [wp_bind, wp_increment_withReader (by dsimp only; rw [hmatch.sequenceNumber]; exact hnum), wp_read,
    wp_bind, wp_attempt]
  dsimp only
  rw [withReader_recv]
  have hplain : slice (fun i => (tj.poked explicit.length (payload ++ mac ++ cbcPadding pad)).blob.data
      (explicit.length + i)) 0 en.length = payload ++ mac ++ cbcPadding pad := by
    rw [slice_offset, ← hde]
    exact slice_overwrite _ _ _
  have hcheck : mac = x.side.recordMac.mac (fed ++ payload) := by
    rw [← hmacOf, hfed payload rfl]
    rfl
  refine wp_verifyCbc_written hs hplain rfl hcheck hpad hpay fun h hsame => ?_
  have hskip : (if c.actualProtocolVersion > tls10 then y.blockSize else 0) = explicit.length :=
    hexp.symm
  dsimp only
  rw [hskip]
  refine wp_recordParseDone ?_ ?_ fun recv hun hstart hst => ?_
  · show explicit.length + payload.length ≤ tj.writeCursor
    have hw := hload.input_writeCursor
    rw [List.length_append] at hw
    rw [hwj, hwi, hw]
    omega
  · have := slice_overwrite_part tj.blob.data explicit.length [] payload (mac ++ cbcPadding pad)
    rwa [List.nil_append, ← List.append_assoc] at this
  · exact ⟨_, rfl, hmatch.read hpair hsame hv', hun, hstart, hst⟩

end Verify

end S2nTls
