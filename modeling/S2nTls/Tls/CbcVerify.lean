import S2nTls.Tls.RecordReadSpec

/-!
What `s2n_verify_cbc` (`tls/s2n_cbc.c`) accepts.

`CbcPlaintext` says what a well-formed plaintext of a CBC record is. The code agrees with it but in
two places. It returns for SSLv3 before it compares the claimed padding with the room there is for
it, so that a padding that does not fit is taken for one that fills the record. And the payload is
fed to the MAC at once, while `s2n_hmac_update` takes at most 17535 bytes.
-/

namespace S2nTls

open Lib Stuffer

variable {K : Type}

/-! ### The specification -/

/-- `blob` is a payload, the MAC of it, the padding and the length of the padding. Up to SSLv3 the
padding may have any bytes. -/
def CbcPlaintext (version : ℕ) (h : HmacState) (blob : List UInt8) : Prop :=
  ∃ (payload pad : List UInt8) (p : UInt8), blob = payload ++ h.mac (h.fed ++ payload) ++ pad ++ [p] ∧
    pad.length = p.toNat ∧ (version ≠ sslv3 → ∀ b ∈ pad, b = p)

/-- The indices of the bytes that the loop over the padding looks at. -/
def cbcScan (size macDigestSize : ℕ) : List ℕ :=
  let check := min 255 (size - macDigestSize - 1)
  (List.range check).map (size - 1 - check + ·)

lemma lt_of_mem_cbcScan {size macDigestSize j : ℕ} (hj : j ∈ cbcScan size macDigestSize) : j < size := by
  unfold cbcScan at hj
  obtain ⟨i, hi, rfl⟩ := List.mem_map.mp hj
  have := List.mem_range.mp hi
  omega

/-! ### The padding -/

lemma foldl_or_eq_zero_iff {α : Type} (f : α → UInt8) (l : List α) (acc : UInt8) :
    l.foldl (fun acc p => acc ||| f p) acc = 0 ↔ acc = 0 ∧ ∀ p ∈ l, f p = 0 := by
  induction l generalizing acc with
  | nil => simp
  | cons p l ih =>
    rw [List.foldl_cons, ih, UInt8.or_eq_zero_iff, List.forall_mem_cons, and_assoc]

/-- The loop finds no mismatch if all the bytes from the cutoff on are the padding length. -/
lemma paddingMismatches_eq_zero_iff (bytes : List UInt8) (cutoff : ℕ) (b : UInt8) :
    paddingMismatches bytes cutoff b = 0 ↔ ∀ x ∈ bytes.drop cutoff, x = b := by
  unfold paddingMismatches
  rw [foldl_or_eq_zero_iff]
  simp only [true_and]
  constructor
  · intro h x hx
    obtain ⟨i, hi⟩ := List.mem_iff_getElem?.mp hx
    rw [List.getElem?_drop] at hi
    have hmask := h (x, cutoff + i) (List.mem_zipIdx_iff_getElem?.mpr hi)
    rw [if_pos (Nat.le_add_right cutoff i)] at hmask
    have hff : (255 : UInt8) = -1 := by decide
    rwa [hff, UInt8.and_neg_one, UInt8.xor_eq_zero_iff] at hmask
  · rintro h ⟨x, i⟩ hx
    have hi := List.mem_zipIdx_iff_getElem?.mp hx
    dsimp only at hi ⊢
    by_cases hle : cutoff ≤ i
    · have hmem : x ∈ bytes.drop cutoff := by
        rw [List.mem_iff_getElem?]
        exact ⟨i - cutoff, by rw [List.getElem?_drop, Nat.add_sub_cancel' hle, hi]⟩
      rw [h x hmem, UInt8.xor_self, UInt8.zero_and]
    · rw [if_neg hle, UInt8.and_zero]

section Verify

variable {data : ℕ → UInt8} {size : ℕ} {h : HmacState} {version : ℕ}
variable {R : Err → Conn K → Prop}

/-- The length of the payload by the last byte of the blob, 0 if there is no room for the padding. -/
def cbcPayloadLength (h : HmacState) (data : ℕ → UInt8) (size : ℕ) : ℕ :=
  size - h.alg.digestSize - (data (size - 1)).toNat - 1

lemma slice_four (m : ℕ → UInt8) (a b e : ℕ) :
    slice m 0 (a + b + e + 1) = slice m 0 a ++ slice m a b ++ slice m (a + b) e ++ [m (a + b + e)] := by
  rw [slice_add, slice_add, slice_add]
  simp only [Nat.zero_add]
  rfl

lemma cbc_parts {payload mac pad : List UInt8} {p : UInt8}
    (hblob : slice data 0 size = payload ++ mac ++ pad ++ [p]) (hmac : mac.length = h.alg.digestSize)
    (hpad : pad.length = p.toNat) :
    h.alg.digestSize + p.toNat < size ∧ data (size - 1) = p ∧ cbcPayloadLength h data size = payload.length ∧
      slice data 0 payload.length = payload ∧ slice data payload.length h.alg.digestSize = mac ∧
      slice data (size - 1 - p.toNat) p.toNat = pad := by
  obtain rfl : size = payload.length + h.alg.digestSize + p.toNat + 1 := by
    have hsize := congrArg List.length hblob
    simpa only [slice_length, List.length_append, hmac, hpad, List.length_singleton] using hsize
  rw [slice_four] at hblob
  obtain ⟨hfront, hlast⟩ := List.append_inj' hblob rfl
  obtain ⟨hfront, hslice⟩ := List.append_inj hfront (by simp [hmac])
  obtain ⟨hpayload, hdigest⟩ := List.append_inj hfront (by simp)
  have hbyte : data (payload.length + h.alg.digestSize + p.toNat) = p := (List.cons.inj hlast).1
  have hlength : cbcPayloadLength h data (payload.length + h.alg.digestSize + p.toNat + 1) = payload.length := by
    unfold cbcPayloadLength
    rw [Nat.add_sub_cancel, hbyte]
    omega
  refine ⟨by omega, hbyte, hlength, hpayload, hdigest, ?_⟩
  rwa [Nat.add_sub_cancel, Nat.add_sub_cancel]

lemma cbcPlaintext_iff : CbcPlaintext version h (slice data 0 size) ↔
    h.alg.digestSize + (data (size - 1)).toNat < size ∧
      slice data (cbcPayloadLength h data size) h.alg.digestSize =
        h.mac (h.fed ++ slice data 0 (cbcPayloadLength h data size)) ∧
      (version ≠ sslv3 → ∀ b ∈ slice data (size - 1 - (data (size - 1)).toNat) (data (size - 1)).toNat,
        b = data (size - 1)) := by
  constructor
  · rintro ⟨payload, pad, p, hblob, hpad, hbytes⟩
    obtain ⟨hlt, hbyte, hlength, hpayload, hdigest, hslice⟩ := cbc_parts hblob (h.mac_length _) hpad
    rw [hbyte, hlength, hpayload, hslice]
    exact ⟨hlt, hdigest, hbytes⟩
  · unfold cbcPayloadLength
    rintro ⟨hlt, hmac, hbytes⟩
    refine ⟨slice data 0 (size - h.alg.digestSize - (data (size - 1)).toNat - 1), _, _, ?_,
      slice_length _ _ _, hbytes⟩
    rw [← hmac]
    clear hmac hbytes
    generalize (data (size - 1)).toNat = p at hlt ⊢
    obtain ⟨n, rfl⟩ : ∃ n, size = n + h.alg.digestSize + p + 1 :=
      ⟨size - (h.alg.digestSize + p + 1), by omega⟩
    have hlen : n + h.alg.digestSize + p + 1 - h.alg.digestSize - p - 1 = n := by omega
    rw [slice_four, Nat.add_sub_cancel, hlen, Nat.add_sub_cancel]

/-- What the code requires of a blob. -/
def CbcAccepted (version : ℕ) (h : HmacState) (data : ℕ → UInt8) (size : ℕ) : Prop :=
  h.alg.digestSize < size ∧ cbcPayloadLength h data size ≤ HmacState.maxUpdate ∧
    slice data (cbcPayloadLength h data size) h.alg.digestSize =
      h.mac (h.fed ++ slice data 0 (cbcPayloadLength h data size)) ∧
    (version ≠ sslv3 → h.alg.digestSize + (data (size - 1)).toNat < size ∧
      ∀ b ∈ slice data (size - 1 - (data (size - 1)).toNat) (data (size - 1)).toNat, b = data (size - 1))

lemma map_cbcScan (data : ℕ → UInt8) (size macDigestSize : ℕ) :
    (cbcScan size macDigestSize).map data = slice data (size - 1 - min 255 (size - macDigestSize - 1))
      (min 255 (size - macDigestSize - 1)) := by
  simp [cbcScan, slice]

lemma drop_cbcScan (hlt : h.alg.digestSize + (data (size - 1)).toNat < size) :
    (((cbcScan size h.alg.digestSize).map data).drop
      (min 255 (size - h.alg.digestSize - 1) - (data (size - 1)).toNat)) =
      slice data (size - 1 - (data (size - 1)).toNat) (data (size - 1)).toNat := by
  have hbyte : (data (size - 1)).toNat < 256 := UInt8.toNat_lt _
  generalize hp : (data (size - 1)).toNat = p at hlt hbyte
  rw [map_cbcScan, drop_slice _ _ (Nat.sub_le _ _)]
  congr 1 <;> omega

variable {c : Conn K} {r : ParamsRef} {x : ReaderState K}

lemma HmacState.currentlyInHashBlock_le (h : HmacState) : h.currentlyInHashBlock ≤ 128 := by
  have hsize : 0 < h.alg.hashBlockSize ∧ h.alg.hashBlockSize ≤ 128 := by
    cases h.alg <;> decide
  exact (Nat.mod_lt _ hsize.1).le.trans hsize.2

variable {Q : Unit → Conn K → Prop}

/-- The payload is fed to the MAC if it is not too long. -/
lemma wp_onMac_feed_withReader (hs : c.Sound)
    {bs : List UInt8} (hready : x.side.recordMac.ready = true)
    (hok : bs.length ≤ HmacState.maxUpdate → Q () (c.withReader r { x with side :=
      { x.side with recordMac := { x.side.recordMac with fed := x.side.recordMac.fed ++ bs } } }))
    (herr : ¬ bs.length ≤ HmacState.maxUpdate → R .integerOverflow (c.withReader r x)) :
    wp (onMac r c.mode.peer (HmacState.update c.env.fault bs)) Q R (c.withReader r x) := by
  by_cases hle : bs.length ≤ HmacState.maxUpdate
  · rw [wp_onMac_update_withReader hs hready hle]
    exact hok hle
  · rw [wp_onMac_withReader]
    unfold HmacState.update
    rw [wp_read]
    exact wp_seq_ensure (fun h => absurd h hle) herr

lemma wp_onMac_digestTwo_withReader (hs : c.Sound) {Q : List UInt8 → Conn K → Prop}
    (hready : x.side.recordMac.ready = true)
    (hok : Q (x.side.recordMac.mac x.side.recordMac.fed) (c.withReader r { x with side :=
      { x.side with recordMac := { x.side.recordMac with ready := false } } })) :
    wp (onMac r c.mode.peer (HmacState.digestTwoCompressionRounds c.env.fault)) Q R
      (c.withReader r x) := by
  rw [wp_onMac_withReader]
  unfold HmacState.digestTwoCompressionRounds HmacState.digest
  simp only [wp_bind, wp_get, wp_ensure, wp_when, hready, hs .hmacDigest, hs .hash, wp_set, wp_pure]
  simpa using ⟨fun _ => hok, fun _ => hok⟩

/-- **The outcome of the check, exactly.** -/
lemma wp_verifyCbc (hs : c.Sound) (hready : x.side.recordMac.ready = true)
    (hok : CbcAccepted c.actualProtocolVersion x.side.recordMac data size → ∀ h : HmacState,
      h.alg = x.side.recordMac.alg ∧ h.mac = x.side.recordMac.mac →
        Q () (c.withReader r { x with side := { x.side with recordMac := h } }))
    (herr : ¬ CbcAccepted c.actualProtocolVersion x.side.recordMac data size → ∀ e c', R e c') :
    wp (verifyCbc r c.mode.peer data size) Q R (c.withReader r x) := by
  have hbyte : (data (size - 1)).toNat < 256 := UInt8.toNat_lt _
  unfold verifyCbc
  rw [wp_read]
  dsimp only
  rw [withReader_env, withReader_side, withReader_version]
  have hlength : size - x.side.recordMac.alg.digestSize - (data (size - 1)).toNat - 1 =
    cbcPayloadLength x.side.recordMac data size := rfl
  rw [hlength]
  refine wp_seq_ensure (fun hsize => ?_) fun h => herr (fun hacc => h hacc.1) _ _
  rw [wp_bind]
  refine wp_onMac_feed_withReader hs hready (fun hle => ?_) fun h =>
    herr (fun hacc => h (by rw [slice_length]; exact hacc.2.1)) _ _
  rw [slice_length] at hle
  rw [wp_read]
  dsimp only
  rw [withReader_side, wp_bind]
  refine wp_onMac_digestTwo_withReader hs hready ?_
  dsimp only
  rw [wp_bind, wp_onMac_reset_withReader hs]
  have hblock := HmacState.currentlyInHashBlock_le { x.side.recordMac with
    fed := x.side.recordMac.fed ++ slice data 0 (cbcPayloadLength x.side.recordMac data size) }
  generalize HmacState.currentlyInHashBlock _ = inBlock at hblock
  have hrest : size - cbcPayloadLength x.side.recordMac data size - x.side.recordMac.alg.digestSize - 1 ≤ 255 := by
    rw [← hlength]
    omega
  rw [wp_bind, wp_onMac_update_withReader hs rfl
    (by rw [slice_length]; unfold HmacState.maxUpdate; omega), wp_bind,
    wp_onMac_update_withReader hs rfl (by rw [slice_length]; unfold HmacState.maxUpdate; omega),
    wp_ite]
  refine ⟨fun hver => ?_, fun hver => ?_⟩
  · rw [wp_ensure]
    refine ⟨fun hmac => ?_, fun hmac => herr (fun hacc => hmac hacc.2.2.1) _ _⟩
    exact hok ⟨hsize, hle, hmac, fun h => absurd hver h⟩ _ ⟨rfl, rfl⟩
  · dsimp only
    refine wp_seq_ensure (fun hpad => ?_) fun h => herr (fun hacc => h ?_) _ _
    swap
    · have := (hacc.2.2.2 hver).1
      omega
    have hlt : x.side.recordMac.alg.digestSize + (data (size - 1)).toNat < size := by omega
    rw [wp_ensure, ← map_cbcScan, paddingMismatches_eq_zero_iff, drop_cbcScan hlt]
    refine ⟨fun h => ?_, fun h => herr (fun hacc => h ⟨hacc.2.2.1, (hacc.2.2.2 hver).2⟩) _ _⟩
    exact hok ⟨hsize, hle, h.1, fun _ => ⟨hlt, h.2⟩⟩ _ ⟨rfl, rfl⟩

lemma CbcPlaintext.accepted (hwf : CbcPlaintext version h (slice data 0 size))
    (hle : cbcPayloadLength h data size ≤ HmacState.maxUpdate) : CbcAccepted version h data size := by
  obtain ⟨hlt, hmac, hpad⟩ := cbcPlaintext_iff.mp hwf
  exact ⟨by omega, hle, hmac, fun hver => ⟨hlt, hpad hver⟩⟩

lemma CbcAccepted.plaintext (hacc : CbcAccepted version h data size)
    (hlt : h.alg.digestSize + (data (size - 1)).toNat < size) : CbcPlaintext version h (slice data 0 size) :=
  cbcPlaintext_iff.mpr ⟨hlt, hacc.2.2.1, fun hver => (hacc.2.2.2 hver).2⟩

lemma succeeds_verifyCbc_iff (hs : c.Sound) (hready : (c.crypto.side r c.mode.peer).recordMac.ready = true) :
    succeeds (verifyCbc r c.mode.peer data size) c = true ↔
      CbcAccepted c.actualProtocolVersion (c.crypto.side r c.mode.peer).recordMac data size := by
  rw [succeeds_iff_wp]
  constructor
  · intro hrun
    by_contra hacc
    have hfail : wp (verifyCbc r c.mode.peer data size) (fun _ _ => False) anyError
        (c.withReader r (c.reader r)) :=
      wp_verifyCbc hs hready (fun h => absurd h hacc) fun _ _ _ => trivial
    rw [c.withReader_reader] at hfail
    have hboth := wp_and hrun hfail
    unfold wp at hboth
    split at hboth
    · exact hboth.2
    · exact hboth.1
  · intro hacc
    have hrun : wp (verifyCbc r c.mode.peer data size) (fun _ _ => True) noError
        (c.withReader r (c.reader r)) :=
      wp_verifyCbc hs hready (fun _ _ _ => trivial) fun h => absurd hacc h
    rwa [c.withReader_reader] at hrun

end Verify

/-- The blobs on which the code and the specification agree: a payload that can be fed at once, and in
SSLv3 no MAC in front of a padding that does not fit. -/
def CbcInReach (version : ℕ) (h : HmacState) (data : ℕ → UInt8) (size : ℕ) : Prop :=
  (CbcPlaintext version h (slice data 0 size) → cbcPayloadLength h data size ≤ HmacState.maxUpdate) ∧
    (version = sslv3 → h.alg.digestSize < size → size ≤ h.alg.digestSize + (data (size - 1)).toNat →
      slice data 0 h.alg.digestSize ≠ h.mac h.fed)

/-- **What `s2n_verify_cbc` accepts.** The check succeeds on the well-formed plaintexts and on nothing
else, and its loop stays inside the blob, if and only if the blob is in reach. -/
theorem verifyCbc_accepts_iff (c : Conn K) (r : ParamsRef) (data : ℕ → UInt8) (size : ℕ) (hs : c.Sound)
    (hready : (c.crypto.side r c.mode.peer).recordMac.ready = true) :
    let h := (c.crypto.side r c.mode.peer).recordMac
    ((succeeds (verifyCbc r c.mode.peer data size) c = true ↔
        CbcPlaintext c.actualProtocolVersion h (slice data 0 size)) ∧
      ∀ j ∈ cbcScan size h.alg.digestSize, j < size) ↔ CbcInReach c.actualProtocolVersion h data size := by
  intro h
  rw [succeeds_verifyCbc_iff hs hready]
  have hscan : ∀ j ∈ cbcScan size h.alg.digestSize, j < size := fun _ => lt_of_mem_cbcScan
  refine ⟨fun ⟨hiff, _⟩ => ⟨fun hwf => (hiff.mpr hwf).2.1, fun hver hsize hle hmac => ?_⟩,
    fun hreach => ⟨⟨fun hacc => ?_, fun hwf => hwf.accepted (hreach.1 hwf)⟩, hscan⟩⟩
  · -- the padding does not fit, so that the MAC is looked for at the start of the blob
    have hzero : cbcPayloadLength h data size = 0 := by
      unfold cbcPayloadLength
      omega
    have hacc : CbcAccepted c.actualProtocolVersion h data size := by
      refine ⟨hsize, by rw [hzero]; exact Nat.zero_le _, ?_, fun hne => absurd hver hne⟩
      rwa [hzero, slice_zero, List.append_nil]
    have hlt := (cbcPlaintext_iff.mp (hiff.mp hacc)).1
    omega
  · by_cases hlt : h.alg.digestSize + (data (size - 1)).toNat < size
    · exact hacc.plaintext hlt
    · exfalso
      by_cases hver : c.actualProtocolVersion = sslv3
      · have hzero : cbcPayloadLength h data size = 0 := by
          unfold cbcPayloadLength
          omega
        have hmac := hacc.2.2.1
        rw [hzero, slice_zero, List.append_nil] at hmac
        exact hreach.2 hver hacc.1 (Nat.le_of_not_lt hlt) hmac
      · exact hlt (hacc.2.2.2 hver).1

/-- A MAC that is 16 times the sum of its input. -/
def sumMac : HmacState where
  alg := .md5
  mac m := List.replicate 16 (m.foldr (· + ·) 0)
  mac_length _ := List.length_replicate
  fed := []
  ready := true

/-- A server that reads with `sumMac`. -/
def cbcServer (version : ℕ) : Conn Unit where
  mode := .server
  actualProtocolVersion := version
  crypto :=
    { initial := CryptoParameters.new ()
      secure := ⟨copyingCipherSuite, { CryptoSide.new () with recordMac := sumMac }, CryptoSide.new ()⟩
      client := .secure
      server := .secure }

/-- Two bytes of payload, their MAC and two bytes of padding. -/
def paddedBlob (i : ℕ) : UInt8 := (([3, 4] ++ List.replicate 16 7 ++ [2, 2, 2] : List UInt8)).getD i 0

theorem verifyCbc_accepts_iff_padded :
    CbcPlaintext tls12 sumMac (slice paddedBlob 0 21) :=
  ((verifyCbc_accepts_iff (cbcServer tls12) .secure paddedBlob 21 (fun _ => rfl) rfl).mpr
    ⟨fun _ => by decide, fun h => absurd h (by decide)⟩).1.mp (by decide +kernel)

/-- **Where the code and the specification differ.** In SSLv3 a MAC of nothing and a last byte of 255 are
accepted, with no padding at all. In TLS1.2 a record with 17536 bytes of payload, the MAC of it and no
padding is rejected. -/
theorem verifyCbc_differs :
    let overlong : ℕ → UInt8 := fun i => if i = 16 then 255 else 0
    (succeeds (verifyCbc .secure .client overlong 17) (cbcServer sslv3) = true ∧
      ¬ CbcPlaintext sslv3 sumMac (slice overlong 0 17)) ∧
    (succeeds (verifyCbc .secure .client (fun _ => 0) 17553) (cbcServer tls12) = false ∧
      CbcPlaintext tls12 sumMac (slice (fun _ => 0) 0 17553)) := by
  intro overlong
  refine ⟨⟨by decide +kernel, fun h => ?_⟩, ?_, ?_⟩
  · exact absurd (cbcPlaintext_iff.mp h).1 (by decide)
  · refine Bool.eq_false_of_not_eq_true fun hrun => ?_
    have hacc : CbcAccepted tls12 sumMac (fun _ => 0) 17553 :=
      (succeeds_verifyCbc_iff (c := cbcServer tls12) (r := .secure) (fun _ => rfl) rfl).mp hrun
    exact absurd hacc.2.1 (by decide)
  · refine ⟨List.replicate 17536 0, [], 0, ?_, rfl, fun _ _ hb => absurd hb List.not_mem_nil⟩
    have hsum : ∀ n, (List.replicate n (0 : UInt8)).sum = 0 := by
      intro n
      induction n with
      | zero => rfl
      | succ n ih => rw [List.replicate_succ, List.sum_cons, ih, UInt8.zero_add]
    have hzeros : slice (fun _ => (0 : UInt8)) 0 17553 = List.replicate 17553 0 := by
      rw [slice, List.map_const', List.length_range]
    have hsplit : List.replicate 17553 (0 : UInt8) = List.replicate 17536 0 ++ List.replicate 16 0 ++ [] ++ [0] := by
      rw [List.append_nil, List.replicate_append_replicate]
      exact List.replicate_succ'
    show _ = List.replicate 17536 0 ++ List.replicate 16 (List.replicate 17536 (0 : UInt8)).sum ++ [] ++ [0]
    rw [hzeros, hsum, hsplit]

end S2nTls
