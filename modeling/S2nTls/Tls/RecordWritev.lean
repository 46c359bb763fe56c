import S2nTls.Tls.RecordSealed

/-!
`s2n_record_writev` as a whole: what one call appends to `conn->out`, and when it succeeds.
-/

namespace S2nTls

open Lib Stuffer

variable {K : Type}
variable {k' : K} {paired : Pairing K} {n : ℕ}

/-! ### The steps before the record is laid out -/

/-- The connection while a record of type `ct` is written. -/
def Conn.switched (c : Conn K) (ct : ContentType) : Conn K :=
  if c.actualProtocolVersion = tls13 ∧ ct = tlsChangeCipherSpec then
    { c with crypto := { c.crypto with client := .initial, server := .initial } }
  else c

section Switched

variable (c : Conn K) (ct : ContentType)

/-- All of a connection but the choice of parameters. -/
@[simp] lemma switched_send : (c.switched ct).send = c.send := by unfold Conn.switched; split <;> rfl
@[simp] lemma switched_mode : (c.switched ct).mode = c.mode := by unfold Conn.switched; split <;> rfl
@[simp] lemma switched_env : (c.switched ct).env = c.env := by unfold Conn.switched; split <;> rfl
@[simp] lemma switched_config : (c.switched ct).config = c.config := by
  unfold Conn.switched; split <;> rfl

@[simp] lemma switched_version :
    (c.switched ct).actualProtocolVersion = c.actualProtocolVersion := by
  unfold Conn.switched; split <;> rfl

@[simp] lemma switched_serverProtocolVersion :
    (c.switched ct).serverProtocolVersion = c.serverProtocolVersion := by
  unfold Conn.switched; split <;> rfl

@[simp] lemma switched_writeRef : (c.switched ct).writeRef = c.writeTarget ct := by
  unfold Conn.switched Conn.writeTarget
  split
  · unfold Conn.writeRef CryptoState.ref
    split <;> rfl
  · rfl

@[simp] lemma switched_params (r : ParamsRef) :
    (c.switched ct).crypto.params r = c.crypto.params r := by
  unfold Conn.switched
  split
  · cases r <;> rfl
  · rfl

@[simp] lemma switched_protocolVersion (rt : ContentType) :
    recordProtocolVersion (c.switched ct) rt = recordProtocolVersion c rt := by
  unfold Conn.switched; split <;> rfl

@[simp] lemma switched_writeSuite : (c.switched ct).writeSuite = c.crypto.suite (c.writeTarget ct) := by
  simp [Conn.writeSuite, CryptoState.suite]

@[simp] lemma switched_writeSide :
    (c.switched ct).writeSide = c.crypto.side (c.writeTarget ct) c.mode := by
  simp [Conn.writeSide, CryptoState.side]

end Switched

lemma switched_crypto (c : Conn K) (ct : ContentType) :
    { (c.switched ct).crypto with client := c.crypto.client, server := c.crypto.server } = c.crypto := by
  unfold Conn.switched
  split <;> rfl

lemma CryptoState.setSide_refs (s : CryptoState K) (r a b : ParamsRef) (m : Mode) (d : CryptoSide K) :
    { s.setSide r m d with client := a, server := b } =
      { s with client := a, server := b }.setSide r m d := by
  cases r <;> cases m <;> rfl

lemma wp_recordSwitchToInitial (ct : ContentType) (c : Conn K) :
    wp (recordSwitchToInitial ct) (fun _ c' => c' = c.switched ct)
      (fun _ c' => c' = c ∧ c.actualProtocolVersion = tls13 ∧ ct = tlsChangeCipherSpec ∧
        c.crypto.initialFreed = true) c := by
  unfold recordSwitchToInitial Conn.switched
  rw [wp_read, wp_when]
  refine ⟨fun h => ?_, fun h => by rw [if_neg h]⟩
  rw [if_pos h]
  refine wp_seq_ensure (fun _ => ?_) fun hfreed => ⟨rfl, h.1, h.2, by simpa using hfreed⟩
  rw [wp_modify]

lemma wp_recordCheckWrite (ct : ContentType) (c : Conn K) :
    wp (recordCheckWrite ct)
      (fun _ c' => c' = c ∧ (c.writeSuite.recordAlg.cipher.io.isNull = true → ct ≠ tlsApplicationData) ∧
        (c.send.multirecordSend = false → c.send.out.dataAvailable = 0))
      (fun _ c' => c' = c ∧ (c.writeSuite.recordAlg.cipher.io.isNull = true ∧ ct = tlsApplicationData ∨
          c.send.multirecordSend = false ∧ c.send.out.dataAvailable ≠ 0)) c := by
  unfold recordCheckWrite
  rw [wp_read]
  have hdrained : wp (when (c.send.multirecordSend = false)
      (ensure (c.send.out.dataAvailable = 0) Err.recordStufferNeedsDraining))
      (fun _ c' => c' = c ∧ (c.send.multirecordSend = false → c.send.out.dataAvailable = 0))
      (fun _ c' => c' = c ∧ c.send.multirecordSend = false ∧ c.send.out.dataAvailable ≠ 0) c := by
    rw [wp_when]
    refine ⟨fun hm => ?_, fun hno => ⟨rfl, fun hm => absurd hm hno⟩⟩
    rw [wp_ensure]
    exact ⟨fun hempty => ⟨rfl, fun _ => hempty⟩, fun h => ⟨rfl, hm, h⟩⟩
  rw [wp_bind, wp_when]
  refine ⟨fun hnull => ?_, fun hnot => ?_⟩
  · rw [wp_ensure]
    refine ⟨fun hct => ?_, fun h => ⟨rfl, .inl ⟨hnull, not_not.mp h⟩⟩⟩
    exact wp_mono (fun _ _ h => ⟨h.1, fun _ => hct, h.2⟩) (fun _ _ h => ⟨h.1, .inr h.2⟩) hdrained
  · exact wp_mono (fun _ _ h => ⟨h.1, fun h' => absurd h' hnot, h.2⟩) (fun _ _ h => ⟨h.1, .inr h.2⟩) hdrained

lemma wp_recordMaxWritePayloadSize (c : Conn K) :
    wp recordMaxWritePayloadSize
      (fun m c' => c' = c ∧ m ≤ 2 ^ 14 ∧ m + 261 ≤ recordMaxWriteSize c m ∧
        (c.config.sendBufferSizeOverride = 0 → m = min c.send.maxOutgoingFragmentLength (2 ^ 14)))
      (fun _ c' => c' = c ∧ (c.send.maxOutgoingFragmentLength = 0 ∨
        c.config.sendBufferSizeOverride ≠ 0 ∧ c.config.sendBufferSizeOverride ≤ 1029)) c := by
  have hsize : ∀ m, recordMaxWriteSize c m = m + 1029 ∨ recordMaxWriteSize c m = m + 261 := by
    intro m
    unfold recordMaxWriteSize tls12MaxRecordLenFor tls13MaxRecordLenFor recordHeaderLength
    split
    · exact .inl rfl
    · split
      · exact .inl rfl
      · exact .inr rfl
  have hmax : min c.send.maxOutgoingFragmentLength maximumFragmentLength ≤ 2 ^ 14 :=
    Nat.min_le_right _ _
  unfold recordMaxWritePayloadSize
  rw [wp_read]
  refine wp_seq_ensure (fun _ => ?_) fun h => ⟨rfl, .inl (by omega)⟩
  dsimp only
  have h₁ := hsize (min c.send.maxOutgoingFragmentLength maximumFragmentLength)
  rw [wp_ite]
  refine ⟨fun hover => ?_, fun _ => ?_⟩
  · refine wp_seq_ensure (fun hlt => ?_) fun h => ⟨rfl, .inr ⟨hover.1, by omega⟩⟩
    rw [wp_pure]
    refine ⟨rfl, by omega, ?_, fun h => absurd h hover.1⟩
    have h₂ := hsize (c.config.sendBufferSizeOverride - (recordMaxWriteSize c
      (min c.send.maxOutgoingFragmentLength maximumFragmentLength) -
        min c.send.maxOutgoingFragmentLength maximumFragmentLength))
    omega
  · rw [wp_pure]
    exact ⟨rfl, hmax, by omega, fun _ => rfl⟩

def Conn.withOut (c : Conn K) (t : Stuffer) : Conn K := { c with send := { c.send with out := t } }

/-- There is room for a record with a payload of `n` bytes, or it can be allocated. -/
def Conn.HasRoom (c : Conn K) (n : ℕ) : Prop :=
  if c.send.out.isFreed = true then
    (∀ n, c.env.malloc n = true) ∧ c.config.sendBufferSizeOverride < 2 ^ 32
  else n + 128 ≤ c.send.out.spaceRemaining

variable {c : Conn K} {ct : ContentType}

lemma Conn.HasRoom.switched {n' : ℕ} (h : c.HasRoom n)
    (hle : n' ≤ n) : (c.switched ct).HasRoom n' := by
  unfold Conn.HasRoom at h ⊢
  rw [switched_send, switched_env, switched_config]
  split
  · rename_i hfreed
    rwa [if_pos hfreed] at h
  · rename_i hfreed
    rw [if_neg hfreed] at h
    omega

lemma wp_recordAllocOut {m : ℕ} (hn : n ≤ m) (hm : m ≤ 2 ^ 14)
    (hsize : m + 261 ≤ recordMaxWriteSize c m) :
    wp (recordAllocOut m)
      (fun _ c' => ∃ t, c' = c.withOut t ∧ t.unread = c.send.out.unread ∧
        (c.HasRoom n → n + 128 ≤ t.spaceRemaining))
      (fun _ c' => (∃ t, c' = c.withOut t ∧ t.unread = c.send.out.unread) ∧ ¬ c.HasRoom n) c := by
  unfold recordAllocOut
  rw [wp_read, wp_when]
  refine ⟨fun hfreed => ?_, fun hfreed => ⟨c.send.out, rfl, rfl, fun h => ?_⟩⟩
  · have hempty : c.send.out.unread = [] := by
      have h₀ := c.send.out.blob.null_size hfreed
      have h₁ := c.send.out.write_le_high.trans c.send.out.high_le_size
      rw [unread_eq_nil, dataAvailable]
      omega
    have hle : recordMaxWriteSize c m < 2 ^ 32 := by
      unfold recordMaxWriteSize tls12MaxRecordLenFor tls13MaxRecordLenFor recordHeaderLength
      split
      · omega
      · split <;> omega
    rw [hempty, Conn.HasRoom, if_pos hfreed]
    dsimp only
    split
    · rename_i hsize'
      rw [onOut, wp_zoom]
      refine wp_mono (fun _ t ht => ?_) (fun _ t ht => ?_) (wp_growableAlloc c.env.malloc _ c.send.out)
      · obtain ⟨hw, -, hsize, -⟩ := ht
        rw [UInt32.toNat_ofNatLT] at hsize
        refine ⟨t, rfl, ?_, fun _ => ?_⟩
        · rw [unread_eq_nil, dataAvailable, hw, Nat.zero_sub]
        · rw [spaceRemaining, hw, hsize]
          omega
      · obtain ⟨-, hno, rfl⟩ := ht
        exact ⟨⟨_, rfl, rfl⟩, fun h => Bool.noConfusion (hno.symm.trans (h.1 _))⟩
    · rename_i hbig
      exact ⟨⟨c.send.out, rfl, hempty⟩, fun h => hbig (by omega)⟩
  · rw [Conn.HasRoom, if_neg hfreed] at h
    exact h

/-! ### Building the record -/

/-- What can keep a record with a payload of `n` bytes from being built in `size` bytes. -/
def Conn.Hindered (c : Conn K) (iov : List Iovec) (n size : ℕ) : Prop :=
  c.Broken ∨ size < n + 128 ∨ (∃ v ∈ iov, ¬ v.Valid) ∨
    c.writeSide.sequenceNumber.value + 1 = 2 ^ 64

lemma wp_recordProtect {w : WriterState K} {d : CryptoSide K} {rt ct : ContentType}
    {hv len size : ℕ} {iv aad explicit payload : List UInt8} {sizes : ℕ × ℕ × (ℕ × ℕ)} {rs : Stuffer}
    (hrt : rt = recordType c.writeSuite.recordAlg.isTls13Record ct)
    (hrs : Holds rs size (recordHeader rt hv len ++ explicit ++ payload))
    (hfits : RecordFits c hv ct d w.side iv aad explicit payload sizes)
    (hpart : sizes.2.2 = recordEncryptedPart c c.writeSuite.recordAlg payload.length
      c.writeSuite.recordAlg.hmacAlg.digestSize sizes.1 sizes.2.1)
    (hexp : explicit.length ≤ 16) (hpay : payload.length ≤ 2 ^ 14)
    (hsame : w.side.recordMac = d.recordMac ∧ w.side.sequenceNumber = d.sequenceNumber)
    (hmac : w.side.recordMac.alg = c.writeSuite.recordAlg.hmacAlg)
    (hfresh : w.side.recordMac.Fresh) :
    wp (recordProtect c.writeRef ct iv aad payload.length sizes.1 sizes.2.1 rs)
      (fun p c' => ∃ w' fragment, c' = c.withWriter c.writeRef w' ∧
        Sealed c.writeSuite.recordAlg c.actualProtocolVersion hv ct d payload w'.side fragment ∧
        fragment.length = sizes.2.2.1 + sizes.2.2.2 ∧ p.1 = payload ∧
        d.sequenceNumber.value + 1 < 2 ^ 64 ∧ Holds p.2 size (recordHeader rt hv len ++ fragment))
      (fun _ _ => c.Broken ∨ size < payload.length + 128 ∨
        d.sequenceNumber.value + 1 = 2 ^ 64) (c.withWriter c.writeRef w) := by
  have hh5 : (recordHeader rt hv len).length = 5 := recordHeader_length _ _ _
  have hpayload : slice rs.blob.data (rs.writeCursor - payload.length) payload.length = payload := by
    rw [hrs.writeCursor_eq, List.length_append, Nat.add_sub_cancel]
    exact Holds.slice_eq (by rwa [List.append_nil])
  have hslice : slice rs.blob.data 0 recordHeaderLength = recordHeader rt hv len := by
    have := Holds.slice_eq (a := []) (b := recordHeader rt hv len) (c := explicit ++ payload)
      (by rwa [List.nil_append, ← List.append_assoc])
    rwa [hh5] at this
  have hmacOf : w.side.recordMacOf c.actualProtocolVersion hv rt payload =
      d.recordMacOf c.actualProtocolVersion hv rt payload := by
    unfold CryptoSide.recordMacOf CryptoSide.seq
    rw [hsame.1, hsame.2]
  have hdig := HmacAlg.digestSize_le w.side.recordMac.alg
  obtain ⟨⟨a, e, hparts, hp⟩, -, hpad, hle⟩ := hfits
  unfold recordProtect
  rw [wp_read]
  dsimp only
  rw [hpayload, hslice, withWriter_suite, withWriter_mode, wp_bind]
  refine wp_recordWriteMac hrs hmac hfresh (fun rs₁ uses hrs₁ => ?_) fun e w' h => ?_
  swap
  · obtain h | h | h := h
    · exact .inl h
    · refine .inr (.inl ?_)
      simp only [List.length_append] at h
      omega
    · exact absurd h (by unfold HmacState.maxUpdate; omega)
  rw [wp_bind]
  refine wp_increment_withWriter (fun hnum => ?_) fun e w' h =>
    Or.inr (.inr (by rw [← hsame.2]; exact h))
  rw [wp_bind]
  refine wp_recordWriteTrailer hrs₁ (fun rs₂ hrs₂ => ?_) fun e h => .inr (.inl ?_)
  swap
  · simp only [List.length_append, CryptoSide.recordMacOf_length] at h
    omega
  have hbytes : recordHeader rt hv len ++ explicit ++ payload ++
      w.side.recordMacOf c.actualProtocolVersion hv rt payload ++
      trailerBytes c.writeSuite.recordAlg ct sizes.1 = recordHeader rt hv len ++ a ++ e := by
    rw [List.append_assoc (recordHeader rt hv len) a e, ← hparts, hmacOf, ← hrt]
    simp only [List.append_assoc]
  have hrs₂' : Holds rs₂ size (recordHeader rt hv len ++ a ++ e) := hbytes ▸ hrs₂
  have hsizes : recordEncryptedPart (c.withWriter c.writeRef w) (c.crypto.suite c.writeRef).recordAlg
      payload.length w.side.recordMac.alg.digestSize sizes.1 sizes.2.1 = sizes.2.2 := by
    rw [hmac, hpart]
    rfl
  have hlen : (recordHeader rt hv len ++ a).length = recordHeaderLength + sizes.2.2.1 := by
    rw [List.length_append, hp.skip_eq, recordHeader_length]
  rw [hsizes, wp_bind]
  refine wp_recordEncryptInPlace hrs₂' hlen hp.fits hp.tag_le
    (fun junk d' en' uses' rs₃ hjunk henc hrs₃ => ?_) fun e' w' h => ?_
  · rw [wp_pure]
    have hen : en'.length = sizes.2.2.2 := by
      have hfits := hp.fits
      rw [henc.length_eq fun x hx => (hp.tag_le x hx).trans ?_] <;>
        rw [List.length_append, hjunk] <;> omega
    refine ⟨_, a ++ en', rfl, hp.isSealed junk d' en' hjunk henc, ?_, rfl, hsame.2 ▸ hnum, ?_⟩
    · rw [List.length_append, hp.skip_eq, hen]
    · rwa [← List.append_assoc]
  · obtain h | h | ⟨junk, hjunk, h⟩ := h
    · exact .inl h
    · refine .inr (.inl ?_)
      have : recordHeaderLength = 5 := rfl
      omega
    · exact absurd (hp.encrypts (hsame.2 ▸ hnum) junk hjunk) h

/-- The fragment is never so long that its length is cut. -/
lemma recordLength_fits {padding extra : ℕ} (hn : n ≤ 2 ^ 14) (hle : padding + extra ≤ 112) (tls13Record : Bool) :
    (n + padding + extra) % 2 ^ 16 = n + padding + extra ∧
      n + padding + extra + recordHeaderLength ≤
        if tls13Record then tls13MaxRecordLenFor maximumFragmentLength
        else tls12MaxRecordLenFor maximumFragmentLength := by
  refine ⟨Nat.mod_eq_of_lt (by omega), ?_⟩
  unfold tls13MaxRecordLenFor tls12MaxRecordLenFor maximumFragmentLength recordHeaderLength
  split <;> omega

/-- The type and the version in the header of a record that the current parameters protect. -/
abbrev Conn.outerType (c : Conn K) (ct : ContentType) : ContentType :=
  recordType c.writeSuite.recordAlg.isTls13Record ct
abbrev Conn.outerVersion (c : Conn K) (ct : ContentType) : ℕ := recordProtocolVersion c (c.outerType ct)

/-- The stuffer `rs` has the record with the `n` bytes of `payload`, taken from `iov`. -/
structure Built (c : Conn K) (ct : ContentType) (iov : List Iovec) (offs n size : ℕ) (payload : List UInt8)
    (rs : Stuffer)
    (d' : CryptoSide K) (fragment : List UInt8) : Prop where
  isSealed : Sealed c.writeSuite.recordAlg c.actualProtocolVersion (c.outerVersion ct) ct c.writeSide
    payload d' fragment
  length_le : fragment.length ≤ n + 112
  payload_length : payload.length = n
  data : offs % 2 ^ 32 + n ≤ (iovBytes (iov.take (iovCount iov.length))).length →
    payload = ((iovBytes (iov.take (iovCount iov.length))).drop (offs % 2 ^ 32)).take n
  number : c.writeSide.sequenceNumber.value + 1 < 2 ^ 64
  holds : Holds rs size (recordHeader (c.outerType ct) (c.outerVersion ct) fragment.length ++ fragment)

section Build

variable {iov : List Iovec} {offs size m : ℕ} (hlaw : CipherLaw c.writeSuite.recordAlg c.writeSide.implicitIv paired)
  (hpair : paired c.writeSide.sequenceNumber c.writeSide.key k')
  (hsup : c.writeSuite.recordAlg.Supports c.actualProtocolVersion)
  (hmac : c.writeSide.recordMac.alg = c.writeSuite.recordAlg.hmacAlg) (hfresh : c.writeSide.recordMac.Fresh)
include hlaw hpair hsup hmac hfresh

/-- With the header, the IV and the payload in place, the record is completed. -/
lemma wp_recordProtect_built {w : WriterState K} {d₁ : CryptoSide K} {iv aad explicit payload : List UInt8}
    {rs : Stuffer}
    (hn : payload.length ≤ 2 ^ 14)
    (hdata : offs % 2 ^ 32 + payload.length ≤ (iovBytes (iov.take (iovCount iov.length))).length →
      payload = ((iovBytes (iov.take (iovCount iov.length))).drop (offs % 2 ^ 32)).take payload.length)
    (hstart : HmacStarted c.writeSuite.recordAlg c.actualProtocolVersion ct payload.length c.writeSide m d₁)
    (hiv : IvWritten c.writeSuite.recordAlg c.actualProtocolVersion ct payload.length d₁ iv aad explicit w.side)
    {sizes : ℕ × ℕ × (ℕ × ℕ)} (hsizes : recordSizes c payload.length m = sizes)
    (hrs : Holds rs size (recordHeader (c.outerType ct) (c.outerVersion ct) (payload.length + sizes.1 + sizes.2.1) ++
      explicit ++ payload)) :
    wp (recordProtect c.writeRef ct iv aad payload.length sizes.1 sizes.2.1 rs)
      (fun p c' => ∃ w' fragment, c' = c.withWriter c.writeRef w' ∧
        Built c ct iov offs payload.length size p.1 p.2 w'.side fragment)
      (fun _ _ => c.Hindered iov payload.length size) (c.withWriter c.writeRef w) := by
  have hsame : w.side.recordMac = c.writeSide.recordMac ∧ w.side.sequenceNumber = c.writeSide.sequenceNumber :=
    ⟨hiv.same.1.trans hstart.same.1, hiv.same.2.trans hstart.same.2⟩
  have hfits : RecordFits c (c.outerVersion ct) ct c.writeSide w.side iv aad explicit payload
    (recordSizes c payload.length m) := recordFits hmac hlaw hpair hn hsup hstart hiv
  have hpart : sizes.2.2 = recordEncryptedPart c c.writeSuite.recordAlg payload.length
      c.writeSuite.recordAlg.hmacAlg.digestSize sizes.1 sizes.2.1 := by
    rw [← hsizes]
    rfl
  rw [hsizes] at hfits
  refine wp_mono (fun p c' hp => ?_) (fun e c' h => ?_)
    (wp_recordProtect rfl hrs hfits hpart hiv.explicit_length_le hn hsame (by rw [hsame.1, hmac])
      (by rw [hsame.1]; exact hfresh))
  · obtain ⟨w', fragment, rfl, hsealed, hlen, hpay, hnum, hholds⟩ := hp
    rw [← hfits.length_eq, ← hlen] at hholds
    rw [hpay]
    exact ⟨w', fragment, rfl, hsealed, hlen.trans_le hfits.length_le, rfl, hdata, hnum, hholds⟩
  · obtain h | h | h := h
    · exact .inl h
    · exact .inr (.inl h)
    · exact .inr (.inr (.inr h))

lemma wp_recordBuild {rs : Stuffer} (hrs : Holds rs size []) (hn : n ≤ 2 ^ 14) :
    wp (recordBuild ct (some iov) offs n rs)
      (fun p c' => ∃ w fragment, c' = c.withWriter c.writeRef w ∧ Built c ct iov offs n size p.1 p.2 w.side fragment)
      (fun _ _ => c.Hindered iov n size) c := by
  unfold recordBuild
  rw [wp_read]
  dsimp only
  have hfull : ∀ {m : ℕ}, size < m → m ≤ n + 128 → c.Hindered iov n size :=
    fun h hle => .inr (.inl (by omega))
  -- the first three bytes of the header
  refine wp_seq_execLocal_of (hrs.writeBytes c.env.malloc [_]) (fun rs₁ hrs₁ => ?_) fun _ h => hfull h (by simp)
  refine wp_seq_execLocal_of (hrs₁.writeBytes c.env.malloc (versionBytes _)) (fun rs₂ hrs₂ => ?_)
    fun _ h => hfull h (by simp [versionBytes])
  -- from here on only the direction, the random numbers and the trace change
  conv => arg 4; rw [← Conn.withWriter_writer c c.writeRef]
  rw [wp_bind]
  refine wp_recordInitialHmac (fun m d₁ hstart => ?_) fun e w' h => ?_
  swap
  · obtain h | ⟨x, hio, hnone⟩ := h
    · exact .inl h
    · obtain ⟨_, _, -, heq⟩ := hlaw.initialHmac_eq hio hpair hsup hn ct
      cases heq.symm.trans hnone
  obtain ⟨hlen, hmax⟩ := recordLength_fits hn (recordSizes_le hlaw hpair hsup hn hstart)
    c.writeSuite.recordAlg.isTls13Record
  generalize hsizes : recordSizes c n m = sizes at hlen hmax
  have hpadding : c.writeSuite.recordAlg.cipher.io.padding (n + tlsRecordOverhead c) = sizes.1 := by
    rw [← hsizes]; rfl
  have hextra : (tlsRecordOverhead c + m +
      if c.writeSuite.recordAlg.isTls13Record = true then 1 else 0) % 2 ^ 16 = sizes.2.1 := by
    rw [← hsizes]; rfl
  rw [hpadding, hextra, hlen]
  refine wp_ensured hmax ?_
  refine wp_seq_execLocal_of (hrs₂.writeBytes c.env.malloc (beBytes 2 (n + sizes.1 + sizes.2.1)))
    (fun rs₃ hrs₃ => ?_) fun _ h => hfull h (by simp [versionBytes])
  have hrs₃' : Holds rs₃ size (recordHeader (c.outerType ct) (c.outerVersion ct) (n + sizes.1 + sizes.2.1)) := hrs₃
  rw [wp_bind]
  refine wp_recordWriteIv hrs₃' (fun iv aad explicit rs₄ d₂ random hiv hrs₄ => ?_) fun e w' h => ?_
  swap
  · obtain h | h | h := h
    · exact .inl h
    · exact hfull h (by rw [recordHeader_length, recordHeaderLength]; omega)
    · omega
  refine wp_seq_ofExcept (fun iov' hiov => ?_) fun _ h => by cases h
  obtain rfl : iov = iov' := Except.ok.inj hiov
  refine wp_seq_execLocal_of (hrs₄.writevBytes c.env.malloc _ offs n) (fun rs₅ h₅ => ?_) fun _ h => ?_
  swap
  · obtain h | ⟨v, hv, hbad⟩ := h
    · have hexp := hiv.explicit_length_le
      exact hfull h (by rw [List.length_append, recordHeader_length, recordHeaderLength]; omega)
    · exact .inr (.inr (.inl ⟨v, List.mem_of_mem_take hv, hbad⟩))
  obtain ⟨payload, hrs₅, rfl, hdata⟩ := h₅
  exact wp_recordProtect_built (w := ⟨d₂, random, _⟩) hlaw hpair hsup hmac hfresh hn hdata hstart hiv hsizes hrs₅

end Build

lemma wp_recordSyncOut (ct : ContentType) (payload : List UInt8) (rs : Stuffer) (c : Conn K) :
    wp (recordSyncOut ct payload rs)
      (fun _ c' => ∃ t records, c' = { c.withOut t with trace := { c.trace with records := records } } ∧
        t.unread = c.send.out.unread ++ rs.unread ∧
        records = c.trace.records ++ [⟨ct, payload, rs.unread⟩])
      (fun _ c' => (∃ t, c' = c.withOut t ∧ t.unread = c.send.out.unread) ∧
        c.send.out.spaceRemaining < rs.unread.length) c := by
  unfold recordSyncOut
  rw [wp_read, wp_bind, onOut, wp_zoom, ← unread_length]
  refine wp_mono (fun _ t ht => ?_) (fun _ t ht => ⟨⟨t, rfl, ht.1 rfl⟩, ht.2⟩)
    (wp_poke_skipWrite c.env.malloc rs.unread c.send.out)
  rw [wp_modify]
  exact ⟨t, _, rfl, ht, rfl⟩

/-! ### One call -/

/-- The call of `s2n_record_writev` with `n` bytes of `iov` can succeed: nothing outside the library
fails, the connection may write records of this type, and there is room in the output buffer. -/
structure CanWrite (c : Conn K) (ct : ContentType) (iov : List Iovec) (n : ℕ) : Prop where
  calls : ¬ c.Broken
  initial : c.actualProtocolVersion = tls13 → ct = tlsChangeCipherSpec → c.crypto.initialFreed = false
  encrypted : (c.crypto.suite (c.writeTarget ct)).recordAlg.cipher.io.isNull = true →
    ct ≠ tlsApplicationData
  drained : c.send.multirecordSend = false → c.send.out.dataAvailable = 0
  fragment : 0 < c.send.maxOutgoingFragmentLength
  override : c.config.sendBufferSizeOverride = 0 ∨ 1029 < c.config.sendBufferSizeOverride
  room : c.HasRoom (min n (2 ^ 14))
  data : ∀ v ∈ iov, v.Valid
  number : (c.crypto.side (c.writeTarget ct) c.mode).sequenceNumber.value + 1 < 2 ^ 64

/-- The type and the version in the header of a record of type `ct`. -/
def Conn.headerType (c : Conn K) (ct : ContentType) : ContentType :=
  recordType (c.crypto.suite (c.writeTarget ct)).recordAlg.isTls13Record ct
def Conn.headerVersion (c : Conn K) (ct : ContentType) : ℕ :=
  recordProtocolVersion c (c.headerType ct)

/-- `c'` is `c` after a record with the given payload was appended to the output. -/
structure Appended (c : Conn K) (ct : ContentType) (payload : List UInt8) (d' : CryptoSide K)
    (fragment : List UInt8) (c' : Conn K) : Prop where
  isSealed : Sealed (c.crypto.suite (c.writeTarget ct)).recordAlg c.actualProtocolVersion
    (c.headerVersion ct) ct (c.crypto.side (c.writeTarget ct) c.mode) payload d' fragment
  length_le : fragment.length ≤ payload.length + 112
  encrypted : (c.crypto.suite (c.writeTarget ct)).recordAlg.cipher.io.isNull = true →
    ct ≠ tlsApplicationData
  number : (c.crypto.side (c.writeTarget ct) c.mode).sequenceNumber.value + 1 < 2 ^ 64
  mode : c'.mode = c.mode
  version : c'.actualProtocolVersion = c.actualProtocolVersion
  serverVersion : c'.serverProtocolVersion = c.serverProtocolVersion
  ktls : c'.send.ktlsSendEnabled = c.send.ktlsSendEnabled
  crypto : c'.crypto = c.crypto.setSide (c.writeTarget ct) c.mode d'
  out : c'.send.out.unread = c.send.out.unread ++
    (recordHeader (c.headerType ct) (c.headerVersion ct) fragment.length ++ fragment)

variable {iov : List Iovec} {offs size m : ℕ} {t rs : Stuffer} {payload fragment : List UInt8} {d' : CryptoSide K}

lemma CanWrite.not_hindered (h : CanWrite c ct iov n) (hroom : m + 128 ≤ size) :
    ¬ ((c.switched ct).withOut t).Hindered iov m size := by
  rintro (⟨f, hf⟩ | hsize | ⟨v, hv, hbad⟩ | hmax)
  · exact h.calls ⟨f, by rwa [← switched_env c ct]⟩
  · omega
  · exact hbad (h.data v hv)
  · have hside : ((c.switched ct).withOut t).writeSide = _ := switched_writeSide c ct
    have hnumber := h.number
    rw [hside] at hmax
    omega

section Append

variable (hunread : t.unread = c.send.out.unread)
  (hencrypted : (c.crypto.suite (c.writeTarget ct)).recordAlg.cipher.io.isNull = true → ct ≠ tlsApplicationData)

include hunread hencrypted

/-- The record that was built with the parameters of the record is the one that is appended to the output. -/
lemma Built.appended {c' : Conn K} (h : Built ((c.switched ct).withOut t) ct iov offs n size payload rs d' fragment)
    (hout : c'.send.out.unread = t.unread ++ rs.unread)
    (hktls : c'.send.ktlsSendEnabled = (c.switched ct).send.ktlsSendEnabled)
    (hmode : c'.mode = (c.switched ct).mode)
    (hversion : c'.actualProtocolVersion = (c.switched ct).actualProtocolVersion)
    (hserver : c'.serverProtocolVersion = (c.switched ct).serverProtocolVersion)
    (hcrypto : c'.crypto = c.crypto.setSide (c.writeTarget ct) c.mode d') :
    Appended c ct payload d' fragment c' := by
  have hsuite : ((c.switched ct).withOut t).writeSuite = c.crypto.suite (c.writeTarget ct) := switched_writeSuite c ct
  have hside : ((c.switched ct).withOut t).writeSide = c.crypto.side (c.writeTarget ct) c.mode :=
    switched_writeSide c ct
  have htype : ((c.switched ct).withOut t).outerType ct = c.headerType ct := by
    rw [Conn.outerType, hsuite, Conn.headerType]
  have hver : ((c.switched ct).withOut t).outerVersion ct = c.headerVersion ct := by
    rw [Conn.outerVersion, htype]
    exact switched_protocolVersion c ct _
  have hsealed := h.isSealed
  have hholds := h.holds.unread
  have hnum := h.number
  rw [hsuite, hside, hver] at hsealed
  rw [htype, hver] at hholds
  rw [hside] at hnum
  rw [switched_send] at hktls
  rw [switched_mode] at hmode
  rw [switched_version] at hversion
  rw [switched_serverProtocolVersion] at hserver
  refine ⟨switched_version c ct ▸ hsealed, ?_, hencrypted, hnum, hmode, hversion, hserver, hktls, hcrypto, ?_⟩
  · rw [h.payload_length]
    exact h.length_le
  · rw [hout, hunread, hholds]

/-- The end of the call: the parameters are those of the connection, chosen again or never switched. -/
lemma Built.wp_restore {w : WriterState K} {u : Stuffer} {records : List WrittenRecord}
    (h : Built ((c.switched ct).withOut t) ct iov offs n size payload rs w.side fragment)
    (hout : u.unread = t.unread ++ rs.unread) :
    let c₁ := ((c.switched ct).withOut t).withWriter ((c.switched ct).withOut t).writeRef w
    wp (do
        when (((c.switched ct).withOut t).actualProtocolVersion = tls13 ∧ ct = tlsChangeCipherSpec) do
          modify fun c' => { c' with crypto := { c'.crypto with client := c.crypto.client, server := c.crypto.server } }
        return m : ConnM K ℕ)
      (fun written c' => written = m ∧ Appended c ct payload w.side fragment c') noError
      { c₁.withOut u with trace := { c₁.trace with records := records } } := by
  intro c₁
  have href : ((c.switched ct).withOut t).writeRef = c.writeTarget ct := switched_writeRef c ct
  have happended : ∀ x, x = c.crypto.setSide (c.writeTarget ct) c.mode w.side → Appended c ct payload w.side fragment
      { c₁.withOut u with trace := { c₁.trace with records := records }, crypto := x } := by
    intro x hx
    refine h.appended hunread hencrypted ?_ ?_ ?_ ?_ ?_ hx <;> dsimp only [c₁, Conn.withOut, Conn.withWriter]
    exact hout
  rw [wp_bind, wp_when]
  refine ⟨fun _ => ?_, fun hno => ?_⟩
  · rw [wp_modify, wp_pure]
    refine ⟨rfl, happended _ ?_⟩
    rw [← switched_crypto c ct, ← CryptoState.setSide_refs, ← href, ← switched_mode c ct]
    rfl
  · rw [wp_pure]
    refine ⟨rfl, happended c₁.crypto ?_⟩
    have hno' : ¬ (c.actualProtocolVersion = tls13 ∧ ct = tlsChangeCipherSpec) := switched_version c ct ▸ hno
    have hsame : c.crypto = (c.switched ct).crypto := by rw [Conn.switched, if_neg hno']
    rw [hsame, ← href, ← switched_mode c ct]
    rfl

end Append

/-- **Writing a record.** A call of `s2n_record_writev` appends one protected record to the output,
with the requested bytes; it fails only when something stands in the way. -/
theorem recordWritev_appends (hktls : c.send.ktlsSendEnabled = false)
    (hsup : (c.crypto.suite (c.writeTarget ct)).recordAlg.Supports c.actualProtocolVersion)
    (hlaw : CipherLaw (c.crypto.suite (c.writeTarget ct)).recordAlg
      (c.crypto.side (c.writeTarget ct) c.mode).implicitIv paired)
    (hpair : paired (c.crypto.side (c.writeTarget ct) c.mode).sequenceNumber
      (c.crypto.side (c.writeTarget ct) c.mode).key k')
    (hmac : (c.crypto.side (c.writeTarget ct) c.mode).recordMac.alg =
      (c.crypto.suite (c.writeTarget ct)).recordAlg.hmacAlg)
    (hfresh : (c.crypto.side (c.writeTarget ct) c.mode).recordMac.Fresh) :
    wp (recordWritev ct (some iov) offs n)
      (fun written c' => ∃ payload d' fragment, Appended c ct payload d' fragment c' ∧
        payload.length = written ∧ written ≤ n ∧ written ≤ 2 ^ 14 ∧
        (c.config.sendBufferSizeOverride = 0 →
          written = min n (min c.send.maxOutgoingFragmentLength (2 ^ 14))) ∧
        (offs % 2 ^ 32 + written ≤ (iovBytes (iov.take (iovCount iov.length))).length →
          payload = ((iovBytes (iov.take (iovCount iov.length))).drop (offs % 2 ^ 32)).take written))
      (fun _ _ => ¬ CanWrite c ct iov n) c := by
  unfold recordWritev
  rw [wp_read, if_neg (by rw [hktls]; decide)]
  unfold recordWritevOut
  rw [wp_read]
  refine wp_seq (wp_recordSwitchToInitial ct c) (fun _ c₁ h₁ => ?_) fun _ _ h hcan => ?_
  swap
  · obtain ⟨-, hver, hct, hfreed⟩ := h
    exact absurd (hcan.initial hver hct) (by rw [hfreed]; decide)
  subst h₁
  refine wp_seq (wp_recordCheckWrite ct _) (fun _ c₂ h₂ => ?_) fun _ _ h hcan => ?_
  swap
  · obtain ⟨-, ⟨hnull, hct⟩ | ⟨hmulti, havail⟩⟩ := h
    · rw [switched_writeSuite] at hnull
      exact hcan.encrypted hnull hct
    · rw [switched_send] at hmulti havail
      exact havail (hcan.drained hmulti)
  obtain ⟨rfl, hencrypted, -⟩ := h₂
  rw [switched_writeSuite] at hencrypted
  refine wp_seq (wp_recordMaxWritePayloadSize _) (fun m c₃ h₃ => ?_) fun _ _ h hcan => ?_
  swap
  · obtain ⟨-, h⟩ := h
    rw [switched_send, switched_config] at h
    have h₁ := hcan.fragment
    have h₂ := hcan.override
    omega
  obtain ⟨rfl, hm, hroom, hfull⟩ := h₃
  rw [switched_config, switched_send] at hfull
  dsimp only
  refine wp_seq (wp_recordAllocOut (n := min n m) (Nat.min_le_right _ _) hm hroom)
    (fun _ c₄ h₄ => ?_) fun _ _ h hcan => ?_
  swap
  · exact h.2 (hcan.room.switched (by omega))
  obtain ⟨t, rfl, hunread, hspace⟩ := h₄
  rw [switched_send] at hunread
  rw [wp_read]
  have hsuite : ((c.switched ct).withOut t).writeSuite = c.crypto.suite (c.writeTarget ct) := switched_writeSuite c ct
  have hside : ((c.switched ct).withOut t).writeSide = c.crypto.side (c.writeTarget ct) c.mode :=
    switched_writeSide c ct
  have hversion : ((c.switched ct).withOut t).actualProtocolVersion = c.actualProtocolVersion := switched_version c ct
  refine wp_seq (wp_recordBuild (hsuite ▸ hside ▸ hlaw) (hside ▸ hpair) (hsuite ▸ hversion ▸ hsup)
    (hsuite ▸ hside ▸ hmac) (hside ▸ hfresh) (Holds.init _) (by omega)) (fun p c₅ h₅ => ?_) fun _ _ h hcan =>
      hcan.not_hindered (hspace (hcan.room.switched (by omega))) h
  obtain ⟨w, fragment, rfl, hbuilt⟩ := h₅
  refine wp_seq (wp_recordSyncOut ct p.1 p.2 _) (fun _ c₆ h₆ => ?_) fun _ _ h => ?_
  swap
  · have hle := hbuilt.holds.length_le
    rw [← hbuilt.holds.unread] at hle
    exact absurd h.2 (Nat.not_lt.mpr hle)
  obtain ⟨u, records, rfl, hu, -⟩ := h₆
  refine wp_sure (fun written c' hdone => ?_) (hbuilt.wp_restore hunread hencrypted hu)
  obtain ⟨rfl, happended⟩ := hdone
  exact ⟨p.1, w.side, fragment, happended, hbuilt.payload_length, Nat.min_le_left _ _, (Nat.min_le_right _ _).trans hm,
    fun h => congrArg (min n) (hfull h), hbuilt.data⟩

end S2nTls
