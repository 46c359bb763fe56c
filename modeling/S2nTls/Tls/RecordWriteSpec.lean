import S2nTls.Stuffer.Fixed
import S2nTls.Tls.RecordProtection

/-!
`s2n_record_writev` appends one protected record to `conn->out`.

The pieces of the function work on one direction of one set of crypto parameters, take random bytes
and leave a trace; the state they work on is `Conn.withWriter`, a connection with these three
replaced. Each piece is described on such states, and the record is put together from them.
-/

namespace S2nTls

open Lib Stuffer

variable {K : Type}

/-! ### What the writer changes -/

/-- The part of a connection that writing a record changes, apart from `conn->out`. -/
structure WriterState (K : Type) where
  side : CryptoSide K
  random : ℕ → UInt8
  uses : List SequenceUse

def Conn.withWriter (c : Conn K) (r : ParamsRef) (w : WriterState K) : Conn K :=
  { c with
    crypto := c.crypto.setSide r c.mode w.side
    env := { c.env with random := w.random }
    trace := { c.trace with sequenceUses := w.uses } }

/-- The part of `c` that a writer with the set `r` changes. -/
def Conn.writer (c : Conn K) (r : ParamsRef) : WriterState K :=
  ⟨c.crypto.side r c.mode, c.env.random, c.trace.sequenceUses⟩

lemma Conn.withWriter_writer (c : Conn K) (r : ParamsRef) : c.withWriter r (c.writer r) = c := by
  simp [Conn.withWriter, Conn.writer]

section WithWriter

variable (c : Conn K) (r : ParamsRef) (w : WriterState K)

@[simp] lemma withWriter_mode : (c.withWriter r w).mode = c.mode := rfl

@[simp] lemma withWriter_version :
    (c.withWriter r w).actualProtocolVersion = c.actualProtocolVersion := rfl

@[simp] lemma withWriter_malloc : (c.withWriter r w).env.malloc = c.env.malloc := rfl

@[simp] lemma withWriter_fault : (c.withWriter r w).env.fault = c.env.fault := rfl

@[simp] lemma withWriter_side : (c.withWriter r w).crypto.side r c.mode = w.side :=
  CryptoState.side_setSide_self _ _ _ _

@[simp] lemma withWriter_suite (r' : ParamsRef) :
    (c.withWriter r w).crypto.suite r' = c.crypto.suite r' :=
  CryptoState.suite_setSide _ _ _ _ _

@[simp] lemma withWriter_setSide (d : CryptoSide K) :
    (c.withWriter r w).setSide r c.mode d = c.withWriter r { w with side := d } := by
  simp [Conn.withWriter, Conn.setSide]

lemma wp_onSide_withWriter {α : Type} {f : EStateM Err (CryptoSide K) α} {Q : α → Conn K → Prop}
    {R : Err → Conn K → Prop} :
    wp (onSide r c.mode f) Q R (c.withWriter r w) ↔
      wp f (fun a d => Q a (c.withWriter r { w with side := d }))
        (fun e d => R e (c.withWriter r { w with side := d })) w.side := by
  rw [onSide, wp_zoom, withWriter_side]
  simp only [withWriter_setSide]

end WithWriter

/-! ### Calls outside the library -/

/-- Some call outside the library fails. -/
def Conn.Broken (c : Conn K) : Prop := ∃ f, c.env.fault f = true

section Pieces

variable {α : Type} {Q : α → Conn K → Prop} {R : Err → Conn K → Prop} {c : Conn K} {r : ParamsRef}
  {w : WriterState K}
variable {ct : ContentType} {bs iv aad : List UInt8} {rs : Stuffer} {n size : ℕ}

lemma wp_callCipher {f : Fault} {e : Err} {call : K → Option (K × α)}
    (hok : ∀ k a, call w.side.key = some (k, a) →
      Q a (c.withWriter r { w with side := { w.side with key := k } }))
    (herr : c.Broken ∨ call w.side.key = none → R e (c.withWriter r w)) :
    wp (callCipher r c.mode f e call) Q R (c.withWriter r w) := by
  unfold callCipher
  rw [wp_read]
  refine wp_seq_ensure (fun _ => ?_) fun hf => herr (.inl ⟨f, by simpa using hf⟩)
  rw [withWriter_side]
  cases hcall : call w.side.key with
  | none => exact herr (.inr hcall)
  | some p =>
    obtain ⟨k, a⟩ := p
    simp only [wp_bind, wp_onSide_withWriter, wp_modify, wp_pure]
    exact hok k a hcall

lemma wp_setImplicitIv {Q : Unit → Conn K → Prop} : wp (setImplicitIv r c.mode bs) Q R (c.withWriter r w) ↔
      Q () (c.withWriter r
        { w with side := { w.side with implicitIv := overwrite w.side.implicitIv 0 bs } }) := by
  rw [setImplicitIv, wp_onSide_withWriter, wp_modify]

lemma wp_getPublicRandomData {Q : List UInt8 → Conn K → Prop}
    (hok : ∀ bs random, bs.length = n → Q bs (c.withWriter r { w with random := random }))
    (herr : c.Broken → R .drbg (c.withWriter r w)) :
    wp (getPublicRandomData n) Q R (c.withWriter r w) := by
  unfold getPublicRandomData
  rw [wp_read]
  refine wp_seq_ensure (fun _ => ?_) fun hf => herr ⟨.random n, by simpa using hf⟩
  rw [wp_update, wp_pure]
  exact hok _ (fun i => w.random (n + i)) (slice_length w.random 0 n)

/-! ### The IV -/

/-- What `recordWriteIv` has to do for a payload of `n` bytes: the IV and the additional data for
the cipher, what is sent of them, and the parameters after it. -/
inductive IvWritten (alg : RecordAlg K) (version : ℕ) (ct : ContentType) (n : ℕ)
    (d : CryptoSide K) : (iv aad explicit : List UInt8) → CryptoSide K → Prop
  | none : alg.cipher.io = .null → IvWritten alg version ct n d [] [] [] d
  | stream {x : StreamCipher K} : alg.cipher.io = .stream x → IvWritten alg version ct n d [] [] [] d
  | aead {x : AeadCipher K} {iv aad : List UInt8} : alg.cipher.io = .aead x →
      aeadNonce alg.flags x.fixedIvSize d.implicitIv d.seq d.seq = .ok iv →
      recordAad alg x version d.seq ct n = .ok aad →
      IvWritten alg version ct n d iv aad (if alg.flags = .tls12AesGcm then d.seq else []) d
  | cbcExplicit {x : CbcCipher K} {iv : List UInt8} : alg.cipher.io = .cbc x → tls10 < version →
      iv.length = x.blockSize →
      IvWritten alg version ct n d iv [] iv { d with implicitIv := overwrite d.implicitIv 0 iv }
  | cbcChained {x : CbcCipher K} : alg.cipher.io = .cbc x → version ≤ tls10 →
      IvWritten alg version ct n d (slice d.implicitIv 0 x.blockSize) [] [] d
  | compositeExplicit {x : CompositeCipher K} {iv front : List UInt8} :
      alg.cipher.io = .composite x → tls10 < version → iv.length = x.blockSize →
      front.length = x.blockSize →
      IvWritten alg version ct n d iv [] front { d with implicitIv := overwrite d.implicitIv 0 iv }
  | compositeChained {x : CompositeCipher K} : alg.cipher.io = .composite x → version ≤ tls10 →
      IvWritten alg version ct n d (slice d.implicitIv 0 x.blockSize) [] [] d

lemma aeadNonce_ok {alg : RecordAlg K} {x : AeadCipher K} (hio : alg.cipher.io = .aead x)
    (iv : ℕ → UInt8) (seq explicit : List UInt8) :
    ∃ nonce, aeadNonce alg.flags x.fixedIvSize iv seq explicit = .ok nonce := by
  have hwf := alg.wellFormed
  simp only [hio, RecordAlg.WellFormed] at hwf
  obtain ⟨-, -, ⟨hf, -⟩ | ⟨hf | hf, -⟩⟩ := hwf <;> rw [hf] <;> exact ⟨_, rfl⟩

lemma wp_recordWriteIv {Q : List UInt8 × List UInt8 × Stuffer → Conn K → Prop} (hrs : Holds rs size bs)
    (hok : ∀ iv aad explicit rs' d random,
      IvWritten (c.crypto.suite r).recordAlg c.actualProtocolVersion ct n w.side iv aad explicit d →
      Holds rs' size (bs ++ explicit) →
      Q (iv, aad, rs') (c.withWriter r { w with side := d, random := random }))
    (herr : ∀ e w', c.Broken ∨ size < bs.length + 16 ∨ 2 ^ 14 + 239 < n → R e (c.withWriter r w')) :
    wp (recordWriteIv r ct n rs) Q R (c.withWriter r w) := by
  have hwf := (c.crypto.suite r).recordAlg.wellFormed
  unfold recordWriteIv
  rw [wp_read]
  dsimp only
  rw [withWriter_suite, withWriter_mode, withWriter_side, withWriter_version, withWriter_malloc]
  generalize hio : (c.crypto.suite r).recordAlg.cipher.io = io
  cases io with
  | null => exact hok _ _ _ _ _ _ (.none hio) (by rwa [List.append_nil])
  | stream x => exact hok _ _ _ _ _ _ (.stream hio) (by rwa [List.append_nil])
  | aead x =>
    have htag : x.tagSize = 16 := by
      simp only [hio, RecordAlg.WellFormed] at hwf
      exact hwf.2.1
    have hseq : w.side.seq.length = 8 := w.side.sequenceNumber.bytes_length
    obtain ⟨nonce, hnonce⟩ := aeadNonce_ok hio w.side.implicitIv w.side.seq w.side.seq
    have hexp : wp (when ((c.crypto.suite r).recordAlg.flags = .tls12AesGcm)
        (writeBytes c.env.malloc w.side.seq))
        (fun _ t => Holds t size (bs ++
          if (c.crypto.suite r).recordAlg.flags = .tls12AesGcm then w.side.seq else []))
        (fun _ _ => size < bs.length + 16) rs := by
      rw [wp_when]
      refine ⟨fun hf => ?_, fun hf => by rwa [if_neg hf, List.append_nil]⟩
      rw [if_pos hf]
      refine wp_mono (fun _ _ h => h) (fun _ _ h => ?_) (hrs.writeBytes c.env.malloc w.side.seq)
      omega
    refine wp_seq_execLocal_of hexp (fun rs' hrs' => ?_) fun e h => herr e w (.inr (.inl h))
    rw [wp_bind, wp_ofExcept]
    refine ⟨fun iv hiv => ?_, fun e he => ?_⟩
    · rw [wp_bind, wp_ofExcept]
      refine ⟨fun aad haad => ?_, fun e he => herr e w (.inr (.inr ?_))⟩
      · exact hok _ _ _ _ _ w.random (.aead hio hiv haad) hrs'
      · split at he
        · unfold tls13AeadAad at he
          rw [htag, if_neg (by decide)] at he
          split at he
          · omega
          · cases he
        · cases he
    · exact absurd (hnonce.symm.trans he) (by simp)
  | cbc x =>
    have hbs : x.blockSize ≤ 16 := by
      simp only [hio, RecordAlg.WellFormed] at hwf
      obtain ⟨-, -, -, h | h⟩ := hwf <;> omega
    rw [wp_ite]
    refine ⟨fun hv => ?_, fun hv => ?_⟩
    · rw [wp_bind]
      refine wp_getPublicRandomData (fun iv random hlen => ?_) fun h => herr _ _ (.inl h)
      rw [wp_bind, wp_setImplicitIv]
      refine wp_seq_execLocal_of (hrs.writeBytes c.env.malloc iv) (fun rs' hrs' => ?_)
        fun e h => herr e _ (.inr (.inl (by omega)))
      exact hok _ _ _ _ _ _ (.cbcExplicit hio hv hlen) hrs'
    · exact hok _ _ _ _ _ w.random (.cbcChained hio (Nat.le_of_not_lt hv)) (by rwa [List.append_nil])
  | composite x =>
    have hbs : x.blockSize ≤ 16 := by
      simp only [hio, RecordAlg.WellFormed] at hwf
      have := hwf.2.2.1
      omega
    rw [wp_ite]
    refine ⟨fun hv => ?_, fun hv => ?_⟩
    · rw [wp_bind]
      refine wp_getPublicRandomData (fun iv random hlen => ?_) fun h => herr _ _ (.inl h)
      rw [wp_bind, wp_setImplicitIv, wp_bind]
      refine wp_getPublicRandomData (fun front random' hlen' => ?_) fun h => herr _ _ (.inl h)
      refine wp_seq_execLocal_of (hrs.writeBytes c.env.malloc front) (fun rs' hrs' => ?_)
        fun e h => herr e _ (.inr (.inl (by omega)))
      exact hok _ _ _ _ _ _ (.compositeExplicit hio hv hlen hlen') hrs'
    · exact hok _ _ _ _ _ w.random (.compositeChained hio (Nat.le_of_not_lt hv))
        (by rwa [List.append_nil])

/-! ### The start of a composite cipher -/

/-- A composite cipher has started the MAC of a payload of `n` bytes, and takes `m` bytes for it
and the padding. -/
inductive HmacStarted (alg : RecordAlg K) (version : ℕ) (ct : ContentType) (n : ℕ)
    (d : CryptoSide K) : ℕ → CryptoSide K → Prop
  | none : (∀ x, alg.cipher.io ≠ .composite x) → HmacStarted alg version ct n d 0 d
  | composite {x : CompositeCipher K} {k : K} {m : ℕ} : alg.cipher.io = .composite x →
      x.initialHmac d.key d.seq ct.toNat version (n + eivSize version x.blockSize) = some (k, m) →
      HmacStarted alg version ct n d m { d with key := k }

lemma wp_recordInitialHmac {Q : ℕ → Conn K → Prop}
    (hok : ∀ m d, HmacStarted (c.crypto.suite r).recordAlg c.actualProtocolVersion ct n w.side m d →
      Q m (c.withWriter r { w with side := d }))
    (herr : ∀ e w', c.Broken ∨ (∃ x, (c.crypto.suite r).recordAlg.cipher.io = .composite x ∧
      x.initialHmac w.side.key w.side.seq ct.toNat c.actualProtocolVersion
        (n + eivSize c.actualProtocolVersion x.blockSize) = none) → R e (c.withWriter r w')) :
    wp (recordInitialHmac r ct n) Q R (c.withWriter r w) := by
  unfold recordInitialHmac
  rw [wp_read]
  dsimp only
  rw [withWriter_suite, withWriter_mode, withWriter_version, withWriter_side]
  cases hio : (c.crypto.suite r).recordAlg.cipher.io with
  | composite x =>
    refine wp_callCipher (fun k m hcall => hok _ _ (.composite hio hcall)) fun h => ?_
    exact herr _ _ (h.imp id fun hnone => ⟨x, hio, hnone⟩)
  | _ => exact hok _ _ (.none fun x hx => by rw [hio] at hx; cases hx)

/-! ### The MAC -/

/-- A MAC that has not been fed yet. -/
def HmacState.Fresh (x : HmacState) : Prop := x.fed = [] ∧ x.ready = true ∧ x.intact = true

lemma HmacState.Fresh.reset_eq {x : HmacState} (h : x.Fresh) :
    { x with fed := [], ready := true, intact := true } = x := by
  obtain ⟨hfed, hready, hintact⟩ := h
  cases x
  simp_all

/-- The writer after its MAC was fed. -/
def WriterState.feed (w : WriterState K) (bs : List UInt8) : WriterState K :=
  { w with side := { w.side with
    recordMac := { w.side.recordMac with fed := w.side.recordMac.fed ++ bs } } }

lemma WriterState.feed_feed (w : WriterState K) (a b : List UInt8) :
    (w.feed a).feed b = w.feed (a ++ b) := by
  simp [feed]

lemma wp_onMac_withWriter {f : EStateM Err HmacState α} :
    wp (onMac r c.mode f) Q R (c.withWriter r w) ↔
      wp f (fun a x => Q a (c.withWriter r { w with side := { w.side with recordMac := x } }))
        (fun e x => R e (c.withWriter r { w with side := { w.side with recordMac := x } }))
        w.side.recordMac := by
  rw [onMac, wp_onSide_withWriter, wp_zoom]

lemma wp_onMac_update {Q : Unit → Conn K → Prop}
    (hready : w.side.recordMac.ready = true) (hok : Q () (c.withWriter r (w.feed bs)))
    (herr : ∀ e, c.Broken ∨ HmacState.maxUpdate < bs.length → R e (c.withWriter r w)) :
    wp (onMac r c.mode (HmacState.update c.env.fault bs)) Q R (c.withWriter r w) := by
  rw [wp_onMac_withWriter]
  unfold HmacState.update
  rw [wp_read]
  refine wp_seq_ensure (fun _ => ?_) fun h => herr _ (.inr (Nat.lt_of_not_le h))
  refine wp_ensured hready ?_
  refine wp_seq_ensure (fun _ => ?_) fun h => herr _ (.inl ⟨_, by simpa using h⟩)
  exact hok

lemma wp_onMac_digest {Q : List UInt8 → Conn K → Prop} (hready : w.side.recordMac.ready = true)
    (hok : Q (w.side.recordMac.mac w.side.recordMac.fed) (c.withWriter r { w with side :=
      { w.side with recordMac := { w.side.recordMac with ready := false } } }))
    (herr : ∀ e w', c.Broken → R e (c.withWriter r w')) :
    wp (onMac r c.mode (HmacState.digest c.env.fault)) Q R (c.withWriter r w) := by
  rw [wp_onMac_withWriter]
  unfold HmacState.digest
  rw [wp_read]
  refine wp_ensured hready ?_
  rw [wp_bind, wp_set]
  refine wp_seq_ensure (fun _ => ?_) fun h => herr _ _ ⟨_, by simpa using h⟩
  exact hok

lemma wp_onMac_reset {Q : Unit → Conn K → Prop}
    (hok : Q () (c.withWriter r { w with side :=
      { w.side with recordMac := { w.side.recordMac with fed := [], ready := true, intact := true } } }))
    (herr : ∀ e w', c.Broken → R e (c.withWriter r w')) :
    wp (onMac r c.mode (HmacState.reset c.env.fault)) Q R (c.withWriter r w) := by
  rw [wp_onMac_withWriter]
  unfold HmacState.reset
  rw [wp_update]
  refine wp_seq_ensure (fun _ => ?_) fun h => herr _ _ ⟨_, by simpa using h⟩
  exact hok

lemma wp_traceUse_withWriter {Q : Unit → Conn K → Prop} (hok : ∀ uses, Q () (c.withWriter r { w with uses := uses })) :
    wp (traceUse r n) Q R (c.withWriter r w) := by
  rw [traceUse, wp_modify]
  exact hok (w.uses ++ [⟨r, c.mode, ((c.withWriter r w).crypto.side r c.mode).generation, n⟩])

section Feed

variable {Q : Unit → Conn K → Prop} {fed payload : List UInt8} (hready : w.side.recordMac.ready = true)
  (herr : ∀ e w', c.Broken ∨ HmacState.maxUpdate < payload.length → R e (c.withWriter r w'))

include hready herr

/-- What is fed to the MAC of a record is the payload or at most 8 bytes. -/
lemma wp_onMac_feed {bs : List UInt8} (hlen : bs.length ≤ payload.length ∨ bs.length ≤ 8)
    (hok : Q () (c.withWriter r (w.feed (fed ++ bs)))) :
    wp (onMac r c.mode (HmacState.update c.env.fault bs)) Q R (c.withWriter r (w.feed fed)) := by
  refine wp_onMac_update hready (by rwa [WriterState.feed_feed]) fun e h => herr e _ (h.imp id fun h => ?_)
  have : 8 < HmacState.maxUpdate := by decide
  omega

lemma wp_onMac_feedVersion {rt : ContentType} {hv len : ℕ} (hok : Q () (c.withWriter r (w.feed (fed ++
      if sslv3 < c.actualProtocolVersion then versionBytes hv else [])))) :
    wp (when (c.actualProtocolVersion > sslv3) (onMac r c.mode (HmacState.update c.env.fault
      (((recordHeader rt hv len).drop 1).take 2)))) Q R (c.withWriter r (w.feed fed)) := by
  rw [wp_when]
  refine ⟨fun h => ?_, fun h => ?_⟩
  · rw [if_pos h] at hok
    exact wp_onMac_feed hready herr (.inr (by simp [recordHeader, versionBytes])) hok
  · rwa [if_neg h, List.append_nil] at hok

end Feed

lemma wp_recordWriteMac {Q : ℕ × Stuffer → Conn K → Prop} {rt : ContentType} {hv len : ℕ}
    {payload : List UInt8} (hrs : Holds rs size bs)
    (halg : w.side.recordMac.alg = (c.crypto.suite r).recordAlg.hmacAlg)
    (hfresh : w.side.recordMac.Fresh)
    (hok : ∀ rs' uses, Holds rs' size (bs ++ w.side.recordMacOf c.actualProtocolVersion hv rt payload) →
      Q (w.side.recordMac.alg.digestSize, rs') (c.withWriter r { w with uses := uses }))
    (herr : ∀ e w', c.Broken ∨ size < bs.length + 64 ∨ HmacState.maxUpdate < payload.length →
      R e (c.withWriter r w')) :
    wp (recordWriteMac r (recordHeader rt hv len) payload rs) Q R (c.withWriter r w) := by
  have hreset := hfresh.reset_eq
  obtain ⟨hfed, hready, -⟩ := hfresh
  unfold recordWriteMac
  rw [wp_read]
  dsimp only
  rw [withWriter_suite, withWriter_mode, withWriter_side, withWriter_version, withWriter_malloc,
    withWriter_fault]
  by_cases hnone : (c.crypto.suite r).recordAlg.hmacAlg = .none
  · -- no MAC, which is a MAC of no bytes
    rw [if_pos hnone, wp_pure]
    have hmac : w.side.recordMacOf c.actualProtocolVersion hv rt payload = [] := by
      refine List.length_eq_zero_iff.mp ?_
      rw [CryptoSide.recordMacOf, HmacState.mac_length, halg, hnone]
      rfl
    have := hok rs w.uses (by rwa [hmac, List.append_nil])
    rwa [halg, hnone] at this
  · rw [if_neg hnone]
    have herr' : ∀ e w', c.Broken ∨ HmacState.maxUpdate < payload.length → R e (c.withWriter r w') :=
      fun e w' h => herr e w' (h.imp id Or.inr)
    have hseq : w.side.sequenceNumber.bytes.length = 8 := w.side.sequenceNumber.bytes_length
    have hmacLen : (w.side.recordMacOf c.actualProtocolVersion hv rt payload).length =
        w.side.recordMac.alg.digestSize := HmacState.mac_length _ _
    have hle := HmacAlg.digestSize_le w.side.recordMac.alg
    have hstart : c.withWriter r w = c.withWriter r (w.feed []) := by simp [WriterState.feed]
    rw [hstart, wp_bind]
    refine wp_onMac_feed hready herr' (.inr hseq.le) ?_
    rw [wp_bind]
    refine wp_onMac_feed hready herr' (.inr (by simp [recordHeader])) ?_
    rw [wp_bind]
    refine wp_onMac_feedVersion hready herr' ?_
    rw [wp_bind]
    refine wp_onMac_feed hready herr' (.inr (by simp)) ?_
    rw [wp_bind]
    refine wp_onMac_feed hready herr' (.inl le_rfl) ?_
    -- the bytes fed are the input of the MAC
    have hinput : ([] ++ w.side.sequenceNumber.bytes ++ (recordHeader rt hv len).take 1 ++
        (if sslv3 < c.actualProtocolVersion then versionBytes hv else []) ++
        beBytes 2 payload.length ++ payload) =
          macInput c.actualProtocolVersion hv w.side.seq rt payload := rfl
    rw [hinput, wp_bind, wp_onLocal]
    generalize hfedw : w.feed (macInput c.actualProtocolVersion hv w.side.seq rt payload) = w₁
    refine wp_mono_ok (fun p rs' hp => ?_)
      (hrs.rawWrite c.env.malloc w.side.recordMac.alg.digestSize (R := fun e _ => R e (c.withWriter r w₁)))
    obtain ⟨rfl, hroom⟩ | ⟨junk, rfl, hjunk, hrs'⟩ := hp
    · exact herr _ _ (.inr (.inl (by omega)))
    rw [wp_bind]
    refine wp_onMac_digest (by rw [← hfedw]; exact hready) ?_ fun e _ h => herr e _ (.inl h)
    rw [wp_bind]
    refine wp_traceUse_withWriter fun uses => ?_
    rw [wp_bind, wp_execLocal, wp_poke, wp_bind]
    refine wp_onMac_reset ?_ fun e _ h => herr e _ (.inl h)
    rw [wp_pure]
    -- the MAC was fresh before, so that after the reset it is as it was
    have hdigest : w₁.side.recordMac.mac w₁.side.recordMac.fed =
        w.side.recordMacOf c.actualProtocolVersion hv rt payload := by
      rw [← hfedw]
      simp only [WriterState.feed, hfed, List.nil_append]
      rfl
    have hside : { w₁.side with recordMac :=
        { w₁.side.recordMac with fed := [], ready := true, intact := true } } = w.side := by
      rw [← hfedw]
      exact congrArg (fun x => { w.side with recordMac := x }) hreset
    rw [hdigest]
    have hholds := (List.append_nil (bs ++ junk) ▸ hrs').poked (hmacLen.trans hjunk.symm)
    rw [List.append_nil] at hholds
    have := hok _ uses hholds
    rw [← hside] at this
    rw [← hfedw] at this ⊢
    exact this

/-! ### The sequence number and the trailer -/

lemma wp_increment_withWriter {Q : Unit → Conn K → Prop}
    (hok : w.side.sequenceNumber.value + 1 < 2 ^ 64 → Q () (c.withWriter r { w with side := w.side.advance }))
    (herr : ∀ e w', w.side.sequenceNumber.value + 1 = 2 ^ 64 → R e (c.withWriter r w')) :
    wp (onSequence r c.mode SequenceNumber.increment) Q R (c.withWriter r w) := by
  rw [onSequence, wp_onSide_withWriter, wp_zoom]
  rcases Nat.lt_or_ge (w.side.sequenceNumber.value + 1) (2 ^ 64) with h | h
  · rw [wp_of_ok (SequenceNumber.increment_of_lt h)]
    exact hok h
  · have hmax : w.side.sequenceNumber.value + 1 = 2 ^ 64 :=
      Nat.le_antisymm w.side.sequenceNumber.value_lt h
    rw [wp_of_error (SequenceNumber.increment_of_max hmax)]
    exact herr _ _ hmax

/-- The bytes after the payload and the MAC. -/
def trailerBytes (alg : RecordAlg K) (ct : ContentType) (padding : ℕ) : List UInt8 :=
  (if alg.isTls13Record then [ct] else []) ++
    match alg.cipher.io with
    | .cbc _ => cbcPadding padding
    | _ => []

variable {Q : Stuffer → Conn K → Prop}

lemma wp_recordWriteTrailer {padding : ℕ} (hrs : Holds rs size bs)
    (hok : ∀ rs', Holds rs' size (bs ++ trailerBytes (c.crypto.suite r).recordAlg ct padding) →
      Q rs' (c.withWriter r w))
    (herr : ∀ e, size < bs.length + padding + 2 → R e (c.withWriter r w)) :
    wp (recordWriteTrailer r ct padding rs) Q R (c.withWriter r w) := by
  unfold recordWriteTrailer
  rw [wp_read]
  dsimp only
  rw [withWriter_suite, withWriter_malloc]
  have htype : wp (when ((c.crypto.suite r).recordAlg.isTls13Record = true) (writeBytes c.env.malloc [ct]))
      (fun _ t => Holds t size (bs ++ if (c.crypto.suite r).recordAlg.isTls13Record then [ct] else []))
      (fun _ _ => size < bs.length + padding + 2) rs := by
    rw [wp_when]
    refine ⟨fun hf => ?_, fun hf => by rwa [if_neg hf, List.append_nil]⟩
    rw [if_pos hf]
    refine wp_mono (fun _ _ h => h) (fun _ _ h => ?_) (hrs.writeBytes c.env.malloc [ct])
    rw [List.length_singleton] at h
    omega
  refine wp_seq_execLocal_of htype (fun rs' hrs' => ?_) fun e h => herr e h
  unfold trailerBytes at hok
  cases hio : (c.crypto.suite r).recordAlg.cipher.io with
  | cbc x =>
    rw [hio, ← List.append_assoc] at hok
    rw [wp_execLocal]
    refine wp_mono (fun _ t ht => hok t ht) (fun e _ h => herr e ?_)
      (hrs'.writeBytes c.env.malloc (cbcPadding padding))
    have hpad : (cbcPadding padding).length = padding + 1 := List.length_replicate
    have hone : (if (c.crypto.suite r).recordAlg.isTls13Record then [ct] else []).length ≤ 1 := by
      split <;> simp
    rw [List.length_append] at h
    omega
  | _ =>
    rw [hio, List.append_nil] at hok
    exact hok rs' hrs'

/-! ### Encryption -/

/-- What `s2n_record_encrypt` makes of the bytes `en`. -/
inductive Encrypted (alg : RecordAlg K) (version : ℕ) (iv aad : List UInt8) (d : CryptoSide K)
    (en : List UInt8) : CryptoSide K → List UInt8 → Prop
  | null : alg.cipher.io = .null → Encrypted alg version iv aad d en d en
  | stream {x : StreamCipher K} {k : K} {en' : List UInt8} : alg.cipher.io = .stream x →
      x.encrypt d.key en = some (k, en') → Encrypted alg version iv aad d en { d with key := k } en'
  | cbcExplicit {x : CbcCipher K} {k : K} {en' : List UInt8} : alg.cipher.io = .cbc x →
      tls10 < version → x.encrypt d.key iv en = some (k, en') →
      Encrypted alg version iv aad d en { d with key := k } en'
  | cbcChained {x : CbcCipher K} {k : K} {en' : List UInt8} : alg.cipher.io = .cbc x →
      version ≤ tls10 → x.encrypt d.key iv en = some (k, en') →
      Encrypted alg version iv aad d en
        { d with
          key := k, implicitIv := overwrite d.implicitIv 0 (en'.drop (en.length - x.blockSize)) } en'
  | aead {x : AeadCipher K} {k : K} {en' : List UInt8} : alg.cipher.io = .aead x →
      x.encrypt d.key iv aad (en.take (en.length - x.tagSize)) = some (k, en') →
      Encrypted alg version iv aad d en { d with key := k } en'
  | composite {x : CompositeCipher K} {k : K} {en' : List UInt8} : alg.cipher.io = .composite x →
      x.encrypt d.key iv en = some (k, en') →
      Encrypted alg version iv aad d en
        { d with
          key := k, implicitIv := overwrite d.implicitIv 0 (en'.drop (en.length - x.blockSize)) } en'

/-- The cipher encrypts these bytes. -/
def CipherIo.Encrypts (io : CipherIo K) (k : K) (iv aad en : List UInt8) : Prop :=
  match io with
  | .null => True
  | .stream x => x.encrypt k en ≠ none
  | .cbc x => x.encrypt k iv en ≠ none ∧ x.blockSize ≤ en.length
  | .aead x => x.encrypt k iv aad (en.take (en.length - x.tagSize)) ≠ none
  | .composite x => x.encrypt k iv en ≠ none ∧ x.blockSize ≤ en.length

lemma wp_recordEncrypt {Q : List UInt8 → Conn K → Prop} {en : List UInt8}
    (hok : ∀ d en' uses, Encrypted (c.crypto.suite r).recordAlg c.actualProtocolVersion iv aad w.side
      en d en' → Q en' (c.withWriter r { w with side := d, uses := uses }))
    (herr : ∀ e w', c.Broken ∨ ¬ (c.crypto.suite r).recordAlg.cipher.io.Encrypts w.side.key iv aad en →
      R e (c.withWriter r w')) :
    wp (recordEncrypt r n iv aad en) Q R (c.withWriter r w) := by
  unfold recordEncrypt
  rw [wp_read, withWriter_suite, withWriter_mode, withWriter_version]
  generalize hio : (c.crypto.suite r).recordAlg.cipher.io = io at herr
  cases io with
  | null => exact hok _ _ w.uses (.null hio)
  | stream x =>
    refine wp_callCipher (fun k en' henc => hok _ _ w.uses (.stream hio henc)) fun h => ?_
    exact herr _ _ (h.imp id fun hn hne => hne hn)
  | cbc x =>
    rw [wp_bind]
    refine wp_callCipher (fun k en' henc => ?_) fun h => herr _ _ (h.imp id fun hn hne => hne.1 hn)
    rw [wp_bind, wp_when]
    refine ⟨fun hv => ?_, fun hv => ?_⟩
    · refine wp_seq_ensure (fun hle => ?_) fun hle => herr _ _ (.inr fun hne => hle hne.2)
      rw [wp_setImplicitIv, wp_pure]
      exact hok _ _ w.uses (.cbcChained hio (Nat.le_of_lt_succ hv) henc)
    · rw [wp_pure]
      exact hok _ _ w.uses (.cbcExplicit hio (Nat.lt_of_not_le fun h => hv (Nat.lt_succ_of_le h)) henc)
  | aead x =>
    rw [wp_bind]
    refine wp_traceUse_withWriter fun uses => ?_
    refine wp_callCipher (w := { w with uses := uses })
      (fun k en' henc => hok _ _ uses (.aead hio henc)) fun h => ?_
    exact herr _ _ (h.imp id fun hn hne => hne hn)
  | composite x =>
    rw [wp_bind]
    refine wp_traceUse_withWriter fun uses => ?_
    rw [wp_bind]
    refine wp_callCipher (fun k en' henc => ?_) fun h => herr _ _ (h.imp id fun hn hne => hne.1 hn)
    refine wp_seq_ensure (fun hle => ?_) fun hle => herr _ _ (.inr fun hne => hle hne.2)
    rw [wp_bind, wp_setImplicitIv, wp_pure]
    exact hok _ _ uses (.composite hio henc)

lemma Encrypted.length_eq {alg : RecordAlg K} {version : ℕ} {en en' : List UInt8}
    {d d' : CryptoSide K} (h : Encrypted alg version iv aad d en d' en')
    (htag : ∀ x, alg.cipher.io = .aead x → x.tagSize ≤ en.length) : en'.length = en.length := by
  cases h with
  | null => rfl
  | stream _ henc => exact StreamCipher.encrypt_length _ henc
  | cbcExplicit _ _ henc => exact CbcCipher.encrypt_length _ henc
  | cbcChained _ _ henc => exact CbcCipher.encrypt_length _ henc
  | aead hio henc =>
    have := htag _ hio
    rw [AeadCipher.encrypt_length _ henc, List.length_take]
    omega
  | composite _ henc => exact CompositeCipher.encrypt_length _ henc

/-- The record is encrypted in place: `a` stays in the clear, what follows it is extended by the
memory after it to the length of the encrypted part. -/
lemma wp_recordEncryptInPlace {skip len : ℕ}
    {a e : List UInt8} (hrs : Holds rs size (a ++ e))
    (ha : a.length = recordHeaderLength + skip) (hle : e.length ≤ len)
    (htag : ∀ x, (c.crypto.suite r).recordAlg.cipher.io = .aead x → x.tagSize ≤ len)
    (hok : ∀ junk d en' uses rs', junk.length = len - e.length →
      Encrypted (c.crypto.suite r).recordAlg c.actualProtocolVersion iv aad w.side (e ++ junk) d en' →
      Holds rs' size (a ++ en') → Q rs' (c.withWriter r { w with side := d, uses := uses }))
    (herr : ∀ e' w', c.Broken ∨ size < a.length + len ∨ (∃ junk, junk.length = len - e.length ∧
      ¬ (c.crypto.suite r).recordAlg.cipher.io.Encrypts w.side.key iv aad (e ++ junk)) →
      R e' (c.withWriter r w')) :
    wp (recordEncryptInPlace r n iv aad skip len rs) Q R (c.withWriter r w) := by
  unfold recordEncryptInPlace
  rw [wp_read, withWriter_malloc]
  have hfull : ∀ {e' : Err} {w' : WriterState K}, size < a.length + len → R e' (c.withWriter r w') :=
    fun h => herr _ _ (.inr (.inl h))
  -- the write cursor goes back to the start and over `a`
  refine wp_seq_execLocal_of (Contains.of_holds hrs).rewrite (fun t₁ h₁ => ?_) fun _ h => absurd h id
  refine wp_seq_execLocal_of (h₁.1.skipWrite c.env.malloc recordHeaderLength) (fun t₂ h₂ => ?_)
    fun _ h => hfull (by omega)
  refine wp_seq_execLocal_of (h₂.1.skipWrite c.env.malloc skip) (fun t₃ h₃ => ?_)
    fun _ h => hfull (by omega)
  have hcursor : t₃.writeCursor = a.length := by omega
  refine wp_seq_ensure (fun _ => ?_) fun h => hfull ?_
  · rw [wp_bind, wp_onLocal]
    refine wp_mono_ok (fun p u hp => ?_)
      (h₃.1.rawWrite c.env.malloc len (R := fun e' _ => R e' (c.withWriter r w)))
    obtain ⟨rfl, hroom⟩ | ⟨rfl, hu, hw⟩ := hp
    · have : 0 < recordHeaderLength := by decide
      exact hfull (by omega)
    obtain ⟨junk, hjunk, hholds⟩ := hu.holds (by rw [List.length_append]; omega)
    rw [List.length_append] at hjunk
    have hlen : (e ++ junk).length = len := by rw [List.length_append]; omega
    have hparts : Holds u size (a ++ (e ++ junk) ++ []) := by
      rwa [List.append_nil, ← List.append_assoc]
    have hslice : slice u.blob.data t₃.writeCursor len = e ++ junk := by
      rw [hcursor, ← hlen]
      exact hparts.slice_eq
    dsimp only
    rw [hslice, wp_bind]
    refine wp_recordEncrypt (fun d en' uses henc => ?_) fun e' w' h =>
      herr e' w' (h.imp id fun hne => .inr ⟨junk, by omega, hne⟩)
    have hen := henc.length_eq fun x hx => (htag x hx).trans hlen.ge
    rw [wp_execLocal, wp_poke, hcursor]
    refine hok junk d en' uses _ (by omega) henc ?_
    have := hparts.poked hen
    rwa [List.append_nil] at this
  · rw [spaceRemaining, h₃.1.size_eq] at h
    omega

end Pieces

end S2nTls
