import S2nTls.Stuffer.Queue
import S2nTls.Tls.RecordProtection
import S2nTls.Tls.RecordRead

/-!
`s2n_record_parse` undoes the protection of a record.

The functions of the reader change the input buffers and one direction of one set of crypto
parameters; the state they work on is `Conn.withReader`, a connection with these two replaced. For
each kind of cipher, a fragment that stands for a payload is shown to be read as that payload, with
the parameters of the reader following those of the writer.
-/

namespace S2nTls

open Lib Stuffer

variable {K : Type}
variable {e : Err} {k k' : K} {bs en : List UInt8} {n : ℕ}

/-! ### What the reader changes -/

/-- The part of a connection that reading a record changes. -/
structure ReaderState (K : Type) where
  recv : RecvState
  side : CryptoSide K

def Conn.withReader (c : Conn K) (r : ParamsRef) (x : ReaderState K) : Conn K :=
  { c with crypto := c.crypto.setSide r c.mode.peer x.side, recv := x.recv }

/-- The part of `c` that a reader with the set `r` changes. -/
def Conn.reader (c : Conn K) (r : ParamsRef) : ReaderState K := ⟨c.recv, c.crypto.side r c.mode.peer⟩

lemma Conn.withReader_reader (c : Conn K) (r : ParamsRef) : c.withReader r (c.reader r) = c := by
  simp [Conn.withReader, Conn.reader]

/-- Nothing outside the library fails. -/
def Conn.Sound (c : Conn K) : Prop := ∀ f, c.env.fault f = false

section WithReader

variable (c : Conn K) (r : ParamsRef) (x : ReaderState K)

@[simp] lemma withReader_mode : (c.withReader r x).mode = c.mode := rfl

@[simp] lemma withReader_version :
    (c.withReader r x).actualProtocolVersion = c.actualProtocolVersion := rfl

@[simp] lemma withReader_env : (c.withReader r x).env = c.env := rfl

@[simp] lemma withReader_recv : (c.withReader r x).recv = x.recv := rfl

@[simp] lemma withReader_side : (c.withReader r x).crypto.side r c.mode.peer = x.side :=
  CryptoState.side_setSide_self _ _ _ _

@[simp] lemma withReader_suite (r' : ParamsRef) :
    (c.withReader r x).crypto.suite r' = c.crypto.suite r' :=
  CryptoState.suite_setSide _ _ _ _ _

@[simp] lemma withReader_setSide (d : CryptoSide K) :
    (c.withReader r x).setSide r c.mode.peer d = c.withReader r { x with side := d } := by
  simp [Conn.withReader, Conn.setSide]

end WithReader

section Pieces

variable {α : Type} {Q : α → Conn K → Prop} {R : Err → Conn K → Prop} {c : Conn K} {r : ParamsRef}
  {x : ReaderState K}

lemma wp_onSide_withReader {f : EStateM Err (CryptoSide K) α} :
    wp (onSide r c.mode.peer f) Q R (c.withReader r x) ↔
      wp f (fun a d => Q a (c.withReader r { x with side := d }))
        (fun e d => R e (c.withReader r { x with side := d })) x.side := by
  rw [onSide, wp_zoom, withReader_side]
  simp only [withReader_setSide]

lemma wp_onHeaderIn_withReader {f : StufferM α} :
    wp (onHeaderIn f) Q R (c.withReader r x) ↔
      wp f (fun a t => Q a (c.withReader r { x with recv := { x.recv with headerIn := t } }))
        (fun e t => R e (c.withReader r { x with recv := { x.recv with headerIn := t } }))
        x.recv.headerIn := by
  rw [onHeaderIn, wp_zoom]
  rfl

lemma wp_onIn_withReader {f : StufferM α} :
    wp (onIn f) Q R (c.withReader r x) ↔
      wp f (fun a t => Q a (c.withReader r { x with recv := { x.recv with inStuffer := t } }))
        (fun e t => R e (c.withReader r { x with recv := { x.recv with inStuffer := t } }))
        x.recv.inStuffer := by
  rw [onIn, wp_zoom]
  rfl

lemma wp_onMac_withReader {f : EStateM Err HmacState α} :
    wp (onMac r c.mode.peer f) Q R (c.withReader r x) ↔
      wp f (fun a h => Q a (c.withReader r { x with side := { x.side with recordMac := h } }))
        (fun e h => R e (c.withReader r { x with side := { x.side with recordMac := h } }))
        x.side.recordMac := by
  rw [onMac, wp_onSide_withReader, wp_zoom]

lemma wp_setImplicitIv_withReader {Q : Unit → Conn K → Prop} :
    wp (setImplicitIv r c.mode.peer bs) Q R (c.withReader r x) ↔ Q () (c.withReader r
        { x with side := { x.side with implicitIv := overwrite x.side.implicitIv 0 bs } }) := by
  rw [setImplicitIv, wp_onSide_withReader, wp_modify]

lemma wp_increment_withReader {Q : Unit → Conn K → Prop}
    (hlt : x.side.sequenceNumber.value + 1 < 2 ^ 64) :
    wp (onSequence r c.mode.peer SequenceNumber.increment) Q R (c.withReader r x) ↔
      Q () (c.withReader r { x with side := x.side.advance }) := by
  rw [onSequence, wp_onSide_withReader, wp_zoom, wp_of_ok (SequenceNumber.increment_of_lt hlt)]
  rfl

lemma wp_callCipher_withReader (hs : c.Sound) {f : Fault} {call : K → Option (K × α)}
    {a : α} (hcall : call x.side.key = some (k, a)) :
    wp (callCipher r c.mode.peer f e call) Q R (c.withReader r x) ↔
      Q a (c.withReader r { x with side := { x.side with key := k } }) := by
  unfold callCipher
  simp only [wp_bind, wp_get, wp_ensure, withReader_env, hs f, withReader_side, hcall,
    wp_onSide_withReader, wp_modify, wp_pure]
  simp

/-! ### The MAC -/

lemma wp_onMac_update_withReader (hs : c.Sound) {Q : Unit → Conn K → Prop}
    (hready : x.side.recordMac.ready = true) (hle : bs.length ≤ HmacState.maxUpdate) :
    wp (onMac r c.mode.peer (HmacState.update c.env.fault bs)) Q R (c.withReader r x) ↔
      Q () (c.withReader r { x with side := { x.side with
        recordMac := { x.side.recordMac with fed := x.side.recordMac.fed ++ bs } } }) := by
  rw [wp_onMac_withReader]
  have hf : ∀ f, c.env.fault f = false := hs
  unfold HmacState.update
  simp [hready, hle, hf]

lemma wp_onMac_reset_withReader (hs : c.Sound) {Q : Unit → Conn K → Prop} :
    wp (onMac r c.mode.peer (HmacState.reset c.env.fault)) Q R (c.withReader r x) ↔
      Q () (c.withReader r { x with side := { x.side with
        recordMac := { x.side.recordMac with fed := [], ready := true, intact := true } } }) := by
  rw [wp_onMac_withReader]
  unfold HmacState.reset
  simp [hs .hmacReset]

lemma wp_onMac_digest_withReader (hs : c.Sound) {Q : List UInt8 → Conn K → Prop}
    (hready : x.side.recordMac.ready = true) :
    wp (onMac r c.mode.peer (HmacState.digest c.env.fault)) Q R (c.withReader r x) ↔
      Q (x.side.recordMac.mac x.side.recordMac.fed) (c.withReader r { x with side := { x.side with
        recordMac := { x.side.recordMac with ready := false } } }) := by
  rw [wp_onMac_withReader]
  unfold HmacState.digest
  simp only [wp_bind, wp_get, wp_ensure, hready, hs .hmacDigest, wp_set, wp_pure]
  simp

/-- The MAC state after it was fed `bs` from the start. -/
def HmacState.fedWith (h : HmacState) (bs : List UInt8) : HmacState :=
  { h with fed := bs, ready := true, intact := true }

lemma wp_recordParseMac (hs : c.Sound) {Q : Unit → Conn K → Prop} {rt : ContentType}
    {hv len ptr : ℕ} (hver : sslv3 ≤ c.actualProtocolVersion)
    (hheader : slice x.recv.headerIn.blob.data ptr 5 = recordHeader rt hv len)
    (hok : ∀ t fed, (∀ payload : List UInt8, payload.length = n →
        fed ++ payload = macInput c.actualProtocolVersion hv x.side.seq rt payload) →
      Q () (c.withReader r { x with
        recv := { x.recv with headerIn := t }
        side := { x.side with recordMac := x.side.recordMac.fedWith fed } })) :
    wp (recordParseMac r c.mode.peer ptr n) Q R (c.withReader r x) := by
  have hthree : slice x.recv.headerIn.blob.data ptr 3 = [rt] ++ versionBytes hv := by
    rw [← take_slice _ _ (show 3 ≤ 5 by decide), hheader]
    rfl
  have hheader' : slice (overwrite x.recv.headerIn.blob.data (ptr + 3) (beBytes 2 n)) ptr 5 =
      [rt] ++ versionBytes hv ++ beBytes 2 n := by
    have := slice_overwrite_append x.recv.headerIn.blob.data ptr 3 (beBytes 2 n)
    rwa [hthree, beBytes_length] at this
  unfold recordParseMac
  rw [wp_read]
  dsimp only
  rw [withReader_env, withReader_side, withReader_version, wp_bind, wp_onHeaderIn_withReader, wp_poke,
    wp_read]
  dsimp only
  have hhd : slice (x.recv.headerIn.poked (ptr + 3) (beBytes 2 n)).blob.data ptr recordHeaderLength =
    [rt] ++ versionBytes hv ++ beBytes 2 n := hheader'
  have hseq : x.side.sequenceNumber.bytes.length ≤ HmacState.maxUpdate := by
    rw [x.side.sequenceNumber.bytes_length]
    decide
  rw [withReader_recv, hhd, wp_bind, wp_onMac_reset_withReader hs, wp_bind,
    wp_onMac_update_withReader hs rfl hseq, wp_ite]
  refine ⟨fun hv3 => ?_, fun hv3 => ?_⟩
  · -- SSLv3 leaves out the version
    rw [wp_bind, wp_onMac_update_withReader hs rfl (by simp [HmacState.maxUpdate]),
      wp_onMac_update_withReader hs rfl (by simp [versionBytes, HmacState.maxUpdate])]
    refine hok _ _ fun payload hlen => ?_
    rw [macInput, if_neg (by rw [hv3]; exact lt_irrefl _), ← hlen]
    simp [versionBytes, CryptoSide.seq]
  · rw [wp_onMac_update_withReader hs rfl (by simp [versionBytes, HmacState.maxUpdate])]
    refine hok _ _ fun payload hlen => ?_
    rw [macInput, if_pos (lt_of_le_of_ne hver (Ne.symm hv3)), ← hlen]
    simp [CryptoSide.seq]

/-! ### The buffers -/

lemma wp_rawReadRef {Q : ℕ → Stuffer → Prop} {R : Err → Stuffer → Prop}
    {t : Stuffer} (hn : n ≤ t.dataAvailable) (hnull : t.blob.isNull = false) :
    wp (rawReadRef e n) Q R t ↔ Q t.readCursor (t.advanceRead n hn).taint := by
  have hrun : (rawRead n).run t = .ok (some t.readCursor) (t.advanceRead n hn).taint := by
    simp [rawRead, EStateM.run, hn, hnull]
  unfold rawReadRef
  rw [wp_bind, wp_of_ok hrun]
  rfl

/-- At the end the reader of `conn->in` finds the payload. -/
lemma wp_recordParseDone {Q : Unit → Conn K → Prop} {skip : ℕ} {payload : List UInt8}
    (hle : skip + payload.length ≤ x.recv.inStuffer.writeCursor)
    (hdata : slice x.recv.inStuffer.blob.data skip payload.length = payload)
    (hok : ∀ recv, recv.inStuffer.unread = payload → recv.inStuffer.readCursor = skip →
      recv.inStatus = .plaintext → Q () (c.withReader r { x with recv := recv })) :
    wp (recordParseDone skip payload.length) Q R (c.withReader r x) := by
  have hwrite := x.recv.inStuffer.write_le_high.trans x.recv.inStuffer.high_le_size
  have hsize := x.recv.inStuffer.blob.size_lt
  unfold recordParseDone
  rw [wp_bind, wp_onIn_withReader, reread, wp_modify, wp_bind, wp_onHeaderIn_withReader, wp_modify,
    wp_bind, wp_onIn_withReader, wp_skipRead]
  refine ⟨fun hskip => ?_, fun hno => absurd ?_ hno⟩
  swap
  · show skip ≤ x.recv.inStuffer.writeCursor - 0
    omega
  generalize hu : Stuffer.advanceRead _ skip hskip = u
  have hread : u.readCursor = skip := by
    rw [← hu]
    exact Nat.zero_add skip
  have havail : u.dataAvailable = x.recv.inStuffer.writeCursor - skip := by
    rw [← hu]
    show x.recv.inStuffer.writeCursor - (0 + skip) = _
    rw [Nat.zero_add]
  have hun : u.unread = payload ++ slice x.recv.inStuffer.blob.data (skip + payload.length)
      (x.recv.inStuffer.writeCursor - skip - payload.length) := by
    obtain ⟨k, hk⟩ := Nat.exists_eq_add_of_le (show payload.length ≤
      x.recv.inStuffer.writeCursor - skip by omega)
    rw [Stuffer.unread, hread, havail, hk, Nat.add_sub_cancel_left, slice_add, ← hu]
    exact congrArg (· ++ _) hdata
  generalize slice x.recv.inStuffer.blob.data (skip + payload.length)
    (x.recv.inStuffer.writeCursor - skip - payload.length) = rest at hun
  have hrest : sub32 u.dataAvailable payload.length = rest.length := by
    have hlen : u.dataAvailable = payload.length + rest.length := by
      rw [← unread_length, hun, List.length_append]
    unfold sub32
    omega
  rw [wp_read]
  dsimp only
  rw [withReader_recv, hrest, wp_bind, wp_onIn_withReader]
  refine wp_mono_ok (fun _ v hv => ?_) (wp_wipeN_back hun)
  rw [wp_modify]
  exact hok { x.recv with headerIn := _, inStuffer := v, inStatus := .plaintext } hv.1
    (hv.2.trans hread) rfl

/-! ### Reading a record -/

/-- A record lies in the buffers of the reader. -/
structure Loaded (s : RecvState) (header fragment : List UInt8) : Prop where
  header_eq : s.headerIn.unread = header
  header_start : s.headerIn.readCursor = 0
  input_eq : s.inStuffer.unread = fragment
  input_start : s.inStuffer.readCursor = 0
  input_ref : s.inStuffer.blob.isNull = false

namespace Loaded

variable {s : RecvState} {header fragment : List UInt8} (h : Loaded s header fragment)

include h

lemma header_slice :
    slice s.headerIn.blob.data 0 header.length = header := by
  have := h.header_eq
  rw [unread, ← unread_length, h.header_eq, h.header_start] at this
  exact this

lemma input_slice :
    slice s.inStuffer.blob.data 0 fragment.length = fragment := by
  have := h.input_eq
  rw [unread, ← unread_length, h.input_eq, h.input_start] at this
  exact this

omit h in
lemma slice_append {a b : List UInt8} (h : Loaded s header (a ++ b)) :
    slice s.inStuffer.blob.data 0 a.length = a ∧ slice s.inStuffer.blob.data a.length b.length = b := by
  have hall := h.input_slice
  rw [List.length_append, slice_add, Nat.zero_add] at hall
  exact List.append_inj hall (slice_length _ _ _)

lemma input_writeCursor : s.inStuffer.writeCursor = fragment.length := by
  have := congrArg List.length h.input_eq
  rw [unread_length, dataAvailable, h.input_start] at this
  exact this

lemma header_available : s.headerIn.dataAvailable = header.length := by
  rw [← unread_length, h.header_eq]

lemma input_available :
    s.inStuffer.dataAvailable = fragment.length := by
  rw [← unread_length, h.input_eq]

end Loaded

variable {Q : ℕ → Conn K → Prop}

lemma wp_readHeader {rt : ContentType} {hv len : ℕ} {fragment : List UInt8}
    (hload : Loaded x.recv (recordHeader rt hv len) fragment)
    (hok : ∀ t, slice t.blob.data 0 5 = recordHeader rt hv len →
      Q 0 (c.withReader r { x with recv := { x.recv with headerIn := t } })) :
    wp (onHeaderIn (rawReadRef .null recordHeaderLength)) Q R (c.withReader r x) := by
  have hh := hload.header_available
  rw [recordHeader_length] at hh
  rw [wp_onHeaderIn_withReader, wp_rawReadRef hh.ge (isNull_eq_false_of_pos (by rw [hh]; decide)),
    hload.header_start]
  exact hok _ hload.header_slice

lemma wp_readInput {ptr : ℕ}
    (hn : n ≤ x.recv.inStuffer.dataAvailable) (hnull : x.recv.inStuffer.blob.isNull = false)
    (hptr : x.recv.inStuffer.readCursor = ptr)
    (hok : ∀ t, t.blob = x.recv.inStuffer.blob → t.writeCursor = x.recv.inStuffer.writeCursor →
      Q ptr (c.withReader r { x with recv := { x.recv with inStuffer := t } })) :
    wp (onIn (rawReadRef e n)) Q R (c.withReader r x) := by
  rw [wp_onIn_withReader, wp_rawReadRef hn hnull, hptr]
  exact hok _ rfl rfl

lemma wp_pokeInput {Q : Unit → Conn K → Prop} {i : ℕ} : wp (onIn (poke i bs)) Q R (c.withReader r x) ↔
      Q () (c.withReader r { x with recv := { x.recv with
        inStuffer := x.recv.inStuffer.poked i bs } }) := by
  rw [wp_onIn_withReader, wp_poke]

/-- A record was read: `conn->in` gives `inner` to its reader, and the parameters match `d`. -/
def ReadsAs (c : Conn K) (r : ParamsRef) (paired : Pairing K) (d : CryptoSide K)
    (inner : List UInt8) (start : ℕ) (c' : Conn K) : Prop :=
  ∃ x : ReaderState K, c' = c.withReader r x ∧ SideMatch paired d x.side ∧
    x.recv.inStuffer.unread = inner ∧ x.recv.inStuffer.readCursor = start ∧
    x.recv.inStatus = .plaintext

variable {paired : Pairing K} {d : CryptoSide K} {rt : ContentType} {hv len : ℕ}
  {payload : List UInt8}

lemma SideMatch.recordMacOf_eq {e : CryptoSide K} (h : SideMatch paired d e) (version : ℕ) :
    e.recordMacOf version hv rt payload = d.recordMacOf version hv rt payload := by
  unfold CryptoSide.recordMacOf CryptoSide.seq
  rw [h.mac, h.sequenceNumber]

/-- The writer's side without the fed MAC, which the reader does not rely on. -/
lemma SideMatch.read {e : CryptoSide K} (h : SideMatch paired d e) (hpair : paired d.sequenceNumber.next k k')
    {mac : HmacState} (hmac : mac.alg = e.recordMac.alg ∧ mac.mac = e.recordMac.mac)
    {v v' : ℕ → UInt8} (hv : ∀ i < 16, v' i = v i) :
    SideMatch paired { d.advance with key := k, implicitIv := v }
      { e.advance with key := k', recordMac := mac, implicitIv := v' } where
  key := hpair
  macAlg := hmac.1.trans h.macAlg
  mac := hmac.2.trans h.mac
  sequenceNumber := by
    dsimp only [CryptoSide.advance]
    rw [h.sequenceNumber]
  implicitIv := hv

lemma wp_recordParseStream (hs : c.Sound) (hver : sslv3 ≤ c.actualProtocolVersion)
    (hload : Loaded x.recv (recordHeader rt hv len) en) (hmatch : SideMatch paired d x.side)
    (hnum : d.sequenceNumber.value + 1 < 2 ^ 64) (hpay : payload.length ≤ 2 ^ 14)
    (hlen : en.length = payload.length + d.recordMac.alg.digestSize)
    (hdec : ∀ {Q : List UInt8 → Conn K → Prop} {R : Err → Conn K → Prop} (s : RecvState),
      Q (payload ++ d.recordMacOf c.actualProtocolVersion hv rt payload)
        (c.withReader r ⟨s, { x.side with key := k' }⟩) →
      wp (streamDecrypt r c.mode.peer en) Q R (c.withReader r ⟨s, x.side⟩))
    (hpair : paired d.sequenceNumber.next k k') :
    wp (recordParseStream r c.mode.peer en.length)
      (fun _ => ReadsAs c r paired { d.advance with key := k } payload 0) noError
      (c.withReader r x) := by
  have hmacAlg := hmatch.macAlg
  unfold recordParseStream
  rw [wp_bind]
  refine wp_readHeader hload fun th hth => ?_
  rw [wp_bind]
  refine wp_readInput hload.input_available.ge hload.input_ref hload.input_start fun ti hti hwi => ?_
  rw [wp_read]
  dsimp only
  rw [withReader_side, withReader_recv, withReader_env]
  have hslice : slice ti.blob.data 0 en.length = en := by rw [hti]; exact hload.input_slice
  rw [hslice, hmacAlg, hlen, Nat.add_sub_cancel]
  refine wp_ensured (Nat.le_add_left _ _) ?_
  rw [wp_bind]
  refine hdec _ ?_
  generalize hmac : d.recordMacOf c.actualProtocolVersion hv rt payload = mac
  have hmacLen : mac.length = d.recordMac.alg.digestSize := by rw [← hmac]; exact HmacState.mac_length _ _
  rw [wp_bind, wp_pokeInput, wp_bind]
  refine wp_recordParseMac hs hver hth fun th' fed hfed => ?_
  rw [wp_bind, wp_increment_withReader (by dsimp only; rw [hmatch.sequenceNumber]; exact hnum), wp_bind,
    wp_onMac_update_withReader hs rfl
      (by rw [List.take_left]; exact hpay.trans (by unfold HmacState.maxUpdate; omega)), wp_bind,
    wp_onMac_digest_withReader hs rfl]
  have hdigest : x.side.recordMac.mac (macInput c.actualProtocolVersion hv x.side.seq rt payload) =
      mac := (hmatch.recordMacOf_eq _).trans hmac
  refine wp_ensured ?_ ?_
  · dsimp only [CryptoSide.advance, HmacState.fedWith]
    rw [List.take_left, List.drop_left, hfed payload rfl]
    exact hdigest.symm
  refine wp_recordParseDone ?_ ?_ fun recv hun hstart hst => ?_
  · show 0 + payload.length ≤ ti.writeCursor
    rw [hwi, hload.input_writeCursor]
    omega
  · show slice (overwrite ti.blob.data 0 (payload ++ mac)) 0 payload.length = payload
    rw [← take_slice _ _ (Nat.le_add_right payload.length mac.length), ← List.length_append,
      slice_overwrite, List.take_left]
  · exact ⟨_, rfl, hmatch.read hpair (by exact ⟨rfl, rfl⟩) hmatch.implicitIv, hun, hstart, hst⟩

lemma wp_recordParseAead (hs : c.Sound) (hver : tls12 ≤ c.actualProtocolVersion) {y : AeadCipher K}
    {explicit inner iv aad header : List UInt8}
    (hload : Loaded x.recv header (explicit ++ en)) (hmatch : SideMatch paired d x.side)
    (hnum : d.sequenceNumber.value + 1 < 2 ^ 64) (hexp : explicit.length = y.recordIvSize)
    (htag : 0 < y.tagSize)
    (hnonce : aeadNonce (c.crypto.suite r).recordAlg.flags y.fixedIvSize x.side.implicitIv x.side.seq
      explicit = .ok iv)
    (haad : (if (c.crypto.suite r).recordAlg.isTls13Record then tls13AeadAad inner.length y.tagSize
      else .ok (aeadAad c.actualProtocolVersion x.side.seq rt inner.length)) = .ok aad)
    (hdec : y.decrypt x.side.key iv aad en = some (k', inner)) (hpair : paired d.sequenceNumber.next k k') :
    wp (recordParseAead y r c.mode.peer rt (explicit ++ en).length)
      (fun _ => ReadsAs c r paired { d.advance with key := k } inner y.recordIvSize)
      noError (c.withReader r x) := by
  have hen := y.decrypt_length hdec
  have hlen : (explicit ++ en).length = y.recordIvSize + (inner.length + y.tagSize) := by
    rw [List.length_append, hexp, hen]
  unfold recordParseAead
  rw [wp_read]
  dsimp only
  rw [withReader_side, withReader_recv, withReader_suite, withReader_version, wp_bind]
  refine wp_readInput hload.input_available.ge hload.input_ref hload.input_start fun ti hti hwi => ?_
  obtain ⟨hfront, hback⟩ := hload.slice_append
  rw [hexp] at hfront hback
  have hsub : (explicit ++ en).length - y.recordIvSize - y.tagSize = inner.length := by omega
  have hsub' : (explicit ++ en).length - y.recordIvSize = en.length := by omega
  rw [hfront, hsub, hsub', Nat.zero_add, hback]
  refine wp_ensured (by omega) ?_
  rw [wp_bind, wp_ofExcept]
  refine ⟨fun iv' hiv' => ?_, fun e he => ?_⟩
  swap
  · exact absurd (hnonce.symm.trans he) (by simp)
  obtain rfl : iv = iv' := by simpa using hnonce.symm.trans hiv'
  refine wp_ensured (by omega) ?_
  rw [wp_bind, wp_ofExcept]
  refine ⟨fun aad' haad' => ?_, fun e he => ?_⟩
  swap
  · exact absurd (haad.symm.trans he) (by simp)
  obtain rfl : aad = aad' := by simpa using haad.symm.trans haad'
  refine wp_ensured (by omega) ?_
  rw [wp_bind, wp_callCipher_withReader hs hdec, wp_bind, wp_pokeInput, wp_bind,
    wp_increment_withReader (by dsimp only; rw [hmatch.sequenceNumber]; exact hnum), if_pos hver]
  refine wp_recordParseDone ?_ ?_ fun recv hun hstart hst => ?_
  · show y.recordIvSize + inner.length ≤ ti.writeCursor
    rw [hwi, hload.input_writeCursor]
    omega
  · exact slice_overwrite _ _ _
  · exact ⟨_, rfl, hmatch.read hpair (by exact ⟨rfl, rfl⟩) hmatch.implicitIv, hun, hstart, hst⟩

lemma getD_cbcPadding (a : List UInt8) {pad : ℕ} (hpad : pad < 256) :
    ((a ++ cbcPadding pad).getD ((a ++ cbcPadding pad).length - 1) 0).toNat = pad := by
  have hlen : (a ++ cbcPadding pad).length - 1 = a.length + pad := by
    simp [cbcPadding]
  have hbyte : (a ++ cbcPadding pad)[a.length + pad]? = some (UInt8.ofNat pad) := by
    rw [List.getElem?_append_right (Nat.le_add_right _ _), Nat.add_sub_cancel_left, cbcPadding,
      List.getElem?_replicate, if_pos (Nat.lt_succ_self _)]
  rw [hlen, List.getD_eq_getElem?_getD, hbyte]
  exact Nat.mod_eq_of_lt hpad

lemma wp_recordParseComposite (hs : c.Sound) {y : CompositeCipher K} {k₁ : K} {pad : ℕ}
    {front mac : List UInt8} (hload : Loaded x.recv (recordHeader rt hv len) en)
    (hmatch : SideMatch paired d x.side) (hnum : d.sequenceNumber.value + 1 < 2 ^ 64)
    (hblock : y.recordIvSize = y.blockSize) (hpad : pad < 256)
    (hnone : x.side.recordMac.alg.digestSize = 0)
    (hstart : y.initialHmac x.side.key x.side.seq rt.toNat c.actualProtocolVersion en.length =
      some (k₁, y.macKeySize))
    (hdec : y.decrypt k₁ (slice x.side.implicitIv 0 y.blockSize) en =
      some (k', front ++ payload ++ mac ++ cbcPadding pad))
    (hfront : front.length = eivSize c.actualProtocolVersion y.blockSize)
    (hmac : mac.length = y.macKeySize) (hdvd : y.blockSize ∣ en.length) (hpair : paired d.sequenceNumber.next k k') :
    wp (recordParseComposite y r c.mode.peer rt en.length)
      (fun _ => ReadsAs c r paired { d.advance with
          key := k, implicitIv := overwrite d.implicitIv 0 (en.drop (en.length - y.blockSize)) }
        payload front.length) noError (c.withReader r x) := by
  have hde := y.decrypt_length hdec
  have hpadLen : (cbcPadding pad).length = pad + 1 := List.length_replicate
  have hlen : front.length + payload.length + y.macKeySize + (pad + 1) = en.length := by
    rw [← hde]
    simp only [List.length_append, hpadLen, hmac]
  have heiv : (if c.actualProtocolVersion > tls10 then y.blockSize else 0) = front.length := hfront.symm
  unfold recordParseComposite
  rw [wp_bind]
  refine wp_readHeader hload fun th hth => ?_
  rw [wp_bind]
  refine wp_readInput hload.input_available.ge hload.input_ref hload.input_start fun ti hti hwi => ?_
  rw [wp_read]
  dsimp only
  rw [withReader_side, withReader_recv, withReader_version]
  dsimp only
  have hslice : slice ti.blob.data 0 en.length = en := by rw [hti]; exact hload.input_slice
  rw [hslice, hnone, Nat.sub_zero, hblock, heiv]
  refine wp_ensured (Nat.zero_le _) ?_
  rw [wp_bind, wp_callCipher_withReader hs hstart]
  refine wp_ensured (by omega) ?_
  refine wp_ensured (by omega) ?_
  refine wp_ensured (by omega) ?_
  refine wp_ensured (Nat.mod_eq_zero_of_dvd hdvd) ?_
  rw [wp_bind, wp_callCipher_withReader hs hdec, wp_bind, wp_pokeInput, wp_bind, wp_setImplicitIv_withReader]
  have hpadding := getD_cbcPadding (front ++ payload ++ mac) hpad
  rw [hde] at hpadding
  rw [hpadding]
  refine wp_ensured (by omega) ?_
  have hsub : en.length - y.macKeySize - front.length - (pad + 1) = payload.length := by omega
  rw [hsub, wp_bind, wp_increment_withReader (by dsimp only; rw [hmatch.sequenceNumber]; exact hnum)]
  refine wp_recordParseDone ?_ ?_ fun recv hun hstart hst => ?_
  · show front.length + payload.length ≤ ti.writeCursor
    rw [hwi, hload.input_writeCursor]
    omega
  · have := slice_overwrite_part ti.blob.data 0 front payload (mac ++ cbcPadding pad)
    rwa [Nat.zero_add, ← List.append_assoc] at this
  · have hiv : ∀ i < 16, overwrite x.side.implicitIv 0 (en.drop (en.length - y.blockSize)) i =
        overwrite d.implicitIv 0 (en.drop (en.length - y.blockSize)) i :=
      fun i hi => overwrite_congr _ (hmatch.implicitIv i hi)
    exact ⟨_, rfl, hmatch.read hpair ⟨rfl, rfl⟩ hiv, hun, hstart, hst⟩

end Pieces

end S2nTls
