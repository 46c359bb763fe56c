import S2nTls.Lib.Framing
import S2nTls.Stuffer.Written
import S2nTls.Tls.PostHandshake

/-!
Reassembly of the messages after the handshake.

The messages are the frames of the stream of bytes that the records carry. `s2n_post_handshake_recv`
processes the frames that are whole and keeps the rest in `conn->post_handshake.in`, so that the
records may be cut anywhere.
-/

namespace S2nTls

open Lib Stuffer

variable {K : Type}
variable {α : Type}

/-! ### Messages as frames -/

/-- A handshake message: a type, three bytes of length, and as many bytes of body. -/
def handshakeFraming : Framing UInt8 where
  headerLength := handshakeHeaderLength
  headerLength_pos := by decide
  bodyLength header := beNat (header.drop 1)

def encodeMessage (m : HandshakeMsg × List UInt8) : List UInt8 :=
  [m.1] ++ beBytes 3 m.2.length ++ m.2

def messageOf (b : List UInt8) : HandshakeMsg × List UInt8 := (b.headD 0, b.drop handshakeHeaderLength)

variable (m : HandshakeMsg × List UInt8)

lemma messageOf_encodeMessage : messageOf (encodeMessage m) = m := by
  have hdrop : (encodeMessage m).drop handshakeHeaderLength = m.2 := by
    unfold encodeMessage
    exact List.drop_left' (by simp [handshakeHeaderLength])
  exact Prod.ext rfl hdrop

lemma take_encodeMessage (s : List UInt8) :
    (encodeMessage m ++ s).take handshakeHeaderLength = [m.1] ++ beBytes 3 m.2.length := by
  unfold encodeMessage
  rw [List.append_assoc]
  exact List.take_left' (by simp [handshakeHeaderLength])

variable {m : HandshakeMsg × List UInt8}

lemma bodyLength_encodeMessage (h : m.2.length < 2 ^ 24)
    (s : List UInt8) :
    handshakeFraming.bodyLength ((encodeMessage m ++ s).take handshakeHeaderLength) = m.2.length := by
  rw [take_encodeMessage]
  exact (beNat_beBytes 3 m.2.length).trans (Nat.mod_eq_of_lt h)

lemma isFrame_encodeMessage (h : m.2.length < 2 ^ 24) :
    handshakeFraming.IsFrame (encodeMessage m) := by
  have hlen : (encodeMessage m).length = handshakeHeaderLength + m.2.length := by
    simp only [encodeMessage, handshakeHeaderLength, List.length_append, List.length_singleton,
      beBytes_length]
  have hbody := bodyLength_encodeMessage h []
  rw [List.append_nil] at hbody
  refine ⟨by rw [hlen]; exact Nat.le_add_right _ _, ?_⟩
  rw [hlen]
  exact congrArg (handshakeHeaderLength + ·) hbody.symm

/-! ### What processing leaves alone -/

/-- The part of the connection that collecting messages uses. -/
structure PostView where
  recv : RecvState
  mode : Mode
  env : Env
  processed : List (HandshakeMsg × List UInt8)

def Conn.postView (c : Conn K) : PostView := ⟨c.recv, c.mode, c.env, c.trace.postHandshake⟩

section Process

variable (c : Conn K)

lemma frames_modifySend (f : SendState → SendState) :
    Frames (Conn.postView (K := K)) (modifySend f) := .modify fun _ => rfl

lemma frames_onSide (r : ParamsRef) (m : Mode) (f : EStateM Err (CryptoSide K) α) :
    Frames (Conn.postView (K := K)) (onSide r m f) := by
  unfold onSide
  apply Frames.zoom
  intro _ _
  rfl

lemma frames_updateApplicationTrafficKeys (m : Mode) (status : KeyUpdateStatus) :
    Frames (Conn.postView (K := K)) (updateApplicationTrafficKeys m status) := by
  unfold updateApplicationTrafficKeys setImplicitIv onSequence
  refine .read fun c => .checked ?_
  refine .checked <| .bind (frames_onSide _ _ _) fun _ => ?_
  refine .checked ?_
  split
  · exact .throw _
  · refine .bind (frames_onSide _ _ _) fun _ => .bind (.modify fun c => ?_) fun _ => ?_
    · cases status <;> rfl
    refine .bind (frames_onSide _ _ _) fun _ => .modify fun c => rfl

lemma frames_keyUpdateRecv (request : List UInt8) :
    Frames (Conn.postView (K := K)) (keyUpdateRecv request) := by
  unfold keyUpdateRecv recvKeyUpdateRequest
  refine .read fun c => .checked ?_
  refine .checked <| .checked ?_
  cases request with
  | nil => exact .throw _
  | cons r _ =>
    refine .bind (.ite (.read fun _ => .checked (frames_modifySend _)) (.ensure _ _)) fun _ => ?_
    exact frames_updateApplicationTrafficKeys _ _

lemma frames_tls13ServerNstRecv (input : List UInt8) :
    Frames (Conn.postView (K := K)) (tls13ServerNstRecv input) := by
  unfold tls13ServerNstRecv
  refine .read fun c => .checked ?_
  exact .checked <| .when (.ensure _ _)

lemma frames_queueReaderNoRenegotiationAlert :
    Frames (Conn.postView (K := K)) queueReaderNoRenegotiationAlert := by
  unfold queueReaderNoRenegotiationAlert
  refine .read fun c => .checked ?_
  exact .when (frames_modifySend _)

lemma frames_clientHelloRequestRecv : Frames (Conn.postView (K := K)) clientHelloRequestRecv := by
  unfold clientHelloRequestRecv
  refine .read fun c => .bind (.when (.ensure _ _)) fun _ => ?_
  refine .checked ?_
  split
  · exact .pure _
  · refine .ite frames_queueReaderNoRenegotiationAlert ?_
    split
    · exact .throw _
    · exact frames_queueReaderNoRenegotiationAlert
    · exact .pure _
    · exact .pure _

lemma throws_updateApplicationTrafficKeys (m : Mode) (status : KeyUpdateStatus) :
    Throws (· ≠ .ioBlocked) (updateApplicationTrafficKeys m status : ConnM K Unit) := by
  unfold updateApplicationTrafficKeys setImplicitIv onSequence onSide
  refine .read fun c => .bind (.ensure (by decide)) fun _ => ?_
  refine .bind (.ensure (by decide)) fun _ =>
    .bind (.zoom (.modify _)) fun _ => ?_
  refine .bind (.ensure (by decide)) fun _ => ?_
  split
  · exact .throw (by decide)
  · refine .bind (.zoom (.modify _)) fun _ => .bind (.modify _) fun _ => ?_
    refine .bind (.zoom (.zoom fun s => by simp)) fun _ => .modify _

/-- Processing a message does not wait for input. -/
lemma throws_postHandshakeProcess (ty : HandshakeMsg) (body : List UInt8) :
    Throws (· ≠ .ioBlocked) (postHandshakeProcess ty body : ConnM K Unit) := by
  have halert : Throws (· ≠ .ioBlocked) (queueReaderNoRenegotiationAlert : ConnM K Unit) :=
    .read fun _ => .bind (.ensure (by decide)) fun _ =>
      .when (.modify _)
  refine .bind (.modify _) fun _ => .ite ?_ (.ite ?_ (.ite ?_ ?_))
  · refine .read fun c => .bind (.ensure (by decide)) fun _ => ?_
    refine .bind (.ensure (by decide)) fun _ => .bind (.ensure (by decide)) fun _ => ?_
    cases body with
    | nil => exact .throw (by decide)
    | cons r _ =>
      refine .bind (.ite (.read fun _ => .bind (.ensure (by decide)) fun _ => .modify _) (.ensure (by decide)))
        fun _ => ?_
      exact throws_updateApplicationTrafficKeys _ _
  · refine .read fun c => .bind (.ensure (by decide)) fun _ => ?_
    exact .bind (.ensure (by decide)) fun _ => .when (.ensure (by decide))
  · refine .read fun c => .bind (.when (.ensure (by decide))) fun _ => ?_
    refine .bind (.ensure (by decide)) fun _ => ?_
    split
    · exact .pure _
    · refine .ite halert ?_
      split
      · exact .throw (by decide)
      · exact halert
      · exact .pure _
      · exact .pure _
  · exact .throw (by decide)

lemma wp_postHandshakeProcess (ty : HandshakeMsg) (body : List UInt8) (c : Conn K) :
    wp (postHandshakeProcess ty body)
      (fun _ c' => c'.postView = { c.postView with processed := c.trace.postHandshake ++ [(ty, body)] })
      (fun e c' => e ≠ .ioBlocked ∧
        c'.postView = { c.postView with processed := c.trace.postHandshake ++ [(ty, body)] })
      c := by
  refine wp_mono_ok (fun _ _ h => h.2)
    (wp_and (throws_postHandshakeProcess ty body c) ?_)
  unfold postHandshakeProcess
  rw [wp_update]
  have hframes : Frames (Conn.postView (K := K))
      (if ty = tlsKeyUpdate then keyUpdateRecv body
      else if ty = tlsServerNewSessionTicket then tls13ServerNstRecv body
      else if ty = tlsHelloRequest then clientHelloRequestRecv
      else throw .badMessage) := by
    refine .ite (frames_keyUpdateRecv _) (.ite (frames_tls13ServerNstRecv _) ?_)
    exact .ite frames_clientHelloRequestRecv (.throw _)
  exact hframes _

end Process

/-! ### Collecting the bytes of a message -/

def Conn.withStuffers (c : Conn K) (src dst : Stuffer) : Conn K :=
  { c with recv := { c.recv with
    inStuffer := src, postHandshake := { c.recv.postHandshake with inStuffer := dst } } }

/-- `conn->post_handshake.in` -/
def Conn.postIn (c : Conn K) : Stuffer := c.recv.postHandshake.inStuffer

/-- The state of `conn->post_handshake.in` between two calls: it points nowhere, to the array for
the header, or, on a client, to memory of its own. -/
structure PostBuffer (mode : Mode) (t : Stuffer) : Prop where
  untainted : t.tainted = false
  allocated : t.alloced = true → mode = .client ∧ t.growable = true ∧ handshakeHeaderLength ≤ t.blob.size
  static : t.alloced = false → t.blob.isNull = true ∨ t.blob.size = handshakeHeaderLength

lemma PostBuffer.of_sameBuffer {mode : Mode} {t u : Stuffer} (h : PostBuffer mode t)
    (hu : SameBuffer t u) : PostBuffer mode u := by
  refine ⟨hu.tainted.trans h.untainted, fun ha => ?_, fun ha => ?_⟩
  · rw [hu.growable, hu.size]
    exact h.allocated (hu.alloced ▸ ha)
  · rw [hu.isNull, hu.size]
    exact h.static (hu.alloced ▸ ha)

section Collect

variable {c : Conn K} {src dst : Stuffer}
variable {len : ℕ} {R : Err → Conn K → Prop} {Q : α → Conn K → Prop}

lemma wp_onPostIn {m : StufferM α} :
    wp (onPostIn m) Q R (c.withStuffers src dst) ↔
      wp m (fun a t => Q a (c.withStuffers src t)) (fun e t => R e (c.withStuffers src t)) dst := by
  rw [onPostIn, wp_zoom]
  rfl

lemma wp_onIn {m : StufferM α} :
    wp (onIn m) Q R (c.withStuffers src dst) ↔
      wp m (fun a t => Q a (c.withStuffers t dst)) (fun e t => R e (c.withStuffers t dst)) src := by
  rw [onIn, wp_zoom]
  rfl

lemma wp_fillPostIn {target : ℕ} (hroom : target - dst.dataAvailable ≤ dst.spaceRemaining) :
    wp (fillPostIn target)
      (fun _ c' => ∃ src' dst', c' = c.withStuffers src' dst' ∧ src'.blob = src.blob ∧
        src'.unread = src.unread.drop (target - dst.dataAvailable) ∧
        dst'.written = dst.written ++ src.unread.take (target - dst.dataAvailable) ∧
        dst'.readCursor = dst.readCursor ∧ SameBuffer dst dst')
      noError (c.withStuffers src dst) := by
  unfold fillPostIn
  rw [wp_read, wp_when]
  refine ⟨fun hlt => ?_, fun hge => ?_⟩
  · rw [wp_zoom]
    have hle : min (target - dst.dataAvailable) src.dataAvailable ≤ src.dataAvailable :=
      Nat.min_le_right _ _
    refine wp_mono_ok (fun _ p hp => ?_)
      (wp_copy_of_room _ hle ((Nat.min_le_left _ _).trans hroom))
    obtain ⟨h₁, h₂, h₃, h₄⟩ := hp
    refine ⟨p.1, p.2, rfl, by rw [h₁]; rfl, ?_, ?_, h₃, h₄⟩
    · rw [h₁, unread_advanceRead, ← src.unread_length, ← List.drop_eq_drop_min]
    · refine h₂.trans (congrArg (dst.written ++ ·) ?_)
      rw [← src.unread_length, ← List.take_eq_take_min]
  · have hzero : target - dst.dataAvailable = 0 := Nat.sub_eq_zero_of_le (Nat.not_lt.mp hge)
    refine ⟨src, dst, rfl, rfl, ?_, ?_, rfl, SameBuffer.refl dst⟩
    · rw [hzero, List.drop_zero]
    · rw [hzero, List.take_zero, List.append_nil]

lemma wp_handshakeParseHeader {t : Stuffer} (hread : t.readCursor = 0)
    (hlen : handshakeHeaderLength ≤ t.dataAvailable) :
    wp handshakeParseHeader
      (fun p u => p = (t.written.headD 0, handshakeFraming.bodyLength (t.written.take handshakeHeaderLength)) ∧
        u.written = t.written ∧ u.readCursor = handshakeHeaderLength ∧ SameBuffer t u)
      noError t := by
  have hnull : t.blob.isNull = false := isNull_eq_false_of_pos (Nat.lt_of_lt_of_le (by decide) hlen)
  have hlen' : 4 ≤ t.dataAvailable := hlen
  obtain ⟨b₀, b₁, b₂, b₃, rest, hw⟩ : ∃ b₀ b₁ b₂ b₃ rest, t.written = b₀ :: b₁ :: b₂ :: b₃ :: rest := by
    have h4 : 4 ≤ t.written.length := by
      rw [← unread_eq_written hread, unread_length]
      exact hlen
    match t.written, h4 with
    | b₀ :: b₁ :: b₂ :: b₃ :: rest, _ => exact ⟨b₀, b₁, b₂, b₃, rest, rfl⟩
  unfold handshakeParseHeader readUint
  rw [wp_read, wp_bind, wp_ensure]
  refine ⟨fun _ => ?_, fun h => absurd hlen h⟩
  have hnull' : (t.advanceRead 1 (by omega)).blob.isNull = false := hnull
  rw [wp_bind, wp_bind, wp_readBytes_of_le hnull (by omega), wp_pure, wp_bind, wp_bind,
    wp_readBytes_of_le hnull' (by rw [dataAvailable_advanceRead]; omega), wp_pure, wp_pure]
  refine ⟨?_, rfl, ?_, ⟨rfl, rfl, rfl, rfl, rfl⟩⟩
  · rw [unread_advanceRead, unread_eq_written hread, hw]
    simp [handshakeFraming, handshakeHeaderLength, beNat]
  · show t.readCursor + 1 + 3 = 4
    omega

/-- A client that cannot get memory, or a server that will not. -/
def GaveUp (c : Conn K) (e : Err) (c' : Conn K) : Prop :=
  c'.trace.postHandshake = c.trace.postHandshake ∧
  (c.mode = .client ∧ e = .alloc ∧ (∃ n, c.env.malloc n = false) ∨
    c.mode = .server ∧ e = .badMessage ∧ c'.postIn.alloced = false)

/-- Room for a body, behind the header and what else there is. -/
lemma wp_makeRoom (hlen : len ≤ maximumHandshakeMessageLength)
    (hbuf : PostBuffer c.mode dst) (hread : dst.readCursor = handshakeHeaderLength)
    (hle : dst.writeCursor ≤ len + handshakeHeaderLength) :
    wp (makeRoom len hlen)
      (fun _ c' => ∃ dst', c' = c.withStuffers src dst' ∧ dst'.written = dst.written ∧
        dst'.readCursor = handshakeHeaderLength ∧
        dst'.blob.size = len + handshakeHeaderLength ∧ PostBuffer c.mode dst')
      (fun e c' => GaveUp c e c') (c.withStuffers src dst) := by
  have hheader : handshakeHeaderLength ≤ dst.writeCursor := hread ▸ dst.read_le_write
  unfold makeRoom
  rw [wp_read]
  refine wp_seq_ensure (fun hclient => ?_) fun hserver => ?_
  · have hmode : c.mode = .client := hclient
    show wp (if dst.alloced = true then _ else _) _ _ _
    by_cases ha : dst.alloced = true
    · obtain ⟨-, hgrow, hmin⟩ := hbuf.allocated ha
      have hpos : 0 < len + handshakeHeaderLength := Nat.add_pos_right _ (by decide)
      rw [if_pos ha, wp_onPostIn]
      refine wp_mono (fun _ u hu => ?_) (fun e u hu => ?_)
        (wp_resize_of_le _ hpos hle hbuf.untainted hgrow)
      · obtain ⟨h₁, h₂, h₃, -, h₅, h₆, h₇⟩ := hu
        have halloced : u.alloced = true := h₅.trans ha
        refine ⟨u, rfl, h₁, h₂.trans hread, h₃, h₇, fun _ => ⟨hmode, h₆, ?_⟩, fun h => ?_⟩
        · rw [h₃]
          exact Nat.le_add_left _ _
        · exact absurd (halloced.symm.trans h) (by decide)
      · exact ⟨rfl, .inl ⟨hmode, hu.1, _, hu.2.1⟩⟩
    · have ha' : dst.alloced = false := by simpa using ha
      have hsize : dst.blob.size = handshakeHeaderLength := by
        rcases hbuf.static ha' with hnull | hsize
        · have hzero := dst.blob.null_size hnull
          have := dst.write_le_high
          have := dst.high_le_size
          unfold handshakeHeaderLength at hheader
          omega
        · exact hsize
      have hw : dst.writeCursor = handshakeHeaderLength :=
        Nat.le_antisymm (hsize ▸ dst.write_le_high.trans dst.high_le_size) hheader
      rw [if_neg ha, wp_bind, wp_onPostIn]
      refine wp_mono (fun _ u hu => ?_) (fun e u hu => ?_) (wp_growableAlloc _ _ dst)
      · obtain ⟨h₁, h₂, h₃, h₄, h₅, h₆⟩ := hu
        have hroom : (slice dst.blob.data 0 handshakeHeaderLength).length ≤ u.spaceRemaining := by
          rw [slice_length, spaceRemaining, h₃, h₁, Nat.sub_zero]
          exact Nat.le_add_left _ _
        rw [wp_bind, wp_onPostIn]
        refine wp_sure (fun _ v hv => ?_) (wp_writeBytes_of_room _ hroom)
        obtain ⟨k₁, k₂, k₃⟩ := hv
        have hvw : v.written = dst.written := by
          rw [k₁, written, written, h₁, hw]
          rfl
        have havail : handshakeHeaderLength ≤ v.dataAvailable := by
          rw [dataAvailable, k₂, h₂, ← written_length, hvw, written_length, hw, Nat.sub_zero]
        rw [wp_onPostIn, wp_skipRead]
        refine ⟨fun _ => ?_, fun h => absurd havail h⟩
        refine ⟨_, rfl, hvw, ?_, k₃.size.trans h₃, k₃.tainted.trans h₆, fun _ => ⟨hmode, ?_, ?_⟩, fun h => ?_⟩
        · show v.readCursor + handshakeHeaderLength = handshakeHeaderLength
          rw [k₂, h₂, Nat.zero_add]
        · exact k₃.growable.trans h₅
        · show handshakeHeaderLength ≤ v.blob.size
          rw [k₃.size, h₃]
          exact Nat.le_add_left _ _
        · exact absurd ((k₃.alloced.trans h₄).symm.trans h) (by decide)
      · exact ⟨rfl, .inl ⟨hmode, hu.1, _, hu.2.1⟩⟩
  · have hmode : c.mode = .server := by
      cases hm : c.mode with
      | server => rfl
      | client => exact absurd hm hserver
    refine ⟨rfl, .inr ⟨hmode, rfl, ?_⟩⟩
    show dst.alloced = false
    by_contra ha
    have := (hbuf.allocated (by simpa using ha)).1
    exact absurd (hmode.symm.trans this) (by decide)

/-! ### One message -/

/-- The reader goes on: what it needs to know of the connection is as before. -/
structure SameReader (c c' : Conn K) : Prop where
  mode : c'.mode = c.mode
  env : c'.env = c.env
  buffer : PostBuffer c.mode c'.postIn

/-- The first message of `stream` was processed. -/
def MessageProcessed (c : Conn K) (stream : List UInt8) (c' : Conn K) : Prop :=
  ∃ b rest, stream = b ++ rest ∧ handshakeFraming.IsFrame b ∧ c'.recv.inStuffer.unread = rest ∧
    SameReader c c' ∧ c'.trace.postHandshake = c.trace.postHandshake ++ [messageOf b]

/-- Why no message of `stream` was processed, or not with success. -/
inductive MessageFailed (c : Conn K) (stream : List UInt8) : Err → Conn K → Prop
  /-- The first message is not complete; all of it is kept. -/
  | blocked {c' : Conn K} (incomplete : ¬ handshakeFraming.Complete stream)
      (consumed : c'.recv.inStuffer.unread = []) (kept : c'.postIn.written = stream)
      (same : SameReader c c') (trace : c'.trace.postHandshake = c.trace.postHandshake) :
      MessageFailed c stream .ioBlocked c'
  | gaveUp {e : Err} {c' : Conn K} (h : GaveUp c e c') : MessageFailed c stream e c'
  | tooLong {c' : Conn K} (header : handshakeHeaderLength ≤ stream.length)
      (length : maximumHandshakeMessageLength <
        handshakeFraming.bodyLength (stream.take handshakeHeaderLength))
      (trace : c'.trace.postHandshake = c.trace.postHandshake) : MessageFailed c stream .badMessage c'
  /-- The first message was processed, with an error. -/
  | process {e : Err} {b rest : List UInt8} {d c' : Conn K} (eq : stream = b ++ rest)
      (frame : handshakeFraming.IsFrame b)
      (run : (postHandshakeProcess (messageOf b).1 (messageOf b).2).run d = .error e c')
      (not_blocked : e ≠ .ioBlocked)
      (trace : c'.trace.postHandshake = c.trace.postHandshake ++ [messageOf b]) :
      MessageFailed c stream e c'

/-- Processing the message `b`, which is the first of the stream. -/
lemma wp_process {d : Conn K} {stream b rest : List UInt8} (eq : stream = b ++ rest)
    (hb : handshakeFraming.IsFrame b) (hrest : d.recv.inStuffer.unread = rest)
    (hsame : SameReader c d) (htrace : d.trace.postHandshake = c.trace.postHandshake)
    {ty : HandshakeMsg} {body : List UInt8} (hm : (ty, body) = messageOf b) :
    wp (postHandshakeProcess ty body) (fun _ c' => MessageProcessed c stream c')
      (MessageFailed c stream) d := by
  have h := wp_postHandshakeProcess ty body d
  rw [htrace, hm] at h
  obtain ⟨rfl, rfl⟩ : ty = (messageOf b).1 ∧ body = (messageOf b).2 := Prod.mk.inj hm
  unfold wp at h ⊢
  cases hrun : (postHandshakeProcess (messageOf b).1 (messageOf b).2).run d with
  | ok _ c' =>
    rw [hrun] at h
    have hrecv : c'.recv = d.recv := congrArg PostView.recv h
    refine ⟨b, rest, eq, hb, hrecv ▸ hrest, ⟨?_, ?_, ?_⟩, congrArg PostView.processed h⟩
    · exact (congrArg PostView.mode h).trans hsame.mode
    · exact (congrArg PostView.env h).trans hsame.env
    · unfold Conn.postIn
      rw [hrecv]
      exact hsame.buffer
  | error e c' =>
    rw [hrun] at h
    exact MessageFailed.process eq hb hrun h.1 (congrArg PostView.processed h.2)

lemma SameReader.withStuffers {src' dst' : Stuffer} (h : PostBuffer c.mode dst') :
    SameReader c (c.withStuffers src' dst') := ⟨rfl, rfl, h⟩

/-- The header of a stream that begins with `w` is that of `w`. -/
lemma frameLength_header {w : List UInt8} (h : handshakeHeaderLength ≤ w.length)
    (hbody : handshakeFraming.bodyLength (w.take handshakeHeaderLength) = len) (u : List UInt8) :
    handshakeFraming.frameLength (w ++ u) = handshakeHeaderLength + len := by
  rw [Framing.frameLength_append h]
  exact congrArg (handshakeHeaderLength + ·) hbody

lemma headD_append {w : List UInt8} (h : handshakeHeaderLength ≤ w.length) (u : List UInt8) :
    (w ++ u).headD 0 = w.headD 0 := by
  cases w with
  | nil => exact absurd h (by decide)
  | cons x w => rfl

/-- A part of the program takes what is left of the message that `dst` holds the beginning of. -/
abbrev Collects (c : Conn K) (src dst : Stuffer) (m : ConnM K Unit) : Prop :=
  wp m (fun _ c' => MessageProcessed c (dst.written ++ src.unread) c') (MessageFailed c (dst.written ++ src.unread))
    (c.withStuffers src dst)

section Body

variable (hbuf : PostBuffer c.mode dst) (hread : dst.readCursor = handshakeHeaderLength)
  (hbody : handshakeFraming.bodyLength (dst.written.take handshakeHeaderLength) = len)

include hread

lemma header_le_written : handshakeHeaderLength ≤ dst.written.length := by
  rw [written_length, ← hread]
  exact dst.read_le_write

include hbuf hbody

lemma wp_collectBody (hroom : len - dst.dataAvailable ≤ dst.spaceRemaining)
    (hle : dst.writeCursor ≤ len + handshakeHeaderLength) :
    Collects c src dst (collectBody (dst.written.headD 0) len) := by
  have hheader := header_le_written hread
  have havail : dst.dataAvailable = dst.written.length - handshakeHeaderLength := by
    rw [dataAvailable, hread, written_length]
  have hle' : dst.written.length ≤ len + handshakeHeaderLength := by rwa [written_length]
  unfold collectBody
  refine wp_sure_then (wp_fillPostIn hroom) fun _ c' hc' => ?_
  obtain ⟨src', dst', rfl, -, hsrc, hdst, hread', hsame⟩ := hc'
  generalize hk : len - dst.dataAvailable = k at hsrc hdst
  have hlen' : dst'.written.length = dst.written.length + min k src.unread.length := by
    rw [hdst, List.length_append, List.length_take]
  have havail' : dst'.dataAvailable = dst'.written.length - handshakeHeaderLength := by
    rw [dataAvailable, hread', hread, written_length]
  have hsplit : dst.written ++ src.unread = dst'.written ++ src'.unread := by
    rw [hdst, hsrc, List.append_assoc, List.take_append_drop]
  have hreader : SameReader c (c.withStuffers src' dst') := SameReader.withStuffers (hbuf.of_sameBuffer hsame)
  rw [wp_read]
  refine wp_seq_ensure (fun hcomplete => ?_) fun hincomplete => ?_
  · have hcomplete : dst'.dataAvailable = len := hcomplete
    refine wp_process hsplit ⟨?_, ?_⟩ rfl hreader rfl ?_
    · exact hheader.trans (by rw [hlen']; exact Nat.le_add_right _ _)
    · rw [hdst, frameLength_header hheader hbody, ← hdst]
      omega
    · refine Prod.ext ?_ ?_
      · show dst.written.headD 0 = dst'.written.headD 0
        rw [hdst, headD_append hheader]
      · show dst'.unread = dst'.written.drop handshakeHeaderLength
        rw [unread_eq_drop_written, hread', hread]
  · have hincomplete : ¬ dst'.dataAvailable = len := hincomplete
    have hshort : src.unread.length < k := by omega
    have hempty : src'.unread = [] := by
      rw [hsrc]
      exact List.drop_of_length_le hshort.le
    have hall : dst'.written = dst.written ++ src.unread := by
      rw [hsplit, hempty, List.append_nil]
    refine MessageFailed.blocked (fun hc => ?_) hempty hall hreader rfl
    have h := hc.2
    rw [frameLength_header hheader hbody, List.length_append] at h
    omega

lemma wp_recvFragmentedBody (hlen : len ≤ maximumHandshakeMessageLength)
    (hle : dst.writeCursor ≤ len + handshakeHeaderLength) :
    Collects c src dst (recvFragmentedBody (dst.written.headD 0) len hlen) := by
  unfold Collects recvFragmentedBody
  rw [wp_read, wp_bind, wp_when]
  refine ⟨fun _ => ?_, fun hroom => ?_⟩
  · refine wp_mono (fun _ c' hc' => ?_) (fun e c' h => MessageFailed.gaveUp h)
      (wp_makeRoom hlen hbuf hread hle)
    obtain ⟨dst', rfl, hw, hread', hsize, hbuf'⟩ := hc'
    have hcursor : dst'.writeCursor = dst.writeCursor := by
      rw [← written_length, hw, written_length]
    rw [← hw] at hbody ⊢
    refine wp_collectBody hbuf' hread' hbody ?_ (hcursor ▸ hle)
    rw [dataAvailable, spaceRemaining, hsize, hread', hcursor]
    omega
  · have hroom : ¬ dst.spaceRemaining < len := hroom
    exact wp_collectBody hbuf hread hbody (by omega) hle

lemma wp_recvBody (hnull : src.blob.isNull = false) (hshort : dst.writeCursor = handshakeHeaderLength ∨
    dst.writeCursor < len + handshakeHeaderLength) : Collects c src dst (recvBody (dst.written.headD 0) len) := by
  have hheader := header_le_written hread
  have hle : dst.writeCursor ≤ len + handshakeHeaderLength := by omega
  unfold Collects recvBody
  rw [wp_read]
  refine wp_seq_ensure (fun _ => ?_) fun hblocked => ?_
  · split
    · rename_i hlen
      show wp (if dst.dataAvailable = 0 ∧ len ≤ src.dataAvailable then _ else _) _ _ _
      split
      · rename_i hwhole
        have hcursor : dst.written.length = handshakeHeaderLength := by
          have h0 : dst.writeCursor - dst.readCursor = 0 := hwhole.1
          rw [written_length] at hheader ⊢
          omega
        have hbytes : Parser.bytes len src.unread = some (src.unread.take len, src.unread.drop len) :=
          Parser.bytes_eq_some.mpr ⟨(List.take_append_drop _ _).symm,
            List.length_take_of_le (by rw [unread_length]; exact hwhole.2)⟩
        rw [wp_bind, wp_onIn]
        refine wp_rawRead_of_bytes hnull hbytes fun off u hslice hunread _ => ?_
        have hsplit : dst.written ++ src.unread =
            (dst.written ++ src.unread.take len) ++ src.unread.drop len := by
          rw [List.append_assoc, List.take_append_drop]
        refine wp_process hsplit ⟨?_, ?_⟩ hunread (SameReader.withStuffers hbuf) rfl (Prod.ext ?_ ?_)
        · rw [List.length_append]
          exact Nat.le_add_right_of_le hheader
        · rw [frameLength_header hheader hbody, List.length_append, hcursor,
            List.length_take_of_le (by rw [unread_length]; exact hwhole.2)]
        · exact (headD_append hheader _).symm
        · show slice src.blob.data off len = (dst.written ++ src.unread.take len).drop handshakeHeaderLength
          rw [hslice, List.drop_left' hcursor]
      · exact wp_recvFragmentedBody hbuf hread hbody hlen hle
    · rename_i hlen
      refine MessageFailed.tooLong ?_ ?_ rfl
      · rw [List.length_append]
        exact Nat.le_add_right_of_le hheader
      · rw [List.take_append_of_le_length hheader, hbody]
        exact Nat.not_le.mp hlen
  · have hblocked : ¬ (len = 0 ∨ src.dataAvailable ≠ 0) := hblocked
    have hempty : src.unread = [] := by
      rw [← List.length_eq_zero_iff, unread_length]
      omega
    refine MessageFailed.blocked (fun hc => ?_) hempty ?_ (SameReader.withStuffers hbuf) rfl
    · have h := hc.2
      rw [frameLength_header hheader hbody, hempty, List.append_nil, written_length] at h
      omega
    · rw [hempty, List.append_nil]
      rfl

end Body

lemma wp_beginMessage (hbuf : PostBuffer c.mode dst) :
    wp beginMessage
      (fun _ c' => ∃ dst', c' = c.withStuffers src dst' ∧ dst'.written = dst.written ∧
        dst'.readCursor = 0 ∧ handshakeHeaderLength ≤ dst'.blob.size ∧ PostBuffer c.mode dst')
      noError (c.withStuffers src dst) := by
  unfold beginMessage
  rw [wp_bind, wp_onPostIn, reread, wp_modify, wp_read, wp_when]
  refine ⟨fun hfreed => ?_, fun hfreed => ?_⟩
  · have hfreed : dst.blob.isNull = true := hfreed
    have hzero : dst.writeCursor = 0 := by
      have := dst.blob.null_size hfreed
      have := dst.write_le_high
      have := dst.high_le_size
      omega
    have hempty : dst.written = [] := List.length_eq_zero_iff.mp (dst.written_length.trans hzero)
    exact ⟨_, rfl, hempty.symm, rfl, le_refl _, rfl, fun h => Bool.noConfusion h, fun _ => .inr rfl⟩
  · have hfreed : ¬ dst.blob.isNull = true := hfreed
    refine ⟨_, rfl, rfl, rfl, ?_, hbuf.untainted, hbuf.allocated, hbuf.static⟩
    show handshakeHeaderLength ≤ dst.blob.size
    cases ha : dst.alloced with
    | true => exact (hbuf.allocated ha).2.2
    | false => exact Nat.le_of_eq ((hbuf.static ha).resolve_left hfreed).symm

/-- One message, of which `dst` holds the beginning. -/
lemma wp_postHandshakeMessageRecv (hnull : src.blob.isNull = false) (hbuf : PostBuffer c.mode dst)
    (hpart : ¬ handshakeFraming.Complete dst.written) : Collects c src dst postHandshakeMessageRecv := by
  unfold postHandshakeMessageRecv
  refine wp_sure_then (wp_beginMessage hbuf) fun _ c₁ hc₁ => ?_
  obtain ⟨dst₁, rfl, hw₁, hr₁, hsize₁, hbuf₁⟩ := hc₁
  rw [← hw₁] at hpart ⊢
  have havail₁ : dst₁.dataAvailable = dst₁.written.length := by
    rw [dataAvailable, hr₁, Nat.sub_zero, written_length]
  have hroom : handshakeHeaderLength - dst₁.dataAvailable ≤ dst₁.spaceRemaining := by
    rw [havail₁, spaceRemaining, written_length]
    omega
  refine wp_sure_then (wp_fillPostIn hroom) fun _ c₂ hc₂ => ?_
  obtain ⟨src₂, dst₂, rfl, hblob, hsrc, hdst, hr₂, hsame⟩ := hc₂
  rw [havail₁] at hsrc hdst
  have hsplit : dst₁.written ++ src.unread = dst₂.written ++ src₂.unread := by
    rw [hdst, hsrc, List.append_assoc, List.take_append_drop]
  have hlen₂ : dst₂.written.length =
      dst₁.written.length + min (handshakeHeaderLength - dst₁.written.length) src.unread.length := by
    rw [hdst, List.length_append, List.length_take]
  have havail₂ : dst₂.dataAvailable = dst₂.written.length := by
    rw [dataAvailable, hr₂, hr₁, Nat.sub_zero, written_length]
  have hbuf₂ := hbuf₁.of_sameBuffer hsame
  rw [hsplit, wp_read]
  refine wp_seq_ensure (fun hheader => ?_) fun hheader => ?_
  · have hheader : handshakeHeaderLength ≤ dst₂.dataAvailable := hheader
    rw [wp_bind, wp_onPostIn]
    refine wp_sure (fun p dst₃ h₃ => ?_)
      (wp_handshakeParseHeader (hr₂.trans hr₁) hheader)
    obtain ⟨rfl, hw₃, hr₃, hsame₃⟩ := h₃
    rw [← hw₃]
    refine wp_recvBody (hbuf₂.of_sameBuffer hsame₃) hr₃ rfl ((congrArg Blob.isNull hblob).trans hnull) ?_
    -- either only the header was read, or nothing was and the message is as unfinished as before
    by_cases hshort : dst₁.written.length < handshakeHeaderLength
    · refine .inl ?_
      rw [← written_length, hw₃]
      omega
    · have hzero : handshakeHeaderLength - dst₁.written.length = 0 := by omega
      have hsame₁ : dst₂.written = dst₁.written := by
        rw [hdst, hzero, List.take_zero, List.append_nil]
      refine .inr (Nat.not_le.mp fun hle => hpart ⟨Nat.not_lt.mp hshort, ?_⟩)
      rw [← written_length, hw₃, hsame₁] at hle
      rw [Framing.frameLength, Nat.add_comm]
      exact hle
  · have hheader : ¬ handshakeHeaderLength ≤ dst₂.dataAvailable := hheader
    have hempty : src₂.unread = [] := by
      rw [hsrc]
      exact List.drop_of_length_le (by omega)
    rw [hempty, List.append_nil]
    refine MessageFailed.blocked (fun hc => hheader ?_) hempty rfl (SameReader.withStuffers hbuf₂) rfl
    rw [havail₂]
    exact hc.1

end Collect

end S2nTls
