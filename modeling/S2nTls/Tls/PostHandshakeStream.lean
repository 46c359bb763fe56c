import S2nTls.Tls.PostHandshakeSpec

/-!
The messages of a sequence of records.

The records of a client or server carry a stream of bytes, and the stream splits into messages in one
way. One call of `s2n_post_handshake_recv` processes the messages that its record completes, and a run
over all records processes all messages, wherever the records were cut.
-/

namespace S2nTls

open Lib Stuffer

variable {K : Type} {c c' c₁ : Conn K}
variable {e : Err} {bs : List (List UInt8)} {stream : List UInt8}

/-! ### Progress of the reader -/

/-- The reader has gone from `c` to `c'` and has processed the messages `bs`. -/
structure Advanced (c : Conn K) (bs : List (List UInt8)) (c' : Conn K) : Prop where
  frames : ∀ b ∈ bs, handshakeFraming.IsFrame b
  same : SameReader c c'
  trace : c'.trace.postHandshake = c.trace.postHandshake ++ bs.map messageOf

lemma Advanced.refl (h : PostBuffer c.mode c.postIn) : Advanced c [] c :=
  ⟨by simp, ⟨rfl, rfl, h⟩, by simp⟩

lemma SameReader.trans (h : SameReader c c₁) (h' : SameReader c₁ c') : SameReader c c' :=
  ⟨h'.mode.trans h.mode, h'.env.trans h.env, h.mode ▸ h'.buffer⟩

lemma Advanced.trans {bs' : List (List UInt8)} (h : Advanced c bs c₁) (h' : Advanced c₁ bs' c') :
    Advanced c (bs ++ bs') c' := by
  refine ⟨?_, h.same.trans h'.same, ?_⟩
  · intro b hb
    exact (List.mem_append.mp hb).elim (h.frames b) (h'.frames b)
  · rw [h'.trace, h.trace, List.map_append, List.append_assoc]

/-- All of `stream` was read: the whole messages are processed, and the rest is kept. -/
def StreamRead (c : Conn K) (stream : List UInt8) (c' : Conn K) : Prop :=
  ∃ bs, handshakeFraming.Splits stream bs c'.postIn.written ∧ Advanced c bs c'

lemma StreamRead.of_advanced
    (h' : StreamRead c₁ stream c') (h : Advanced c bs c₁) : StreamRead c (bs.flatten ++ stream) c' := by
  obtain ⟨bs', hsplits, hadv⟩ := h'
  refine ⟨bs ++ bs', ⟨?_, (h.trans hadv).frames, hsplits.rest⟩, h.trans hadv⟩
  rw [hsplits.eq, List.flatten_append, List.append_assoc]

lemma StreamRead.of_empty (hbuf : PostBuffer c.mode c.postIn)
    (hpart : ¬ handshakeFraming.Complete c.postIn.written)
    (h : c.recv.inStuffer.dataAvailable = 0) :
    StreamRead c (c.postIn.written ++ c.recv.inStuffer.unread) c := by
  have hempty : c.recv.inStuffer.unread = [] := List.length_eq_zero_iff.mp (by rw [unread_length, h])
  rw [hempty, List.append_nil]
  exact ⟨[], Framing.Splits.refl hpart, Advanced.refl hbuf⟩

/-- Why the reader stopped, after the messages `bs` and before `rest`. -/
inductive Stopped (c : Conn K) (bs : List (List UInt8)) (rest : List UInt8) : Err → Conn K → Prop
  /-- A client that cannot get memory. -/
  | noMemory {n : ℕ} {c' : Conn K} (client : c.mode = .client) (malloc : c.env.malloc n = false) :
      Stopped c bs rest .alloc c'
  /-- A server that will not get memory. -/
  | server {c' : Conn K} (server : c.mode = .server) (alloced : c'.postIn.alloced = false) :
      Stopped c bs rest .badMessage c'
  | tooLong {c' : Conn K} (header : handshakeHeaderLength ≤ rest.length)
      (length : maximumHandshakeMessageLength <
        handshakeFraming.bodyLength (rest.take handshakeHeaderLength)) :
      Stopped c bs rest .badMessage c'
  /-- The last message was processed with an error. -/
  | process {e : Err} {b : List UInt8} {d c' : Conn K} (last : bs.getLast? = some b)
      (run : (postHandshakeProcess (messageOf b).1 (messageOf b).2).run d = .error e c')
      (not_blocked : e ≠ .ioBlocked) : Stopped c bs rest e c'

lemma Stopped.not_blocked {rest : List UInt8} (h : Stopped c bs rest e c') : e ≠ .ioBlocked := by
  cases h with
  | process _ _ hne => exact hne
  | _ => decide

/-- The reader stopped inside `stream`. -/
def StreamFailed (c : Conn K) (stream : List UInt8) (e : Err) (c' : Conn K) : Prop :=
  ∃ bs rest, stream = bs.flatten ++ rest ∧ (∀ b ∈ bs, handshakeFraming.IsFrame b) ∧
    c'.trace.postHandshake = c.trace.postHandshake ++ bs.map messageOf ∧ Stopped c bs rest e c'

lemma StreamFailed.not_blocked (h : StreamFailed c stream e c') : e ≠ .ioBlocked := by
  obtain ⟨_, _, _, _, _, hstop⟩ := h
  exact hstop.not_blocked

lemma StreamFailed.of_advanced (h' : StreamFailed c₁ stream e c') (h : Advanced c bs c₁) :
    StreamFailed c (bs.flatten ++ stream) e c' := by
  obtain ⟨bs', rest, rfl, hframes, htrace, hstop⟩ := h'
  refine ⟨bs ++ bs', rest, by simp, ?_, ?_, ?_⟩
  · intro b hb
    exact (List.mem_append.mp hb).elim (h.frames b) (hframes b)
  · rw [htrace, h.trace, List.map_append, List.append_assoc]
  · cases hstop with
    | noMemory client malloc => exact .noMemory (h.same.mode ▸ client) (h.same.env ▸ malloc)
    | server server alloced => exact .server (h.same.mode ▸ server) alloced
    | tooLong header length => exact .tooLong header length
    | process last run hne => exact .process (by rw [List.getLast?_append, last]; rfl) run hne

lemma StreamFailed.append (h : StreamFailed c stream e c')
    (more : List UInt8) : StreamFailed c (stream ++ more) e c' := by
  obtain ⟨bs, rest, rfl, hframes, htrace, hstop⟩ := h
  refine ⟨bs, rest ++ more, List.append_assoc _ _ _, hframes, htrace, ?_⟩
  cases hstop with
  | noMemory client malloc => exact .noMemory client malloc
  | server server alloced => exact .server server alloced
  | tooLong header length =>
    refine .tooLong ?_ ?_
    · rw [List.length_append]
      exact Nat.le_add_right_of_le header
    · rwa [List.take_append_of_le_length header]
  | process last run hne => exact .process last run hne

/-! ### One record -/

/-- What `s2n_post_handshake_message_recv` may end with, in terms of the stream. -/
lemma StreamFailed.of_messageFailed (h : MessageFailed c stream e c') :
    e = .ioBlocked ∧ StreamRead c stream c' ∨ StreamFailed c stream e c' := by
  cases h with
  | blocked incomplete consumed kept same trace =>
    refine .inl ⟨rfl, [], ?_, by simp, same, by simpa using trace⟩
    rw [kept]
    exact Framing.Splits.refl incomplete
  | gaveUp h =>
    obtain ⟨htrace, ⟨hmode, rfl, n, hn⟩ | ⟨hmode, rfl, halloced⟩⟩ := h
    · exact .inr ⟨[], stream, rfl, by simp, by simpa using htrace, .noMemory hmode hn⟩
    · exact .inr ⟨[], stream, rfl, by simp, by simpa using htrace, .server hmode halloced⟩
  | tooLong header length trace =>
    exact .inr ⟨[], stream, rfl, by simp, by simpa using trace, .tooLong header length⟩
  | process eq frame run hne trace =>
    exact .inr ⟨[_], _, by simpa using eq, by simpa using frame, trace, .process rfl run hne⟩

lemma PostBuffer.wiped {mode : Mode} {t : Stuffer} (h : PostBuffer mode t) :
    PostBuffer mode t.wiped := by
  have hsize : t.wiped.blob.size = t.blob.size := by
    unfold Stuffer.wiped
    split <;> rfl
  have hnull : t.wiped.blob.isNull = t.blob.isNull := by
    unfold Stuffer.wiped
    split <;> rfl
  refine ⟨rfl, ?_, ?_⟩
  · rw [hsize]
    exact h.allocated
  · rw [hsize, hnull]
    exact h.static

lemma wp_wipePostIn (hbuf : PostBuffer c.mode c.postIn) :
    wp (onPostIn wipe) (fun _ c' => c'.recv.inStuffer = c.recv.inStuffer ∧ c'.postIn.written = [] ∧
      Advanced c [] c') noError c :=
  ⟨rfl, rfl, by simp, ⟨rfl, rfl, hbuf.wiped⟩, by simp⟩

lemma wp_postHandshakeRecvLoop (fuel : ℕ) (c : Conn K)
    (hfuel : c.recv.inStuffer.dataAvailable ≤ fuel) (hbuf : PostBuffer c.mode c.postIn)
    (hpart : ¬ handshakeFraming.Complete c.postIn.written) :
    wp (postHandshakeRecvLoop fuel)
      (fun _ c' => StreamRead c (c.postIn.written ++ c.recv.inStuffer.unread) c')
      (fun e c' => e = .ioBlocked ∧ StreamRead c (c.postIn.written ++ c.recv.inStuffer.unread) c' ∨
        StreamFailed c (c.postIn.written ++ c.recv.inStuffer.unread) e c') c := by
  induction fuel generalizing c with
  | zero => exact StreamRead.of_empty hbuf hpart (Nat.le_zero.mp hfuel)
  | succ fuel ih =>
    rw [postHandshakeRecvLoop, wp_read, wp_ite]
    refine ⟨fun h => StreamRead.of_empty hbuf hpart h, fun h => ?_⟩
    have hnull := isNull_eq_false_of_pos (Nat.pos_of_ne_zero h)
    refine wp_seq (wp_postHandshakeMessageRecv hnull hbuf hpart) (fun _ c₁ h₁ => ?_)
      fun _ _ he => StreamFailed.of_messageFailed he
    obtain ⟨b, rest, heq, hb, hrest, hsame, htrace⟩ := h₁
    have heq : c.postIn.written ++ c.recv.inStuffer.unread = b ++ rest := heq
    refine wp_sure_then (wp_wipePostIn (hsame.mode.symm ▸ hsame.buffer)) fun _ c₂ h₂ => ?_
    obtain ⟨hin, hwritten, hadv⟩ := h₂
    have hadv₁ : Advanced c [b] c₁ := ⟨by simpa using hb, hsame, htrace⟩
    have hadv₂ : Advanced c [b] c₂ := hadv₁.trans hadv
    have hunread : c₂.recv.inStuffer.unread = rest := hin ▸ hrest
    have hfuel₂ : c₂.recv.inStuffer.dataAvailable ≤ fuel := by
      have hlt := hb.rest_length_lt hpart heq
      rw [unread_length] at hlt
      rw [← unread_length, hunread]
      omega
    have hbuf₂ : PostBuffer c₂.mode c₂.postIn := hadv₂.same.mode.symm ▸ hadv₂.same.buffer
    have hpart₂ : ¬ handshakeFraming.Complete c₂.postIn.written := by
      rw [hwritten]
      exact Framing.not_complete_nil
    have hstream : c.postIn.written ++ c.recv.inStuffer.unread =
        [b].flatten ++ (c₂.postIn.written ++ c₂.recv.inStuffer.unread) := by
      rw [hwritten, hunread, heq]
      simp
    rw [hstream]
    refine wp_mono (fun _ c' h => h.of_advanced hadv₂) (fun e c' h => ?_) (ih c₂ hfuel₂ hbuf₂ hpart₂)
    exact h.imp (fun h => ⟨h.1, h.2.of_advanced hadv₂⟩) fun h => h.of_advanced hadv₂

lemma wp_postHandshakeRecv (c : Conn K) (hbuf : PostBuffer c.mode c.postIn)
    (hpart : ¬ handshakeFraming.Complete c.postIn.written) :
    wp postHandshakeRecv
      (fun _ c' => StreamRead c (c.postIn.written ++ c.recv.inStuffer.unread) c')
      (fun e c' => e = .ioBlocked ∧ StreamRead c (c.postIn.written ++ c.recv.inStuffer.unread) c' ∨
        StreamFailed c (c.postIn.written ++ c.recv.inStuffer.unread) e c') c := by
  unfold postHandshakeRecv
  rw [wp_read]
  exact wp_postHandshakeRecvLoop _ c le_rfl hbuf hpart

/-! ### All records -/

def streamOf (records : List Stuffer) : List UInt8 := (records.map unread).flatten

lemma wp_recvHandshakeRecords (records : List Stuffer) (c : Conn K)
    (hbuf : PostBuffer c.mode c.postIn)
    (hpart : ¬ handshakeFraming.Complete c.postIn.written) :
    wp (recvHandshakeRecords records)
      (fun _ c' => StreamRead c (c.postIn.written ++ streamOf records) c')
      (StreamFailed c (c.postIn.written ++ streamOf records)) c := by
  induction records generalizing c with
  | nil =>
    show StreamRead c (c.postIn.written ++ []) c
    rw [List.append_nil]
    exact ⟨[], Framing.Splits.refl hpart, Advanced.refl hbuf⟩
  | cons record records ih =>
    have hstream : c.postIn.written ++ streamOf (record :: records) =
        (c.postIn.written ++ record.unread) ++ streamOf records := by
      rw [List.append_assoc]
      rfl
    rw [hstream, recvHandshakeRecords, wp_update, wp_bind, wp_attempt]
    -- what was read from this record is kept for the next
    have hnext : ∀ c₁, StreamRead c (c.postIn.written ++ record.unread) c₁ → wp (recvHandshakeRecords records)
          (fun _ c' => StreamRead c ((c.postIn.written ++ record.unread) ++ streamOf records) c')
          (StreamFailed c ((c.postIn.written ++ record.unread) ++ streamOf records)) c₁ := by
      intro c₁ ⟨bs, hsplits, hadv⟩
      rw [hsplits.eq, List.append_assoc]
      refine wp_mono (fun _ c' h => h.of_advanced hadv) (fun e c' h => h.of_advanced hadv) (ih c₁ ?_ ?_)
      · exact hadv.same.mode.symm ▸ hadv.same.buffer
      · exact hsplits.rest
    have hadv : Advanced c [] (c.withStuffers record c.postIn) :=
      ⟨by simp, SameReader.withStuffers hbuf, by simp; rfl⟩
    refine wp_mono (fun _ c₁ h => hnext c₁ (h.of_advanced hadv)) (fun e c₁ h => ?_)
      (wp_postHandshakeRecv (c.withStuffers record c.postIn) hbuf hpart)
    rcases h with ⟨rfl, h⟩ | h
    · exact hnext c₁ (h.of_advanced hadv)
    · have hne := h.not_blocked
      split
      · rename_i heq
        cases heq
      · rename_i heq
        exact absurd (Except.error.inj heq) hne
      · rename_i e' _ heq
        obtain rfl := Except.error.inj heq
        exact (h.of_advanced hadv).append _

lemma map_messageOf_encodeMessage (messages : List (HandshakeMsg × List UInt8)) :
    (messages.map encodeMessage).map messageOf = messages := by
  rw [List.map_map]
  exact (List.map_congr_left fun m _ => messageOf_encodeMessage m).trans (List.map_id _)

/-- **Reassembly.** However the messages were cut into records, a client processes exactly these
messages, in order and once each, unless processing one of them fails or memory cannot be had; then
it has processed the messages before. A server does the same, or it fails with
`S2N_ERR_BAD_MESSAGE` and has not allocated any memory. -/
theorem post_handshake_messages_processed (c : Conn K) (hbuf : PostBuffer c.mode c.postIn)
    (hempty : c.postIn.written = []) (messages : List (HandshakeMsg × List UInt8))
    (hlen : ∀ m ∈ messages, m.2.length ≤ maximumHandshakeMessageLength) (records : List Stuffer)
    (hrecords : streamOf records = (messages.map encodeMessage).flatten) :
    (∀ c', (recvHandshakeRecords records).run c = .ok () c' →
      c'.trace.postHandshake = c.trace.postHandshake ++ messages) ∧
    ∀ e c', (recvHandshakeRecords records).run c = .error e c' → ∃ before after, messages = before ++ after ∧
        c'.trace.postHandshake = c.trace.postHandshake ++ before ∧
        ((∃ m d, before.getLast? = some m ∧ (postHandshakeProcess m.1 m.2).run d = .error e c') ∨
          c.mode = .client ∧ e = .alloc ∧ (∃ n, c.env.malloc n = false) ∨
          c.mode = .server ∧ e = .badMessage ∧ c'.postIn.alloced = false) := by
  have hframes : ∀ b ∈ messages.map encodeMessage, handshakeFraming.IsFrame b := by
    intro b hb
    obtain ⟨m, hm, rfl⟩ := List.mem_map.mp hb
    exact isFrame_encodeMessage ((hlen m hm).trans_lt (by decide))
  have hpart : ¬ handshakeFraming.Complete c.postIn.written := by
    rw [hempty]
    exact Framing.not_complete_nil
  have h := wp_recvHandshakeRecords records c hbuf hpart
  rw [hempty, List.nil_append, hrecords] at h
  obtain ⟨hok, herror⟩ := wp_iff_run.mp h
  refine ⟨fun c' hrun => ?_, fun e c' hrun => ?_⟩
  · obtain ⟨bs, hsplits, hadv⟩ := hok () c' hrun
    have hall : handshakeFraming.Splits (messages.map encodeMessage).flatten
        (messages.map encodeMessage) [] :=
      ⟨(List.append_nil _).symm, hframes, Framing.not_complete_nil⟩
    rw [hadv.trace, (hsplits.unique hall).1, map_messageOf_encodeMessage]
  · obtain ⟨bs, rest, heq, hbs, htrace, hstop⟩ := herror e c' hrun
    obtain ⟨bs', hmap, rfl⟩ := Framing.exists_eq_append_of_flatten hbs hframes heq
    obtain ⟨before, after, rfl, rfl, rfl⟩ := List.map_eq_append_iff.mp hmap
    rw [map_messageOf_encodeMessage] at htrace
    refine ⟨before, after, rfl, htrace, ?_⟩
    cases hstop with
    | noMemory client malloc => exact .inr (.inl ⟨client, rfl, _, malloc⟩)
    | server server alloced => exact .inr (.inr ⟨server, rfl, alloced⟩)
    | tooLong header length =>
      cases after with
      | nil => exact absurd header (by decide)
      | cons m after =>
        have hm := hlen m (List.mem_append_right _ List.mem_cons_self)
        have hbody := bodyLength_encodeMessage (hm.trans_lt (by decide)) (after.map encodeMessage).flatten
        exact absurd hm (Nat.not_le.mpr (hbody ▸ length))
    | process last run _ =>
      rw [List.getLast?_map] at last
      obtain ⟨m, hm, rfl⟩ := Option.map_eq_some_iff.mp last
      rw [messageOf_encodeMessage] at run
      exact .inl ⟨m, _, hm, run⟩

/-! ### An example -/

/-- A record with the plaintext `bs`. -/
def recordOf (bs : List UInt8) (h : bs.length < 2 ^ 32) : Stuffer :=
  Stuffer.initWritten ⟨fun i => bs.getD i 0, bs.length, false, fun h => Bool.noConfusion h, h⟩

/-- A client of TLS1.3 after the handshake. -/
def postHandshakeClient : Conn Unit where
  mode := .client
  actualProtocolVersion := tls13
  crypto :=
    { initial := CryptoParameters.new ()
      secure := ⟨copyingCipherSuite, CryptoSide.new (), CryptoSide.new ()⟩ }

/-- A KeyUpdate message and a ticket, cut inside both headers and inside the ticket. -/
def cutRecords : List Stuffer :=
  [recordOf [24, 0] (by decide), recordOf [0, 1, 0, 4, 0] (by decide), recordOf [0, 3, 7] (by decide),
    recordOf [8, 9] (by decide)]

/-- Both messages are processed. -/
theorem post_handshake_messages_processed_cut :
    ∃ c', (recvHandshakeRecords cutRecords).run postHandshakeClient = .ok () c' ∧
      c'.trace.postHandshake = postHandshakeClient.trace.postHandshake ++ [(24, [0]), (4, [7, 8, 9])] := by
  have hok : succeeds (recvHandshakeRecords cutRecords) postHandshakeClient = true := by decide +kernel
  obtain ⟨_, c', hrun⟩ := exists_ok_of_succeeds hok
  refine ⟨c', hrun, ?_⟩
  exact (post_handshake_messages_processed postHandshakeClient
    ⟨rfl, fun h => Bool.noConfusion h, fun _ => .inl rfl⟩ rfl [(24, [0]), (4, [7, 8, 9])]
    (by decide) cutRecords (by decide)).1 c' hrun

end S2nTls
