import S2nTls.Lib.Calls
import S2nTls.Tls.QuicSupport

/-!
Runs of a client over QUIC.

The application calls `s2n_recv_quic_post_handshake_message` again and again, and may have
`s2n_connection_free_handshake` empty `conn->handshake.io` between two messages.
-/

namespace S2nTls

open Lib Stuffer

variable {K : Type}
variable {l' : Link K}

inductive QuicCall
  | recv | freeHandshake
  deriving DecidableEq, Repr

/-- A client after some calls: whether the last call for a message reported that it has to be made again, how many
succeeded, and whether one failed. -/
structure QuicRun (K : Type) where
  link : Link K
  pending : Bool := false
  succeeded : ℕ := 0
  failed : Bool := false

namespace QuicRun

def step (r : QuicRun K) : QuicCall → QuicRun K
  | .recv =>
    let link := finalState recvQuicPostHandshakeMessage r.link
    match outcome recvQuicPostHandshakeMessage r.link with
    | .ok () => { r with link := link, pending := false, succeeded := r.succeeded + 1 }
    | .error .ioBlocked => { r with link := link, pending := true }
    | .error _ => { r with link := link, pending := false, failed := true }
  | .freeHandshake => { r with link := finalState freeHandshakeIo r.link }

def run (r : QuicRun K) (calls : List QuicCall) : QuicRun K := calls.foldl step r

lemma step_recv_of_ok {r : QuicRun K} (h : recvQuicPostHandshakeMessage.run r.link = .ok () l') :
    r.step .recv = { r with link := l', pending := false, succeeded := r.succeeded + 1 } := by
  unfold step outcome finalState
  rw [h]

lemma step_recv_of_blocked {r : QuicRun K} (h : recvQuicPostHandshakeMessage.run r.link = .error .ioBlocked l') :
    r.step .recv = { r with link := l', pending := true } := by
  unfold step outcome finalState
  rw [h]

/-- What a call needs: one that is not made again for the same message finds `conn->handshake.io` empty, and room
for the message in `conn->buffer_in`. -/
def Ready (bodies : List (List UInt8)) (r : QuicRun K) : QuicCall → Prop
  | .recv => r.pending = true ∨
      (r.link.conn.handshake.io.writeCursor = 0 ∧ r.link.conn.handshake.io.CanTake handshakeHeaderLength ∧
        ∀ b ∈ bodies[r.succeeded]?, r.link.conn.recv.bufferIn.CanTake b.length)
  | .freeHandshake => r.pending = false

instance (t : Stuffer) (n : ℕ) : Decidable (t.CanTake n) := by unfold CanTake; infer_instance

instance (bodies : List (List UInt8)) (r : QuicRun K) : (call : QuicCall) → Decidable (r.Ready bodies call)
  | .recv => inferInstanceAs (Decidable (_ ∨ _))
  | .freeHandshake => inferInstanceAs (Decidable (_ = _))

def AllReady (bodies : List (List UInt8)) (r : QuicRun K) : List QuicCall → Prop
  | [] => True
  | call :: calls => r.Ready bodies call ∧ (r.step call).AllReady bodies calls

instance (bodies : List (List UInt8)) :
    (calls : List QuicCall) → (r : QuicRun K) → Decidable (r.AllReady bodies calls)
  | [], _ => isTrue trivial
  | call :: calls, r =>
    have := instDecidableAllReady bodies calls (r.step call)
    inferInstanceAs (Decidable (_ ∧ _))

end QuicRun

/-- Between two messages: nothing of the messages that are left has been read. -/
structure Idle (rest : List (List UInt8)) (l : Link K) : Prop where
  consumed : l.conn.recv.bufferIn.unread = []
  stream : inputBytes l.input = ticketStream rest
  allocatable : l.conn.recv.bufferIn.blob.isNull = true →
    l.conn.recv.bufferIn.growable = true ∧ l.conn.recv.bufferIn.tainted = false
  delivers : Delivers l.input

section

variable {bodies rest : List (List UInt8)} {l l₀ : Link K} {r : QuicRun K} {n : ℕ}

lemma Idle.arriving (h : Idle rest l) (hio : l.conn.handshake.io.writeCursor = 0)
    (hioRoom : l.conn.handshake.io.CanTake handshakeHeaderLength)
    (hroom : ∀ b bs, rest = b :: bs → l.conn.recv.bufferIn.CanTake b.length) : Arriving rest l := by
  have havail : l.conn.handshake.io.dataAvailable = 0 := by
    unfold dataAvailable
    omega
  have hun : l.conn.handshake.io.unread = [] := List.eq_nil_of_length_eq_zero ((unread_length _).trans havail)
  have hbuf : l.conn.recv.bufferIn.dataAvailable = 0 := by
    rw [← unread_length, h.consumed]
    rfl
  refine ⟨?_, ?_, ?_, fun _ => h.consumed, ?_, fun b bs _ => ?_, fun b bs hb => ?_, h.allocatable, h.delivers⟩
  · have := l.conn.handshake.io.read_le_write
    omega
  · rw [havail]
    exact Nat.zero_le _
  · rw [havail]
    exact hioRoom
  · rw [hun, h.consumed]
    exact h.stream
  · rw [hbuf]
    exact Nat.zero_le _
  · rw [hbuf]
    exact hroom b bs hb

lemma Processed.idle {b : List UInt8} (h : Processed b rest l l') : Idle rest l' :=
  ⟨h.consumed, h.stream, fun hn => Bool.noConfusion (h.notNull.symm.trans hn), h.delivers⟩

/-- Emptying `conn->handshake.io` changes nothing else. -/
lemma frames_freeHandshakeIo :
    Frames (fun l : Link K => (l.conn.recv, l.conn.quicView, l.conn.trace, l.input)) freeHandshakeIo := by
  have honIo : ∀ f : StufferM Unit, Frames (fun l : Link K => (l.conn.recv, l.conn.quicView, l.conn.trace, l.input))
      (onPart ioPart f) := fun f => by
    unfold onPart
    refine .zoom (fun _ _ => ?_) f
    rfl
  exact .bind (honIo _) fun _ => .read fun _ => honIo _

/-- What holds after `n` calls for messages. -/
structure Delivered (bodies : List (List UInt8)) (l₀ : Link K) (n : ℕ) (r : QuicRun K) : Prop where
  client : QuicClient r.link.conn bodies
  failed : r.failed = false
  succeeded : r.succeeded ≤ bodies.length
  processed : r.link.conn.trace.postHandshake =
    l₀.conn.trace.postHandshake ++ (bodies.take r.succeeded).map (Prod.mk tlsServerNewSessionTicket)
  progress : n + blocks r.link.input ≤ r.succeeded + blocks l₀.input ∨ r.succeeded = bodies.length
  waiting : r.pending = true → Arriving (bodies.drop r.succeeded) r.link
  idle : r.pending = false → Idle (bodies.drop r.succeeded) r.link

lemma Delivered.arriving (h : Delivered bodies l₀ n r) (hready : r.Ready bodies .recv) :
    Arriving (bodies.drop r.succeeded) r.link := by
  cases hpending : r.pending with
  | true => exact h.waiting hpending
  | false =>
    obtain hno | ⟨hio, hioRoom, hroom⟩ := hready
    · exact Bool.noConfusion (hpending.symm.trans hno)
    · refine (h.idle hpending).arriving hio hioRoom fun b bs hb => hroom b ?_
      rw [← List.head?_drop, hb]
      rfl

lemma Delivered.recv (hlen : ∀ b ∈ bodies, b.length < maximumHandshakeMessageLength) (h : Delivered bodies l₀ n r)
    (hready : r.Ready bodies .recv) : Delivered bodies l₀ (n + 1) (r.step .recv) := by
  have hcall := wp_recvQuicPostHandshakeMessage h.client (h.arriving hready)
    (fun b hb => hlen b (List.mem_of_mem_drop hb)) (List.drop_subset _ _)
  unfold wp at hcall
  cases hrun : recvQuicPostHandshakeMessage.run r.link with
  | ok u l' =>
    rw [hrun] at hcall
    rw [QuicRun.step_recv_of_ok hrun]
    obtain ⟨b, bs, hdrop, hp⟩ := hcall
    have hlt : r.succeeded < bodies.length := by
      have hpos : 0 < (bodies.drop r.succeeded).length := by
        rw [hdrop]
        exact Nat.succ_pos _
      rw [List.length_drop] at hpos
      omega
    have hcons := List.drop_eq_getElem_cons hlt
    rw [hdrop] at hcons
    obtain ⟨hb, hbs⟩ := List.cons.inj hcons
    refine ⟨h.client.of_view hp.view, h.failed, hlt, ?_, ?_, fun hno => Bool.noConfusion hno, fun _ => ?_⟩
    · rw [hp.message, h.processed, List.take_add_one, List.getElem?_eq_getElem hlt, ← hb, List.append_assoc,
        Option.toList_some, List.map_append]
      rfl
    · have := h.progress
      dsimp only
      rw [hp.blocks]
      omega
    · show Idle (bodies.drop (r.succeeded + 1)) l'
      rw [← hbs]
      exact hp.idle
  | error e l' =>
    rw [hrun] at hcall
    obtain ⟨rfl, harr, hkept, hblocks⟩ := hcall
    rw [QuicRun.step_recv_of_blocked hrun]
    refine ⟨h.client.of_view hkept.1, h.failed, h.succeeded, hkept.2.trans h.processed, ?_, fun _ => harr,
      fun hno => Bool.noConfusion hno⟩
    rcases hblocks with hlt | hnil
    · rcases h.progress with hle | hall
      · refine .inl ?_
        dsimp only
        omega
      · exact .inr hall
    · exact .inr (h.succeeded.antisymm (List.drop_eq_nil_iff.mp hnil))

lemma Delivered.freeHandshake (h : Delivered bodies l₀ n r) (hready : r.Ready bodies .freeHandshake) :
    Delivered bodies l₀ n (r.step .freeHandshake) := by
  have hsame := finalState_of_wp (frames_freeHandshakeIo r.link)
  simp only [Prod.mk.injEq] at hsame
  obtain ⟨hrecv, hview, htrace, hinput⟩ := hsame
  have hidle := h.idle hready
  refine ⟨h.client.of_view hview, h.failed, h.succeeded, ?_, ?_, fun hno => ?_, fun _ => ⟨?_, ?_, ?_, ?_⟩⟩
  · exact (congrArg _ htrace).trans h.processed
  · show n + blocks (finalState freeHandshakeIo r.link).input ≤ _ ∨ _
    rw [hinput]
    exact h.progress
  · exact Bool.noConfusion (hno.symm.trans hready)
  all_goals unfold QuicRun.step; dsimp only
  · rw [hrecv]
    exact hidle.consumed
  · rw [hinput]
    exact hidle.stream
  · rw [hrecv]
    exact hidle.allocatable
  · rw [hinput]
    exact hidle.delivers

lemma Delivered.run (hlen : ∀ b ∈ bodies, b.length < maximumHandshakeMessageLength) (calls : List QuicCall) :
    ∀ {n : ℕ} {r : QuicRun K}, Delivered bodies l₀ n r → r.AllReady bodies calls →
      Delivered bodies l₀ (n + calls.count .recv) (r.run calls) := by
  induction calls with
  | nil => exact fun h _ => h
  | cons call calls ih =>
    intro n r h hready
    cases call with
    | recv =>
      have := ih (h.recv hlen hready.1) hready.2
      rw [Nat.add_assoc, Nat.add_comm 1] at this
      rwa [List.count_cons_self]
    | freeHandshake =>
      rw [List.count_cons_of_ne (by decide)]
      exact ih (h.freeHandshake hready.1) hready.2

end

/-! ### Every message once -/

/-- **The messages are processed as they were sent**, one by each call that succeeds, if each call for another
message finds `conn->handshake.io` empty and room for the message: no call fails, and with as many calls as there are
messages and waits of the transport all are processed. -/
theorem quic_tickets_processed_once (bodies : List (List UInt8)) (l : Link K) (calls : List QuicCall)
    (hclient : QuicClient l.conn bodies) (hlen : ∀ b ∈ bodies, b.length < maximumHandshakeMessageLength)
    (hidle : Idle bodies l) (hready : QuicRun.AllReady bodies { link := l } calls) :
    let r := QuicRun.run { link := l } calls
    r.failed = false ∧ r.link.conn.trace.postHandshake =
        l.conn.trace.postHandshake ++ (bodies.take r.succeeded).map (Prod.mk tlsServerNewSessionTicket) ∧
      (bodies.length + blocks l.input ≤ calls.count .recv → r.succeeded = bodies.length) := by
  have hstart : Delivered bodies l 0 { link := l } :=
    ⟨hclient, rfl, Nat.zero_le _, (List.append_nil _).symm, .inl (by simp), fun hno => Bool.noConfusion hno,
      fun _ => hidle⟩
  have h := hstart.run hlen calls hready
  refine ⟨h.failed, h.processed, fun hmany => ?_⟩
  have hle := h.succeeded
  rcases h.progress with hprogress | hall
  · omega
  · exact hall

/-- A client over QUIC after the handshake, to which the transport brings `input`. -/
def quicClient (input : List RecvResult) : Link Unit where
  conn :=
    { mode := .client
      quicEnabled := true
      actualProtocolVersion := tls13
      crypto :=
        { initial := CryptoParameters.new ()
          secure := ⟨copyingCipherSuite, CryptoSide.new (), CryptoSide.new ()⟩ }
      recv := { bufferIn := finalState (growableAlloc .ample 0) Stuffer.zero }
      handshake := { io := finalState (growableAlloc .ample 0) Stuffer.zero } }
  input := input

/-- Two tickets, cut inside the header of the first and inside the body of the second. -/
theorem quic_tickets_processed_once_cut :
    (QuicRun.run { link := quicClient [.received 4 [0], .blocked, .received 0 [4, 1, 2, 3, 4, 4, 0, 0, 4, 5], .blocked,
      .received 6 [7, 8]] } [.recv, .recv, .freeHandshake, .recv, .recv]).link.conn.trace.postHandshake =
        [(4, [1, 2, 3, 4]), (4, [5, 6, 7, 8])] := by
  have h := quic_tickets_processed_once [[1, 2, 3, 4], [5, 6, 7, 8]] (quicClient [.received 4 [0], .blocked,
    .received 0 [4, 1, 2, 3, 4, 4, 0, 0, 4, 5], .blocked, .received 6 [7, 8]])
    [.recv, .recv, .freeHandshake, .recv, .recv]
    ⟨rfl, le_refl _, rfl, fun _ => rfl, fun _ _ h => Bool.noConfusion h⟩ (by decide)
    ⟨rfl, by decide, fun _ => ⟨rfl, rfl⟩, by unfold Delivers; decide⟩ (by decide +kernel)
  rw [h.2.1, h.2.2 (by decide)]
  rfl

/-- **The header is used again.** The second call takes the header of the second message for its body. -/
theorem quic_header_read_as_body :
    inputBytes [.received 4 [0, 0, 4, 1, 2, 3, 4, 4, 0, 0, 4, 5, 6, 7, 8]] =
        ticketStream [[1, 2, 3, 4], [5, 6, 7, 8]] ∧
      let r := QuicRun.run { link := quicClient [.received 4 [0, 0, 4, 1, 2, 3, 4, 4, 0, 0, 4, 5, 6, 7, 8]] }
        [.recv, .recv]
      r.failed = false ∧ r.succeeded = 2 ∧
        r.link.conn.trace.postHandshake = [(4, [1, 2, 3, 4]), (4, [4, 0, 0, 4])] := by
  decide +kernel

end S2nTls
