import S2nTls.Tls.InputSpec
import S2nTls.Tls.PostHandshakeSpec

/-!
Messages after the handshake over QUIC (`tls/s2n_quic_support.c`).

QUIC protects what it carries itself, so that messages arrive without records: the header of a message is read into
`conn->handshake.io` and its body into `conn->buffer_in`. A call that has to wait leaves what has arrived in the two
stuffers, and the next call goes on from there. Nothing removes the header once its message has been processed: the
next call takes it for that of the next message. Only if `conn->handshake.io` has been emptied in between, and there
is room in `conn->buffer_in`, the messages are processed as they were sent.
-/

namespace S2nTls

open Lib Stuffer

variable {K : Type}
variable {l' : Link K} {bs b : List UInt8}

/-! ### The code -/

def expectedQuicMessageSize : UInt32 := 8087

lemma maximumHandshakeMessageLength_lt {n : ℕ} (h : n < maximumHandshakeMessageLength) : n < 2 ^ 32 :=
  h.trans (by decide)

/-- The body of a message whose header is complete. -/
def quicReadBody (messageLen : ℕ) (h : messageLen < maximumHandshakeMessageLength) : LinkM K Unit := do
  readInBytes bufferInPart messageLen
  ensure ((← get).conn.recv.bufferIn.dataAvailable = messageLen) .safety
  recvInInit messageLen messageLen (maximumHandshakeMessageLength_lt h)

def quicReadHandshakeMessage : LinkM K HandshakeMsg := do
  let l ← get
  ensure (l.conn.recv.recvBuffering = false) .invalidState
  onPart bufferInPart (resizeIfEmpty l.conn.env.malloc expectedQuicMessageSize)
  readInBytes ioPart handshakeHeaderLength
  let (messageType, messageLen) ← onPart ioPart handshakeParseHeader
  onPart ioPart reread
  if h : messageLen < maximumHandshakeMessageLength then
    quicReadBody messageLen h
    return messageType
  else throw .badMessage

def recvQuicPostHandshakeMessage : LinkM K Unit := do
  let messageType ← quicReadHandshakeMessage
  ensure (messageType = tlsServerNewSessionTicket) .unsupportedWithQuic
  let body := (← get).conn.recv.inStuffer.unread
  onLinkConn (postHandshakeProcess messageType body)

/-- What `s2n_connection_free_handshake` does to `conn->handshake.io`. -/
def freeHandshakeIo : LinkM K Unit := do
  onPart ioPart wipe
  onPart ioPart (resize (← get).conn.env.malloc 0)

/-! ### One message -/

/-- The bytes of NewSessionTicket messages. -/
def ticketMessage (body : List UInt8) : List UInt8 := encodeMessage (tlsServerNewSessionTicket, body)

def ticketStream (bodies : List (List UInt8)) : List UInt8 := bodies.flatMap ticketMessage

lemma ticketMessage_eq (body : List UInt8) :
    ticketMessage body = ([tlsServerNewSessionTicket] ++ beBytes 3 body.length) ++ body := rfl

lemma length_header (body : List UInt8) :
    ([tlsServerNewSessionTicket] ++ beBytes 3 body.length).length = handshakeHeaderLength := by
  simp [handshakeHeaderLength]

/-- What the calls need of a connection: it is a client of TLS1.3 that takes the tickets, with enough memory. -/
structure QuicClient (c : Conn K) (bodies : List (List UInt8)) : Prop where
  mode : c.mode = .client
  version : tls13 ≤ c.actualProtocolVersion
  buffering : c.recv.recvBuffering = false
  malloc : ∀ k, c.env.malloc k = true
  accepts : ∀ b ∈ bodies, c.config.useTickets = true → c.env.ticketValid b = true

/-- What the calls leave as it is. -/
def Conn.quicView (c : Conn K) : Mode × ℕ × Bool × Config × Env :=
  (c.mode, c.actualProtocolVersion, c.recv.recvBuffering, c.config, c.env)

lemma QuicClient.of_view {c c' : Conn K} {bodies : List (List UInt8)} (h : QuicClient c bodies)
    (hview : c'.quicView = c.quicView) : QuicClient c' bodies := by
  simp only [Conn.quicView, Prod.mk.injEq] at hview
  obtain ⟨hmode, hversion, hbuffering, hconfig, henv⟩ := hview
  exact ⟨hmode ▸ h.mode, hversion ▸ h.version, hbuffering ▸ h.buffering, henv ▸ h.malloc,
    by rw [hconfig, henv]; exact h.accepts⟩

/-- The messages `rest` are still to be processed, and some bytes of the first may have arrived: its header in
`conn->handshake.io`, and after it its body in `conn->buffer_in`. -/
structure Arriving (rest : List (List UInt8)) (l : Link K) : Prop where
  ioRead : l.conn.handshake.io.readCursor = 0
  ioShort : l.conn.handshake.io.dataAvailable ≤ handshakeHeaderLength
  ioRoom : l.conn.handshake.io.CanTake (handshakeHeaderLength - l.conn.handshake.io.dataAvailable)
  headerFirst : l.conn.handshake.io.dataAvailable < handshakeHeaderLength → l.conn.recv.bufferIn.unread = []
  stream : l.conn.handshake.io.unread ++ l.conn.recv.bufferIn.unread ++ inputBytes l.input = ticketStream rest
  bodyShort : ∀ b bs, rest = b :: bs → l.conn.recv.bufferIn.dataAvailable ≤ b.length
  bodyRoom : ∀ b bs, rest = b :: bs →
    l.conn.recv.bufferIn.CanTake (b.length - l.conn.recv.bufferIn.dataAvailable)
  allocatable : l.conn.recv.bufferIn.blob.isNull = true →
    l.conn.recv.bufferIn.growable = true ∧ l.conn.recv.bufferIn.tainted = false
  delivers : Delivers l.input

variable {bodies rest : List (List UInt8)} {l : Link K}

/-- Other memory for `conn->buffer_in`. -/
lemma Arriving.extend (h : Arriving rest l) (hconn : l'.conn = bufferInPart.put l'.conn.recv.bufferIn l.conn)
    (hinput : l'.input = l.input) (hext : Extends l.conn.recv.bufferIn l'.conn.recv.bufferIn)
    (hroom : ∀ n < maximumHandshakeMessageLength, l.conn.recv.bufferIn.CanTake n → l'.conn.recv.bufferIn.CanTake n)
    (hnull : l'.conn.recv.bufferIn.blob.isNull = false)
    (hlen : ∀ b ∈ rest, b.length < maximumHandshakeMessageLength) : Arriving rest l' := by
  have hio : l'.conn.handshake.io = l.conn.handshake.io := by rw [hconn]; rfl
  have hun : l'.conn.recv.bufferIn.unread = l.conn.recv.bufferIn.unread := hext.unread_eq
  have havail : l'.conn.recv.bufferIn.dataAvailable = l.conn.recv.bufferIn.dataAvailable := by
    rw [← unread_length, hun, unread_length]
  refine ⟨hio ▸ h.ioRead, hio ▸ h.ioShort, hio ▸ h.ioRoom, ?_, ?_, ?_, ?_, ?_, hinput ▸ h.delivers⟩
  · rw [hio, hun]
    exact h.headerFirst
  · rw [hio, hun, hinput]
    exact h.stream
  · rw [havail]
    exact h.bodyShort
  · intro b bs hb
    have hlt : b.length < maximumHandshakeMessageLength := hlen b (hb ▸ List.mem_cons_self)
    rw [havail]
    exact hroom _ ((Nat.sub_le _ _).trans_lt hlt) (h.bodyRoom b bs hb)
  · rw [hnull]
    exact fun h => Bool.noConfusion h

/-- `conn->buffer_in` gets memory if it has none. -/
lemma wp_resizeIfEmpty_arriving (hc : QuicClient l.conn bodies) (h : Arriving rest l)
    (hlen : ∀ b ∈ rest, b.length < maximumHandshakeMessageLength) :
    wp (onPart bufferInPart (resizeIfEmpty l.conn.env.malloc expectedQuicMessageSize))
      (fun _ l' => Arriving rest l' ∧ l'.conn.recv.bufferIn.blob.isNull = false ∧
        l'.conn = bufferInPart.put l'.conn.recv.bufferIn l.conn ∧ l'.input = l.input) noError l := by
  rw [wp_onPart]
  refine wp_mono_ok (fun _ t ht => ?_) (wp_resizeIfEmpty hc.malloc (by decide) h.allocatable)
  obtain ⟨hext, hnull, hsame⟩ := ht
  refine ⟨h.extend rfl rfl hext (fun n hn hroom => ?_) hnull hlen, hnull, rfl, rfl⟩
  rcases hsame with rfl | ⟨hgrow, htaint, hsize⟩
  · exact hroom
  · refine .inr ⟨hgrow, htaint, ?_⟩
    show t.blob.size + _ < _
    rw [hsize, show expectedQuicMessageSize.toNat = 8087 from rfl]
    unfold minGrowth
    unfold maximumHandshakeMessageLength at hn
    omega

/-- A header that is not complete cannot be all that is left of some messages. -/
lemma Arriving.eq_nil (h : Arriving rest l) (hshort : l.conn.handshake.io.dataAvailable < handshakeHeaderLength)
    (hinput : l.input = []) : rest = [] := by
  cases rest with
  | nil => rfl
  | cons b bs =>
    have hlen := congrArg List.length h.stream
    rw [h.headerFirst hshort, hinput] at hlen
    simp only [ticketStream, List.flatMap_cons, ticketMessage_eq, List.length_append, inputBytes,
      List.flatMap_nil, List.length_nil, unread_length] at hlen
    have := length_header b
    simp only [List.length_append] at this
    omega

lemma Arriving.takesHeader (h : Arriving rest l) (htakes : Takes ioPart l bs l')
    (hmissing : bs ≠ [] → l.conn.handshake.io.dataAvailable < handshakeHeaderLength)
    (hshort : l'.conn.handshake.io.dataAvailable ≤ handshakeHeaderLength)
    (hroom : l'.conn.handshake.io.CanTake (handshakeHeaderLength - l'.conn.handshake.io.dataAvailable)) :
    Arriving rest l' := by
  have hfilled : Filled l.conn.handshake.io bs l'.conn.handshake.io := htakes.get ioPart_lawful
  obtain ⟨t, hconn, -⟩ := htakes.filled
  have hbuf : l'.conn.recv.bufferIn = l.conn.recv.bufferIn := by rw [hconn]; rfl
  refine ⟨hfilled.readCursor.trans h.ioRead, hshort, hroom, fun hlt => ?_, ?_, hbuf ▸ h.bodyShort, hbuf ▸ h.bodyRoom,
    hbuf ▸ h.allocatable, htakes.delivers⟩
  · rw [hbuf]
    have havail := hfilled.dataAvailable
    exact h.headerFirst (by omega)
  · rw [← h.stream, hfilled.unread, hbuf, htakes.bytes]
    by_cases hbs : bs = []
    · simp [hbs]
    · simp [h.headerFirst (hmissing hbs)]

lemma wp_readHeader_arriving (hc : QuicClient l.conn bodies) (h : Arriving rest l) :
    wp (readInBytes ioPart handshakeHeaderLength)
      (fun _ l' => Arriving rest l' ∧ l'.conn.handshake.io.dataAvailable = handshakeHeaderLength ∧
        l'.conn = ioPart.put l'.conn.handshake.io l.conn ∧ blocks l'.input = blocks l.input)
      (fun e l' => e = .ioBlocked ∧ Arriving rest l' ∧ l'.conn = ioPart.put l'.conn.handshake.io l.conn ∧
        (blocks l'.input < blocks l.input ∨ rest = [])) l := by
  have hput : ∀ {bs : List UInt8} {l' : Link K}, Takes ioPart l bs l' →
      l'.conn = ioPart.put l'.conn.handshake.io l.conn := by
    intro bs l' htakes
    obtain ⟨t, hconn, -⟩ := htakes.filled
    have ht : l'.conn.handshake.io = t := by rw [hconn]; rfl
    rw [ht]
    exact hconn
  refine wp_mono (fun _ l' hl' => ?_) (fun e l' hl' => ?_)
    (wp_readInBytes ioPart_lawful hc.malloc hc.buffering h.ioRoom h.delivers)
  · obtain ⟨bs, htakes, hlen, hblocks⟩ := hl'
    have hlen' : bs.length = handshakeHeaderLength - l.conn.handshake.io.dataAvailable := hlen
    have havail : l'.conn.handshake.io.dataAvailable = handshakeHeaderLength := by
      have := (htakes.get ioPart_lawful).dataAvailable
      have hle := h.ioShort
      exact this.trans (by rw [hlen]; exact Nat.add_sub_cancel' hle)
    refine ⟨h.takesHeader htakes (fun hne => ?_) havail.le (.inl (by omega)), havail, hput htakes, hblocks⟩
    have := List.length_pos_iff.mpr hne
    omega
  · obtain ⟨rfl, ⟨bs, htakes⟩, hshort, hroom, hwaits⟩ := hl'
    have hshort' : l'.conn.handshake.io.dataAvailable < handshakeHeaderLength := hshort
    have havail : l'.conn.handshake.io.dataAvailable = l.conn.handshake.io.dataAvailable + bs.length :=
      (htakes.get ioPart_lawful).dataAvailable
    have harriving : Arriving rest l' :=
      h.takesHeader htakes (fun _ => by omega) hshort'.le (.inl hroom)
    refine ⟨rfl, harriving, hput htakes, hwaits.imp_right fun hinput => ?_⟩
    exact harriving.eq_nil hshort' hinput

lemma Arriving.header (h : Arriving rest l) (hfull : l.conn.handshake.io.dataAvailable = handshakeHeaderLength) :
    ∃ b bs, rest = b :: bs ∧ l.conn.handshake.io.unread = [tlsServerNewSessionTicket] ++ beBytes 3 b.length ∧
      l.conn.recv.bufferIn.unread ++ inputBytes l.input = b ++ ticketStream bs := by
  have hlen : l.conn.handshake.io.unread.length = handshakeHeaderLength := (unread_length _).trans hfull
  cases rest with
  | nil =>
    have hnil : l.conn.handshake.io.unread = [] := (List.append_eq_nil_iff.mp (List.append_eq_nil_iff.mp h.stream).1).1
    rw [hnil] at hlen
    exact absurd hlen (by decide)
  | cons b bs =>
    have hstream := h.stream
    simp only [ticketStream, List.flatMap_cons, ticketMessage_eq, List.append_assoc] at hstream
    rw [← List.append_assoc [tlsServerNewSessionTicket]] at hstream
    obtain ⟨hheader, hbody⟩ := List.append_inj hstream (hlen.trans (length_header b).symm)
    exact ⟨b, bs, rfl, hheader, hbody⟩

lemma Arriving.putIo {t : Stuffer} (h : Arriving rest l)
    (hfull : l.conn.handshake.io.dataAvailable = handshakeHeaderLength) (hread : t.readCursor = 0)
    (hun : t.unread = l.conn.handshake.io.unread) (hconn : l'.conn = ioPart.put t l.conn)
    (hinput : l'.input = l.input) :
    Arriving rest l' ∧ l'.conn.handshake.io.dataAvailable = handshakeHeaderLength := by
  have hio : l'.conn.handshake.io = t := by rw [hconn]; rfl
  have hbuf : l'.conn.recv.bufferIn = l.conn.recv.bufferIn := by rw [hconn]; rfl
  have havail : t.dataAvailable = handshakeHeaderLength := by rw [← unread_length, hun, unread_length, hfull]
  refine ⟨⟨hio ▸ hread, ?_, .inl ?_, fun hlt => ?_, ?_, hbuf ▸ h.bodyShort, hbuf ▸ h.bodyRoom, hbuf ▸ h.allocatable,
    hinput ▸ h.delivers⟩, hio ▸ havail⟩
  · rw [hio, havail]
  · rw [hio, havail, Nat.sub_self]
    exact Nat.zero_le _
  · rw [hio, havail] at hlt
    exact absurd hlt (lt_irrefl _)
  · rw [hio, hun, hbuf, hinput]
    exact h.stream

lemma header_values (hlt : b.length < maximumHandshakeMessageLength) {w : List UInt8}
    (hw : w = [tlsServerNewSessionTicket] ++ beBytes 3 b.length) :
    (w.headD 0, handshakeFraming.bodyLength (w.take handshakeHeaderLength)) =
      (tlsServerNewSessionTicket, b.length) := by
  rw [hw, ← length_header b, List.take_length]
  exact congrArg₂ Prod.mk rfl ((beNat_beBytes 3 b.length).trans (Nat.mod_eq_of_lt (hlt.trans (by decide))))

lemma Arriving.takesBody {rest : List (List UInt8)} (h : Arriving (b :: rest) l)
    (hfull : l.conn.handshake.io.dataAvailable = handshakeHeaderLength) (htakes : Takes bufferInPart l bs l')
    (hshort : l'.conn.recv.bufferIn.dataAvailable ≤ b.length)
    (hroom : l'.conn.recv.bufferIn.CanTake (b.length - l'.conn.recv.bufferIn.dataAvailable))
    (hnull : l.conn.recv.bufferIn.blob.isNull = false) :
    Arriving (b :: rest) l' ∧ l'.conn.handshake.io = l.conn.handshake.io := by
  have hfilled : Filled l.conn.recv.bufferIn bs l'.conn.recv.bufferIn := htakes.get bufferInPart_lawful
  obtain ⟨t, hconn, -⟩ := htakes.filled
  have hio : l'.conn.handshake.io = l.conn.handshake.io := by rw [hconn]; rfl
  refine ⟨⟨hio ▸ h.ioRead, hio ▸ h.ioShort, hio ▸ h.ioRoom, fun hlt => ?_, ?_, ?_, ?_, fun hn => ?_,
    htakes.delivers⟩, hio⟩
  · rw [hio, hfull] at hlt
    exact absurd hlt (lt_irrefl _)
  · rw [← h.stream, hfilled.unread, hio, htakes.bytes]
    simp
  · rintro b' rest' ⟨⟩
    exact hshort
  · rintro b' rest' ⟨⟩
    exact hroom
  · rw [hfilled.isNull hnull] at hn
    exact Bool.noConfusion hn

/-- What no call changes but to note a message. -/
def KeptQuic (l l' : Link K) : Prop :=
  l'.conn.quicView = l.conn.quicView ∧ l'.conn.trace.postHandshake = l.conn.trace.postHandshake

lemma KeptQuic.trans {l l'' : Link K} (h : KeptQuic l l') (h' : KeptQuic l' l'') : KeptQuic l l'' :=
  ⟨h'.1.trans h.1, h'.2.trans h.2⟩

lemma Takes.kept (h : Takes bufferInPart l bs l') : KeptQuic l l' := by
  obtain ⟨t, hconn, -⟩ := h.filled
  rw [KeptQuic, hconn]
  exact ⟨rfl, rfl⟩

/-- The body of a message has arrived: `conn->in` points to it, and only the other messages are left. -/
structure Collected (b : List UInt8) (rest : List (List UInt8)) (l : Link K) : Prop where
  body : l.conn.recv.inStuffer.unread = b
  consumed : l.conn.recv.bufferIn.unread = []
  notNull : l.conn.recv.bufferIn.blob.isNull = false
  stream : inputBytes l.input = ticketStream rest
  delivers : Delivers l.input

lemma wp_quicReadBody (hc : QuicClient l.conn bodies) (h : Arriving (b :: rest) l)
    (hfull : l.conn.handshake.io.dataAvailable = handshakeHeaderLength)
    (hnull : l.conn.recv.bufferIn.blob.isNull = false) (hlt : b.length < maximumHandshakeMessageLength) :
    wp (quicReadBody b.length hlt)
      (fun _ l' => Collected b rest l' ∧ KeptQuic l l' ∧ blocks l'.input = blocks l.input)
      (fun e l' => e = .ioBlocked ∧ Arriving (b :: rest) l' ∧ KeptQuic l l' ∧ blocks l'.input < blocks l.input) l := by
  obtain ⟨b', rest', heq, -, hbytes⟩ := h.header hfull
  obtain ⟨rfl, rfl⟩ := List.cons.inj heq
  refine wp_seq (wp_readInBytes bufferInPart_lawful hc.malloc hc.buffering (h.bodyRoom b rest rfl) h.delivers)
    (fun _ l₁ h₁ => ?_) fun e l₁ h₁ => ?_
  · obtain ⟨bs, htakes, hlen, hblocks⟩ := h₁
    have hfilled : Filled l.conn.recv.bufferIn bs l₁.conn.recv.bufferIn := htakes.get bufferInPart_lawful
    have hlen' : bs.length = b.length - l.conn.recv.bufferIn.dataAvailable := hlen
    have hshort := h.bodyShort b rest rfl
    have havail : l₁.conn.recv.bufferIn.dataAvailable = b.length := by
      rw [hfilled.dataAvailable, hlen']
      omega
    -- The bytes in the stuffer are as many as the body has, and the stream begins with the body.
    have hsplit : l₁.conn.recv.bufferIn.unread ++ inputBytes l₁.input = b ++ ticketStream rest := by
      rw [← hbytes, hfilled.unread, htakes.bytes, List.append_assoc]
    obtain ⟨hbody, hstream⟩ := List.append_inj hsplit ((unread_length _).trans havail)
    rw [wp_read]
    refine wp_ensured havail ?_
    refine wp_sure (fun _ l₂ h₂ => ?_)
      (wp_recvInInit _ le_rfl (by rw [Nat.sub_self]; exact Nat.zero_le _) havail.ge (hfilled.isNull hnull))
    obtain ⟨i, hconn⟩ := h₂.conn
    have hbuf : l₂.conn.recv.bufferIn = (l₁.conn.recv.bufferIn.advanceRead b.length havail.ge).taint := by rw [hconn]
    refine ⟨⟨?_, ?_, ?_, ?_, ?_⟩, htakes.kept.trans ?_, ?_⟩
    · rw [h₂.unread, hbody, List.take_length]
    · rw [hbuf, unread_taint, unread_advanceRead, hbody, List.drop_length]
    · rw [hbuf]
      exact hfilled.isNull hnull
    · rw [h₂.input]
      exact hstream
    · rw [h₂.input]
      exact htakes.delivers
    · rw [KeptQuic, hconn]
      exact ⟨rfl, rfl⟩
    · rw [h₂.input]
      exact hblocks
  · obtain ⟨rfl, ⟨bs, htakes⟩, hshort, hroom, hwaits⟩ := h₁
    have hshort' : l₁.conn.recv.bufferIn.dataAvailable < b.length := hshort
    obtain ⟨harriving, hio⟩ := h.takesBody hfull htakes hshort'.le (.inl hroom) hnull
    refine ⟨rfl, harriving, htakes.kept, hwaits.resolve_right fun hinput => ?_⟩
    obtain ⟨b', rest', heq, -, hbytes'⟩ := harriving.header (hio ▸ hfull)
    obtain ⟨rfl, rfl⟩ := List.cons.inj heq
    have hlen := congrArg List.length hbytes'
    rw [hinput] at hlen
    simp only [inputBytes, List.flatMap_nil, List.append_nil, unread_length, List.length_append] at hlen
    omega

lemma wp_process_ticket {c : Conn K} (hc : QuicClient c bodies) (hb : b ∈ bodies) :
    wp (postHandshakeProcess tlsServerNewSessionTicket b)
      (fun _ c' => c' = { c with trace := { c.trace with
        postHandshake := c.trace.postHandshake ++ [(tlsServerNewSessionTicket, b)] } }) noError c := by
  unfold postHandshakeProcess
  rw [wp_update, if_neg (by decide), if_pos rfl]
  unfold tls13ServerNstRecv
  rw [wp_read]
  refine wp_ensured hc.version ?_
  refine wp_ensured hc.mode ?_
  rw [wp_when]
  refine ⟨fun huse => ?_, fun _ => rfl⟩
  rw [wp_ensure]
  exact ⟨fun _ => rfl, fun hno => hno (hc.accepts b hb huse)⟩

/-- What a call that succeeds has done: the first message was processed, and only the others are left. -/
structure Processed (b : List UInt8) (rest : List (List UInt8)) (l l' : Link K) : Prop where
  message : l'.conn.trace.postHandshake = l.conn.trace.postHandshake ++ [(tlsServerNewSessionTicket, b)]
  view : l'.conn.quicView = l.conn.quicView
  consumed : l'.conn.recv.bufferIn.unread = []
  notNull : l'.conn.recv.bufferIn.blob.isNull = false
  stream : inputBytes l'.input = ticketStream rest
  delivers : Delivers l'.input
  blocks : blocks l'.input = blocks l.input

lemma wp_quicReadHandshakeMessage (hc : QuicClient l.conn bodies) (h : Arriving rest l)
    (hlen : ∀ b ∈ rest, b.length < maximumHandshakeMessageLength) :
    wp quicReadHandshakeMessage
      (fun messageType l' => messageType = tlsServerNewSessionTicket ∧ ∃ b bs, rest = b :: bs ∧ Collected b bs l' ∧
        KeptQuic l l' ∧ blocks l'.input = blocks l.input)
      (fun e l' => e = .ioBlocked ∧ Arriving rest l' ∧ KeptQuic l l' ∧
        (blocks l'.input < blocks l.input ∨ rest = [])) l := by
  unfold quicReadHandshakeMessage
  rw [wp_read]
  refine wp_ensured hc.buffering ?_
  refine wp_sure_then (wp_resizeIfEmpty_arriving hc h hlen) fun _ l₁ h₁ => ?_
  obtain ⟨harr₁, hnull₁, hconn₁, hinput₁⟩ := h₁
  have hkept₁ : KeptQuic l l₁ := by
    rw [KeptQuic, hconn₁]
    exact ⟨rfl, rfl⟩
  refine wp_seq (wp_readHeader_arriving (hc.of_view hkept₁.1) harr₁) (fun _ l₂ h₂ => ?_) fun e l₂ h₂ => ?_
  · obtain ⟨harr₂, hfull₂, hconn₂, hblocks₂⟩ := h₂
    have hkept₂ : KeptQuic l l₂ := hkept₁.trans (by rw [KeptQuic, hconn₂]; exact ⟨rfl, rfl⟩)
    obtain ⟨b, bs, rfl, hheader, -⟩ := harr₂.header hfull₂
    have hlt : b.length < maximumHandshakeMessageLength := hlen b List.mem_cons_self
    rw [wp_bind, wp_onPart]
    refine wp_sure (fun values t ht => ?_) (wp_handshakeParseHeader harr₂.ioRead hfull₂.ge)
    obtain ⟨hvalues, hwritten, -, -⟩ := ht
    rw [show values = _ from hvalues.trans (header_values hlt ((unread_eq_written harr₂.ioRead).symm.trans hheader))]
    dsimp only
    rw [wp_bind, wp_onPart, reread, wp_modify, dif_pos hlt]
    -- The header stays where it is.
    let t₃ : Stuffer := { t with readCursor := 0, read_le_write := Nat.zero_le _ }
    have hun₃ : t₃.unread = l₂.conn.handshake.io.unread := by
      rw [unread_eq_written rfl, unread_eq_written harr₂.ioRead]
      exact hwritten
    obtain ⟨harr₃, hfull₃⟩ : Arriving (b :: bs) (ioPart.set t₃ (ioPart.set t l₂)) ∧ _ :=
      harr₂.putIo hfull₂ rfl hun₃ rfl rfl
    have hnull₃ : l₂.conn.recv.bufferIn.blob.isNull = false := by
      rw [hconn₂]
      exact hnull₁
    refine wp_seq (wp_quicReadBody (by exact hc.of_view hkept₂.1) harr₃ hfull₃ hnull₃ hlt) (fun _ l₄ h₄ => ?_)
      fun e l₄ h₄ => ?_
    · obtain ⟨hcollected, hkept, hblocks⟩ := h₄
      exact ⟨rfl, b, bs, rfl, hcollected, hkept₂.trans hkept, hblocks.trans (hblocks₂.trans (congrArg blocks hinput₁))⟩
    · obtain ⟨he, harr₄, hkept, hblocks⟩ := h₄
      refine ⟨he, harr₄, hkept₂.trans hkept, .inl (hblocks.trans_le ?_)⟩
      exact (hblocks₂.trans (congrArg blocks hinput₁)).le
  · obtain ⟨he, harr₂, hconn₂, hblocks₂⟩ := h₂
    have hkept₂ : KeptQuic l l₂ := hkept₁.trans (by rw [KeptQuic, hconn₂]; exact ⟨rfl, rfl⟩)
    rw [hinput₁] at hblocks₂
    exact ⟨he, harr₂, hkept₂, hblocks₂⟩

lemma wp_recvQuicPostHandshakeMessage (hc : QuicClient l.conn bodies) (h : Arriving rest l)
    (hlen : ∀ b ∈ rest, b.length < maximumHandshakeMessageLength) (hsub : rest ⊆ bodies) :
    wp recvQuicPostHandshakeMessage (fun _ l' => ∃ b bs, rest = b :: bs ∧ Processed b bs l l')
      (fun e l' => e = .ioBlocked ∧ Arriving rest l' ∧ KeptQuic l l' ∧
        (blocks l'.input < blocks l.input ∨ rest = [])) l := by
  refine wp_then (wp_quicReadHandshakeMessage hc h hlen) fun messageType l₁ h₁ => ?_
  obtain ⟨rfl, b, bs, rfl, hcollected, hkept, hblocks⟩ := h₁
  refine wp_ensured rfl ?_
  rw [wp_read, hcollected.body, onLinkConn, wp_zoom]
  refine wp_sure (fun _ c' hc' => ?_)
    (wp_process_ticket (hc.of_view hkept.1) (hsub List.mem_cons_self))
  subst hc'
  exact ⟨b, bs, rfl, ⟨by rw [← hkept.2], hkept.1, hcollected.consumed, hcollected.notNull, hcollected.stream,
    hcollected.delivers, hblocks⟩⟩

end S2nTls
