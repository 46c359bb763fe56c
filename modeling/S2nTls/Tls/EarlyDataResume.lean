import S2nTls.Tls.ResumeSpec

/-!
Early data with the PSK of a session (`s2n_early_data_validate`).

A server takes early data if version, cipher suite and application protocol are those of the PSK. The protocol of
an external PSK has a 0 at its end, and that is what is compared: the PSK's protocol has to be longer by one byte.
Session state keeps the protocol without the 0. So it is compared without its last byte: the protocol of the
session is refused, and the one that lacks its last byte is taken. Without a protocol there is nothing to compare.
-/

namespace S2nTls

open Lib Stuffer

def earlyDataValidate : EStateM Err ResumeConn Unit := do
  let c ← get
  match c.chosenPsk with
  | none => throw .null
  | some psk =>
    ensure (c.chosenPskWireIndex = 0) .safety
    ensure (psk.earlyDataConfig.maxEarlyDataSize > 0) .safety
    ensure (psk.earlyDataConfig.protocolVersion = c.getProtocolVersion) .safety
    ensure (psk.earlyDataConfig.cipherSuite = some c.cipherSuite) .safety
    let appProtocol := c.applicationProtocol.string
    when (appProtocol.length > 0 ∨ psk.earlyDataConfig.applicationProtocol.length > 0) do
      ensure (psk.earlyDataConfig.applicationProtocol.length = appProtocol.length + 1) .safety
      ensure (psk.earlyDataConfig.applicationProtocol.take appProtocol.length = appProtocol) .safety

def ResumeConn.earlyDataIsValid (c : ResumeConn) : Bool := succeeds earlyDataValidate c

/-- A ticket is used: the connection of `s` writes its state, that of `r` reads it, and `later` has chosen the PSK as
the first one that was offered, with the version and the cipher suite of the state. -/
structure TicketUsed (malloc : ℕ → Bool) (suites : CipherSuites) (identity : Blob) (s s' r r' : Resuming)
    (later : ResumeConn) : Prop where
  version : s.conn.actualProtocolVersion.1 = tls13
  suite : s.conn.cipherSuite ∈ suites.all
  max_pos : s.conn.earlyDataServerMaxSize > 0
  empty : s.state.unread = []
  written : (tls13SerializeResumptionState malloc).run s = .ok () s'
  /-- `s2n_deserialize_resumption_state` has read the format -/
  handed : s'.state.unread = beBytes 1 serializedFormatTls13V1 ++ r.state.unread
  mode : r.conn.mode = s.conn.mode
  read : (tls13DeserializeSessionState suites identity).run r = .ok () r'
  chosen : ∃ psk ∈ r'.conn.pskList, later.chosenPsk = some psk
  wireIndex : later.chosenPskWireIndex = 0
  version_eq : later.actualProtocolVersion = s.conn.actualProtocolVersion
  suite_eq : later.cipherSuite = s.conn.cipherSuite

variable {malloc : ℕ → Bool} {suites : CipherSuites} {identity : Blob} {s s' r r' : Resuming} {later : ResumeConn}

lemma exists_state_of_written (hempty : s.state.unread = [])
    (h : (tls13SerializeResumptionState malloc).run s = .ok () s') :
    ∃ now, s'.state.unread = beBytes 1 serializedFormatTls13V1 ++ (s.conn.ticked.sessionState now).encode := by
  have hwp : wp (tls13SerializeResumptionState malloc) (fun _ s' => ∃ now, s'.state.unread =
      beBytes 1 serializedFormatTls13V1 ++ (s.conn.ticked.sessionState now).encode) anyError s := by
    unfold tls13SerializeResumptionState
    refine wp_seq_wallClock (fun now _ => ?_) fun _ _ _ => trivial
    rw [wp_read, onState, wp_zoom]
    refine wp_try (fun _ u hu => ⟨now, ?_⟩) (appends_writeSessionState now s.state)
    rw [hempty, List.nil_append] at hu
    exact hu
  exact (wp_iff_run.1 hwp).1 () s' h

lemma TicketUsed.earlyDataConfig (h : TicketUsed malloc suites identity s s' r r' later) :
    ∃ psk, later.chosenPsk = some psk ∧ psk.earlyDataConfig =
      { maxEarlyDataSize := s.conn.earlyDataServerMaxSize
        protocolVersion := tls13
        cipherSuite := some s.conn.cipherSuite
        applicationProtocol := s.conn.applicationProtocol.string
        context := s.conn.serverEarlyDataContext.1 } := by
  obtain ⟨now, hbytes⟩ := exists_state_of_written h.empty h.written
  have hun : r.state.unread = (s.conn.ticked.sessionState now).encode :=
    List.append_cancel_left (h.handed.symm.trans hbytes)
  obtain ⟨psk, hmem, hchosen⟩ := h.chosen
  refine ⟨psk, hchosen, ?_⟩
  have hmode : r.conn.mode = .server ↔ (s.conn.ticked.sessionState now).keyingMaterialExpiration.isSome = true := by
    rw [h.mode]
    show _ ↔ Option.isSome (if s.conn.mode = .server then _ else _) = true
    split <;> simp_all
  have hread : wp (tls13DeserializeSessionState suites identity) (fun _ r' => r'.conn.pskList =
      [(s.conn.ticked.sessionState now).psk identity]) anyError r := by
    rw [← List.append_nil (SessionState.encode _)] at hun
    refine wp_tls13DeserializeSessionState h.suite hmode (atRest_of_encode hun) (fun _ r' _ _ hr' => ?_)
      fun _ _ _ => trivial
    rw [hr']
    rfl
  rw [(wp_iff_run.1 hread).1 () r' h.read, List.mem_singleton] at hmem
  rw [hmem]
  exact if_pos h.max_pos

/-- When the protocol of a PSK passes for that of a connection. -/
def ProtocolAgrees (kept negotiated : List UInt8) : Prop :=
  negotiated.length > 0 ∨ kept.length > 0 → kept.length = negotiated.length + 1 ∧
    kept.take negotiated.length = negotiated

/-- The last byte of what is kept is not looked at. -/
lemma protocolAgrees_iff {kept negotiated : List UInt8} :
    ProtocolAgrees kept negotiated ↔ kept = [] ∧ negotiated = [] ∨ ∃ b, kept = negotiated ++ [b] := by
  constructor
  · intro h
    by_cases hnil : negotiated.length > 0 ∨ kept.length > 0
    · obtain ⟨hlen, htake⟩ := h hnil
      have hdrop : (kept.drop negotiated.length).length = 1 := by rw [List.length_drop]; omega
      obtain ⟨b, hb⟩ := List.length_eq_one_iff.1 hdrop
      refine .inr ⟨b, ?_⟩
      calc kept = kept.take negotiated.length ++ kept.drop negotiated.length := (List.take_append_drop _ _).symm
        _ = negotiated ++ [b] := by rw [htake, hb]
    · exact .inl ⟨by simpa using fun h => hnil (.inr h), by simpa using fun h => hnil (.inl h)⟩
  · rintro (⟨rfl, rfl⟩ | ⟨b, rfl⟩)
    · rintro (h | h) <;> exact absurd h (Nat.lt_irrefl 0)
    · intro _
      exact ⟨by rw [List.length_append, List.length_singleton], List.take_left⟩

/-- What `s2n_early_data_validate` comes to for a used ticket. -/
lemma TicketUsed.earlyDataIsValid_iff (h : TicketUsed malloc suites identity s s' r r' later) :
    later.earlyDataIsValid = true ↔
      ProtocolAgrees s.conn.applicationProtocol.string later.applicationProtocol.string := by
  obtain ⟨psk, hchosen, hconfig⟩ := h.earlyDataConfig
  have hversion : later.getProtocolVersion = tls13 := by
    unfold ResumeConn.getProtocolVersion
    rw [h.version_eq, h.version]
    rfl
  unfold ResumeConn.earlyDataIsValid
  rw [succeeds_iff_wp]
  unfold earlyDataValidate
  rw [wp_read, hchosen]
  dsimp only
  rw [hconfig, hversion, h.wireIndex, h.suite_eq]
  simp only [wp_bind, wp_ensure_ok, wp_when, and_true, implies_true, true_and]
  exact and_iff_right h.max_pos

/-- **Early data after a ticket.** That the protocol of the session, and no other, is taken holds for a session without
a protocol, and for a later protocol that is neither that of the session nor that one without its last byte. -/
theorem early_data_round_trip_iff (h : TicketUsed malloc suites identity s s' r r' later) :
    (later.earlyDataIsValid = true ↔ later.applicationProtocol.string = s.conn.applicationProtocol.string) ↔
      s.conn.applicationProtocol.string = [] ∨
        later.applicationProtocol.string ≠ s.conn.applicationProtocol.string ∧
          ∀ b, s.conn.applicationProtocol.string ≠ later.applicationProtocol.string ++ [b] := by
  rw [h.earlyDataIsValid_iff, protocolAgrees_iff]
  generalize s.conn.applicationProtocol.string = kept
  generalize later.applicationProtocol.string = negotiated
  by_cases hnil : kept = []
  · subst hnil
    refine iff_of_true ⟨?_, fun heq => .inl ⟨rfl, heq⟩⟩ (.inl rfl)
    rintro (⟨-, heq⟩ | ⟨b, hb⟩)
    · exact heq
    · exact absurd hb.symm (by simp)
  by_cases heq : negotiated = kept
  · -- the protocol of the session is not its own beginning
    subst heq
    refine iff_of_false (fun hiff => ?_) ?_
    · obtain ⟨hkept, -⟩ | ⟨b, hb⟩ := hiff.2 rfl
      · exact hnil hkept
      · exact absurd (congrArg List.length hb) (by simp)
    · rintro (hkept | ⟨hne, -⟩)
      · exact hnil hkept
      · exact hne rfl
  · constructor
    · intro hiff
      exact .inr ⟨heq, fun b hb => heq (hiff.1 (.inr ⟨b, hb⟩))⟩
    · rintro (hkept | ⟨-, hne⟩)
      · exact absurd hkept hnil
      · refine ⟨?_, fun h => absurd h heq⟩
        rintro (⟨hkept, -⟩ | ⟨b, hb⟩)
        · exact absurd hkept hnil
        · exact absurd hb (hne b)

/-! ### Two tickets -/

/-- `s2n_tls13_aes_128_gcm_sha256` -/
def sampleSuite : HelloSuite := ⟨(0x13, 0x01), true, tls13, .sha256, some true⟩

def sampleSuites : CipherSuites := ⟨[sampleSuite], List.pairwise_singleton _ _⟩

/-- A server that has negotiated `p`, with early data of up to 100 bytes. -/
def ticketServer (p : List UInt8) : ResumeConn where
  mode := .server
  config := {}
  actualProtocolVersion := ⟨tls13, by decide⟩
  cipherSuite := sampleSuite
  applicationProtocol := ApplicationProtocol.zero.copy p
  sessionSecret := [1]
  configServerMaxEarlyDataSize := 100

/-- Its state is to be written to a new stuffer. -/
def ticketServerStart (p : List UInt8) : Resuming :=
  ⟨ticketServer p, finalState (growableAlloc .ample 256) Stuffer.zero⟩

def ticketWritten (p : List UInt8) : Resuming :=
  finalState (tls13SerializeResumptionState fun _ => true) (ticketServerStart p)

/-- The same server has the state before it, after the format. -/
def ticketHanded (p : List UInt8) : Resuming := ⟨ticketServer p, finalState (readUint 1) (ticketWritten p).state⟩

def ticketIdentity : Blob := Blob.ofList [7] (by decide)

def ticketRead (p : List UInt8) : Resuming :=
  finalState (tls13DeserializeSessionState sampleSuites ticketIdentity) (ticketHanded p)

/-- It chooses the PSK, and negotiates `p'`. -/
def ticketLater (p p' : List UInt8) : ResumeConn :=
  { ticketServer p' with chosenPsk := (ticketRead p).conn.pskList.head? }

lemma ticketLater_chosenPsk (p p' : List UInt8) :
    (ticketLater p p').chosenPsk = (ticketRead p).conn.pskList.head? := by
  dsimp only [ticketLater]

lemma ticketUsed_of {p p' : List UInt8}
    (hwritten : succeeds (tls13SerializeResumptionState fun _ => true) (ticketServerStart p) = true)
    (hhanded : (ticketWritten p).state.unread = beBytes 1 serializedFormatTls13V1 ++ (ticketHanded p).state.unread)
    (hread : succeeds (tls13DeserializeSessionState sampleSuites ticketIdentity) (ticketHanded p) = true)
    (hchosen : (ticketRead p).conn.pskList.head?.isSome = true) :
    TicketUsed (fun _ => true) sampleSuites ticketIdentity (ticketServerStart p) (ticketWritten p) (ticketHanded p)
      (ticketRead p) (ticketLater p p') where
  version := rfl
  suite := List.mem_singleton_self _
  max_pos := by show (100 : UInt32) > 0; decide
  empty := rfl
  written := run_of_succeeds hwritten
  handed := hhanded
  mode := rfl
  read := run_of_succeeds hread
  chosen := by
    obtain ⟨psk, hpsk⟩ := Option.isSome_iff_exists.1 hchosen
    exact ⟨psk, List.mem_of_head? hpsk, (ticketLater_chosenPsk p p').trans hpsk⟩
  wireIndex := rfl
  version_eq := rfl
  suite_eq := rfl

lemma ticketUsed_no_protocol : TicketUsed (fun _ => true) sampleSuites ticketIdentity (ticketServerStart [])
    (ticketWritten []) (ticketHanded []) (ticketRead []) (ticketLater [] []) :=
  ticketUsed_of (by decide +kernel) (by decide +kernel) (by decide +kernel) (by decide +kernel)

/-- A session without a protocol, and one of `"h2"` before a connection of `"h3"`. -/
theorem early_data_round_trip_none_h2 :
    ((ticketLater [] []).earlyDataIsValid = true ↔
      (ticketLater [] []).applicationProtocol.string = (ticketServerStart []).conn.applicationProtocol.string) ∧
    ((ticketLater [0x68, 0x32] [0x68, 0x33]).earlyDataIsValid = true ↔
      (ticketLater [0x68, 0x32] [0x68, 0x33]).applicationProtocol.string =
        (ticketServerStart [0x68, 0x32]).conn.applicationProtocol.string) := by
  constructor
  · exact (early_data_round_trip_iff ticketUsed_no_protocol).2 (.inl rfl)
  · refine (early_data_round_trip_iff (ticketUsed_of (by decide +kernel) (by decide +kernel) (by decide +kernel)
      (by decide +kernel))).2 (.inr ⟨by decide +kernel, fun b hb => ?_⟩)
    have hlen := congrArg List.length hb
    rw [List.length_append, List.length_singleton] at hlen
    exact absurd hlen (by decide +kernel)

/-- `"h2"` is negotiated by both connections, and its early data is refused. If the later one negotiates `"h"`, it is
taken. -/
theorem early_data_same_protocol_refused :
    TicketUsed (fun _ => true) sampleSuites ticketIdentity (ticketServerStart [0x68, 0x32]) (ticketWritten [0x68, 0x32])
      (ticketHanded [0x68, 0x32]) (ticketRead [0x68, 0x32]) (ticketLater [0x68, 0x32] [0x68, 0x32]) ∧
    (ticketLater [0x68, 0x32] [0x68, 0x32]).applicationProtocol.string =
      (ticketServerStart [0x68, 0x32]).conn.applicationProtocol.string ∧
    (ticketLater [0x68, 0x32] [0x68, 0x32]).earlyDataIsValid = false ∧
    (ticketLater [0x68, 0x32] [0x68]).earlyDataIsValid = true :=
  ⟨ticketUsed_of (by decide +kernel) (by decide +kernel) (by decide +kernel) (by decide +kernel), rfl,
    by decide +kernel, by decide +kernel⟩

/-! ### The whole state -/

/-- Who is handed the state in `s'` takes the PSK of the state of `s`, or has a reason to refuse it. -/
def ReadsBack (suites : CipherSuites) (identity : Blob) (s s' : Resuming) : Prop :=
  ∃ issued, s.conn.config.clock s.conn.config.readings = some issued ∧ ∀ r : Resuming, r.conn.mode = s.conn.mode →
    s'.state.unread = beBytes 1 serializedFormatTls13V1 ++ r.state.unread →
    let st := s.conn.ticked.sessionState issued
    wp (tls13DeserializeSessionState suites identity)
      (fun _ r' => r'.conn = r.conn.ticked.withPsk (st.psk identity) ∧
        (∃ now, st.Accepted r.conn identity now) ∧ r.conn.Installs (st.psk identity))
      (fun _ _ => ∀ now, st.Accepted r.conn identity now → ¬ r.conn.Installs (st.psk identity)) r

/-- **Round trip.** -/
theorem session_state_round_trip (hsuite : s.conn.cipherSuite ∈ suites.all) (hempty : s.state.unread = [])
    (hwritten : (tls13SerializeResumptionState malloc).run s = .ok () s') : ReadsBack suites identity s s' := by
  have hwp : wp (tls13SerializeResumptionState malloc) (fun _ s' => ReadsBack suites identity s s') anyError s := by
    unfold tls13SerializeResumptionState
    refine wp_seq_wallClock (fun now hnow => ?_) fun _ _ _ => trivial
    rw [wp_read, onState, wp_zoom]
    refine wp_try (fun _ u hu => ⟨now, hnow, fun r hmode hhanded => ?_⟩) (appends_writeSessionState now s.state)
    rw [hempty, List.nil_append] at hu
    have hun := List.append_cancel_left (hhanded.symm.trans hu)
    rw [← List.append_nil (SessionState.encode _)] at hun
    refine wp_tls13DeserializeSessionState hsuite ?_ (atRest_of_encode hun)
      (fun now r' haccept hinst hr' => ⟨hr', ⟨now, haccept⟩, hinst⟩) fun h _ _ => h
    rw [hmode]
    show _ ↔ Option.isSome (if s.conn.mode = .server then _ else _) = true
    split <;> simp_all
  exact (wp_iff_run.1 hwp).1 () s' hwritten

theorem session_state_round_trip_server :
    ReadsBack sampleSuites ticketIdentity (ticketServerStart []) (ticketWritten []) :=
  session_state_round_trip ticketUsed_no_protocol.suite ticketUsed_no_protocol.empty ticketUsed_no_protocol.written

end S2nTls
