import S2nTls.Tls.ResumeSpec
import S2nTls.Tls.ServerHelloCipher

/-!
`s2n_connection_set_session` (`tls/s2n_resume.c`).

What an application has kept of a session begins with the id of the session or with its ticket, and the state of the
session follows. A state below TLS1.3 is read into a copy of the connection. But the id is written to the connection
before the state is read, and the PSKs of the connection are removed before the new one is found to be too long or
without memory.
-/

namespace S2nTls

open Lib Stuffer

variable {α : Type} {t : Stuffer}

/-! ### Clients -/

def serializedFormatTls12V3 : ℕ := 4

def stateWithSessionId : ℕ := 0

def stateWithSessionTicket : ℕ := 1

/-- The rest of a client, as far as it is about sessions. -/
structure SessionRest where
  config : TicketConfig
  setSession : Bool := false
  /-- `psk_params` -/
  pskType : PskType := .resumption
  pskList : List SessionPsk := []
  chosenPsk : Option SessionPsk := none
  chosenPskWireIndex : ℕ := 0
  /-- The memory callbacks while the session is read, and while it takes the place of the old one. -/
  malloc : Allocator := .ample
  mallocLater : Allocator := .ample

lemma mod_lt_256 (n : ℕ) : n % 256 < 256 := Nat.mod_lt n (by decide)

/-- A client as the reader of TLS1.3 states sees it. -/
def HelloConn.resumeConn (c : HelloConn SessionRest) : ResumeConn where
  mode := .client
  config := c.rest.config
  actualProtocolVersion := ⟨c.actualProtocolVersion % 256, mod_lt_256 _⟩
  clientProtocolVersion := c.clientProtocolVersion
  serverProtocolVersion := c.serverProtocolVersion
  cipherSuite := c.cipherSuite
  pskType := c.rest.pskType
  pskList := c.rest.pskList
  chosenPsk := c.rest.chosenPsk
  chosenPskWireIndex := c.rest.chosenPskWireIndex
  malloc := c.rest.malloc
  mallocLater := c.rest.mallocLater

/-- What that reader changes. -/
def HelloConn.withResumeConn (c : HelloConn SessionRest) (d : ResumeConn) : HelloConn SessionRest :=
  { c with
    pskList := d.pskList.map SessionPsk.hmacAlg
    chosenPsk := d.chosenPsk.map SessionPsk.hmacAlg
    rest := { c.rest with
      config := d.config
      pskType := d.pskType
      pskList := d.pskList
      chosenPsk := d.chosenPsk
      chosenPskWireIndex := d.chosenPskWireIndex } }

/-! ### The state of a session -/

/-- The flag of a state, if it has one. -/
def readStoredEms (ems : Bool) (state : Stuffer) : HelloM SessionRest Bool := do
  if 0 < state.dataAvailable then
    let (emsNegotiated, _) ← onLocal (readUint 1) state
    return emsNegotiated % 2 = 1
  else return ems

/-- `s2n_tls12_client_deserialize_session_state`, which works on a copy of the connection. -/
def tls12ClientDeserializeSessionState (env : HelloEnv SessionRest) (ticket : Option Blob) (state : Stuffer) :
    HelloM SessionRest Unit := do
  let c ← get
  let (version, state) ← onLocal (readUint 1) state
  let (cipherSuiteWire, state) ← onLocal (rawReadBytes 2) state
  let temp ← execLocal (setCipherAsClient env cipherSuiteWire) { c with resumeProtocolVersion := version }
  let (_, state) ← onLocal (readUint 8) state
  let (masterSecret, state) ← onLocal (readBytes tlsSecretLen) state
  let emsNegotiated ← readStoredEms temp.emsNegotiated state
  let clientTicket ← MonadExcept.ofExcept (c.rest.malloc.copy ((ticket.map Blob.bytes).getD []))
  if c.clientTicket = [] ∨ c.rest.mallocLater.releases = true then
    set { temp with
      masterSecret := masterSecret
      emsNegotiated := emsNegotiated
      clientTicket := clientTicket }
  else
    -- the old ticket was zeroed before its memory is given back
    set { c with clientTicket := List.replicate c.clientTicket.length 0 }
    throw .cancelled

def tls13ClientDeserializeSessionState (suites : CipherSuites) (ticket : Option Blob) (state : Stuffer) :
    HelloM SessionRest Unit :=
  match ticket with
  | none => throw .null
  | some ticket => zoom (fun c => (⟨c.resumeConn, state⟩ : Resuming)) (fun s c => c.withResumeConn s.conn)
      (tls13DeserializeSessionState suites ticket)

/-- `s2n_deserialize_resumption_state` of a client -/
def clientDeserializeState (env : HelloEnv SessionRest) (suites : CipherSuites) (ticket : Option Blob)
    (state : Stuffer) : HelloM SessionRest Unit := do
  let (format, state) ← onLocal (readUint 1) state
  if format = serializedFormatTls12V3 then tls12ClientDeserializeSessionState env ticket state
  else if format = serializedFormatTls13V1 then tls13ClientDeserializeSessionState suites ticket state
  else throw .invalidSerializedSessionState
  modify fun c => { c with rest := { c.rest with setSession := true } }

/-! ### What comes before it -/

/-- The id that `s2n_client_deserialize_with_session_id` reads. -/
def readSessionId : StufferM (List UInt8) := do
  let sessionIdLen ← readUint 1
  ensure (sessionIdLen ≠ 0 ∧ sessionIdLen ≤ tlsSessionIdMaxLen ∧ sessionIdLen ≤ (← get).dataAvailable)
    .invalidSerializedSessionState
  readBytes sessionIdLen

/-- The ticket that `s2n_client_deserialize_with_session_ticket` reads. -/
def readSessionTicket : StufferM Blob := do
  let sessionTicketLen ← readUint 2
  ensure (sessionTicketLen ≠ 0 ∧ sessionTicketLen ≤ (← get).dataAvailable) .invalidSerializedSessionState
  match ← rawRead sessionTicketLen with
  | none => throw .null
  | some off => return (← get).blob.sub off sessionTicketLen

def clientDeserializeWithSessionId (env : HelloEnv SessionRest) (suites : CipherSuites) (t : Stuffer) :
    HelloM SessionRest Unit := do
  let (id, state) ← onLocal readSessionId t
  modify ({ · with sessionId := id })
  clientDeserializeState env suites none state

def clientDeserializeWithSessionTicket (env : HelloEnv SessionRest) (suites : CipherSuites) (t : Stuffer) :
    HelloM SessionRest Unit := do
  let (ticket, state) ← onLocal readSessionTicket t
  clientDeserializeState env suites (some ticket) state

/-- `s2n_connection_set_session`, with a copy of the bytes. -/
def connectionSetSession (env : HelloEnv SessionRest) (suites : CipherSuites) (session : Blob) :
    HelloM SessionRest Unit := do
  let c ← get
  ensure (session.size = 0 ∨ c.rest.malloc session.size = true) .alloc
  let (format, t) ← onLocal (readUint 1) (initWritten session)
  if format = stateWithSessionId then clientDeserializeWithSessionId env suites t
  else if format = stateWithSessionTicket then clientDeserializeWithSessionTicket env suites t
  else throw .invalidSerializedSessionState

/-! ### What a failure leaves alone -/

/-- The fields of a connection that the handshake of a session depends on. -/
def HelloConn.sessionFields (c : HelloConn SessionRest) :=
  (c.sessionId, c.clientTicket, c.masterSecret, c.cipherSuite, c.resumeProtocolVersion, c.emsNegotiated,
    c.rest.pskList, c.rest.pskType, c.rest.setSession)

/-- If the call fails in `d`, the fields are those of `c`. -/
def Spares (c : HelloConn SessionRest) (m : HelloM SessionRest Unit) (d : HelloConn SessionRest) : Prop :=
  wp m (fun _ _ => True) (fun _ d' => d'.sessionFields = c.sessionFields) d

section Spares

variable {c d : HelloConn SessionRest} {m n : HelloM SessionRest Unit}

/-- Reading from a stuffer of its own, a call does nothing to the connection. -/
lemma spares_onLocal {r : StufferM α} {f : α × Stuffer → HelloM SessionRest Unit} :
    Spares c (onLocal r t >>= f) c ↔ ∀ a u, r.run t = .ok a u → Spares c (f (a, u)) c := by
  unfold Spares
  rw [wp_bind, wp_onLocal, wp_iff_run]
  exact ⟨fun h => h.1, fun h => ⟨h, fun _ _ _ => rfl⟩⟩

lemma spares_throw (e : Err) : Spares c (throw e) c := by simp [Spares]

lemma spares_ite {p : Prop} [Decidable p] :
    Spares c (if p then m else n) d ↔ (p → Spares c m d) ∧ (¬ p → Spares c n d) := by
  unfold Spares
  rw [wp_ite]

/-- A check changes nothing. -/
lemma spares_copy {p : HelloConn SessionRest → Prop} [DecidablePred p] {e : Err} :
    Spares c (do let d ← get; ensure (p d) e; m) c ↔ (p c → Spares c m c) := by
  unfold Spares
  rw [wp_read, wp_bind, wp_ensure]
  exact ⟨fun h => h.1, fun h => ⟨h, fun _ => rfl⟩⟩

lemma spares_modify {f : HelloConn SessionRest → HelloConn SessionRest} :
    Spares c (m >>= fun _ => modify f) d ↔ Spares c m d := by
  unfold Spares
  rw [wp_bind]
  simp only [wp_modify]

end Spares

/-! ### States below TLS1.3 -/

lemma readsNext_rawReadBytes {n : ℕ} (hn : 0 < n) : ReadsNext n id (rawReadBytes n) := by
  intro t
  unfold rawReadBytes
  by_cases h : n ≤ t.dataAvailable
  · have hnull := isNull_eq_false_of_pos (t := t) (by omega)
    have hbytes : Parser.bytes n t.unread = some (t.unread.take n, t.unread.drop n) := by
      rw [Parser.bytes, if_pos (by rwa [unread_length])]
    rw [wp_bind]
    refine wp_rawRead_of_bytes hnull hbytes fun off u hbs hu hblob => ?_
    dsimp only
    rw [wp_read, wp_pure, hblob, hbs, unread_length]
    exact ⟨h, rfl, hu⟩
  · rw [wp_bind, wp_of_ok (a := none) (t := t) (by simp [rawRead, EStateM.run, h]), unread_length]
    exact not_le.mp h

/-- The bytes are a state below TLS1.3, after its format, with a cipher suite that the client takes. -/
def TakesTls12State (env : HelloEnv SessionRest) (c : HelloConn SessionRest) (bytes : List UInt8) : Prop :=
  59 ≤ bytes.length ∧ succeeds (setCipherAsClient env ((bytes.drop 1).take 2))
    { c with resumeProtocolVersion := beNat (bytes.take 1) } = true

/-- What the connection has of an older session can be given back. -/
def HelloConn.Frees (c : HelloConn SessionRest) : Prop :=
  c.clientTicket = [] ∧ c.rest.pskList = [] ∨ c.rest.mallocLater.releases = true

/-- **A state below TLS1.3 is taken, or nothing happens.** -/
lemma wp_tls12ClientDeserializeSessionState (env : HelloEnv SessionRest) (ticket : Option Blob) (t : Stuffer)
    {c : HelloConn SessionRest} (hfree : c.Frees) :
    wp (tls12ClientDeserializeSessionState env ticket t) (fun _ _ => TakesTls12State env c t.unread)
      (fun _ c' => c' = c ∧
        ¬ (TakesTls12State env c t.unread ∧ c.rest.malloc.Copies ((ticket.map Blob.bytes).getD []))) c := by
  unfold tls12ClientDeserializeSessionState TakesTls12State
  rw [wp_read]
  refine (readsNext_readUint (by decide)).seq (fun u₁ h₁ hu₁ => ?_) fun hlt _ => ⟨rfl, fun ⟨h, _⟩ => by omega⟩
  have hlen₁ := congrArg List.length hu₁
  rw [List.length_drop] at hlen₁
  refine (readsNext_rawReadBytes (by decide)).seq (fun u₂ h₂ hu₂ => ?_) fun hlt _ =>
    ⟨rfl, fun ⟨h, _⟩ => by omega⟩
  have hlen₂ := congrArg List.length hu₂
  rw [List.length_drop] at hlen₂
  rw [hu₁, id, wp_bind, wp_execLocal, wp_iff_run]
  refine ⟨fun _ temp hrun => ?_, fun e temp hrun => ⟨rfl, fun ⟨h, _⟩ => ?_⟩⟩
  · refine (readsNext_readUint (by decide)).seq (fun u₃ h₃ hu₃ => ?_) fun hlt _ => ⟨rfl, fun ⟨h, _⟩ => by omega⟩
    have hlen₃ := congrArg List.length hu₃
    rw [List.length_drop] at hlen₃
    refine (readsNext_readBytes (by decide)).seq (fun u₄ h₄ hu₄ => ?_) fun hlt _ => ⟨rfl, fun ⟨h, _⟩ => ?_⟩
    · have hfits : 48 ≤ u₃.unread.length := h₄
      have htakes : 59 ≤ t.unread.length ∧ succeeds (setCipherAsClient env ((t.unread.drop 1).take 2))
          { c with resumeProtocolVersion := beNat (t.unread.take 1) } = true :=
        ⟨by omega, by unfold Lib.succeeds; rw [hrun]⟩
      -- the flag is read only if there is one
      have hems : wp (readStoredEms temp.emsNegotiated u₄) (fun _ c' => c' = c) noError c := by
        unfold readStoredEms
        rw [wp_ite]
        refine ⟨fun hpos => (readsNext_readUint (by decide)).seq (fun _ _ _ => ?_) fun hlt => ?_, fun _ => ?_⟩
        · rw [wp_pure]
        · rw [unread_length] at hlt
          omega
        · rw [wp_pure]
      refine wp_sure_then hems fun _ c' hc' => ?_
      rw [hc', wp_bind]
      refine wp_ofExcept_of_iff (fun _ => Allocator.copy_eq_ok) (fun _ => ?_) fun hno _ => ⟨rfl, fun h => hno h.2⟩
      rw [if_pos (hfree.imp_left And.left), wp_set]
      exact htakes
    · have hsecret : tlsSecretLen = 48 := rfl
      omega
  · unfold Lib.succeeds at h
    rw [hrun] at h
    exact absurd h.2 Bool.false_ne_true

/-! ### States of TLS1.3 -/

/-- The PSK that a client makes of a state of TLS1.3, after its format, if it takes the state. -/
def HelloConn.pskOf (suites : CipherSuites) (ticket : Blob) (state : Stuffer) (c : HelloConn SessionRest) :
    Option SessionPsk :=
  match (readSessionPsk suites ticket).run ⟨c.resumeConn, state⟩ with
  | .ok psk _ => some psk
  | .error _ _ => none

/-- What the reading of a state leaves alone. -/
def Resuming.psks (s : Resuming) : Mode × PskType × List SessionPsk × Allocator :=
  (s.conn.mode, s.conn.pskType, s.conn.pskList, s.conn.mallocLater)

lemma frames_onState (m : StufferM α) : Frames Resuming.psks (onState m) := by
  intro s
  rw [onState, wp_zoom]
  exact wp_iff_run.mpr ⟨fun _ _ _ => rfl, fun _ _ _ => rfl⟩

lemma frames_onResumeConfig (m : TicketM α) : Frames Resuming.psks (onResumeConfig m) := by
  intro s
  rw [onResumeConfig, onResumeConn, wp_zoom, wp_zoom]
  exact wp_iff_run.mpr ⟨fun _ _ _ => rfl, fun _ _ _ => rfl⟩

lemma frames_readSessionPsk (suites : CipherSuites) (ticket : Blob) :
    Frames Resuming.psks (readSessionPsk suites ticket) := by
  unfold readSessionPsk readSecret readKeyingMaterialExpiration readEarlyData
  refine .read fun _ => .bind (.ofExcept _) fun _ => .bind (frames_onState _) fun _ => .checked ?_
  refine .bind (frames_onState _) fun _ => .bind (.ofExcept _) fun _ => .bind (frames_onState _) fun _ => ?_
  refine .bind (frames_onResumeConfig _) fun _ => .bind (frames_onResumeConfig _) fun _ => ?_
  refine .bind ?_ fun _ => .bind ?_ fun _ => ?_
  · refine .bind (frames_onState _) fun _ => .bind (frames_onState _) fun _ => .checked ?_
    exact .bind (frames_onState _) fun _ => .read fun _ => .ofExcept _
  · refine .read fun _ => .ite (.bind (frames_onState _) fun _ => ?_) (.pure _)
    exact .checked <| .pure _
  · refine .bind (frames_onState _) fun _ => .ite (.bind (.ofExcept _) fun _ => ?_) (.pure _)
    refine .bind (frames_onState _) fun _ => .bind (frames_onState _) fun _ => .read fun _ => ?_
    refine .bind (.ofExcept _) fun _ => .bind (frames_onState _) fun _ => .bind (frames_onState _) fun _ => ?_
    exact .read fun _ => .ofExcept _

lemma returns_ofExcept {σ : Type} {x : Except Err SessionPsk} (h : ∀ psk, x = .ok psk → psk.type = .resumption) :
    Returns (fun psk => psk.type = .resumption) (MonadExcept.ofExcept x : EStateM Err σ SessionPsk) := by
  intro s
  rw [wp_ofExcept]
  exact ⟨h, fun _ _ => trivial⟩

lemma returns_readSessionPsk (suites : CipherSuites) (ticket : Blob) :
    Returns (fun psk => psk.type = .resumption) (readSessionPsk suites ticket) := by
  unfold readSessionPsk readSecret readKeyingMaterialExpiration readEarlyData
  refine .bind fun _ => .seq (returns_ofExcept fun psk h => ?_) fun psk hpsk => .bind fun _ => .bind fun _ =>
    .bind fun _ => ?_
  · obtain ⟨-, rfl⟩ := SessionPsk.setIdentity_eq_ok.mp h
    rfl
  refine .bind fun _ => .bind fun _ => .bind fun _ => .bind fun _ => ?_
  refine .seq (Q := fun psk => psk.type = .resumption) ?_ fun psk hpsk =>
    .seq (Q := fun psk => psk.type = .resumption) ?_ fun psk hpsk => ?_
  · refine .bind fun _ => .bind fun _ => .bind fun _ => .bind fun _ => .bind fun _ => returns_ofExcept fun psk' h => ?_
    obtain ⟨-, rfl⟩ := SessionPsk.setSecret_eq_ok.mp h
    exact hpsk
  · refine .bind fun s => ?_
    split
    · exact .bind fun _ => .bind fun _ => .pure hpsk
    · exact .pure hpsk
  · refine .bind fun n => ?_
    split
    · refine .seq (returns_ofExcept fun psk' h => ?_) fun psk' hpsk' => .bind fun _ => .bind fun _ => .bind fun _ => ?_
      · unfold SessionPsk.configureEarlyData at h
        obtain ⟨suite, -, h⟩ := exists_ok_of_bind h
        split at h <;> cases h
        exact hpsk
      · refine .seq (returns_ofExcept fun psk h => ?_) fun psk hpsk =>
          .bind fun _ => .bind fun _ => .bind fun _ => returns_ofExcept fun psk'' h => ?_
        · obtain ⟨-, rfl⟩ := SessionPsk.setApplicationProtocol_eq_ok.mp h
          exact hpsk'
        · obtain ⟨-, rfl⟩ := SessionPsk.setEarlyDataContext_eq_ok.mp h
          exact hpsk
    · exact .pure hpsk

/-- A PSK that is too long for the ClientHello, or without memory, costs the PSKs that there are. -/
def HelloConn.Arms (c : HelloConn SessionRest) (psk : SessionPsk) : Prop :=
  c.resumeConn.Appends psk ∨ (c.rest.pskList = [] ↔ c.rest.pskType = .resumption)

/-- **A state of TLS1.3** is taken, or it is refused before the PSKs are touched, or it is too long. -/
lemma spares_tls13ClientDeserializeSessionState (suites : CipherSuites) (ticket : Blob) (t : Stuffer)
    {c : HelloConn SessionRest} (hfree : c.Frees) :
    Spares c (tls13ClientDeserializeSessionState suites (some ticket) t) c ↔
      ∀ psk ∈ c.pskOf suites ticket t, c.Arms psk := by
  have hframe := frames_readSessionPsk suites ticket ⟨c.resumeConn, t⟩
  unfold Spares tls13ClientDeserializeSessionState tls13DeserializeSessionState HelloConn.pskOf HelloConn.Arms
  rw [wp_zoom, wp_bind]
  rw [wp_iff_run] at hframe
  cases hrun : (readSessionPsk suites ticket).run ⟨c.resumeConn, t⟩ with
  | error e s =>
    have hpsks := hframe.2 e s hrun
    simp only [Resuming.psks, Prod.mk.injEq] at hpsks
    rw [wp_of_error hrun]
    simp [HelloConn.sessionFields, HelloConn.withResumeConn, hpsks, HelloConn.resumeConn]
  | ok psk s =>
    have hpsks := hframe.1 psk s hrun
    simp only [Resuming.psks, Prod.mk.injEq] at hpsks
    obtain ⟨hmode, htype, hlist, hmalloc⟩ := hpsks
    have hres : psk.type = .resumption := (wp_of_ok hrun).mp (returns_readSessionPsk suites ticket _)
    rw [wp_of_ok hrun]
    simp only [Option.mem_some_iff, forall_eq', onResumeConn, wp_bind, wp_zoom, connectionSetPskType, wp_get,
      wp_ensure, wp_set, wp_ite, wp_failWith, wp_ofExcept, pskParametersWipe, appendSessionPsk]
    have hrelease : c.rest.pskList = [] ∨ c.rest.mallocLater.releases = true := hfree.imp_left And.right
    simp only [HelloConn.sessionFields, HelloConn.withResumeConn, hmode, htype, hlist, hmalloc, hres,
      HelloConn.resumeConn, ResumeConn.appends_iff, hrelease, not_true_eq_false, false_implies, true_implies]
    cases hclone : psk.clone c.rest.mallocLater with
    | error e => by_cases hnil : c.rest.pskList = [] <;> cases htype' : c.rest.pskType <;> simp [hnil]
    | ok psk' =>
      obtain rfl := (SessionPsk.clone_eq_ok.1 hclone).2
      by_cases hnil : c.rest.pskList = [] <;> cases htype' : c.rest.pskType <;> simp [hnil] <;> grind

/-! ### All sessions -/

section SetSession

variable {env : HelloEnv SessionRest} {suites : CipherSuites} {c : HelloConn SessionRest}

/-- After an id there may only be a state below TLS1.3, and the id is there already. -/
lemma spares_clientDeserializeState_none (hfree : c.Frees) (suites : CipherSuites) (id : List UInt8) :
    Spares c (clientDeserializeState env suites none t) { c with sessionId := id } ↔
      id = c.sessionId ∨ beNat (t.unread.take 1) = serializedFormatTls12V3 ∧
        TakesTls12State env { c with sessionId := id } (t.unread.drop 1) := by
  have hwp : wp (clientDeserializeState env suites none t)
      (fun _ _ => beNat (t.unread.take 1) = serializedFormatTls12V3 ∧
        TakesTls12State env { c with sessionId := id } (t.unread.drop 1))
      (fun _ d => d = { c with sessionId := id } ∧ ¬ (beNat (t.unread.take 1) = serializedFormatTls12V3 ∧
        TakesTls12State env { c with sessionId := id } (t.unread.drop 1))) { c with sessionId := id } := by
    unfold clientDeserializeState
    refine (readsNext_readUint (by decide)).seq (fun u _ hu => ?_) fun hlt _ => ⟨rfl, fun h => ?_⟩
    · dsimp only
      rw [← hu]
      split
      · rename_i hformat
        have hnone := wp_tls12ClientDeserializeSessionState (c := { c with sessionId := id }) env none u hfree
        refine wp_seq hnone (fun _ _ h => ?_) fun _ _ h => ⟨h.1, fun h' => h.2 ⟨h'.2, .inl rfl⟩⟩
        rw [wp_modify]
        exact ⟨hformat, h⟩
      · rename_i hformat
        split <;> simp [tls13ClientDeserializeSessionState, hformat]
    · rw [List.length_eq_zero_iff.mp (Nat.lt_one_iff.mp hlt)] at h
      exact absurd h.1 (by decide)
  have hfields : ({ c with sessionId := id } : HelloConn SessionRest).sessionFields = c.sessionFields ↔
      id = c.sessionId := by
    simp [HelloConn.sessionFields]
  unfold Spares
  rw [wp_iff_run] at hwp ⊢
  cases hrun : (clientDeserializeState env suites none t).run { c with sessionId := id } with
  | ok a d => exact ⟨fun _ => .inr (hwp.1 a d hrun), fun _ => ⟨fun _ _ _ => trivial, fun _ _ h => nomatch h⟩⟩
  | error e d =>
    obtain ⟨rfl, hnot⟩ := hwp.2 e d hrun
    refine ⟨fun h => .inl (hfields.mp (h.2 e _ rfl)), fun h => ⟨fun _ _ heq => (nomatch heq), fun e' d' heq => ?_⟩⟩
    obtain ⟨-, rfl⟩ := EStateM.Result.error.inj heq
    exact hfields.mpr (h.resolve_right hnot)

/-- After a ticket only a state of TLS1.3 is dangerous. -/
lemma spares_clientDeserializeState_some (hfree : c.Frees) (ticket : Blob) :
    Spares c (clientDeserializeState env suites (some ticket) t) c ↔
      ∀ state, (readUint 1).run t = .ok serializedFormatTls13V1 state →
        ∀ psk ∈ c.pskOf suites ticket state, c.Arms psk := by
  have htls12 : ∀ u, Spares c (tls12ClientDeserializeSessionState env (some ticket) u) c := fun u =>
    wp_mono (fun _ _ _ => trivial) (fun _ _ h => by rw [h.1]) (wp_tls12ClientDeserializeSessionState env _ u hfree)
  unfold clientDeserializeState
  rw [spares_onLocal]
  constructor
  · intro h state hrun
    have hstate := h _ _ hrun
    dsimp only at hstate
    rw [if_neg (by decide), if_pos rfl, spares_modify, spares_tls13ClientDeserializeSessionState _ _ _ hfree] at hstate
    exact hstate
  · intro h format state hrun
    dsimp only
    split
    · exact spares_modify.mpr (htls12 state)
    · split
      · rename_i hformat
        rw [spares_modify, spares_tls13ClientDeserializeSessionState _ _ _ hfree]
        exact h state (hformat ▸ hrun)
      · exact spares_modify.mpr (spares_throw _)

/-- The session begins with an id. -/
def StoresId (session : Blob) (id : List UInt8) (state : Stuffer) : Prop :=
  ∃ t, (readUint 1).run (initWritten session) = .ok stateWithSessionId t ∧ readSessionId.run t = .ok id state

/-- The session begins with a ticket, and the format of TLS1.3 comes next. -/
def StoresTls13Ticket (session ticket : Blob) (state : Stuffer) : Prop :=
  ∃ t u, (readUint 1).run (initWritten session) = .ok stateWithSessionTicket t ∧
    readSessionTicket.run t = .ok ticket u ∧
    (readUint 1).run u = .ok serializedFormatTls13V1 state

/-- An environment in which nothing else happens. -/
def sessionEnv (policy : HelloPolicy) : HelloEnv SessionRest :=
  { plainEnv policy with
    recv := fun _ _ => pure ()
    renegotiationInfoIfMissing := pure ()
    npnRecv := fun _ => pure false
    helloRetryRecv := pure ()
    prfKeyExpansion := pure ()
    updateRequiredHandshakeHashes := pure ()
    resumeDecryptSession := fun _ => pure ()
    resumeFromCache := fun _ => pure () }

def sessionClient (io : Stuffer) : HelloConn SessionRest := { plainClient tls13 false io with rest := { config := {} } }

end SetSession

end S2nTls
