import S2nTls.Tls.HandshakeType

/-!
What of a connection the negotiation looks at again, and what it does not.

Most functions of the exchange of hellos change only parts of the connection that nothing looks at
later. `HelloCore` is what the negotiation does look at; `HelloVersions` is the part of it that the
type of the handshake is no part of.
-/

namespace S2nTls

open Lib Stuffer

section Frames

variable {R : Type} {c : HelloConn R}

/-! ### What is looked at -/

structure HelloVersions where
  mode : Mode
  client : ℕ
  server : ℕ
  actual : ℕ
  quicEnabled : Bool
  cipherSuite : HelloSuite
  resumed : Bool
  messageNumber : ℕ

structure HelloCore where
  versions : HelloVersions
  serverRandom : List UInt8
  sessionId : List UInt8
  resumeProtocolVersion : ℕ
  renegotiation : Bool
  earlyDataState : EarlyDataState
  handshakeType : ℕ
  stateMachine : StateMachine

def HelloConn.versions (c : HelloConn R) : HelloVersions :=
  { mode := c.mode
    client := c.clientProtocolVersion
    server := c.serverProtocolVersion
    actual := c.actualProtocolVersion
    quicEnabled := c.quicEnabled
    cipherSuite := c.cipherSuite
    resumed := c.clientSessionResumed
    messageNumber := c.messageNumber }

def HelloConn.core (c : HelloConn R) : HelloCore :=
  { versions := c.versions
    serverRandom := c.serverRandom
    sessionId := c.sessionId
    resumeProtocolVersion := c.resumeProtocolVersion
    renegotiation := c.renegotiation
    earlyDataState := c.earlyDataState
    handshakeType := c.handshakeType
    stateMachine := c.stateMachine }

/-- What the choice of the type of the handshake leaves alone. -/
structure HelloSteady where
  versions : HelloVersions
  serverRandom : List UInt8
  io : Stuffer

def HelloConn.steady (c : HelloConn R) : HelloSteady := ⟨c.versions, c.serverRandom, c.io⟩

/-- The version as `s2n_connection_get_protocol_version` has it. -/
def HelloVersions.version (v : HelloVersions) : ℕ :=
  if v.actual ≠ versionUnknown then v.actual
  else match v.mode with
    | .client => v.client
    | .server => v.server

lemma versions_version (c : HelloConn R) : c.versions.version = c.protocolVersion := rfl

namespace HelloCore

def isRetryHandshake (k : HelloCore) : Bool :=
  tls13 ≤ k.versions.version && k.handshakeType &&& HandshakeType.helloRetryRequest != 0

def isRetryMessage (k : HelloCore) : Bool :=
  k.stateMachine.message k.handshakeType k.versions.messageNumber = .helloRetryMsg

/-- Another version of the server. -/
def setServer (k : HelloCore) (version : ℕ) : HelloCore :=
  { k with versions := { k.versions with server := version } }

end HelloCore

lemma isHelloRetryHandshake_iff {c : HelloConn R} : c.isHelloRetryHandshake = true ↔
    tls13 ≤ c.protocolVersion ∧ c.checkFlag HandshakeType.helloRetryRequest = true := by
  simp [HelloConn.isHelloRetryHandshake, HelloConn.checkTls13Flag]

lemma core_isRetryHandshake (c : HelloConn R) : c.core.isRetryHandshake = c.isHelloRetryHandshake := rfl

lemma core_isRetryMessage (c : HelloConn R) : c.core.isRetryMessage = c.isHelloRetryMessage := rfl

/-- The client waits for the ServerHello that follows a HelloRetryRequest. -/
def HelloConn.Retried (c : HelloConn R) : Prop :=
  c.isHelloRetryHandshake = true ∧ c.isHelloRetryMessage = false

/-- A client's own version does not depend on that of the server. -/
lemma Retried.of_setServer {d : HelloConn R} {version : ℕ} (hmode : c.mode = .client)
    (hcore : d.core = c.core.setServer version) (h : c.Retried) : d.Retried := by
  have hk : ∀ k : HelloCore, k.versions.mode = .client →
      (k.setServer version).versions.version = k.versions.version := by
    intro k hk
    simp [HelloCore.setServer, HelloVersions.version, hk]
  refine ⟨?_, ?_⟩
  · rw [← core_isRetryHandshake, hcore, HelloCore.isRetryHandshake, hk _ hmode]
    exact h.1
  · rw [← core_isRetryMessage, hcore]
    exact h.2

/-! ### Calls that are not seen -/

lemma frames_onRest {ω α : Type} {view : HelloConn R → ω}
    (h : ∀ c r, view { c with rest := r } = view c) (m : EStateM Err R α) :
    Frames view (onRest m) := .zoom (fun r c => h c r) m

lemma frames_onSession {α : Type} (m : HelloConn R → EStateM Err (SessionFields R) α) :
    Frames HelloConn.steady (onSession m) := by
  have hwith : ∀ s (c : HelloConn R), (c.withSession s).steady = c.steady := fun _ _ => rfl
  exact .read fun c => .zoom hwith (m c)

lemma frames_chooseStateMachine (version : ℕ) :
    Frames HelloConn.steady (chooseStateMachine version : HelloM R Unit) :=
  .checked <| .ite
    (.read fun _ => .checked <| .modify fun _ => rfl)
    (.read fun _ => .checked <| .modify fun _ => rfl)

lemma frames_handshakeTypeSetFlag (flag : ℕ) :
    Frames HelloConn.steady (handshakeTypeSetFlag flag : HelloM R Unit) :=
  .modify fun _ => rfl

lemma frames_handshakeTypeSetTls12Flag (flag : ℕ) :
    Frames HelloConn.steady (handshakeTypeSetTls12Flag flag : HelloM R Unit) :=
  .read fun _ => .checked <|
    (frames_handshakeTypeSetFlag flag).bind fun _ => frames_chooseStateMachine _

lemma frames_handshakeTypeSetTls13Flag (flag : ℕ) :
    Frames HelloConn.steady (handshakeTypeSetTls13Flag flag : HelloM R Unit) :=
  .read fun _ => .checked <|
    (frames_handshakeTypeSetFlag flag).bind fun _ => frames_chooseStateMachine _

lemma frames_setEarlyDataState (next : EarlyDataState) :
    Frames HelloConn.steady (setEarlyDataState next : HelloM R Unit) :=
  .read fun _ => .ite (.pure _)
    (.checked <| .modify fun _ => rfl)

lemma frames_setHelloRetryRequired :
    Frames HelloConn.steady (setHelloRetryRequired : HelloM R Unit) :=
  .read fun _ => .checked <|
    (frames_handshakeTypeSetTls13Flag _).bind fun _ => .read fun _ =>
      .when (frames_setEarlyDataState _)

lemma wp_handshakeTypeSetTls12Flag {Q : Unit → HelloConn R → Prop} {E : Err → HelloConn R → Prop} {flag : ℕ}
    (hversion : c.protocolVersion < tls13) (hmachine : c.stateMachine = .tls12)
    (hok : Q () { c with handshakeType := c.handshakeType ||| flag }) : wp (handshakeTypeSetTls12Flag flag) Q E c := by
  unfold handshakeTypeSetTls12Flag
  rw [wp_read]
  refine wp_ensured hversion ?_
  rw [wp_bind, handshakeTypeSetFlag, wp_modify]
  unfold chooseStateMachine
  refine wp_ensured (by decide) ?_
  rw [if_neg (by decide), wp_read]
  refine wp_ensured (by simp [hmachine]) ?_
  rw [wp_modify]
  have hsame : ∀ n, ({ c with handshakeType := n, stateMachine := .tls12 } : HelloConn R) =
      { c with handshakeType := n } := fun n => by rw [← hmachine]
  rw [hsame]
  exact hok

section Env

variable (env : HelloEnv R)

lemma frames_setTls13HandshakeType : Frames HelloConn.steady (setTls13HandshakeType env) := by
  refine .bind (.modify fun _ => rfl) fun _ =>
    (frames_handshakeTypeSetFlag _).bind fun _ => ?_
  refine .read fun _ => .bind (.when (frames_handshakeTypeSetFlag _)) fun _ => ?_
  refine .read fun _ => .bind (.when (frames_handshakeTypeSetFlag _)) fun _ => ?_
  refine .read fun _ => .bind (.when (frames_handshakeTypeSetFlag _)) fun _ => ?_
  exact .read fun _ => .read fun _ =>
    .when (frames_handshakeTypeSetTls13Flag _)

lemma frames_setFullHandshakeType : Frames HelloConn.steady (setFullHandshakeType env) := by
  refine .read fun _ => .ite (.pure _) ?_
  refine .bind (.read fun _ => .when ?_) fun _ =>
    (frames_handshakeTypeSetFlag _).bind fun _ => .read fun _ => ?_
  · split
    · exact .throw _
    · exact .modify fun _ => rfl
  · split
    · exact .throw _
    · exact .bind (.when (frames_handshakeTypeSetTls12Flag _)) fun _ =>
        .read fun _ => .when (frames_handshakeTypeSetTls12Flag _)

lemma frames_validateEmsStatus : Frames HelloConn.steady (validateEmsStatus : HelloM R Unit) :=
  .read fun _ => .checked <| .modify fun _ => rfl

lemma frames_resumeOrSetFullHandshakeType :
    Frames HelloConn.steady (resumeOrSetFullHandshakeType env) := by
  refine .read fun _ => .ite ?_ (frames_setFullHandshakeType env)
  refine (frames_onSession _).attempt.bind fun r => ?_
  split
  · exact .pure _
  · exact .ite (.throw _)
      (frames_validateEmsStatus.bind fun _ => frames_setFullHandshakeType env)

lemma frames_decryptTicketOrSetFullHandshakeType :
    Frames HelloConn.steady (decryptTicketOrSetFullHandshakeType env) := by
  refine (frames_onSession _).attempt.bind fun r => ?_
  split
  · exact .pure _
  · refine frames_validateEmsStatus.bind fun _ =>
      .bind (.when ?_) fun _ => frames_setFullHandshakeType env
    exact .bind (.modify fun _ => rfl) fun _ => frames_handshakeTypeSetTls12Flag _

lemma frames_setTls12HandshakeType : Frames HelloConn.steady (setTls12HandshakeType env) := by
  refine .bind (.modify fun _ => rfl) fun _ =>
    (frames_handshakeTypeSetFlag _).bind fun _ => .read fun _ => ?_
  refine .bind (.when (frames_handshakeTypeSetFlag _)) fun _ => .read fun _ => ?_
  refine .bind (.when (frames_handshakeTypeSetTls12Flag _)) fun _ => .ite ?_ ?_
  · exact frames_decryptTicketOrSetFullHandshakeType env
  · exact .bind (.when (frames_handshakeTypeSetTls12Flag _)) fun _ =>
      frames_resumeOrSetFullHandshakeType env

/-- The type of the handshake does not decide about versions and cipher suites. -/
lemma frames_setHandshakeType : Frames HelloConn.steady (setHandshakeType env) :=
  .read fun _ => (frames_chooseStateMachine _).bind fun _ => .read fun _ =>
    .ite (frames_setTls13HandshakeType env) (frames_setTls12HandshakeType env)
end Env

end Frames

end S2nTls
