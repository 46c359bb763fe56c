import S2nTls.Tls.ServerHelloSpec

/-!
Messages that a client accepts: a client without session, PSK or options takes every ServerHello
that passes the checks of `S2nTls.Tls.ServerHelloSpec`. The checks are therefore all there are.
-/

namespace S2nTls

open Lib Stuffer

/-! ### A client -/

/-- An environment in which nothing else happens. -/
def plainEnv (policy : HelloPolicy) : HelloEnv Unit :=
  { malloc := fun _ => true
    policy := policy
    clientAuthType := .none
    useTickets := false
    publicRandomData := some fun _ => 0
    recv := fun _ _ => pure ()
    renegotiationInfoIfMissing := pure ()
    npnRecv := fun _ => pure false
    serverExtensions := []
    earlyDataIsValid := false
    helloRetryRecv := pure ()
    prfKeyExpansion := pure ()
    updateRequiredHandshakeHashes := pure ()
    resumeDecryptSession := fun _ => pure ()
    encryptKeyAvailable := false
    allowedToCacheConnection := false
    resumeFromCache := fun _ => pure ()
    ocspStatus := false }

/-- `s2n_null_cipher_suite`. -/
def HelloSuite.null : HelloSuite := ⟨(0, 0), true, 0, .none, some false⟩

/-- Only supported_versions was sent. -/
def plainBits : ExtensionBits :=
  { requestsSent := fun n => n = Extension.supportedVersions
    requestsReceived := fun _ => false
    responsesReceived := fun _ => false }

/-- A client that has sent its ClientHello. -/
def plainClient (client : ℕ) (quicEnabled : Bool) (io : Stuffer) : HelloConn Unit :=
  { mode := .client
    clientProtocolVersion := client
    serverProtocolVersion := versionUnknown
    actualProtocolVersion := client
    actualProtocolVersionEstablished := false
    clientHelloVersion := min client tls12
    quicEnabled := quicEnabled
    clientRandom := []
    serverRandom := []
    sessionId := []
    cipherSuite := HelloSuite.null
    pskList := []
    chosenPsk := none
    emsNegotiated := false
    npnNegotiated := false
    statusTypeOcsp := false
    sessionTicketStatus := .noTicket
    resumeProtocolVersion := 0
    clientSessionResumed := false
    clientTicket := []
    masterSecret := []
    earlyDataState := .notRequested
    readerAlertOut := 0
    extensionBits := plainBits
    handshakeType := HandshakeType.initial
    messageNumber := 1
    stateMachine := .initial
    renegotiation := false
    io := io
    rest := () }

/-- A buffer with the bytes of a message. -/
def receivedIo (bs : List UInt8) (h : bs.length < 2 ^ 32) : Stuffer :=
  Stuffer.initWritten (Blob.ofList bs h)

lemma unread_receivedIo (bs : List UInt8) (h : bs.length < 2 ^ 32) : (receivedIo bs h).unread = bs := by
  rw [receivedIo, unread_initWritten, Blob.bytes_ofList]

section Accepts

variable {Q : Unit → HelloConn Unit → Prop} {R : Err → HelloConn Unit → Prop}
  {policy : HelloPolicy} {c : HelloConn Unit}
variable {wire : List UInt8} {s : PolicySuite} {h : ServerHelloMsg} {io : Stuffer}

/-! ### The fields before the extensions -/

lemma wp_onHelloIo_of {α : Type} {Q : α → HelloConn Unit → Prop} {m : StufferM α}
    (h : wp m (fun a u => Q a { c with io := u }) noError c.io) :
    wp (onHelloIo m) Q R c := by
  unfold onHelloIo
  rw [wp_zoom]
  exact wp_sure (fun _ _ hu => hu) h

/-- The bytes behind the session id and the cipher suite. -/
def ServerHelloMsg.extensionBytes (h : ServerHelloMsg) : List UInt8 :=
  if h.extensions = [] then [] else encodeExtensionList h.extensions

lemma wp_readVersionAndRandom_ok {Q : ℕ → HelloConn Unit → Prop}
    {version random rest : List UInt8} (hnull : c.io.blob.isNull = false)
    (hun : c.io.unread = version ++ (random ++ rest)) (hversion : version.length = 2)
    (hlen : random.length = tlsRandomDataLen) (hrandom : random ≠ helloRetryReqRandom)
    (hok : ∀ u : Stuffer, u.unread = rest → u.blob.isNull = false →
      Q (versionOf version % 256) { c with io := u, serverRandom := random }) :
    wp readVersionAndRandom Q R c := by
  unfold readVersionAndRandom
  rw [wp_bind]
  refine wp_onHelloIo_of (wp_readBytes_of_bytes hnull (hun ▸ Parser.bytes_append _ hversion)
    fun u hu hublob => ?_)
  rw [wp_bind]
  refine wp_onHelloIo_of (wp_readBytes_of_bytes (hublob ▸ hnull)
    (show Parser.bytes _ u.unread = _ from hu ▸ Parser.bytes_append _ hlen) fun w hw hwblob => ?_)
  rw [wp_update, wp_bind]
  refine wp_skipped hrandom ?_
  rw [wp_pure]
  exact hok w hw (by rw [hwblob]; exact hublob ▸ hnull)

lemma wp_readSessionIdAndCipher_ok {Q : List UInt8 × List UInt8 → HelloConn Unit → Prop}
    {rest : List UInt8} (hnull : c.io.blob.isNull = false)
    (hun : c.io.unread = beBytes 1 0 ++ (wire ++ (beBytes 1 0 ++ rest))) (hwire : wire.length = 2)
    (hok : ∀ u : Stuffer, u.unread = rest → u.blob.isNull = false → Q ([], wire) { c with io := u }) :
    wp readSessionIdAndCipher Q R c := by
  unfold readSessionIdAndCipher
  rw [wp_bind]
  refine wp_onHelloIo_of (wp_readUint_of_uint hnull (hun ▸ Parser.uint_append _ (by decide))
    fun u hu hublob => ?_)
  refine wp_ensured (Nat.zero_le _) ?_
  rw [wp_bind]
  refine wp_onHelloIo_of (wp_readBytes_of_bytes (hublob ▸ hnull)
    (show Parser.bytes 0 u.unread = some ([], u.unread) from Parser.bytes_append (a := []) _ rfl)
    fun w hw hwblob => ?_)
  have hwnull : w.blob.isNull = false := by rw [hwblob]; exact hublob ▸ hnull
  rw [wp_bind]
  refine wp_onHelloIo_of (wp_rawRead_of_bytes hwnull
    (show Parser.bytes 2 w.unread = _ from (hw.trans hu) ▸ Parser.bytes_append _ hwire)
    fun off x hoff hx hxblob => ?_)
  dsimp only
  rw [wp_read, wp_bind]
  refine wp_onHelloIo_of (wp_readUint_of_uint (hxblob ▸ hwnull)
    (show Parser.uint 1 x.unread = _ from hx ▸ Parser.uint_append _ (by decide))
    fun y hy hyblob => ?_)
  refine wp_ensured rfl ?_
  rw [wp_pure, hxblob, hoff]
  exact hok y hy (by rw [hyblob]; exact hxblob ▸ hwnull)

/-! ### Extensions -/

lemma wp_extensionListProcess_missing {σ : Type} {access : ExtensionAccess σ} {c : σ}
    {Q : Unit → σ → Prop} {R : Err → σ → Prop} (xs : List (ExtensionType σ)) (l : ParsedExtensionsList)
    (hxs : ∀ x ∈ xs, x.ianaValue ∈ supportedExtensions ∧ (x.ianaValue ∈ l.processed ∨
      (∀ e ∈ l.parsed, e.extensionType ≠ x.ianaValue) ∧
        (extensionIsMissing access x).run c = .ok () c)) (hQ : Q () c) :
    wp (extensionListProcess access xs l) Q R c := by
  induction xs generalizing l with
  | nil => exact hQ
  | cons x xs ih =>
    obtain ⟨hknown, hx⟩ := hxs x List.mem_cons_self
    have htail := fun y hy => hxs y (List.mem_cons_of_mem x hy)
    unfold extensionListProcess
    rw [wp_bind]
    unfold extensionProcess
    refine wp_ensured hknown ?_
    split
    · exact ih l htail
    · rename_i hnew
      obtain ⟨hfind, hrun⟩ := hx.resolve_left hnew
      have hnone : (l.parsed.find? fun e => e.extensionType = x.ianaValue) = none :=
        List.find?_eq_none.mpr fun e he => by simpa using hfind e he
      unfold extensionProcessImpl
      rw [hnone, wp_bind, wp_of_ok hrun, wp_pure]
      refine ih _ fun y hy => ⟨(htail y hy).1, ?_⟩
      exact (htail y hy).2.imp (List.mem_cons_of_mem _) id

/-- A handler without anything to do about a missing extension. -/
lemma extensionIsMissing_of_noop {σ : Type} (access : ExtensionAccess σ) {x : ExtensionType σ} {c : σ}
    (h : x.ifMissing.run c = .ok () c) : (extensionIsMissing access x).run c = .ok () c := by
  show (if _ then _ else if _ then _ else _ : EStateM Err σ Unit) c = _
  split
  · rfl
  split
  · rfl
  · exact h

lemma missing_serverExtensionTypes (hems : c.emsNegotiated = false) (hretry : c.isHelloRetryMessage = false) :
    ∀ x ∈ serverExtensionTypes (plainEnv policy) c, x.ianaValue ∈ supportedExtensions ∧
      (x.ianaValue = Extension.supportedVersions ∨ x.ifMissing.run c = .ok () c) := by
  have hnoop : (serverEmsExtension (plainEnv policy)).ifMissing.run c = .ok () c := by
    show (if _ then _ else _ : HelloM Unit Unit) c = _
    rw [if_pos hems]
    rfl
  intro x hx
  rw [serverExtensionTypes, if_neg (by simp [hretry])] at hx
  split at hx
  · simp only [tls13ServerHelloExtensions, List.mem_cons, List.not_mem_nil, or_false] at hx
    obtain rfl | rfl | rfl := hx
    · exact ⟨of_decide_eq_true rfl, .inl rfl⟩
    all_goals exact ⟨of_decide_eq_true rfl, .inr rfl⟩
  · simp only [tls12ServerHelloExtensions, List.mem_cons, List.not_mem_nil, or_false] at hx
    obtain rfl | rfl | rfl | rfl | rfl | rfl | rfl | rfl | rfl | rfl | rfl := hx
    · exact ⟨of_decide_eq_true rfl, .inl rfl⟩
    case inr.inr.inr.inr.inr.inr.inr.inr.inr.inl => exact ⟨of_decide_eq_true rfl, .inr hnoop⟩
    all_goals exact ⟨of_decide_eq_true rfl, .inr rfl⟩

lemma wp_serverExtensionTypes_ok (hems : c.emsNegotiated = false) (hretry : c.isHelloRetryMessage = false)
    {parsed : List ParsedExtension}
    (hparsed : ∀ e ∈ parsed, e.extensionType = Extension.supportedVersions) (hok : Q () c) :
    wp (extensionListProcess helloExtensionAccess (serverExtensionTypes (plainEnv policy) c)
      { parsed := parsed, processed := [Extension.supportedVersions] }) Q R c := by
  refine wp_extensionListProcess_missing _ _ (fun x hx => ?_) hok
  obtain ⟨hknown, hx⟩ := missing_serverExtensionTypes hems hretry x hx
  refine ⟨hknown, ?_⟩
  by_cases hsupported : x.ianaValue = Extension.supportedVersions
  · exact .inl (by simp [hsupported])
  · exact .inr ⟨fun e he h => hsupported (h ▸ hparsed e he),
      extensionIsMissing_of_noop _ (hx.resolve_left hsupported)⟩

/-- A message without extensions. -/
lemma wp_serverExtensionsRecv_nil (hnull : c.io.blob.isNull = false) (hun : c.io.unread = [])
    (hems : c.emsNegotiated = false)
    (hretry : c.isHelloRetryMessage = false) (hok : ∀ u : Stuffer, Q () { c with io := u }) :
    wp (serverExtensionsRecv (plainEnv policy)) Q R c := by
  have hdec : decodeExtensionList c.io.unread = some ([], []) := by
    rw [hun]
    exact decodeExtensionList_nil
  unfold serverExtensionsRecv
  rw [wp_bind]
  refine wp_onHelloIo_of (wp_mono_ok (fun parsed u hu => ?_)
    (wp_extensionListParse_ok hnull hdec List.nodup_nil))
  obtain rfl : parsed = [] := List.map_eq_nil_iff.mp hu.2.2
  rw [wp_bind]
  unfold extensionProcess
  refine wp_ensured (of_decide_eq_true rfl) ?_
  rw [if_neg (by simp)]
  show wp (extensionIsMissing _ _ >>= _) _ _ _
  rw [wp_bind, wp_of_ok (extensionIsMissing_of_noop _ rfl), wp_pure, wp_read]
  exact wp_serverExtensionTypes_ok (c := { c with io := u }) hems hretry
    (fun _ h => absurd h List.not_mem_nil) (hok u)

lemma wp_serverSupportedVersionsRecv_ok {t : Stuffer}
    (hversion : tls13 ≤ c.protocolVersion) (hclient : c.clientProtocolVersion = tls13)
    (hhandshake : c.isHelloRetryHandshake = false) (hlen : 2 ≤ t.unread.length)
    (hbody : versionOf t.unread = tls13) (hok : Q () { c with serverProtocolVersion := tls13 }) :
    wp (serverSupportedVersionsRecv (plainEnv policy) t) Q R c := by
  have hmin : minimumSupportedVersion (plainEnv policy) c ≤ tls13 := by
    unfold minimumSupportedVersion
    have := policy.minimum_le_tls13
    split
    · exact max_le this le_rfl
    · exact this
  rw [unread_length] at hlen
  unfold serverSupportedVersionsRecv
  rw [wp_read, if_neg (Nat.not_lt.mpr hversion), wp_failWith]
  unfold serverSupportedVersionsProcess
  rw [wp_read, hclient]
  refine wp_ensured hmin ?_
  rw [wp_bind, wp_onLocal, wp_readBytes_of_le (isNull_eq_false_of_pos (by omega)) hlen]
  dsimp only
  rw [versionOf_take, hbody, wp_bind]
  refine wp_skipped (fun h => absurd h.1 (by simp [hhandshake])) ?_
  refine wp_ensured le_rfl ?_
  refine wp_ensured le_rfl ?_
  refine wp_ensured hmin ?_
  rw [wp_modify]
  exact hok

/-- A message with supported_versions and no other extension, to a client of TLS1.3. -/
lemma wp_serverExtensionsRecv_supportedVersions {body : List UInt8} (hnull : c.io.blob.isNull = false)
    (hun : c.io.unread = encodeExtensionList [(Extension.supportedVersions, body)])
    (hems : c.emsNegotiated = false) (hretry : c.isHelloRetryMessage = false)
    (hhandshake : c.isHelloRetryHandshake = false)
    (hsent : c.extensionBits.requestsSent Extension.supportedVersions = true)
    (hversion : tls13 ≤ c.protocolVersion) (hclient : c.clientProtocolVersion = tls13)
    (hlen : 2 ≤ body.length) (hsize : body.length < 2 ^ 15) (hbody : versionOf body = tls13)
    (hok : ∀ (u : Stuffer) (b : ExtensionBits),
      Q () { c with io := u, serverProtocolVersion := tls13, extensionBits := b }) :
    wp (serverExtensionsRecv (plainEnv policy)) Q R c := by
  have hdec : decodeExtensionList c.io.unread = some ([(Extension.supportedVersions, body)], []) := by
    rw [hun, ← List.append_nil (encodeExtensionList _)]
    refine decodeExtensionList_encode ?_ ?_ []
    · simp [EncodableExtension, Extension.supportedVersions]
      omega
    · simp [encodeExtension]
      omega
  have hknown : knownExtensions [(Extension.supportedVersions, body)] =
      [(Extension.supportedVersions, body)] := rfl
  unfold serverExtensionsRecv
  rw [wp_bind]
  refine wp_onHelloIo_of (wp_mono_ok (fun parsed u hu => ?_)
    (wp_extensionListParse_ok hnull hdec (by rw [hknown]; simp)))
  obtain ⟨e, rfl, he⟩ := List.map_eq_singleton_iff.mp (hu.2.2.trans hknown)
  obtain ⟨htype, hbytes⟩ := Prod.mk.inj he
  have hfind : [e].find? (fun e => e.extensionType =
      (serverSupportedVersionsExtension (plainEnv policy)).ianaValue) = some e := by
    rw [List.find?_cons_of_pos]
    exact decide_eq_true htype
  rw [wp_bind]
  unfold extensionProcess
  refine wp_ensured (of_decide_eq_true rfl) ?_
  rw [if_neg (by simp), wp_bind]
  unfold extensionProcessImpl
  rw [hfind]
  dsimp only
  unfold extensionRecv
  rw [wp_read]
  refine wp_ensured (fun _ => hsent) ?_
  rw [show (serverSupportedVersionsExtension (plainEnv policy)).minimumVersion = 0 from rfl,
    if_neg (Nat.not_lt_zero _), wp_bind]
  show wp (serverSupportedVersionsRecv (plainEnv policy) _) _ _ _
  refine wp_serverSupportedVersionsRecv_ok (c := { c with io := u }) hversion hclient hhandshake
    (by rw [unread_initWritten, hbytes]; exact hlen) (by rw [unread_initWritten, hbytes, hbody]) ?_
  rw [wp_modify, wp_pure, wp_read]
  refine wp_serverExtensionTypes_ok (c := { c with
    io := u, serverProtocolVersion := tls13,
    extensionBits := c.extensionBits.receive (serverSupportedVersionsExtension (plainEnv policy)) })
    hems hretry (fun x hx => ?_) (hok u _)
  rw [List.mem_singleton.mp hx]
  exact htype

/-! ### The type of the handshake -/

/-- What a client without options brings to the choice of the type of the handshake. -/
structure PlainForType (c : HelloConn Unit) : Prop where
  mode : c.mode = .client
  psk : c.chosenPsk = none
  earlyData : c.earlyDataState = .notRequested
  npn : c.npnNegotiated = false
  ocsp : c.statusTypeOcsp = false
  resumed : c.clientSessionResumed = false
  kex : c.cipherSuite.keyExchangeAlg ≠ none
  handshakeType : c.handshakeType = HandshakeType.initial
  messageNumber : c.messageNumber = 1
  stateMachine : c.stateMachine = .initial

lemma wp_setFullHandshakeType_ok (hmode : c.mode = .client) (hresumed : c.clientSessionResumed = false)
    (hocsp : c.statusTypeOcsp = false) (hmachine : c.stateMachine = .tls12)
    (hversion : c.protocolVersion < tls13) {ephemeral : Bool}
    (hkex : c.cipherSuite.keyExchangeAlg = some ephemeral)
    (hok : Q () { c with handshakeType := c.handshakeType ||| HandshakeType.fullHandshake |||
      if ephemeral then HandshakeType.tls12PerfectForwardSecrecy else 0 }) :
    wp (setFullHandshakeType (plainEnv policy)) Q R c := by
  unfold setFullHandshakeType
  rw [wp_read, if_neg (by simp [hresumed]), wp_bind]
  unfold generateNewClientSessionId
  rw [wp_read]
  refine wp_skipped (fun h => absurd (hmode.symm.trans h) (by decide)) ?_
  rw [wp_bind, handshakeTypeSetFlag, wp_modify, wp_read]
  dsimp only
  rw [hkex]
  dsimp only
  -- the end of the function, in the state the flag for ephemeral keys leaves
  have hend : ∀ n, Q () { c with handshakeType := n } → wp (do
        let c ← (get : HelloM Unit (HelloConn Unit))
        let ocsp := c.statusTypeOcsp && (c.mode = .client || (plainEnv policy).ocspStatus)
        when (ocsp = true) (handshakeTypeSetTls12Flag HandshakeType.ocspStatus)) Q R
        { c with handshakeType := n } := by
    intro n hn
    rw [wp_read, wp_when]
    exact ⟨fun h => absurd h (by simp [hocsp]), fun _ => hn⟩
  rw [wp_bind, wp_when]
  cases ephemeral with
  | true =>
    exact ⟨fun _ => wp_handshakeTypeSetTls12Flag hversion hmachine (hend _ hok), fun h => absurd rfl h⟩
  | false =>
    refine ⟨fun h => Bool.noConfusion h, fun _ => hend _ ?_⟩
    simpa using hok

lemma wp_setTls12HandshakeType_ok (hmode : c.mode = .client) (hresumed : c.clientSessionResumed = false)
    (hnpn : c.npnNegotiated = false) (hocsp : c.statusTypeOcsp = false)
    (hmachine : c.stateMachine = .tls12) (hversion : c.protocolVersion < tls13) {ephemeral : Bool}
    (hkex : c.cipherSuite.keyExchangeAlg = some ephemeral)
    (hok : Q () { c with handshakeType := HandshakeType.initial ||| HandshakeType.negotiated |||
      HandshakeType.fullHandshake ||| if ephemeral then HandshakeType.tls12PerfectForwardSecrecy else 0 }) :
    wp (setTls12HandshakeType (plainEnv policy)) Q R c := by
  unfold setTls12HandshakeType
  rw [wp_update, wp_bind, handshakeTypeSetFlag, wp_modify, wp_read, wp_bind]
  refine wp_skipped (by simp [hmode, expectsClientAuth, plainEnv]) ?_
  rw [wp_read, wp_bind]
  refine wp_skipped (by simp [hnpn]) ?_
  rw [if_neg (by simp [plainEnv]), wp_bind]
  refine wp_skipped (fun h => absurd h.1 (by simp [plainEnv])) ?_
  unfold resumeOrSetFullHandshakeType
  rw [wp_read, if_neg (fun h => absurd (hmode.symm.trans h.2.1) (by decide))]
  exact wp_setFullHandshakeType_ok hmode hresumed hocsp hmachine hversion hkex hok

lemma wp_setTls13HandshakeType_ok (hmode : c.mode = .client) (hpsk : c.chosenPsk = none)
    (hearly : c.earlyDataState = .notRequested) (htype : c.handshakeType = HandshakeType.initial)
    (hmachine : c.stateMachine = .tls13)
    (hok : ∀ n, n = HandshakeType.negotiated ||| HandshakeType.fullHandshake ∨
        n = HandshakeType.negotiated ||| HandshakeType.fullHandshake ||| HandshakeType.middleboxCompat →
      Q () { c with handshakeType := n }) :
    wp (setTls13HandshakeType (plainEnv policy)) Q R c := by
  unfold setTls13HandshakeType
  rw [wp_update, wp_bind, handshakeTypeSetFlag, wp_modify, wp_read, wp_bind, wp_when, htype]
  refine ⟨fun _ => ?_, fun h => absurd hpsk h⟩
  rw [handshakeTypeSetFlag, wp_modify, wp_read, wp_bind]
  refine wp_skipped (by simp [hearly]) ?_
  rw [wp_read, wp_bind]
  refine wp_skipped (fun h => absurd h.1 (by simp [hmode, expectsClientAuth, plainEnv])) ?_
  rw [wp_read, wp_read, wp_when]
  dsimp only
  refine ⟨fun h => ?_, fun _ => hok _ (.inl (by decide))⟩
  unfold handshakeTypeSetTls13Flag
  rw [wp_read]
  refine wp_ensured h.1 ?_
  rw [wp_bind, handshakeTypeSetFlag, wp_modify]
  unfold chooseStateMachine
  refine wp_ensured (by decide) ?_
  rw [if_pos rfl, wp_read]
  refine wp_ensured (by simp [hmachine]) ?_
  rw [wp_modify]
  have hsame : ∀ n, ({ c with handshakeType := n, stateMachine := .tls13 } : HelloConn Unit) =
      { c with handshakeType := n } := fun n => by rw [← hmachine]
  dsimp only
  rw [hsame]
  exact hok _ (.inr (by decide))

/-- **The type of the handshake of a plain client** is chosen without an error, and the message at
hand stays a ServerHello. -/
lemma wp_setHandshakeType_ok (hc : PlainForType c)
    (hunknown : c.actualProtocolVersion ≠ versionUnknown) (hle : c.actualProtocolVersion ≤ tls13) :
    wp (setHandshakeType (plainEnv policy)) (fun _ d => d.isHelloRetryMessage = false)
      noError c := by
  obtain ⟨ephemeral, hkex⟩ := Option.ne_none_iff_exists'.mp hc.kex
  have hversion : c.protocolVersion = c.actualProtocolVersion := if_pos hunknown
  have hne : c.stateMachine ≠ .tls12 ∧ c.stateMachine ≠ .tls13 := by rw [hc.stateMachine]; decide
  unfold setHandshakeType chooseStateMachine
  rw [wp_read, wp_bind]
  refine wp_ensured hunknown ?_
  by_cases htls13 : c.actualProtocolVersion = tls13
  · rw [if_pos htls13, wp_read]
    refine wp_ensured hne.1 ?_
    rw [wp_modify, wp_read, if_pos rfl]
    refine wp_setTls13HandshakeType_ok hc.mode hc.psk hc.earlyData hc.handshakeType rfl fun n hn => ?_
    unfold HelloConn.isHelloRetryMessage HelloConn.activeMessage
    dsimp only
    rw [hc.messageNumber]
    obtain rfl | rfl := hn <;> exact decide_eq_false (by decide)
  · rw [if_neg htls13, wp_read]
    refine wp_ensured hne.2 ?_
    rw [wp_modify, wp_read, if_neg (by simp)]
    refine wp_setTls12HandshakeType_ok hc.mode hc.resumed hc.npn hc.ocsp rfl ?_ hkex ?_
    · show c.protocolVersion < tls13
      omega
    · unfold HelloConn.isHelloRetryMessage HelloConn.activeMessage
      dsimp only
      rw [hc.messageNumber]
      cases ephemeral <;> exact decide_eq_false (by decide)

/-! ### Runs that succeed -/

lemma isHelloRetryHandshake_of_initial (h : c.handshakeType = HandshakeType.initial) :
    c.isHelloRetryHandshake = false := by
  simp [HelloConn.isHelloRetryHandshake, HelloConn.checkTls13Flag, HelloConn.checkFlag, h,
    HandshakeType.initial]

lemma wp_setCipherAsClient_ok (hfind : policy.find wire = some s) (havailable : s.suite.available = true)
    (hpsk : c.chosenPsk = none) (hretry : c.isHelloRetryHandshake = false)
    (hok : ∀ suite, suite.keyExchangeAlg ≠ none → Q () { c with cipherSuite := suite }) :
    wp (setCipherAsClient (plainEnv policy) wire) Q R c := by
  unfold setCipherAsClient
  rw [show (plainEnv policy).policy.find wire = some s from hfind]
  dsimp only
  refine wp_ensured havailable ?_
  rw [wp_read]
  refine wp_ensured (by simp [hpsk]) ?_
  rw [wp_read, if_neg (by simp [hretry])]
  unfold setCipherSuite
  rw [wp_update, wp_read, wp_when]
  refine ⟨fun _ => ?_, fun _ => hok _ s.kex_ne_none⟩
  obtain ⟨suite, hsuite, hkex⟩ := s.sslv3_kex
  rw [Option.mem_def.mp hsuite]
  dsimp only
  rw [wp_modify]
  exact hok suite hkex

lemma wp_clientEarlyData_ok (hearly : c.earlyDataState = .notRequested) (hok : Q () c) :
    wp (clientEarlyDataAcceptOrReject (plainEnv policy)) Q R c := by
  unfold clientEarlyDataAcceptOrReject
  rw [wp_read, wp_when]
  exact ⟨fun h => absurd h.1 (by simp [hearly]), fun _ => hok⟩

lemma wp_serverHelloLegacy_ok {legacy : ℕ}
    (hchecked : LegacyChecked (plainEnv policy) c.clientProtocolVersion c.quicEnabled c.serverRandom
      legacy) (hfind : policy.find wire = some s) (havailable : s.suite.available = true)
    (hpsk : c.chosenPsk = none) (htype : c.handshakeType = HandshakeType.initial)
    (hearly : c.earlyDataState = .notRequested)
    (hok : ∀ suite, suite.keyExchangeAlg ≠ none → Q () { c with
      serverProtocolVersion := legacy, actualProtocolVersion := legacy, sessionId := [],
      cipherSuite := suite, masterSecret := List.replicate 48 0, clientTicket := [] }) :
    wp (serverHelloLegacy (plainEnv policy) legacy [] wire false) Q R c := by
  unfold serverHelloLegacy
  rw [wp_update, wp_bind, wp_failWith]
  have hdetect : wp clientDetectDowngradeMechanism (fun _ d => d = { c with serverProtocolVersion := legacy })
      noError { c with serverProtocolVersion := legacy } := by
    unfold clientDetectDowngradeMechanism
    rw [wp_read]
    split
    · rename_i h
      rw [wp_ensure]
      exact ⟨fun _ => rfl, fun hne => hne (hchecked.tls12 h.1 h.2)⟩
    split
    · rename_i h
      rw [wp_ensure]
      exact ⟨fun _ => rfl, fun hne => hne (hchecked.tls11 h.1 h.2)⟩
    · rfl
  refine wp_sure (fun _ d hd => ?_) hdetect
  subst hd
  rw [wp_read]
  refine wp_ensured hchecked.quic ?_
  rw [wp_read]
  refine wp_seq_ensure (fun _ => ?_) fun h =>
    absurd (isHelloRetryHandshake_of_initial (c := { c with serverProtocolVersion := legacy }) htype) h
  rw [wp_read]
  refine wp_ensured (by simp [hearly]) ?_
  unfold checkLegacyVersion
  rw [wp_bind, wp_read,
    if_neg (not_or.mpr ⟨Nat.not_lt.mpr hchecked.minimum_le, Nat.not_lt.mpr hchecked.le_client⟩),
    wp_modify]
  unfold serverHelloSession
  rw [if_neg Bool.false_ne_true, wp_update, wp_bind]
  refine wp_setCipherAsClient_ok hfind havailable hpsk (isHelloRetryHandshake_of_initial htype)
    fun suite hkex => ?_
  rw [wp_update, wp_modify]
  dsimp only
  rw [Nat.min_eq_left hchecked.le_client]
  exact hok suite hkex

lemma wp_serverHelloTls13_ok (hfind : policy.find wire = some s) (havailable : s.suite.available = true)
    (hid : c.sessionId = []) (hrenegotiation : c.renegotiation = false) (hpsk : c.chosenPsk = none)
    (htype : c.handshakeType = HandshakeType.initial)
    (hok : ∀ suite, suite.keyExchangeAlg ≠ none → Q () { c with
      actualProtocolVersion := c.serverProtocolVersion, cipherSuite := suite, clientTicket := [] }) :
    wp (serverHelloTls13 (plainEnv policy) [] wire false) Q R c := by
  unfold serverHelloTls13
  rw [wp_read]
  refine wp_ensured hrenegotiation ?_
  refine wp_ensured (.inr ⟨rfl, hid⟩) ?_
  rw [wp_update, wp_bind]
  refine wp_setCipherAsClient_ok hfind havailable hpsk (isHelloRetryHandshake_of_initial htype)
    fun suite hkex => ?_
  rw [wp_modify]
  exact hok suite hkex

/-- The end of `s2n_server_hello_recv` on a plain client. -/
lemma wp_afterParse_ok (hc : PlainForType c)
    (hunknown : c.actualProtocolVersion ≠ versionUnknown) (hle : c.actualProtocolVersion ≤ tls13) :
    wp (do
      modify ({ · with actualProtocolVersionEstablished := true })
      setHandshakeType (plainEnv policy)
      if (← get).isHelloRetryMessage then serverHelloRetryRecv (plainEnv policy)
      else
        let c ← get
        when (c.actualProtocolVersion < tls13 ∧ c.isResumptionHandshake = true)
          (onRest (plainEnv policy).prfKeyExpansion)
        onRest (plainEnv policy).updateRequiredHandshakeHashes)
      (fun _ d => d.versions = c.versions) noError c := by
  rw [wp_update]
  refine wp_mono (fun _ d hd => congrArg HelloSteady.versions hd.1) (fun _ _ h => h.2)
    (wp_and ((frames_afterParse (plainEnv policy)).wp (fun _ _ h => h) fun _ _ _ => trivial) ?_)
    (Q := fun _ d => d.steady = _ ∧ True) (R := fun _ _ => True ∧ False)
  rw [wp_bind]
  refine wp_mono_ok (fun _ d hd => ?_)
    (wp_setHandshakeType_ok (c := { c with actualProtocolVersionEstablished := true })
      ⟨hc.mode, hc.psk, hc.earlyData, hc.npn, hc.ocsp, hc.resumed, hc.kex, hc.handshakeType,
        hc.messageNumber, hc.stateMachine⟩ hunknown hle)
  rw [wp_read, if_neg (by simp [hd]), wp_read, wp_bind, wp_when]
  exact ⟨fun _ => trivial, fun _ => trivial⟩

lemma wp_serverHelloParse_ok {client : ℕ} {quicEnabled : Bool} (henc : EncodableServerHello h) (hid : h.sessionId = [])
    (hrandom : h.random ≠ helloRetryReqRandom) (hnull : io.blob.isNull = false)
    (hun : io.unread = encodeServerHello h)
    (hok : ∀ u : Stuffer, u.unread = h.extensionBytes → u.blob.isNull = false → wp (do
        serverExtensionsRecv (plainEnv policy)
        let c ← get
        ensure (c.isHelloRetryMessage = true →
          c.extensionBits.responsesReceived Extension.supportedVersions = true) .missingExtension
        if tls13 ≤ c.serverProtocolVersion then
          serverHelloTls13 (plainEnv policy) [] h.cipherSuite false
          clientEarlyDataAcceptOrReject (plainEnv policy)
        else
          serverHelloLegacy (plainEnv policy) h.legacy [] h.cipherSuite false
          clientEarlyDataAcceptOrReject (plainEnv policy)) Q R
        { plainClient client quicEnabled u with serverRandom := h.random }) :
    wp (serverHelloParse (plainEnv policy)) Q R (plainClient client quicEnabled io) := by
  have hsplit : io.unread = h.legacyVersion ++ (h.random ++
      (beBytes 1 0 ++ (h.cipherSuite ++ (beBytes 1 0 ++ h.extensionBytes)))) := by
    rw [hun, encodeServerHello, hid, ServerHelloMsg.extensionBytes]
    simp only [List.append_assoc, List.length_nil, List.nil_append]
  unfold serverHelloParse
  rw [wp_bind]
  refine wp_readVersionAndRandom_ok hnull hsplit henc.legacyVersion henc.random hrandom
    fun u hu hunull => ?_
  rw [wp_bind]
  refine wp_readSessionIdAndCipher_ok hunull hu henc.cipherSuite fun w hw hwnull => ?_
  dsimp only
  rw [wp_read, wp_bind]
  refine wp_taken rfl ?_
  rw [wp_modify]
  exact hok w hw hwnull

/-- What a plain client is after it has accepted a message. -/
structure AcceptedBy (policy : HelloPolicy) (c d : HelloConn Unit) (version : ℕ) : Prop where
  run : (serverHelloRecv (plainEnv policy)).run c = .ok () d
  actual : d.actualProtocolVersion = version
  notResumed : d.clientSessionResumed = false

lemma AcceptedBy.of_wp {version : ℕ} (h : wp (serverHelloRecv (plainEnv policy))
    (fun _ d => d.actualProtocolVersion = version ∧ d.clientSessionResumed = false) noError c) :
    ∃ d, AcceptedBy policy c d version := by
  obtain ⟨_, d, hrun, hactual, hresumed⟩ := exists_ok_of_wp h
  exact ⟨d, hrun, hactual, hresumed⟩

/-- **Below TLS1.3 every message is accepted that passes the checks.** -/
theorem plainClient_accepts_legacy {client : ℕ} {quicEnabled : Bool}
    (henc : EncodableServerHello h) (hid : h.sessionId = [])
    (hexts : h.extensions = []) (hrandom : h.random ≠ helloRetryReqRandom)
    (hchecked : LegacyChecked (plainEnv policy) client quicEnabled h.random h.legacy)
    (hclient : client ≤ tls13) (hfind : policy.find h.cipherSuite = some s)
    (havailable : s.suite.available = true) (hnull : io.blob.isNull = false)
    (hun : io.unread = encodeServerHello h) :
    ∃ d, AcceptedBy policy (plainClient client quicEnabled io) d h.legacy := by
  have hsslv3 : sslv3 ≤ h.legacy := policy.sslv3_le_minimum.trans hchecked.minimum_le
  have hle : h.legacy ≤ tls13 := hchecked.le_client.trans hclient
  have hunknown : h.legacy ≠ versionUnknown := by
    unfold sslv3 at hsslv3
    unfold versionUnknown
    omega
  refine AcceptedBy.of_wp ?_
  unfold serverHelloRecv
  rw [wp_bind]
  refine wp_serverHelloParse_ok henc hid hrandom hnull hun fun u hu hunull => ?_
  have hnil : u.unread = [] := by rw [hu, ServerHelloMsg.extensionBytes, if_pos hexts]
  rw [wp_bind]
  refine wp_serverExtensionsRecv_nil hunull hnil rfl rfl fun w => ?_
  rw [wp_read]
  refine wp_ensured (fun hret => Bool.noConfusion hret) ?_
  rw [if_neg, wp_bind]
  swap
  · exact (by decide : ¬ tls13 ≤ versionUnknown)
  refine wp_serverHelloLegacy_ok hchecked hfind havailable rfl rfl rfl fun suite hkex => ?_
  refine wp_clientEarlyData_ok rfl ?_
  refine wp_mono_ok (fun _ d hd => ?_)
    (wp_afterParse_ok ⟨rfl, rfl, rfl, rfl, rfl, rfl, hkex, rfl, rfl, rfl⟩ hunknown hle)
  exact ⟨congrArg HelloVersions.actual hd, congrArg HelloVersions.resumed hd⟩

/-- **In TLS1.3 every message is accepted that selects it in supported_versions**, with any suite of
the policy that is there. -/
theorem plainClient_accepts_tls13 (quicEnabled : Bool) {body : List UInt8} (henc : EncodableServerHello h)
    (hid : h.sessionId = []) (hexts : h.extensions = [(Extension.supportedVersions, body)])
    (hlen : 2 ≤ body.length) (hsize : body.length < 2 ^ 15) (hbody : versionOf body = tls13)
    (hrandom : h.random ≠ helloRetryReqRandom) (hfind : policy.find h.cipherSuite = some s)
    (havailable : s.suite.available = true) (hnull : io.blob.isNull = false)
    (hun : io.unread = encodeServerHello h) :
    ∃ d, AcceptedBy policy (plainClient tls13 quicEnabled io) d tls13 := by
  refine AcceptedBy.of_wp ?_
  unfold serverHelloRecv
  rw [wp_bind]
  refine wp_serverHelloParse_ok henc hid hrandom hnull hun fun u hu hunull => ?_
  have hbytes : u.unread = encodeExtensionList [(Extension.supportedVersions, body)] := by
    rw [hu, ServerHelloMsg.extensionBytes, if_neg (by simp [hexts]), hexts]
  rw [wp_bind]
  refine wp_serverExtensionsRecv_supportedVersions hunull hbytes rfl rfl
    (isHelloRetryHandshake_of_initial rfl) rfl le_rfl rfl hlen hsize hbody fun w b => ?_
  rw [wp_read]
  refine wp_ensured (fun hret => Bool.noConfusion hret) ?_
  rw [if_pos le_rfl, wp_bind]
  refine wp_serverHelloTls13_ok hfind havailable rfl rfl rfl rfl fun suite hkex => ?_
  refine wp_clientEarlyData_ok rfl ?_
  refine wp_mono_ok (fun _ d hd => ?_)
    (wp_afterParse_ok ⟨rfl, rfl, rfl, rfl, rfl, rfl, hkex, rfl, rfl, rfl⟩
      (show tls13 ≠ versionUnknown by decide) (le_refl tls13))
  exact ⟨congrArg HelloVersions.actual hd, congrArg HelloVersions.resumed hd⟩

end Accepts

end S2nTls
