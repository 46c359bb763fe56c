import S2nTls.Tls.HelloFrames
import S2nTls.Tls.ServerHelloFormat

/-!
What a client has checked when it accepts a ServerHello or a HelloRetryRequest, in terms of the
fields of the message.
-/

namespace S2nTls

open Lib Stuffer

section Spec

variable {R : Type} {c : HelloConn R} (env : HelloEnv R)

/-! ### Extensions -/

lemma minimum_le_minimumSupportedVersion (c : HelloConn R) :
    env.policy.minimumProtocolVersion ≤ minimumSupportedVersion env c := by
  unfold minimumSupportedVersion
  split <;> simp

/-- A selected version that the handler of supported_versions lets through. -/
structure SelectionOk (v : HelloVersions) (body : List UInt8) : Prop where
  two_le : 2 ≤ body.length
  minimum_le : env.policy.minimumProtocolVersion ≤ versionOf body
  tls13_le : tls13 ≤ versionOf body
  le_client : versionOf body ≤ v.client

/-- The version of the server after the extensions were processed. -/
def selectedVersion (c : HelloConn R) (body : Option (List UInt8)) : ℕ :=
  if c.protocolVersion < tls13 then c.serverProtocolVersion
  else match body with
    | none => c.serverProtocolVersion
    | some body => versionOf body % 256

/-- **Selecting a version.** The handler of supported_versions changes the version of the server,
to one that fits. -/
lemma wp_serverSupportedVersionsRecv (t : Stuffer) (c : HelloConn R) :
    wp (serverSupportedVersionsRecv env t)
      (fun _ d => d.core = c.core.setServer (selectedVersion c (some t.unread)) ∧
        (tls13 ≤ c.protocolVersion → SelectionOk env c.versions t.unread))
      anyError c := by
  unfold serverSupportedVersionsRecv
  rw [wp_read, wp_ite]
  refine ⟨fun hlt => ?_, fun hlt => ?_⟩
  · rw [wp_pure, selectedVersion, if_pos hlt]
    exact ⟨rfl, fun h => absurd h (by omega)⟩
  · rw [wp_failWith]
    unfold serverSupportedVersionsProcess
    rw [wp_read]
    refine wp_checked fun _ => ?_
    rw [wp_bind, wp_onLocal]
    by_cases hlen : 2 ≤ t.dataAvailable
    swap
    · rw [wp_readBytes_of_lt hlen]
      trivial
    rw [wp_readBytes_of_le (isNull_eq_false_of_pos (by omega)) hlen]
    dsimp only
    rw [versionOf_take]
    have hretry : wp (when (c.isHelloRetryHandshake = true ∧ c.isHelloRetryMessage = false)
        (ensure (c.serverProtocolVersion = versionOf t.unread) Err.badMessage)) (fun _ d => d = c)
        anyError c := by simp
    refine wp_tried hretry fun _ d hd => ?_
    subst hd
    refine wp_checked fun htls13 => ?_
    refine wp_checked fun hclient => ?_
    refine wp_checked fun hmin => ?_
    rw [wp_modify, selectedVersion, if_neg hlt]
    exact ⟨rfl, fun _ => ⟨by simpa using hlen, (minimum_le_minimumSupportedVersion env d).trans hmin, htls13, hclient⟩⟩

/-- Handlers that the negotiation does not see. -/
lemma respects_of_frames {x : ExtensionType (HelloConn R)} (hrecv : ∀ t, Frames HelloConn.core (x.recv t))
    (hmissing : Frames HelloConn.core x.ifMissing) (k : HelloCore) :
    x.Respects (fun c => c.core = k) :=
  ⟨fun t => (hrecv t).keeps (· = k), hmissing.keeps (· = k)⟩

lemma respects_restExtension (ianaValue minimumVersion : ℕ) (k : HelloCore) :
    (restExtension env ianaValue minimumVersion).Respects (fun c => c.core = k) :=
  respects_of_frames (fun _ => frames_onRest (fun _ _ => rfl) _) (.pure _) k

variable (k : HelloCore)

lemma respects_serverEmsExtension :
    (serverEmsExtension env).Respects (fun c => c.core = k) := by
  refine respects_of_frames (fun _ => ?_) ?_ k
  · exact .checked <| .modify fun _ => rfl
  · refine .read fun _ => ?_
    exact .ensure _ _

lemma respects_serverNpnExtension :
    (serverNpnExtension env).Respects (fun c => c.core = k) := by
  refine respects_of_frames (fun _ => ?_) (.pure _) k
  refine (frames_onRest (fun _ _ => rfl) _).bind fun _ => .when ?_
  exact .modify fun _ => rfl

lemma respects_serverCookieExtension :
    (serverCookieExtension env).Respects (fun c => c.core = k) := by
  refine respects_of_frames (fun _ => ?_) (.pure _) k
  refine .read fun _ => .checked ?_
  exact frames_onRest (fun _ _ => rfl) _

lemma respects_serverPskExtension :
    (serverPskExtension env).Respects (fun c => c.core = k) := by
  refine respects_of_frames (fun t => ?_) (.pure _) k
  refine .read fun _ => .checked <|
    .bind (.runLocal _ _) fun r => .read fun _ => ?_
  split
  · exact .throw _
  · exact .modify fun _ => rfl

/-- Every handler but that of supported_versions. -/
lemma respects_serverExtensionTypes (c : HelloConn R) (k : HelloCore) :
    ∀ x ∈ serverExtensionTypes env c, x.ianaValue ≠ Extension.supportedVersions →
      x.Respects (fun c => c.core = k) := by
  have hrest := fun n v => respects_restExtension env n v k
  have hrenegotiation : (serverRenegotiationInfoExtension env).Respects (fun c => c.core = k) :=
    respects_of_frames (fun _ => frames_onRest (fun _ _ => rfl) _)
      (frames_onRest (fun _ _ => rfl) _) k
  have hec : (serverEcPointFormatExtension env).Respects (fun c => c.core = k) :=
    respects_of_frames (fun _ => .pure _) (.pure _) k
  have hstatus : (certStatusResponseExtension env).Respects (fun c => c.core = k) := by
    refine respects_of_frames (fun _ => ?_) (.pure _) k
    exact .modify fun _ => rfl
  have hticket : (serverSessionTicketExtension env).Respects (fun c => c.core = k) := by
    refine respects_of_frames (fun _ => ?_) (.pure _) k
    exact .modify fun _ => rfl
  have hsupported : (serverSupportedVersionsExtension env).ianaValue = Extension.supportedVersions :=
    rfl
  intro x hx hne
  unfold serverExtensionTypes at hx
  split at hx
  · simp only [helloRetryRequestExtensions, List.mem_cons, List.not_mem_nil, or_false] at hx
    obtain rfl | rfl | rfl := hx
    exacts [absurd hsupported hne, respects_serverCookieExtension env k, hrest _ _]
  split at hx
  · simp only [tls13ServerHelloExtensions, List.mem_cons, List.not_mem_nil, or_false] at hx
    obtain rfl | rfl | rfl := hx
    exacts [absurd hsupported hne, hrest _ _, respects_serverPskExtension env k]
  · simp only [tls12ServerHelloExtensions, List.mem_cons, List.not_mem_nil, or_false] at hx
    obtain rfl | rfl | rfl | rfl | rfl | rfl | rfl | rfl | rfl | rfl | rfl := hx
    exacts [absurd hsupported hne, hrest _ _, hec, hrenegotiation, hrest _ _, hstatus, hrest _ _,
      hrest _ _, hticket, respects_serverEmsExtension env k, respects_serverNpnExtension env k]

/-- What supported_versions does to a client, if it is there. -/
structure VersionsSelected (env : HelloEnv R) (c d : HelloConn R) (selected : Option (List UInt8)) : Prop where
  core : d.core = c.core.setServer (selectedVersion c selected)
  selection : ∀ body, selected = some body → tls13 ≤ c.protocolVersion → SelectionOk env c.versions body

variable {exts : List (ℕ × List UInt8)}

/-- The first step of the processing: supported_versions. -/
lemma wp_extensionProcess_supportedVersions {parsed : List ParsedExtension}
    (h : parsed.map ParsedExtension.pair = knownExtensions exts)
    (c : HelloConn R) :
    wp (extensionProcess helloExtensionAccess (serverSupportedVersionsExtension env) { parsed := parsed })
      (fun l d => Extension.supportedVersions ∈ l.processed ∧
        VersionsSelected env c d (exts.lookup Extension.supportedVersions))
      anyError c := by
  have hfind := find_parsed parsed Extension.supportedVersions
  rw [h, lookup_knownExtensions (by decide)] at hfind
  refine wp_checked fun _ => ?_
  rw [if_neg (by simp), wp_bind]
  -- the processing itself, whatever is returned
  suffices hproc : wp (extensionProcessImpl helloExtensionAccess
      (serverSupportedVersionsExtension env) parsed)
      (fun _ d => VersionsSelected env c d (exts.lookup Extension.supportedVersions)) anyError c from
    wp_try (fun _ d hd => ⟨List.mem_cons_self, hd⟩) hproc
  rw [← hfind]
  unfold extensionProcessImpl
  cases hp : parsed.find? fun e => e.extensionType = Extension.supportedVersions with
  | none =>
    rw [show (serverSupportedVersionsExtension env).ianaValue = Extension.supportedVersions from rfl, hp]
    have hmissing : Frames HelloConn.core
        (extensionIsMissing helloExtensionAccess (serverSupportedVersionsExtension env)) :=
      .read fun _ => .ite (.pure _) (.ite (.pure _) (.pure _))
    refine hmissing.wp (fun _ d hd => ⟨?_, fun body hbody => by simp at hbody⟩) fun _ _ _ => trivial
    rw [hd]
    simp [selectedVersion]
    rfl
  | some e =>
    rw [show (serverSupportedVersionsExtension env).ianaValue = Extension.supportedVersions from rfl, hp]
    dsimp only
    unfold extensionRecv
    rw [wp_read]
    refine wp_checked fun _ => ?_
    rw [show (serverSupportedVersionsExtension env).minimumVersion = 0 from rfl, if_neg (Nat.not_lt_zero _)]
    refine wp_tried (wp_serverSupportedVersionsRecv env _ c) fun _ d hd => ?_
    rw [wp_modify]
    refine ⟨hd.1, fun body hbody => ?_⟩
    obtain rfl : e.extension.bytes = body := by simpa using hbody
    exact hd.2

lemma wp_serverExtensionsRecv (hio : c.io.blob.isNull = false) :
    wp (serverExtensionsRecv env)
      (fun _ d => ∃ exts rest, decodeExtensionList c.io.unread = some (exts, rest) ∧
        VersionsSelected env c d (exts.lookup Extension.supportedVersions))
      anyError c := by
  unfold serverExtensionsRecv onHelloIo
  rw [wp_bind, wp_zoom]
  refine wp_try (fun parsed u hu => ?_) (wp_extensionListParse hio)
  obtain ⟨-, exts, hexts, hparsed⟩ := hu
  refine wp_tried (wp_extensionProcess_supportedVersions env hparsed { c with io := u })
    fun l d hd => ?_
  obtain ⟨hdone, hcore, hok⟩ := hd
  rw [wp_read]
  have hkeeps : Keeps (fun e => e.core = d.core)
      (extensionListProcess helloExtensionAccess (serverExtensionTypes env d) l) :=
    extensionListProcess_keeps helloExtensionAccess (fun _ _ he => he) l fun x hx hnew =>
      respects_serverExtensionTypes env d _ x hx fun h => hnew (h ▸ hdone)
  refine wp_try (fun _ e he => ?_) (hkeeps d rfl)
  exact ⟨exts, u.unread, hexts, he.trans hcore, hok⟩

/-! ### The fields before the extensions -/

lemma wp_onHelloIo {α β : Type} {abs : α → β} {m : StufferM α} {p : Parser β} (h : Reads abs m p)
    (hio : c.io.blob.isNull = false) :
    wp (onHelloIo m)
      (fun a d => ∃ u : Stuffer, d = { c with io := u } ∧ u.blob.isNull = false ∧
        p c.io.unread = some (abs a, u.unread))
      anyError c := by
  unfold onHelloIo
  rw [wp_zoom]
  exact wp_try (fun a u hu => ⟨u, rfl, by rw [hu.2]; exact hio, hu.1⟩)
    (h c.io hio)

lemma wp_readVersionAndRandom (hio : c.io.blob.isNull = false) :
    wp readVersionAndRandom
      (fun legacy d => ∃ version random rest, Parser.bytes 2 c.io.unread = some (version, rest) ∧
        Parser.bytes tlsRandomDataLen rest = some (random, d.io.unread) ∧
        d.io.blob.isNull = false ∧ legacy = versionOf version % 256 ∧ d.serverRandom = random ∧
        d.versions = c.versions ∧ (c.Retried → d.Retried) ∧
        (random = helloRetryReqRandom → legacy = tls12))
      anyError c := by
  unfold readVersionAndRandom
  refine wp_tried (wp_onHelloIo (reads_readBytes 2) hio) fun version c₁ hc₁ => ?_
  obtain ⟨u₁, rfl, hio₁, hversion⟩ := hc₁
  refine wp_tried (wp_onHelloIo (reads_readBytes tlsRandomDataLen) hio₁) fun random c₂ hc₂ => ?_
  obtain ⟨u₂, rfl, hio₂, hrandom⟩ := hc₂
  rw [wp_update, wp_bind, wp_when]
  refine ⟨fun _ => ?_, fun hother => ?_⟩
  · rw [wp_read]
    refine wp_checked fun hretry => ?_
    refine wp_checked fun hlegacy => ?_
    refine frames_setHelloRetryRequired.wp (fun _ d hd => ?_) fun _ _ _ => trivial
    rw [wp_pure]
    have hd' : d.versions = c.versions ∧ d.serverRandom = random ∧ d.io = u₂ := by
      have h₁ := congrArg HelloSteady.versions hd
      have h₂ := congrArg HelloSteady.serverRandom hd
      have h₃ := congrArg HelloSteady.io hd
      exact ⟨h₁, h₂, h₃⟩
    obtain ⟨hv, hr, hi⟩ := hd'
    refine ⟨version, random, u₁.unread, hversion, by rw [hi]; exact hrandom, by rw [hi]; exact hio₂,
      rfl, hr, hv, fun hret => absurd hret.1 ?_, fun _ => hlegacy⟩
    exact Bool.eq_false_iff.mp hretry
  · rw [wp_pure]
    exact ⟨version, random, u₁.unread, hversion, hrandom, hio₂, rfl, rfl, rfl,
      fun hret => hret, fun hrandom => absurd hrandom hother⟩

/-- What is read between the random and the extensions. -/
structure ReadSessionAndCipher (bs rest sessionId cipherSuite : List UInt8) : Prop where
  parse : ∃ (r₀ r₁ r₂ : List UInt8) (compression : ℕ),
    Parser.uint 1 bs = some (sessionId.length, r₀) ∧
    Parser.bytes sessionId.length r₀ = some (sessionId, r₁) ∧
    Parser.bytes 2 r₁ = some (cipherSuite, r₂) ∧ Parser.uint 1 r₂ = some (compression, rest)

lemma wp_readSessionIdAndCipher (hio : c.io.blob.isNull = false) :
    wp readSessionIdAndCipher
      (fun r d => ∃ u : Stuffer, d = { c with io := u } ∧ u.blob.isNull = false ∧
        ReadSessionAndCipher c.io.unread u.unread r.1 r.2)
      anyError c := by
  unfold readSessionIdAndCipher
  refine wp_tried (wp_onHelloIo (reads_readUint 1) hio) fun n c₁ hc₁ => ?_
  obtain ⟨u₁, rfl, hio₁, hn⟩ := hc₁
  refine wp_checked fun _ => ?_
  refine wp_tried (wp_onHelloIo (reads_readBytes n) hio₁) fun sessionId c₂ hc₂ => ?_
  obtain ⟨u₂, rfl, hio₂, hsession⟩ := hc₂
  rw [wp_bind]
  unfold onHelloIo
  rw [wp_zoom]
  refine wp_try (fun o u₃ hu₃ => ?_)
    (wp_rawRead_bytes 2 hio₂ (R := fun _ _ => True))
  cases o with
  | none => exact trivial
  | some off =>
    have hcipher := hu₃.2 off rfl
    have hio₃ : u₃.blob.isNull = false := by rw [hu₃.1]; exact hio₂
    dsimp only
    rw [wp_read]
    refine wp_tried (wp_onHelloIo (reads_readUint 1) (c := { c with io := u₃ }) hio₃)
      fun compression c₄ hc₄ => ?_
    obtain ⟨u₄, rfl, hio₄, hcompression⟩ := hc₄
    refine wp_checked fun _ => ?_
    rw [wp_pure]
    obtain rfl : sessionId.length = n := (Parser.bytes_eq_some.mp hsession).2
    refine ⟨u₄, rfl, hio₄, ⟨_, _, _, compression, hn, hsession, ?_, hcompression⟩⟩
    rw [hu₃.1]
    exact hcipher

/-! ### The cipher suite -/

/-- The message names a suite of the policy that is there, and the one of an earlier
HelloRetryRequest if there was one. -/
structure CipherAccepted (c : HelloConn R) (wire : List UInt8) (s : PolicySuite) : Prop where
  find : env.policy.find wire = some s
  available : s.suite.available = true
  retried : c.Retried → c.cipherSuite = s.suite

lemma wp_setCipherAsClient (wire : List UInt8) (c : HelloConn R) :
    wp (setCipherAsClient env wire)
      (fun _ d => ∃ s suite, CipherAccepted env c wire s ∧
        d.versions = { c.versions with cipherSuite := suite } ∧
        (c.actualProtocolVersion ≠ sslv3 → suite = s.suite))
      anyError c := by
  unfold setCipherAsClient
  split
  · trivial
  rename_i s hfind
  refine wp_checked fun havailable => ?_
  rw [wp_read]
  refine wp_checked fun _ => ?_
  rw [wp_read]
  split
  · rw [wp_ensure]
    refine ⟨fun heq => ?_, fun _ => trivial⟩
    exact ⟨s, s.suite, ⟨hfind, havailable, fun _ => heq⟩, by rw [← heq]; rfl, fun _ => rfl⟩
  · rename_i hretried
    have hok : CipherAccepted env c wire s := ⟨hfind, havailable, fun h => absurd h hretried⟩
    unfold setCipherSuite
    rw [wp_update, wp_read, wp_when]
    refine ⟨fun hssl => ?_, fun _ => ?_⟩
    · split
      · trivial
      · rename_i suite _
        rw [wp_modify]
        exact ⟨s, suite, hok, rfl, fun h => absurd hssl h⟩
    · exact ⟨s, s.suite, hok, rfl, fun _ => rfl⟩

variable (sessionId wire : List UInt8) (sessionIdsMatch : Bool)

lemma wp_serverHelloTls13
    (hsel : tls13 ≤ c.serverProtocolVersion) :
    wp (serverHelloTls13 env sessionId wire sessionIdsMatch)
      (fun _ d => ∃ s, CipherAccepted env c wire s ∧ d.versions =
        { c.versions with actual := c.serverProtocolVersion, cipherSuite := s.suite })
      anyError c := by
  unfold serverHelloTls13
  rw [wp_read]
  refine wp_checked fun _ => ?_
  refine wp_checked fun _ => ?_
  rw [wp_update]
  refine wp_tried (wp_setCipherAsClient env wire _) fun _ d hd => ?_
  obtain ⟨s, suite, hok, hversions, hsuite⟩ := hd
  obtain rfl : suite = s.suite := hsuite (by
    show c.serverProtocolVersion ≠ sslv3
    unfold tls13 at hsel
    unfold sslv3
    omega)
  rw [wp_modify]
  refine ⟨s, ⟨hok.find, hok.available, fun hret => hok.retried ?_⟩, hversions⟩
  -- the version of the server is one that has retries, too
  obtain ⟨-, hflag⟩ := isHelloRetryHandshake_iff.mp hret.1
  refine ⟨isHelloRetryHandshake_iff.mpr ⟨?_, hflag⟩, hret.2⟩
  have hne : c.serverProtocolVersion ≠ versionUnknown := by
    unfold tls13 at hsel
    unfold versionUnknown
    omega
  simpa [HelloConn.protocolVersion, hne] using hsel

/-! ### A version below TLS1.3 -/

/-- The checks on a version from the legacy field. -/
structure LegacyChecked (client : ℕ) (quicEnabled : Bool) (random : List UInt8) (legacy : ℕ) :
    Prop where
  minimum_le : env.policy.minimumProtocolVersion ≤ legacy
  le_client : legacy ≤ client
  quic : quicEnabled = false
  tls12 : client = tls13 → legacy = tls12 → downgradeBytes random ≠ tls12DowngradeProtectionBytes
  tls11 : client = tls13 → legacy ≤ tls11 → downgradeBytes random ≠ tls11DowngradeProtectionBytes

lemma wp_clientDetectDowngradeMechanism (c : HelloConn R) :
    wp clientDetectDowngradeMechanism
      (fun _ d => d = c ∧ (c.clientProtocolVersion = tls13 → c.serverProtocolVersion = tls12 →
          downgradeBytes c.serverRandom ≠ tls12DowngradeProtectionBytes) ∧
        (c.clientProtocolVersion = tls13 → c.serverProtocolVersion ≤ tls11 →
          downgradeBytes c.serverRandom ≠ tls11DowngradeProtectionBytes))
      anyError c := by
  have hlt : tls11 < tls12 := by decide
  unfold clientDetectDowngradeMechanism
  rw [wp_read]
  split
  · rename_i h
    rw [wp_ensure]
    exact ⟨fun hne => ⟨rfl, fun _ _ => hne, fun _ hle => absurd hle (by omega)⟩, fun _ => trivial⟩
  split
  · rename_i h
    rw [wp_ensure]
    exact ⟨fun hne => ⟨rfl, fun _ heq => absurd heq (by omega), fun _ _ => hne⟩, fun _ => trivial⟩
  · rename_i h₁ h₂
    exact ⟨rfl, fun hc hs => absurd ⟨hc, hs⟩ h₁, fun hc hs => absurd ⟨hc, hs⟩ h₂⟩

lemma wp_checkLegacyVersion (c : HelloConn R) :
    wp (checkLegacyVersion env)
      (fun _ d => env.policy.minimumProtocolVersion ≤ c.serverProtocolVersion ∧
        c.serverProtocolVersion ≤ c.clientProtocolVersion ∧
        d = { c with actualProtocolVersion := c.serverProtocolVersion })
      anyError c := by
  unfold checkLegacyVersion
  rw [wp_read]
  split
  · rw [wp_bind, queueReaderAlert, wp_modify]
    trivial
  · rename_i h
    obtain ⟨hmin, hclient⟩ := not_or.mp h
    rw [wp_modify, Nat.min_eq_left (Nat.not_lt.mp hclient)]
    exact ⟨Nat.not_lt.mp hmin, Nat.not_lt.mp hclient, rfl⟩

lemma wp_serverHelloSession
    (c : HelloConn R) :
    wp (serverHelloSession env sessionId wire sessionIdsMatch)
      (fun _ d => ∃ suite resumed, d.versions = { c.versions with
          cipherSuite := suite, resumed := resumed } ∧
        (resumed = false → ∃ s, CipherAccepted env c wire s))
      anyError c := by
  unfold serverHelloSession
  split
  · rw [wp_read]
    refine wp_checked fun _ => ?_
    refine wp_checked fun _ => ?_
    rw [wp_modify]
    exact ⟨c.cipherSuite, true, rfl, fun h => Bool.noConfusion h⟩
  · rw [wp_update]
    refine wp_tried (wp_setCipherAsClient env wire _) fun _ d hd => ?_
    obtain ⟨s, suite, hok, hversions, -⟩ := hd
    rw [wp_update, wp_modify]
    exact ⟨suite, c.clientSessionResumed, hversions, fun _ => ⟨s, hok.find, hok.available, hok.retried⟩⟩

lemma wp_serverHelloLegacy (legacy : ℕ) (sessionId wire : List UInt8) (sessionIdsMatch : Bool)
    (hmode : c.mode = .client) :
    wp (serverHelloLegacy env legacy sessionId wire sessionIdsMatch)
      (fun _ d => LegacyChecked env c.clientProtocolVersion c.quicEnabled c.serverRandom legacy ∧
        ∃ suite resumed, d.versions = { c.versions with
          server := legacy, actual := legacy, cipherSuite := suite, resumed := resumed } ∧
        (resumed = false → ∃ s, CipherAccepted env c wire s))
      anyError c := by
  unfold serverHelloLegacy
  rw [wp_update, wp_bind, wp_failWith]
  refine wp_try (fun _ d hd => ?_) (wp_clientDetectDowngradeMechanism _)
  obtain ⟨rfl, htls12, htls11⟩ := hd
  rw [wp_read]
  refine wp_checked fun hquic => ?_
  rw [wp_read]
  refine wp_checked fun hretry => ?_
  rw [wp_read]
  refine wp_checked fun _ => ?_
  refine wp_tried (wp_checkLegacyVersion env _) fun _ d hd => ?_
  obtain ⟨hmin, hclient, rfl⟩ := hd
  refine wp_try (fun _ d hd => ?_) (wp_serverHelloSession env _ _ _ _)
  obtain ⟨suite, resumed, hversions, hcipher⟩ := hd
  refine ⟨⟨hmin, hclient, hquic, htls12, htls11⟩, suite, resumed, hversions, fun hres => ?_⟩
  obtain ⟨s, hok⟩ := hcipher hres
  refine ⟨s, hok.find, hok.available, fun hret => absurd hret.1 ?_⟩
  -- a client's version is not that of the server
  have hsame : ({ c with serverProtocolVersion := legacy } : HelloConn R).isHelloRetryHandshake =
      c.isHelloRetryHandshake := by
    simp [HelloConn.isHelloRetryHandshake, HelloConn.checkTls13Flag, HelloConn.protocolVersion,
      HelloConn.checkFlag, hmode]
  rw [← hsame]
  exact Bool.eq_false_iff.mp hretry

/-! ### The whole message -/

/-- **What is known of an accepted message**, with the versions and the cipher suite afterwards. -/
structure HelloAccepted (c : HelloConn R) (h : ServerHelloMsg) (v : HelloVersions) : Prop where
  client : v.client = c.clientProtocolVersion
  retry : h.random = helloRetryReqRandom → h.legacy = tls12
  supported : ∀ body, h.supportedVersions = some body → tls13 ≤ c.protocolVersion →
    SelectionOk env c.versions body
  selected : tls13 ≤ selectedVersion c h.supportedVersions →
    v.actual = selectedVersion c h.supportedVersions ∧
      ∃ s, CipherAccepted env c h.cipherSuite s ∧ v.cipherSuite = s.suite
  legacy : selectedVersion c h.supportedVersions < tls13 → v.actual = h.legacy ∧
    LegacyChecked env c.clientProtocolVersion c.quicEnabled h.random h.legacy ∧
      (v.resumed = false → ∃ s, CipherAccepted env c h.cipherSuite s)

lemma selectedVersion_congr {c d : HelloConn R} (h : d.versions = c.versions)
    (body : Option (List UInt8)) : selectedVersion d body = selectedVersion c body := by
  have hversion : d.protocolVersion = c.protocolVersion := by
    rw [← versions_version, ← versions_version, h]
  have hserver : d.serverProtocolVersion = c.serverProtocolVersion :=
    congrArg HelloVersions.server h
  unfold selectedVersion
  rw [hversion, hserver]

lemma decodeServerHello_of_reads {bs r₁ r₂ r₃ rest version random sessionId cipherSuite : List UInt8}
    (hversion : Parser.bytes 2 bs = some (version, r₁))
    (hrandom : Parser.bytes tlsRandomDataLen r₁ = some (random, r₂))
    (hsession : ReadSessionAndCipher r₂ r₃ sessionId cipherSuite)
    (hexts : decodeExtensionList r₃ = some (exts, rest)) :
    decodeServerHello bs = some (⟨version, random, sessionId, cipherSuite, exts⟩, rest) := by
  obtain ⟨_, _, _, _, hlen, hid, hcipher, hcompression⟩ := hsession.parse
  unfold decodeServerHello
  rw [Parser.bind_run hversion, Parser.bind_run hrandom, Parser.bind_run hlen, Parser.bind_run hid,
    Parser.bind_run hcipher, Parser.bind_run hcompression, Parser.bind_run hexts]
  rfl

lemma frames_clientEarlyDataAcceptOrReject :
    Frames HelloConn.steady (clientEarlyDataAcceptOrReject env) :=
  .read fun _ => .when (frames_setEarlyDataState _)

/-- The two branches of `s2n_server_hello_parse` behind the extensions. -/
lemma wp_serverHello_branches {c d : HelloConn R} {h : ServerHelloMsg} {sessionIdsMatch : Bool}
    (hmode : c.mode = .client)
    (hversions : d.versions = { c.versions with server := selectedVersion c h.supportedVersions })
    (hrandom : d.serverRandom = h.random) (hretried : c.Retried → d.Retried)
    (hretry : h.random = helloRetryReqRandom → h.legacy = tls12)
    (hsupported : ∀ body, h.supportedVersions = some body → tls13 ≤ c.protocolVersion →
      SelectionOk env c.versions body) :
    wp (if tls13 ≤ d.serverProtocolVersion then do
        serverHelloTls13 env h.sessionId h.cipherSuite sessionIdsMatch
        clientEarlyDataAcceptOrReject env
      else do
        serverHelloLegacy env h.legacy h.sessionId h.cipherSuite sessionIdsMatch
        clientEarlyDataAcceptOrReject env)
      (fun _ e => HelloAccepted env c h e.versions) anyError d := by
  have hserver : d.serverProtocolVersion = selectedVersion c h.supportedVersions :=
    congrArg HelloVersions.server hversions
  have hclient : d.clientProtocolVersion = c.clientProtocolVersion :=
    congrArg HelloVersions.client hversions
  have hquic : d.quicEnabled = c.quicEnabled := congrArg HelloVersions.quicEnabled hversions
  have hsuite : d.cipherSuite = c.cipherSuite := congrArg HelloVersions.cipherSuite hversions
  have hdmode : d.mode = .client := (congrArg HelloVersions.mode hversions).trans hmode
  have hcipher : ∀ s, CipherAccepted env d h.cipherSuite s → CipherAccepted env c h.cipherSuite s :=
    fun s hs => ⟨hs.find, hs.available, fun hret => hsuite ▸ hs.retried (hretried hret)⟩
  have hearly : ∀ (v : HelloVersions) (e : HelloConn R), HelloAccepted env c h v → e.versions = v →
      wp (clientEarlyDataAcceptOrReject env) (fun _ e => HelloAccepted env c h e.versions)
        anyError e := fun v e hv he =>
    (frames_clientEarlyDataAcceptOrReject env).wp
      (fun _ f hf => by rw [show f.versions = v from (congrArg HelloSteady.versions hf).trans he]
                        exact hv) fun _ _ _ => trivial
  split
  · rename_i htls13
    refine wp_tried (wp_serverHelloTls13 env _ _ _ htls13) fun _ e he => ?_
    obtain ⟨s, hs, he⟩ := he
    refine hearly _ e ⟨hclient, hretry, hsupported, fun _ => ⟨hserver, s, hcipher s hs, rfl⟩, fun hlt => ?_⟩ he
    exact absurd hlt (by omega)
  · rename_i htls13
    refine wp_tried (wp_serverHelloLegacy env _ _ _ _ hdmode) fun _ e he => ?_
    obtain ⟨hchecked, suite, resumed, he, hres⟩ := he
    rw [hclient, hquic, hrandom] at hchecked
    refine hearly _ e ⟨hclient, hretry, hsupported, fun hle => absurd hle (by omega), fun _ => ?_⟩ he
    exact ⟨rfl, hchecked, fun h => (hres h).imp hcipher⟩

/-- **Parsing a ServerHello.** -/
theorem wp_serverHelloParse (hio : c.io.blob.isNull = false)
    (hmode : c.mode = .client) :
    wp (serverHelloParse env)
      (fun _ d => ∃ h rest, decodeServerHello c.io.unread = some (h, rest) ∧ HelloAccepted env c h d.versions)
      anyError c := by
  unfold serverHelloParse
  refine wp_tried (wp_readVersionAndRandom hio) fun legacy c₁ hc₁ => ?_
  obtain ⟨version, random, r₁, hversion, hrandom, hio₁, rfl, hserverRandom, hversions, hretried,
    hretry⟩ := hc₁
  refine wp_tried (wp_readSessionIdAndCipher hio₁) fun r c₂ hc₂ => ?_
  obtain ⟨sessionId, wire⟩ := r
  obtain ⟨u₂, rfl, hio₂, hsession⟩ := hc₂
  dsimp only
  rw [wp_read]
  -- the flag for the extended master secret
  have hems : Frames (fun d : HelloConn R => (d.core, d.io))
      (when ((!sessionId.isEmpty && decide (sessionId = c₁.sessionId)) = false)
        (modify ({ · with emsNegotiated := false }) : HelloM R Unit)) := .when (.modify fun _ => rfl)
  refine hems.seq rfl (fun _ c₃ hc₃ => ?_) fun _ _ _ => trivial
  obtain ⟨hcore₃, hio₃⟩ : c₃.core = c₁.core ∧ c₃.io = u₂ := Prod.mk.inj hc₃
  refine wp_tried (wp_serverExtensionsRecv env (by rw [hio₃]; exact hio₂)) fun _ c₄ hc₄ => ?_
  obtain ⟨exts, rest, hexts, hcore₄, hsupported⟩ := hc₄
  rw [wp_read]
  refine wp_checked fun _ => ?_
  have hversions₃ : c₃.versions = c.versions :=
    (congrArg HelloCore.versions hcore₃).trans hversions
  let h : ServerHelloMsg := ⟨version, random, sessionId, wire, exts⟩
  rw [selectedVersion_congr hversions₃, hcore₃] at hcore₄
  have hcore : c₄.core = c₁.core.setServer (selectedVersion c h.supportedVersions) := hcore₄
  have hversions₄ : c₄.versions = { c.versions with server := selectedVersion c h.supportedVersions } := by
    rw [← hversions]
    exact congrArg HelloCore.versions hcore
  have hdecode : decodeServerHello c.io.unread = some (h, rest) :=
    decodeServerHello_of_reads hversion hrandom hsession (by rw [← hexts, hio₃])
  refine wp_try (fun _ d hd => ⟨h, rest, hdecode, hd⟩)
    (wp_serverHello_branches env (h := h) hmode hversions₄ ?_ ?_ hretry ?_)
  · exact (congrArg HelloCore.serverRandom hcore).trans hserverRandom
  · intro hret
    exact Retried.of_setServer ((congrArg HelloVersions.mode hversions).trans hmode) hcore
      (hretried hret)
  · intro body hbody hle
    have hver : c₃.protocolVersion = c.protocolVersion := by
      rw [← versions_version, ← versions_version, hversions₃]
    exact hversions₃ ▸ hsupported body hbody (hver ▸ hle)

lemma frames_afterParse : Frames HelloConn.steady (do
    setHandshakeType env
    if (← get).isHelloRetryMessage then serverHelloRetryRecv env
    else
      let c ← get
      when (c.actualProtocolVersion < tls13 ∧ c.isResumptionHandshake = true)
        (onRest env.prfKeyExpansion)
      onRest env.updateRequiredHandshakeHashes) := by
  have hrest : ∀ {α : Type} (m : EStateM Err R α), Frames HelloConn.steady (onRest m) :=
    fun m => frames_onRest (fun _ _ => rfl) m
  have hretry : Frames HelloConn.steady (serverHelloRetryRecv env) :=
    .read fun _ => .checked <| (hrest _).bind fun _ =>
      .modify fun _ => rfl
  refine (frames_setHandshakeType env).bind fun _ => .read fun _ => .ite hretry ?_
  exact .read fun _ => .bind (.when (hrest _)) fun _ => hrest _

/-- **Receiving a ServerHello or a HelloRetryRequest.** -/
theorem wp_serverHelloRecv (hmode : c.mode = .client) :
    wp (serverHelloRecv env)
      (fun _ d => ∃ h rest, decodeServerHello c.io.unread = some (h, rest) ∧ HelloAccepted env c h d.versions)
      anyError c := by
  unfold serverHelloRecv
  by_cases hio : c.io.blob.isNull = false
  · refine wp_tried (wp_serverHelloParse env hio hmode) fun _ d hd => ?_
    obtain ⟨h, rest, hdecode, haccepted⟩ := hd
    rw [wp_update]
    refine (frames_afterParse env).wp (fun _ e he => ⟨h, rest, hdecode, ?_⟩) fun _ _ _ => trivial
    rw [show e.versions = d.versions from congrArg HelloSteady.versions he]
    exact haccepted
  · -- nothing can be read without memory
    have hlt : ¬ 2 ≤ c.io.dataAvailable := fun hle => hio (isNull_eq_false_of_pos (by omega))
    rw [wp_bind]
    unfold serverHelloParse readVersionAndRandom onHelloIo
    rw [wp_bind, wp_bind, wp_zoom, wp_readBytes_of_lt hlt]
    trivial

end Spec

end S2nTls
