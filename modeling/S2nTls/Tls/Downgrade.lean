import S2nTls.Tls.ServerHelloVersion

/-!
Downgrade protection (RFC 8446, section 4.1.3).

A server of TLS1.3 that negotiates an older version ends its random with a sentinel, one for TLS1.2
and one for everything below. A client of TLS1.3 looks for the sentinel that belongs to the version
it reads in the message, not for both: a server that was made to negotiate TLS1.1 and whose version
bytes are then changed to those of TLS1.2 is not noticed.
-/

namespace S2nTls

open Lib Stuffer

/-! ### The two sentinels -/

/-- The random ends with one of the two sentinels. -/
def Sentinel (random : List UInt8) : Prop :=
  downgradeBytes random = tls12DowngradeProtectionBytes ∨
    downgradeBytes random = tls11DowngradeProtectionBytes

/-- The sentinel is the one that a client looks for when it reads these version bytes. -/
structure FitsSentinel (version random : List UInt8) : Prop where
  tls12 : versionOf version % 256 = tls12 → downgradeBytes random = tls12DowngradeProtectionBytes
  tls11 : sslv3 ≤ versionOf version % 256 → versionOf version % 256 ≤ tls11 →
    downgradeBytes random = tls11DowngradeProtectionBytes

/-- No client of TLS1.3 takes a message that starts with this version and this random for one of an
older version. -/
def RejectsDowngrade (version random : List UInt8) : Prop :=
  ∀ (R : Type) (env : HelloEnv R) (c d : HelloConn R) (rest : List UInt8), c.mode = .client →
    c.clientProtocolVersion = tls13 → c.io.unread = version ++ random ++ rest →
    (serverHelloRecv env).run c = .ok () d → tls13 ≤ d.actualProtocolVersion

variable {random : List UInt8}

lemma Sentinel.ne_helloRetryReqRandom (h : Sentinel random) :
    random ≠ helloRetryReqRandom := by
  rintro rfl
  exact absurd h (by unfold Sentinel; decide)

variable {h : ServerHelloMsg}

lemma decodeServerHello_start {bs version random rest rest' : List UInt8}
    (hdecode : decodeServerHello bs = some (h, rest')) (hbs : bs = version ++ random ++ rest)
    (hversion : version.length = 2) (hrandom : random.length = tlsRandomDataLen) :
    h.legacyVersion = version ∧ h.random = random := by
  unfold decodeServerHello at hdecode
  rw [hbs, List.append_assoc, Parser.bind_run (Parser.bytes_append _ hversion),
    Parser.bind_run (Parser.bytes_append _ hrandom)] at hdecode
  obtain ⟨_, _, -, hdecode⟩ := Parser.bind_eq_some.mp hdecode
  obtain ⟨_, _, -, hdecode⟩ := Parser.bind_eq_some.mp hdecode
  obtain ⟨_, _, -, hdecode⟩ := Parser.bind_eq_some.mp hdecode
  obtain ⟨_, _, -, hdecode⟩ := Parser.bind_eq_some.mp hdecode
  obtain ⟨_, _, -, hdecode⟩ := Parser.bind_eq_some.mp hdecode
  obtain ⟨rfl, -⟩ := Prod.mk.inj (Option.some.inj hdecode)
  exact ⟨rfl, rfl⟩

lemma encodeServerHello_start (h : ServerHelloMsg) :
    ∃ rest, encodeServerHello h = h.legacyVersion ++ h.random ++ rest :=
  ⟨_, by simp only [encodeServerHello, List.append_assoc]; rfl⟩

/-! ### The client -/

lemma tls13_le_of_fitsSentinel {R : Type} {env : HelloEnv R} {c : HelloConn R}
    {v : HelloVersions} (hclient : c.clientProtocolVersion = tls13) (ha : HelloAccepted env c h v)
    (hfits : FitsSentinel h.legacyVersion h.random) : tls13 ≤ v.actual := by
  by_cases hsel : tls13 ≤ selectedVersion c h.supportedVersions
  · rw [(ha.selected hsel).1]
    exact hsel
  · obtain ⟨hactual, hchecked, -⟩ := ha.legacy (Nat.not_le.mp hsel)
    have hge : sslv3 ≤ h.legacy := env.policy.sslv3_le_minimum.trans hchecked.minimum_le
    have hvalues : tls13 = 34 ∧ tls12 = 33 ∧ tls11 = 32 := ⟨rfl, rfl, rfl⟩
    by_contra hlt
    rw [hactual] at hlt
    by_cases htls12 : h.legacy = tls12
    · exact hchecked.tls12 hclient htls12 (hfits.tls12 htls12)
    · have hle : h.legacy ≤ tls11 := by omega
      exact hchecked.tls11 hclient hle (hfits.tls11 hge hle)

/-- The other sentinel is not. -/
lemma exists_downgrade {version random : List UInt8} (hversion : version.length = 2)
    (hrandom : random.length = tlsRandomDataLen) (hsentinel : Sentinel random)
    (hfits : ¬ FitsSentinel version random) : ¬ RejectsDowngrade version random := by
  let h := helloWith version random []
  -- the version is below TLS1.3, and its own sentinel is not there
  have hchecked : LegacyChecked (plainEnv twoSuitePolicy) tls13 false h.random h.legacy ∧
      h.legacy < tls13 := by
    have hvalues : tls13 = 34 ∧ tls12 = 33 ∧ tls11 = 32 := ⟨rfl, rfl, rfl⟩
    by_cases htls12 : h.legacy = tls12
    · have hne : downgradeBytes random ≠ tls12DowngradeProtectionBytes := fun heq =>
        hfits ⟨fun _ => heq, fun _ hle => absurd hle (by change ¬ h.legacy ≤ _; omega)⟩
      refine ⟨⟨?_, by omega, rfl, fun _ _ => hne, fun _ hle => absurd hle (by omega)⟩, by omega⟩
      rw [htls12]
      decide
    · have hlow : (sslv3 ≤ h.legacy ∧ h.legacy ≤ tls11) ∧
          downgradeBytes random ≠ tls11DowngradeProtectionBytes := by
        by_contra hnot
        refine hfits ⟨fun heq => absurd heq htls12, fun hge hle => ?_⟩
        by_contra hne
        exact hnot ⟨⟨hge, hle⟩, hne⟩
      exact ⟨⟨hlow.1.1, by omega, rfl, fun _ heq => absurd heq htls12, fun _ _ => hlow.2⟩, by omega⟩
  have hsize : (encodeServerHello h).length < 2 ^ 32 := by
    simp [h, encodeServerHello, helloWith, hversion, hrandom, tlsRandomDataLen, HelloSuite.ianaValue]
  obtain ⟨d, hd⟩ := plainClient_accepts_legacy (s := tls13Aes128GcmSha256) (h := h)
    ⟨hversion, hrandom, (by decide : ([] : List UInt8).length < 256), rfl,
      fun _ he => absurd he List.not_mem_nil, (by decide : ([] : List UInt8).length < 2 ^ 16)⟩ rfl rfl
    hsentinel.ne_helloRetryReqRandom hchecked.1 le_rfl rfl rfl rfl (unread_receivedIo _ hsize)
  obtain ⟨rest, hrest⟩ := encodeServerHello_start h
  intro hrejects
  have hge := hrejects Unit _ _ d rest rfl rfl ((unread_receivedIo _ hsize).trans hrest) hd.run
  rw [hd.actual] at hge
  exact absurd hchecked.2 (Nat.not_lt.mpr hge)

/-! ### The server -/

lemma downgradeBytes_append {a b : List UInt8} (ha : a.length = 24) : downgradeBytes (a ++ b) = b := by
  rw [downgradeBytes, ← ha, List.drop_left]

structure SentServerHello {R : Type} (env : HelloEnv R) (c : HelloConn R) (h : ServerHelloMsg) :
    Prop where
  encodable : EncodableServerHello h
  extensions : h.extensions = serverExtensions env c
  tls12 : tls13 ≤ c.serverProtocolVersion → c.actualProtocolVersion = tls12 →
    downgradeBytes h.random = tls12DowngradeProtectionBytes
  tls11 : tls13 ≤ c.serverProtocolVersion → c.actualProtocolVersion ≤ tls11 →
    downgradeBytes h.random = tls11DowngradeProtectionBytes

section Server

variable {R : Type} (env : HelloEnv R)

lemma wp_onHelloIo_writeBytes (bs : List UInt8) (c : HelloConn R) :
    wp (onHelloIo (writeBytes env.malloc bs))
      (fun _ d => ∃ u : Stuffer, d = { c with io := u } ∧ u.unread = c.io.unread ++ bs)
      anyError c := by
  unfold onHelloIo
  rw [wp_zoom]
  exact wp_try (fun _ u hu => ⟨u, rfl, hu.1⟩) (wp_writeBytes _ bs c.io)

variable (c : HelloConn R)

lemma wp_serverHelloWriteMessage :
    wp (serverHelloWriteMessage env)
      (fun _ d => ∃ u : Stuffer, d = { c with io := u } ∧ u.unread = c.io.unread ++
        ([UInt8.ofNat (min c.actualProtocolVersion tls12 / 10),
          UInt8.ofNat (min c.actualProtocolVersion tls12 % 10)] ++ c.serverRandom ++
          beBytes 1 c.sessionId.length ++ c.sessionId ++ c.cipherSuite.ianaValue ++ beBytes 1 0))
      anyError c := by
  unfold serverHelloWriteMessage
  rw [wp_read]
  refine wp_tried (wp_onHelloIo_writeBytes env _ c) fun _ d hd => ?_
  obtain ⟨u₁, rfl, hu₁⟩ := hd
  refine wp_tried (wp_onHelloIo_writeBytes env _ _) fun _ d hd => ?_
  obtain ⟨u₂, rfl, hu₂⟩ := hd
  refine wp_tried (wp_onHelloIo_writeBytes env _ _) fun _ d hd => ?_
  obtain ⟨u₃, rfl, hu₃⟩ := hd
  refine wp_tried (wp_onHelloIo_writeBytes env _ _) fun _ d hd => ?_
  obtain ⟨u₄, rfl, hu₄⟩ := hd
  refine wp_tried (wp_onHelloIo_writeBytes env _ _) fun _ d hd => ?_
  obtain ⟨u₅, rfl, hu₅⟩ := hd
  refine wp_try (fun _ d hd => ?_) (wp_onHelloIo_writeBytes env _ _)
  obtain ⟨u₆, rfl, hu₆⟩ := hd
  refine ⟨u₆, rfl, ?_⟩
  rw [hu₆, hu₅, hu₄, hu₃, hu₂, hu₁]
  simp only [List.append_assoc]

/-- The random of a server with its sentinel. -/
def sentinelRandom (c : HelloConn R) (random : List UInt8) : List UInt8 :=
  if tls13 ≤ c.serverProtocolVersion ∧ c.actualProtocolVersion = tls12 then
    random.take 24 ++ tls12DowngradeProtectionBytes
  else if tls13 ≤ c.serverProtocolVersion ∧ c.actualProtocolVersion ≤ tls11 then
    random.take 24 ++ tls11DowngradeProtectionBytes
  else random

lemma wp_serverAddDowngradeMechanism {Q : Unit → HelloConn R → Prop} {F : Err → HelloConn R → Prop} :
    wp serverAddDowngradeMechanism Q F c ↔
      Q () { c with serverRandom := sentinelRandom c c.serverRandom } := by
  unfold serverAddDowngradeMechanism sentinelRandom
  rw [wp_modify]
  split
  · exact Iff.rfl
  split <;> exact Iff.rfl

lemma length_sentinelRandom (h : random.length = tlsRandomDataLen) :
    (sentinelRandom c random).length = tlsRandomDataLen := by
  have htake : (random.take 24).length = 24 := by
    rw [List.length_take, h]
    rfl
  unfold sentinelRandom
  split
  · rw [List.length_append, htake]
    rfl
  split
  · rw [List.length_append, htake]
    rfl
  · exact h

/-- The extensions are written; an empty list of them is not. -/
lemma wp_serverExtensionsSend :
    wp (serverExtensionsSend env)
      (fun _ d => ∃ u : Stuffer, d = { c with io := u } ∧ u.unread = c.io.unread ++
          (if serverExtensions env c = [] then [] else encodeExtensionList (serverExtensions env c)) ∧
        (∀ e ∈ serverExtensions env c, EncodableExtension e) ∧
        ((serverExtensions env c).flatMap encodeExtension).length < 2 ^ 16)
      anyError c := by
  unfold serverExtensionsSend
  rw [wp_read]
  refine wp_checked fun hencodable => ?_
  refine wp_checked fun hsize => ?_
  rw [wp_when]
  refine ⟨fun hne => ?_, fun hnil => ?_⟩
  · rw [if_neg hne]
    refine wp_try (fun _ d hd => ?_) (wp_onHelloIo_writeBytes env _ _)
    obtain ⟨u, rfl, hu⟩ := hd
    exact ⟨u, rfl, hu, hencodable, hsize⟩
  · rw [if_pos (not_not.mp hnil), List.append_nil]
    exact ⟨c.io, rfl, rfl, hencodable, hsize⟩

def serverHelloOf (c : HelloConn R) (random : List UInt8) : ServerHelloMsg :=
  { legacyVersion := [UInt8.ofNat (min c.actualProtocolVersion tls12 / 10),
      UInt8.ofNat (min c.actualProtocolVersion tls12 % 10)]
    random := sentinelRandom c random
    sessionId := c.sessionId
    cipherSuite := c.cipherSuite.ianaValue
    extensions := serverExtensions env c }

lemma sentServerHello_serverHelloOf {c : HelloConn R}
    (hid : c.sessionId.length ≤ tlsSessionIdMaxLen) (hrandom : random.length = tlsRandomDataLen)
    (hencodable : ∀ e ∈ serverExtensions env c, EncodableExtension e)
    (hsize : ((serverExtensions env c).flatMap encodeExtension).length < 2 ^ 16) :
    SentServerHello env c (serverHelloOf env c random) := by
  have hvalues : tls13 = 34 ∧ tls12 = 33 ∧ tls11 = 32 := ⟨rfl, rfl, rfl⟩
  have hmax : tlsSessionIdMaxLen = 32 := rfl
  have hlen24 : (random.take 24).length = 24 := by
    rw [List.length_take, hrandom]
    rfl
  refine ⟨⟨rfl, length_sentinelRandom c hrandom, ?_, rfl, hencodable, hsize⟩, rfl,
    fun hserver hactual => ?_, fun hserver hactual => ?_⟩
  · show c.sessionId.length < 256
    omega
  · show downgradeBytes (sentinelRandom c random) = _
    rw [sentinelRandom, if_pos ⟨hserver, hactual⟩, downgradeBytes_append hlen24]
  · show downgradeBytes (sentinelRandom c random) = _
    rw [sentinelRandom, if_neg (by omega), if_pos ⟨hserver, hactual⟩, downgradeBytes_append hlen24]

/-- **What a server sends**: a message in the format, whose random has the sentinel of its
version. -/
theorem wp_serverHelloSend (hid : c.sessionId.length ≤ tlsSessionIdMaxLen) :
    wp (serverHelloSend env)
      (fun _ d => ∃ h, d.io.unread = c.io.unread ++ encodeServerHello h ∧ SentServerHello env c h)
      anyError c := by
  unfold serverHelloSend
  cases hdata : env.publicRandomData with
  | none => trivial
  | some data =>
    dsimp only
    rw [wp_update, wp_bind, wp_serverAddDowngradeMechanism]
    refine wp_tried (wp_serverHelloWriteMessage env _) fun _ d hd => ?_
    obtain ⟨u, rfl, hu⟩ := hd
    refine wp_tried (wp_serverExtensionsSend env _) fun _ d hd => ?_
    obtain ⟨w, rfl, hw, hencodable, hsize⟩ := hd
    rw [wp_modify]
    refine ⟨serverHelloOf env c (slice data 0 tlsRandomDataLen), ?_,
      sentServerHello_serverHelloOf env hid (slice_length _ _ _) hencodable hsize⟩
    dsimp only at hu hw ⊢
    rw [hw, hu, List.append_assoc]
    rfl

end Server

/-! ### An attacker between the two -/

/-- What an attacker makes of a message who leaves the random and the types of the extensions
alone. -/
structure RewritesVersions (h h' : ServerHelloMsg) : Prop where
  encodable : EncodableServerHello h'
  random : h'.random = h.random
  types : h'.extensions.map Prod.fst = h.extensions.map Prod.fst

lemma exists_lookup_of_mem {exts : List (ℕ × List UInt8)} {n : ℕ} (h : n ∈ exts.map Prod.fst) :
    ∃ body, exts.lookup n = some body := by
  induction exts with
  | nil => simp at h
  | cons e exts ih =>
    obtain ⟨m, data⟩ := e
    by_cases he : n = m
    · exact ⟨data, by rw [List.lookup_cons, he, beq_self_eq_true]⟩
    · obtain ⟨body, hbody⟩ := ih (by simpa [he] using h)
      exact ⟨body, by rw [List.lookup_cons, beq_false_of_ne he, hbody]⟩

/-- A client of TLS1.3 that sees the extension takes no other version. -/
lemma tls13_le_of_supportedVersions {R : Type} {env : HelloEnv R} {c : HelloConn R}
    {v : HelloVersions} (hclient : c.clientProtocolVersion = tls13)
    (hversion : tls13 ≤ c.protocolVersion) (ha : HelloAccepted env c h v) {body : List UInt8}
    (hbody : h.supportedVersions = some body) : tls13 ≤ v.actual := by
  have hok := ha.supported body hbody hversion
  have hle : versionOf body ≤ tls13 := hclient ▸ hok.le_client
  have heq : versionOf body = tls13 := le_antisymm hle hok.tls13_le
  have hsel : selectedVersion c h.supportedVersions = tls13 := by
    rw [hbody, selectedVersion, if_neg (Nat.not_lt.mpr hversion), heq]
    rfl
  rw [(ha.selected hsel.ge).1, hsel]

/-- **The client checks one sentinel, the server writes one.** A message with a sentinel is rejected
if and only if the sentinel fits the version bytes, every message of a server that does not negotiate
its highest version has a sentinel, and a client accepts no older version from it when the version
bytes that it reads fit the sentinel. -/
theorem downgrade_rejected_iff_fits {version random : List UInt8} (hlen : version.length = 2)
    (hrandom : random.length = tlsRandomDataLen) (hsentinel : Sentinel random) :
    (RejectsDowngrade version random ↔ FitsSentinel version random) ∧
    ∀ (S : Type) (envS : HelloEnv S) (s s' : HelloConn S), tls13 ≤ s.serverProtocolVersion →
      s.sessionId.length ≤ tlsSessionIdMaxLen →
      (tls13 ≤ s.actualProtocolVersion →
        s.extensionBits.requestsReceived Extension.supportedVersions = true) →
      (serverHelloSend envS).run s = .ok () s' →
      ∃ h, s'.io.unread = s.io.unread ++ encodeServerHello h ∧
        (s.actualProtocolVersion < tls13 → Sentinel h.random) ∧
        ∀ h', RewritesVersions h h' →
          (s.actualProtocolVersion < tls13 → FitsSentinel h'.legacyVersion h'.random) →
          ∀ (R : Type) (env : HelloEnv R) (c d : HelloConn R), c.mode = .client →
            c.clientProtocolVersion = tls13 → tls13 ≤ c.protocolVersion →
            c.io.unread = encodeServerHello h' → (serverHelloRecv env).run c = .ok () d →
            tls13 ≤ d.actualProtocolVersion := by
  refine ⟨⟨fun hrejects => ?_, fun hfits => ?_⟩, ?_⟩
  · by_contra hfits
    exact exists_downgrade hlen hrandom hsentinel hfits hrejects
  · intro R env c d rest hmode hclient hun hrun
    obtain ⟨h, rest', hdecode, ha⟩ := (wp_of_ok hrun).mp (wp_serverHelloRecv env hmode)
    obtain ⟨rfl, rfl⟩ := decodeServerHello_start hdecode hun hlen hrandom
    exact tls13_le_of_fitsSentinel hclient ha hfits
  · intro S envS s s' hserver hid hsupported hsend
    obtain ⟨h, hwire, hsent⟩ := (wp_of_ok hsend).mp (wp_serverHelloSend envS s hid)
    have hvalues : tls13 = 34 ∧ tls12 = 33 ∧ tls11 = 32 := ⟨rfl, rfl, rfl⟩
    refine ⟨h, hwire, fun hlt => ?_, fun h' hrewrites hfits R env c d hmode hclient hversion hun hrun => ?_⟩
    · by_cases htls12 : s.actualProtocolVersion = tls12
      · exact .inl (hsent.tls12 hserver htls12)
      · exact .inr (hsent.tls11 hserver (by omega))
    · obtain ⟨h'', rest, hdecode, ha⟩ := (wp_of_ok hrun).mp (wp_serverHelloRecv env hmode)
      obtain rfl : h' = h'' := by
        rw [hun, decodeServerHello_encode hrewrites.encodable] at hdecode
        exact congrArg Prod.fst (Option.some.inj hdecode)
      by_cases hlt : s.actualProtocolVersion < tls13
      · exact tls13_le_of_fitsSentinel hclient ha (hfits hlt)
      · have hge := Nat.not_lt.mp hlt
        have hmem : Extension.supportedVersions ∈ h'.extensions.map Prod.fst := by
          rw [hrewrites.types, hsent.extensions, serverExtensions, if_pos ⟨hge, hsupported hge⟩]
          simp
        obtain ⟨body, hbody⟩ := exists_lookup_of_mem hmem
        exact tls13_le_of_supportedVersions hclient hversion ha hbody

/-- The sentinel of TLS1.2 in a message of TLS1.2 is noticed. -/
theorem downgrade_rejected_tls12 :
    RejectsDowngrade [3, 3] (List.replicate 24 0 ++ tls12DowngradeProtectionBytes) :=
  (downgrade_rejected_iff_fits rfl rfl (.inl rfl)).1.mpr
    ⟨fun _ => rfl, fun _ hle => absurd hle (by decide)⟩

/-- **The sentinel for TLS1.1 in a message with the version bytes of TLS1.2** is accepted by a client
of TLS1.3. -/
theorem downgrade_to_tls12_accepted : ∃ c d : HelloConn Unit, ∃ rest,
    c.mode = .client ∧ c.clientProtocolVersion = tls13 ∧
    c.io.unread = [3, 3] ++ (List.replicate 24 0 ++ tls11DowngradeProtectionBytes) ++ rest ∧
    (serverHelloRecv (plainEnv twoSuitePolicy)).run c = .ok () d ∧ d.actualProtocolVersion = tls12 := by
  let random : List UInt8 := List.replicate 24 0 ++ tls11DowngradeProtectionBytes
  let h := helloWith [3, 3] random []
  have hchecked : LegacyChecked (plainEnv twoSuitePolicy) tls13 false h.random h.legacy :=
    ⟨by decide, by decide, rfl, fun _ _ => by decide, fun _ hle => absurd hle (by decide)⟩
  have hsize : (encodeServerHello h).length < 2 ^ 32 := by decide
  obtain ⟨d, hd⟩ := plainClient_accepts_legacy (s := tls13Aes128GcmSha256) (h := h)
    ⟨rfl, rfl, by decide, rfl, by decide, by decide⟩ rfl rfl (by decide) hchecked le_rfl rfl rfl rfl
    (unread_receivedIo _ hsize)
  obtain ⟨rest, hrest⟩ := encodeServerHello_start h
  have hlegacy : h.legacy = tls12 := by decide
  exact ⟨plainClient tls13 false (receivedIo _ hsize), d, rest, rfl, rfl,
    (unread_receivedIo _ hsize).trans hrest, hd.run, hd.actual.trans hlegacy⟩

end S2nTls
