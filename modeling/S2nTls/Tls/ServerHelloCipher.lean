import S2nTls.Tls.ServerHelloVersion

/-!
The cipher suite that a client takes from a ServerHello.

The code looks for the suite in the preferences of the policy, and that is all: neither the filter
that made the list of the ClientHello nor the version that was just negotiated is looked at. So a
policy with suites for TLS1.3 and for older versions lets a server name one with the other.
-/

namespace S2nTls

open Lib Stuffer

section Fits

variable {R : Type}
variable {c : HelloConn R} {env : HelloEnv R} {p : HelloPolicy} {v : HelloVersions} {s : PolicySuite}
  {h : ServerHelloMsg}

/-- The suite that a message names fits the version `v`: it was offered, it is one for TLS1.3 if and
only if that is the version, and the version is not below its own. -/
structure CipherFits (env : HelloEnv R) (c : HelloConn R) (h : ServerHelloMsg) (v : ℕ)
    (s : PolicySuite) : Prop where
  find : env.policy.find h.cipherSuite = some s
  offered : s.suite ∈ offeredSuites env c
  tls13_iff : tls13 ≤ s.suite.minimumRequiredTlsVersion ↔ v = tls13
  minimum_le : s.suite.minimumRequiredTlsVersion ≤ v

/-- The suites of a policy fit every version that a client may be made to take. -/
structure PolicyFits (p : HelloPolicy) (client : ℕ) (quicEnabled : Bool) : Prop where
  tls13 : client = tls13 → ∀ s ∈ p.suites, s.suite.available = true →
    s.suite.minimumRequiredTlsVersion = S2nTls.tls13
  legacy : quicEnabled = false → ∀ v, p.minimumProtocolVersion ≤ v → v ≤ client → v < S2nTls.tls13 →
    ∀ s ∈ p.suites, s.suite.available = true → s.suite.minimumRequiredTlsVersion ≤ v

/-- Every message that a client with this policy accepts in a full handshake names a suite that
fits. -/
def AcceptsOnlyFitting (p : HelloPolicy) (client : ℕ) (quicEnabled : Bool) : Prop :=
  ∀ (R : Type) (env : HelloEnv R) (c d : HelloConn R), env.policy = p → AwaitsServerHello c →
    c.clientProtocolVersion = client → c.quicEnabled = quicEnabled →
    (serverHelloRecv env).run c = .ok () d → d.clientSessionResumed = false →
    ∃ h rest s, decodeServerHello c.io.unread = some (h, rest) ∧
      CipherFits env c h d.actualProtocolVersion s

/-! ### Suites of a policy -/

lemma HelloPolicy.find_eq_some {wire : List UInt8}
    (h : p.find wire = some s) : s ∈ p.suites ∧ s.suite.ianaValue = wire :=
  ⟨List.mem_of_find?_eq_some h, by simpa using List.find?_some h⟩

lemma HelloPolicy.find_ianaValue (hs : s ∈ p.suites) : p.find s.suite.ianaValue = some s := by
  cases hfind : p.find s.suite.ianaValue with
  | none =>
    have hne := List.find?_eq_none.mp hfind s hs
    simp at hne
  | some t =>
    obtain ⟨ht, hiana⟩ := p.find_eq_some hfind
    have heq : t.suite.iana = s.suite.iana := by
      simpa [HelloSuite.ianaValue, Prod.ext_iff] using hiana
    rw [p.suite_unique t ht s hs heq]

/-- What is in the preferences and not above the version of the client was offered. -/
lemma mem_offeredSuites (hs : s ∈ env.policy.suites) (havailable : s.suite.available = true)
    (hle : s.suite.minimumRequiredTlsVersion ≤ c.clientProtocolVersion)
    (hquic : c.quicEnabled = true → tls13 ≤ s.suite.minimumRequiredTlsVersion) :
    s.suite ∈ offeredSuites env c := by
  refine List.mem_filter.mpr ⟨List.mem_map_of_mem hs, ?_⟩
  cases hq : c.quicEnabled with
  | false => simp [HelloConn.validateAvailable, havailable, hle, hq]
  | true => simp [HelloConn.validateAvailable, havailable, hle, hq, hquic hq]

/-! ### Messages that are accepted -/

lemma cipherFits_of_policyFits (hp : env.policy = p) (hc : AwaitsServerHello c)
    (hfits : PolicyFits p c.clientProtocolVersion c.quicEnabled) (ha : HelloAccepted env c h v)
    (hresumed : v.resumed = false) : ∃ s, CipherFits env c h v.actual s := by
  subst hp
  -- a version of TLS1.3, from the extension or from the legacy field
  have htls13 : ∀ s, CipherAccepted env c h.cipherSuite s → c.clientProtocolVersion = tls13 →
      v.actual = tls13 → CipherFits env c h v.actual s := by
    intro s hs hclient hactual
    have hmem := (env.policy.find_eq_some hs.find).1
    have hmin := hfits.tls13 hclient s hmem hs.available
    exact ⟨hs.find, mem_offeredSuites hmem hs.available (by omega) fun _ => hmin.ge,
      ⟨fun _ => hactual, fun _ => hmin.ge⟩, by omega⟩
  have hclient := hc.client_le
  have hle := (bounds_of_accepted hc ha).2
  by_cases hsel : tls13 ≤ selectedVersion c h.supportedVersions
  · obtain ⟨hactual, s, hs, -⟩ := ha.selected hsel
    exact ⟨s, htls13 s hs (by omega) (by omega)⟩
  · obtain ⟨hactual, hchecked, hcipher⟩ := ha.legacy (Nat.not_le.mp hsel)
    obtain ⟨s, hs⟩ := hcipher hresumed
    refine ⟨s, ?_⟩
    by_cases htls : v.actual = tls13
    · exact htls13 s hs (by omega) htls
    · have hmem := (env.policy.find_eq_some hs.find).1
      have hmin := hfits.legacy hchecked.quic v.actual (hactual ▸ hchecked.minimum_le) hle (by omega) s
        hmem hs.available
      refine ⟨hs.find, mem_offeredSuites hmem hs.available (by omega) fun hquic => ?_,
        ⟨fun hge => absurd hge (by omega), fun heq => absurd heq htls⟩, hmin⟩
      exact Bool.noConfusion (hchecked.quic.symm.trans hquic)

/-- A message that names a suite. -/
def helloNaming (s : HelloSuite) (legacyVersion : List UInt8) (extensions : List (ℕ × List UInt8)) :
    ServerHelloMsg :=
  { legacyVersion := legacyVersion
    random := List.replicate 32 0
    sessionId := []
    cipherSuite := s.ianaValue
    extensions := extensions }

lemma fits_of_acceptsOnlyFitting {client : ℕ} {quicEnabled : Bool}
    (h : AcceptsOnlyFitting p client quicEnabled) (hclient : client ≤ tls13)
    (hs : s ∈ p.suites) {legacyVersion : List UInt8} {extensions : List (ℕ × List UInt8)} {v : ℕ}
    (henc : EncodableServerHello (helloNaming s.suite legacyVersion extensions))
    {d : HelloConn Unit} (hsize)
    (hd : AcceptedBy p (plainClient client quicEnabled
      (receivedIo (encodeServerHello (helloNaming s.suite legacyVersion extensions)) hsize)) d v) :
    (tls13 ≤ s.suite.minimumRequiredTlsVersion ↔ v = tls13) ∧ s.suite.minimumRequiredTlsVersion ≤ v := by
  have hawaits : AwaitsServerHello (plainClient client quicEnabled (receivedIo _ hsize)) :=
    ⟨rfl, hclient, fun hle => absurd hle (by decide : ¬ tls13 ≤ versionUnknown)⟩
  obtain ⟨msg, rest, t, hdecode, ht⟩ := h Unit (plainEnv p) _ d rfl hawaits rfl rfl hd.run hd.notResumed
  have hmsg : helloNaming s.suite legacyVersion extensions = msg := by
    rw [show (plainClient client quicEnabled (receivedIo _ hsize)).io.unread = _ from
      unread_receivedIo _ hsize, decodeServerHello_encode henc] at hdecode
    exact congrArg Prod.fst (Option.some.inj hdecode)
  obtain rfl : s = t := by
    have hfind := ht.find
    rw [← hmsg] at hfind
    exact Option.some.inj ((p.find_ianaValue hs).symm.trans hfind)
  rw [hd.actual] at ht
  exact ⟨ht.tls13_iff, ht.minimum_le⟩

lemma length_encode_helloNaming (s : HelloSuite) (legacyVersion : List UInt8)
    (hlen : legacyVersion.length = 2) :
    (encodeServerHello (helloNaming s legacyVersion [])).length < 2 ^ 32 ∧
      (encodeServerHello (helloNaming s legacyVersion
        [(Extension.supportedVersions, [3, 4])])).length < 2 ^ 32 := by
  constructor <;>
    simp [encodeServerHello, helloNaming, HelloSuite.ianaValue, hlen, encodeExtensionList, encodeExtension]

/-- A policy whose clients only accept what fits has suites that fit. -/
lemma policyFits_of_acceptsOnlyFitting {client : ℕ} {quicEnabled : Bool}
    (hclient : client ≤ tls13) (h : AcceptsOnlyFitting p client quicEnabled) :
    PolicyFits p client quicEnabled := by
  have hrandom : List.replicate 32 0 ≠ helloRetryReqRandom := by decide
  have hsession : ([] : List UInt8).length < 256 := by decide
  refine ⟨fun heq s hs havailable => ?_, fun hquic v hmin hle hlt s hs havailable => ?_⟩
  · subst heq
    have hsize := (length_encode_helloNaming s.suite [3, 3] rfl).2
    have henc : EncodableServerHello (helloNaming s.suite [3, 3] [(Extension.supportedVersions, [3, 4])]) :=
      ⟨rfl, rfl, hsession, rfl, by
        show ∀ e ∈ [(Extension.supportedVersions, [3, 4])], EncodableExtension e
        decide, by
        show ([(Extension.supportedVersions, [3, 4])].flatMap encodeExtension).length < 2 ^ 16
        decide⟩
    obtain ⟨d, hd⟩ := plainClient_accepts_tls13 quicEnabled henc rfl rfl (by decide) (by decide) rfl hrandom
      (p.find_ianaValue hs) havailable rfl
      (unread_receivedIo _ hsize)
    obtain ⟨hiff, hmin⟩ := fits_of_acceptsOnlyFitting h le_rfl hs henc hsize hd
    exact le_antisymm hmin (hiff.mpr rfl)
  · subst hquic
    have hge : sslv3 ≤ v := p.sslv3_le_minimum.trans hmin
    have hvalues : sslv3 = 30 ∧ tls13 = 34 := ⟨rfl, rfl⟩
    have hsize := (length_encode_helloNaming s.suite [3, UInt8.ofNat (v - 30)] rfl).1
    have henc : EncodableServerHello (helloNaming s.suite [3, UInt8.ofNat (v - 30)] []) :=
      ⟨rfl, rfl, hsession, rfl, fun _ he => absurd he List.not_mem_nil,
        (by decide : ([] : List UInt8).length < 2 ^ 16)⟩
    have hlegacy : (helloNaming s.suite [3, UInt8.ofNat (v - 30)] []).legacy = v := by
      have hof : versionOf [3, UInt8.ofNat (v - 30)] = 30 + (UInt8.ofNat (v - 30)).toNat := rfl
      rw [ServerHelloMsg.legacy, helloNaming, hof, UInt8.toNat_ofNat']
      omega
    have hzero : downgradeBytes (List.replicate 32 0) ≠ tls12DowngradeProtectionBytes ∧
        downgradeBytes (List.replicate 32 0) ≠ tls11DowngradeProtectionBytes := by decide
    obtain ⟨d, hd⟩ := plainClient_accepts_legacy henc rfl rfl hrandom
      (by rw [hlegacy]; exact ⟨hmin, hle, rfl, fun _ _ => hzero.1, fun _ _ => hzero.2⟩) hclient
      (p.find_ianaValue hs) havailable rfl (unread_receivedIo _ hsize)
    rw [hlegacy] at hd
    exact (fits_of_acceptsOnlyFitting h hclient hs henc hsize hd).2

lemma named_of_retried (ha : HelloAccepted env c h v) (hresumed : v.resumed = false) (hretried : c.Retried) :
    c.cipherSuite.ianaValue = h.cipherSuite := by
  obtain ⟨s, hs⟩ : ∃ s, CipherAccepted env c h.cipherSuite s := by
    by_cases hsel : tls13 ≤ selectedVersion c h.supportedVersions
    · obtain ⟨-, s, hs, -⟩ := ha.selected hsel
      exact ⟨s, hs⟩
    · exact (ha.legacy (Nat.not_le.mp hsel)).2.2 hresumed
  rw [hs.retried hretried]
  exact (env.policy.find_eq_some hs.find).2

/-- A HelloRetryRequest is only taken in TLS1.3, and its suite becomes that of the connection. -/
lemma named_of_retry (ha : HelloAccepted env c h v) (hrandom : h.random = helloRetryReqRandom)
    (hversion : tls13 ≤ v.actual) : v.cipherSuite.ianaValue = h.cipherSuite := by
  have hsel : tls13 ≤ selectedVersion c h.supportedVersions := by
    by_contra hlt
    rw [(ha.legacy (Nat.not_le.mp hlt)).1, ha.retry hrandom] at hversion
    exact absurd hversion (by decide)
  obtain ⟨-, s, hs, hsuite⟩ := ha.selected hsel
  rw [hsuite]
  exact (env.policy.find_eq_some hs.find).2

end Fits

/-- **The cipher suite of an accepted ServerHello.** Every ServerHello that a client accepts in a full
handshake names a suite that was offered and that fits the version if and only if the suites of its
policy fit every version it may take; after a HelloRetryRequest the suite is the one named there. -/
theorem serverHello_cipher_fits_iff (p : HelloPolicy) {client : ℕ} (quicEnabled : Bool)
    (hclient : client ≤ tls13) :
    (AcceptsOnlyFitting p client quicEnabled ↔ PolicyFits p client quicEnabled) ∧
    ∀ (R : Type) (env : HelloEnv R) (c₁ d₁ c₂ d₂ : HelloConn R) (h₁ : ServerHelloMsg)
      (rest : List UInt8), AwaitsServerHello c₁ →
      decodeServerHello c₁.io.unread = some (h₁, rest) → h₁.random = helloRetryReqRandom →
      (serverHelloRecv env).run c₁ = .ok () d₁ → c₂.mode = .client → c₂.Retried →
      c₂.actualProtocolVersion = d₁.actualProtocolVersion → c₂.cipherSuite = d₁.cipherSuite →
      (serverHelloRecv env).run c₂ = .ok () d₂ → d₂.clientSessionResumed = false →
      ∃ h₂ rest, decodeServerHello c₂.io.unread = some (h₂, rest) ∧ h₂.cipherSuite = h₁.cipherSuite := by
  refine ⟨⟨policyFits_of_acceptsOnlyFitting hclient, ?_⟩, ?_⟩
  · intro hfits R env c d hp hc hversion hquic hrun hresumed
    obtain ⟨h, rest, hdecode, ha⟩ := (wp_of_ok hrun).mp (wp_serverHelloRecv env hc.mode)
    subst hversion hquic
    obtain ⟨s, hs⟩ := cipherFits_of_policyFits hp hc hfits ha hresumed
    exact ⟨h, rest, s, hdecode, hs⟩
  · intro R env c₁ d₁ c₂ d₂ h₁ rest hc₁ hdecode₁ hrandom hrun₁ hmode₂ hretried hactual hsuite hrun₂ hres
    obtain ⟨h₁', rest', hdecode₁', ha₁⟩ := (wp_of_ok hrun₁).mp (wp_serverHelloRecv env hc₁.mode)
    obtain rfl : h₁ = h₁' := by
      rw [hdecode₁] at hdecode₁'
      exact congrArg Prod.fst (Option.some.inj hdecode₁')
    obtain ⟨h₂, rest₂, hdecode₂, ha₂⟩ := (wp_of_ok hrun₂).mp (wp_serverHelloRecv env hmode₂)
    have hversion : tls13 ≤ d₁.actualProtocolVersion := by
      have hge := env.policy.sslv3_le_minimum.trans (bounds_of_accepted hc₁ ha₁).1
      have hne : c₂.actualProtocolVersion ≠ versionUnknown := by
        rw [hactual]
        exact Nat.ne_of_gt (lt_of_lt_of_le (by decide : versionUnknown < sslv3) hge)
      have h₂ := (isHelloRetryHandshake_iff.mp hretried.1).1
      rwa [HelloConn.protocolVersion, if_pos hne, hactual] at h₂
    refine ⟨h₂, rest₂, hdecode₂, ?_⟩
    rw [← named_of_retried ha₂ hres hretried, hsuite]
    exact named_of_retry ha₁ hrandom hversion

/-- A policy that has suites of TLS1.2 only, for a client of TLS1.2. -/
def tls12Policy : HelloPolicy :=
  { minimumProtocolVersion := tls12
    sslv3_le_minimum := by decide
    minimum_le_tls13 := by decide
    suites := [ecdheRsaWithAes128GcmSha256]
    suite_unique := fun s hs t ht _ => (List.mem_singleton.mp hs).trans (List.mem_singleton.mp ht).symm
    supportsTls13 := false }

/-- The suite of such a policy fits. -/
theorem tls12Policy_accepts_only_fitting : AcceptsOnlyFitting tls12Policy tls12 false := by
  refine (serverHello_cipher_fits_iff tls12Policy false (by decide)).1.mpr
    ⟨fun heq => absurd heq (by decide), fun _ v hmin _ _ s hs _ => ?_⟩
  rw [List.mem_singleton.mp hs]
  exact hmin

/-- **A suite of TLS1.3 in a handshake of TLS1.2.** The policy has a suite for either version. -/
theorem tls13_suite_accepted_in_tls12 : ∃ c d : HelloConn Unit, ∃ h rest s,
    AwaitsServerHello c ∧ (serverHelloRecv (plainEnv twoSuitePolicy)).run c = .ok () d ∧
    d.clientSessionResumed = false ∧ decodeServerHello c.io.unread = some (h, rest) ∧
    twoSuitePolicy.find h.cipherSuite = some s ∧ s.suite.minimumRequiredTlsVersion = tls13 ∧
    d.actualProtocolVersion = tls12 := by
  let h := helloWith [3, 3] (List.replicate 32 0) []
  have henc : EncodableServerHello h := ⟨rfl, rfl, by decide, rfl, by decide, by decide⟩
  have hchecked : LegacyChecked (plainEnv twoSuitePolicy) tls13 false h.random h.legacy :=
    ⟨by decide, by decide, rfl, fun _ _ => by decide, fun _ _ => by decide⟩
  have hsize : (encodeServerHello h).length < 2 ^ 32 := by decide
  obtain ⟨d, hd⟩ := plainClient_accepts_legacy (s := tls13Aes128GcmSha256) (h := h) henc rfl rfl
    (by decide) hchecked le_rfl rfl rfl rfl (unread_receivedIo _ hsize)
  refine ⟨_, d, h, [], tls13Aes128GcmSha256, ⟨rfl, le_rfl, fun hle => ?_⟩, hd.run, hd.notResumed, ?_,
    rfl, rfl, hd.actual⟩
  · exact absurd hle (by decide : ¬ tls13 ≤ versionUnknown)
  · rw [show (plainClient tls13 false (receivedIo _ hsize)).io.unread = _ from
      unread_receivedIo _ hsize]
    exact decodeServerHello_encode henc

end S2nTls
