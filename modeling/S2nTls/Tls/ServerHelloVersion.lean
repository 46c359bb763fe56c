import S2nTls.Tls.ServerHelloAccepts

/-!
The version that a client takes from a ServerHello or a HelloRetryRequest.

The version lies within the bounds of the policy and of the ClientHello. What the code does not
check is how it is written: version bytes are decoded as ten times the first plus the second, so 0
and 34 mean TLS1.3 as 3 and 4 do; the legacy field is not looked at when the extension is there, and
may itself say TLS1.3 when it is not.
-/

namespace S2nTls

open Lib Stuffer

/-! ### Versions as they should be written -/

/-- A client waits for a ServerHello or a HelloRetryRequest. It knows TLS1.3 as the version of the
server only from a HelloRetryRequest, which it takes in TLS1.3 only. -/
structure AwaitsServerHello {R : Type} (c : HelloConn R) : Prop where
  mode : c.mode = .client
  client_le : c.clientProtocolVersion ≤ tls13
  stored : tls13 ≤ c.serverProtocolVersion →
    c.serverProtocolVersion = tls13 ∧ c.clientProtocolVersion = tls13

/-- The version `v` was selected by the bytes that stand for it: TLS1.3 in the extension, with that
of TLS1.2 in the legacy field, and any other in the legacy field. -/
structure ProperlySelected (h : ServerHelloMsg) (v : ℕ) : Prop where
  tls13 : v = tls13 → h.supportedVersions = some [3, 4] ∧ h.legacyVersion = [3, 3]
  legacy : v < S2nTls.tls13 → h.legacyVersion = [3, UInt8.ofNat (v - 30)]

/-- The version bytes of a message as they should be written, for a client in the state `c`. -/
def CanonicalVersions {R : Type} (c : HelloConn R) (h : ServerHelloMsg) : Prop :=
  if tls13 ≤ c.serverProtocolVersion ∨ tls13 ≤ c.protocolVersion ∧ h.supportedVersions ≠ none then
    h.supportedVersions = some [3, 4] ∧ h.legacyVersion = [3, 3]
  else ∃ k : UInt8, k ≤ 3 ∧ h.legacyVersion = [3, k]

section Version

variable {R : Type} {env : HelloEnv R} {c : HelloConn R} {h : ServerHelloMsg} {v : HelloVersions}

lemma legacy_canonical {k : UInt8} (hk : k ≤ 3) (h : ServerHelloMsg)
    (hv : h.legacyVersion = [3, k]) : h.legacy = 30 + k.toNat := by
  have hk' : k.toNat ≤ 3 := UInt8.le_iff_toNat_le.mp hk
  have hof : versionOf [3, k] = 30 + k.toNat := rfl
  rw [ServerHelloMsg.legacy, hv, hof]
  omega

lemma actual_of_selected (hc : AwaitsServerHello c) (ha : HelloAccepted env c h v)
    (hsel : tls13 ≤ c.serverProtocolVersion ∨ tls13 ≤ c.protocolVersion ∧ h.supportedVersions ≠ none) :
    v.actual = tls13 ∧ c.clientProtocolVersion = tls13 := by
  have hselected : selectedVersion c h.supportedVersions = tls13 ∧ c.clientProtocolVersion = tls13 := by
    unfold selectedVersion
    by_cases hlt : c.protocolVersion < tls13
    · rw [if_pos hlt]
      exact hc.stored (hsel.resolve_right fun hr => absurd hr.1 (by omega))
    · rw [if_neg hlt]
      cases hbody : h.supportedVersions with
      | none => exact hc.stored (hsel.resolve_right fun hr => hr.2 hbody)
      | some body =>
        have hok := ha.supported body hbody (Nat.not_lt.mp hlt)
        have hle : versionOf body ≤ c.clientProtocolVersion := hok.le_client
        have hge := hok.tls13_le
        have hclient := hc.client_le
        have heq : versionOf body = tls13 := by omega
        exact ⟨by dsimp only; rw [heq]; rfl, by omega⟩
  exact ⟨(ha.selected hselected.1.ge).1.trans hselected.1, hselected.2⟩

lemma actual_of_legacy (ha : HelloAccepted env c h v)
    (hsel : ¬ (tls13 ≤ c.serverProtocolVersion ∨ tls13 ≤ c.protocolVersion ∧ h.supportedVersions ≠ none)) :
    v.actual = h.legacy ∧ env.policy.minimumProtocolVersion ≤ h.legacy ∧
      h.legacy ≤ c.clientProtocolVersion := by
  obtain ⟨hstored, hext⟩ := not_or.mp hsel
  have hselected : selectedVersion c h.supportedVersions < tls13 := by
    unfold selectedVersion
    by_cases hlt : c.protocolVersion < tls13
    · rw [if_pos hlt]
      omega
    · rw [if_neg hlt]
      cases hbody : h.supportedVersions with
      | none => exact Nat.not_le.mp hstored
      | some body => exact absurd ⟨Nat.not_lt.mp hlt, by simp [hbody]⟩ hext
  obtain ⟨hactual, hchecked, -⟩ := ha.legacy hselected
  exact ⟨hactual, hchecked.minimum_le, hchecked.le_client⟩

lemma bounds_of_accepted (hc : AwaitsServerHello c) (ha : HelloAccepted env c h v) :
    env.policy.minimumProtocolVersion ≤ v.actual ∧ v.actual ≤ c.clientProtocolVersion := by
  by_cases hsel : tls13 ≤ c.serverProtocolVersion ∨ tls13 ≤ c.protocolVersion ∧ h.supportedVersions ≠ none
  · obtain ⟨hactual, hclient⟩ := actual_of_selected hc ha hsel
    rw [hactual, hclient]
    exact ⟨env.policy.minimum_le_tls13, le_rfl⟩
  · obtain ⟨hactual, hmin, hle⟩ := actual_of_legacy ha hsel
    rw [hactual]
    exact ⟨hmin, hle⟩

lemma properlySelected_iff (hc : AwaitsServerHello c) (ha : HelloAccepted env c h v) :
    ProperlySelected h v.actual ↔ CanonicalVersions c h := by
  unfold CanonicalVersions
  split
  · rename_i hsel
    rw [(actual_of_selected hc ha hsel).1]
    exact ⟨fun hp => hp.tls13 rfl, fun hp => ⟨fun _ => hp, fun hlt => absurd hlt (lt_irrefl _)⟩⟩
  · rename_i hsel
    obtain ⟨hactual, -, hle⟩ := actual_of_legacy ha hsel
    have hle : h.legacy ≤ tls13 := hle.trans hc.client_le
    have htls13 : tls13 = 34 := rfl
    rw [hactual]
    constructor
    · intro hp
      by_cases heq : h.legacy = tls13
      · -- the legacy field would have to be that of TLS1.2
        have hlegacy := legacy_canonical (k := 3) (by decide) h (hp.tls13 heq).2
        rw [heq] at hlegacy
        exact absurd hlegacy (by decide)
      · have hlt : h.legacy < tls13 := lt_of_le_of_ne hle heq
        refine ⟨_, ?_, hp.legacy hlt⟩
        have hthree : (3 : UInt8).toNat = 3 := rfl
        rw [UInt8.le_iff_toNat_le, UInt8.toNat_ofNat', hthree]
        exact (Nat.mod_le _ _).trans (by omega)
    · rintro ⟨k, hk, hv⟩
      have hlegacy := legacy_canonical hk h hv
      have hk' : k.toNat ≤ 3 := UInt8.le_iff_toNat_le.mp hk
      refine ⟨fun heq => absurd heq (by omega), fun _ => ?_⟩
      rw [hlegacy, Nat.add_sub_cancel_left, UInt8.ofNat_toNat, hv]

/-- **The version of an accepted message.** It is within the bounds, and it was selected properly if
and only if the version bytes were written as they should be. -/
theorem serverHello_version_selected_iff {d : HelloConn R} (hc : AwaitsServerHello c)
    (hrun : (serverHelloRecv env).run c = .ok () d) :
    ∃ h rest, decodeServerHello c.io.unread = some (h, rest) ∧
      env.policy.minimumProtocolVersion ≤ d.actualProtocolVersion ∧
      d.actualProtocolVersion ≤ c.clientProtocolVersion ∧
      (ProperlySelected h d.actualProtocolVersion ↔ CanonicalVersions c h) := by
  obtain ⟨h, rest, hdecode, ha⟩ := (wp_of_ok hrun).mp (wp_serverHelloRecv env hc.mode)
  obtain ⟨hmin, hmax⟩ := bounds_of_accepted hc ha
  exact ⟨h, rest, hdecode, hmin, hmax, properlySelected_iff hc ha⟩

end Version

/-! ### Messages -/

def tls13Aes128GcmSha256 : PolicySuite :=
  let suite : HelloSuite := ⟨(0x13, 0x01), true, tls13, .sha256, some true⟩
  ⟨suite, some suite, by decide, suite, rfl, by decide⟩

def ecdheRsaWithAes128GcmSha256 : PolicySuite :=
  let suite : HelloSuite := ⟨(0xC0, 0x2F), true, tls12, .sha256, some true⟩
  ⟨suite, some suite, by decide, suite, rfl, by decide⟩

/-- A policy with a suite for TLS1.3 and one for TLS1.2. -/
def twoSuitePolicy : HelloPolicy :=
  { minimumProtocolVersion := sslv3
    sslv3_le_minimum := le_rfl
    minimum_le_tls13 := by decide
    suites := [tls13Aes128GcmSha256, ecdheRsaWithAes128GcmSha256]
    suite_unique := by
      intro s hs t ht heq
      simp only [List.mem_cons, List.not_mem_nil, or_false] at hs ht
      obtain rfl | rfl := hs <;> obtain rfl | rfl := ht
      · rfl
      · exact absurd heq (by decide)
      · exact absurd heq (by decide)
      · rfl
    supportsTls13 := true }

/-- A message without session id that names the suite of TLS1.3. -/
def helloWith (legacyVersion random : List UInt8) (extensions : List (ℕ × List UInt8)) :
    ServerHelloMsg :=
  { legacyVersion := legacyVersion
    random := random
    sessionId := []
    cipherSuite := tls13Aes128GcmSha256.suite.ianaValue
    extensions := extensions }

/-- A client of TLS1.3 that has received a message which selects TLS1.3 by the given bytes. -/
def tls13Client (body : List UInt8) (h : (encodeServerHello (helloWith [3, 3] (List.replicate 32 0)
    [(Extension.supportedVersions, body)])).length < 2 ^ 32) : HelloConn Unit :=
  plainClient tls13 false (receivedIo _ h)

lemma tls13Client_accepts (body : List UInt8) (h) (hlen : body.length = 2)
    (hbody : versionOf body = tls13) :
    ∃ d, AcceptedBy twoSuitePolicy (tls13Client body h) d tls13 := by
  have hsession : ([] : List UInt8).length < 256 := by decide
  have hrandom : List.replicate 32 0 ≠ helloRetryReqRandom := by decide
  refine plainClient_accepts_tls13 (s := tls13Aes128GcmSha256) false ⟨rfl, rfl, hsession, rfl, ?_, ?_⟩ rfl rfl
    hlen.ge (by omega) hbody hrandom rfl rfl rfl (unread_receivedIo _ h)
  · intro e he
    rw [List.mem_singleton.mp he]
    exact ⟨(by decide : Extension.supportedVersions < 2 ^ 16), (by omega : body.length < 2 ^ 16)⟩
  · simp [helloWith, encodeExtension, hlen]

lemma awaitsServerHello_tls13Client (body : List UInt8) (h) :
    AwaitsServerHello (tls13Client body h) :=
  ⟨rfl, le_rfl, fun hle => absurd hle (by decide : ¬ tls13 ≤ versionUnknown)⟩

/-- A properly written message. -/
theorem serverHello_version_selected_canonical : ∃ d,
    (serverHelloRecv (plainEnv twoSuitePolicy)).run (tls13Client [3, 4] (by decide)) = .ok () d ∧
    ∃ h rest, decodeServerHello (tls13Client [3, 4] (by decide)).io.unread = some (h, rest) ∧
    twoSuitePolicy.minimumProtocolVersion ≤ d.actualProtocolVersion ∧
    d.actualProtocolVersion ≤ tls13 ∧ (ProperlySelected h d.actualProtocolVersion ↔
      CanonicalVersions (tls13Client [3, 4] (by decide)) h) := by
  obtain ⟨d, hd⟩ := tls13Client_accepts [3, 4] (by decide) rfl rfl
  exact ⟨d, hd.run, serverHello_version_selected_iff (awaitsServerHello_tls13Client _ _) hd.run⟩

/-- **TLS1.3 from the bytes 0 and 34.** -/
theorem tls13_selected_by_other_bytes : ∃ d h rest,
    (serverHelloRecv (plainEnv twoSuitePolicy)).run (tls13Client [0, 34] (by decide)) = .ok () d ∧
    decodeServerHello (tls13Client [0, 34] (by decide)).io.unread = some (h, rest) ∧
    d.actualProtocolVersion = tls13 ∧ h.supportedVersions = some [0, 34] := by
  obtain ⟨d, hd⟩ := tls13Client_accepts [0, 34] (by decide) rfl rfl
  refine ⟨d, helloWith [3, 3] (List.replicate 32 0) [(Extension.supportedVersions, [0, 34])], [],
    hd.run, ?_, hd.actual, rfl⟩
  rw [show (tls13Client [0, 34] (by decide)).io.unread = _ from unread_receivedIo _ _]
  exact decodeServerHello_encode ⟨rfl, rfl, by decide, rfl, by decide, by decide⟩

end S2nTls
