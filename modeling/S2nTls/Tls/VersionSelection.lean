import Mathlib.Data.Prod.Lex
import Mathlib.Order.Bounds.Basic
import S2nTls.Tls.HelloRetry

/-!
The version that a server selects (`s2n_process_client_hello`, `s2n_client_supported_versions.c`).

A server with TLS1.3 looks at the list in supported_versions, if it is there; else the client offers all versions
up to its legacy_version. The two bytes of that version are folded into one number, ten times the major version and
the minor version. The numbers agree with the order of the pairs from the major version 3 on, but a pair with a
smaller major version and a large minor version is taken for one of the versions of SSL or TLS. In a ClientHello of
SSLv2 the number is cut to eight bits, and it is not limited to TLS1.2.
-/

namespace S2nTls

open Lib Stuffer

variable {n v : ℕ} {versions : Option (List UInt8)} {legacy : UInt8 × UInt8} {R : Type}

/-! ### The specification -/

/-- The versions of the list in supported_versions, as pairs of bytes. -/
def versionPairs : List UInt8 → List (UInt8 × UInt8)
  | major :: minor :: rest => (major, minor) :: versionPairs rest
  | _ => []

/-- A pair of bytes stands for a version. -/
def StandsFor (p : UInt8 × UInt8) (v : ℕ) : Prop := (p.1.toNat, p.2.toNat) = (v / 10, v % 10)

/-- The versions up to legacy_version, which are not those of TLS1.3. -/
def LegacyOffers (legacy : UInt8 × UInt8) (v : ℕ) : Prop :=
  v ≤ tls12 ∧ toLex (v / 10, v % 10) ≤ toLex (legacy.1.toNat, legacy.2.toNat)

/-- What a client offers to a server with the highest version `highest`, by its legacy_version and by the data of
its supported_versions extension. -/
def Offers (highest : ℕ) (legacy : UInt8 × UInt8) (versions : Option (List UInt8)) (v : ℕ) : Prop :=
  match versions with
  | some body => if tls13 ≤ highest then ∃ p ∈ versionPairs (body.drop 1), StandsFor p v else LegacyOffers legacy v
  | none => LegacyOffers legacy v

def commonVersions (minimum highest : ℕ) (legacy : UInt8 × UInt8) (versions : Option (List UInt8)) : Set ℕ :=
  { v | minimum ≤ v ∧ v ≤ highest ∧ Offers highest legacy versions v }

/-! ### The server -/

section Server

variable (env : HelloServerEnv R)

/-- A server that cannot use TLS1.3 limits its version. -/
def limitServerVersion : ServerM R Unit :=
  modify fun s => { s with versions := { s.versions with
    serverProtocolVersion := min s.versions.serverProtocolVersion tls12
    actualProtocolVersion := min s.versions.serverProtocolVersion tls12 } }

/-- `s2n_process_client_hello`; `supportsTls13` is what `s2n_connection_supports_tls13` and
`s2n_security_policy_supports_tls13` say. -/
def processClientHelloAny (supportsTls13 : Bool) : ServerM R Unit := do
  when (supportsTls13 = false) limitServerVersion
  processClientHello env

/-- A ClientHello is parsed and processed. -/
def receiveClientHello (supportsTls13 : Bool) : ServerM R Unit := do
  parseClientHello env
  processClientHelloAny env supportsTls13

def highestVersion (supportsTls13 : Bool) (serverProtocolVersion : ℕ) : ℕ :=
  if supportsTls13 then serverProtocolVersion else min serverProtocolVersion tls12

end Server

/-! ### The list -/

/-- `n` is the highest number with `P`, 0 if there is none. -/
structure Highest (P : ℕ → Prop) (n : ℕ) : Prop where
  le : ∀ v, P v → v ≤ n
  mem : n = 0 ∨ P n

lemma Highest.max {P : ℕ → Prop} (h : Highest P n) (a : ℕ) : Highest (fun v => P v ∨ v = a) (max a n) := by
  refine ⟨?_, ?_⟩
  · rintro v (hv | rfl)
    · exact (h.le v hv).trans (Nat.le_max_right _ _)
    · exact Nat.le_max_left _ _
  · rcases Nat.le_total a n with hle | hle
    · rw [Nat.max_eq_right hle]
      exact h.mem.imp id Or.inl
    · rw [Nat.max_eq_left hle]
      exact .inr (.inr rfl)

lemma Highest.congr {P Q : ℕ → Prop} (h : Highest P n) (hPQ : ∀ v, P v ↔ Q v) : Highest Q n :=
  ⟨fun v hv => h.le v ((hPQ v).mpr hv), h.mem.imp id (hPQ n).mp⟩

/-- A version of the list that is not ignored. -/
def Seen (p : UInt8 × UInt8) (v : ℕ) : Prop := p.1 = 3 ∧ p.2.toNat ≤ 4 ∧ v = versionOf [p.1, p.2]

section List

variable {highest minimum : ℕ} {P : ℕ → Prop} {found : ℕ × ℕ}

/-- The two results of the loop, for the versions `P` that it has seen. -/
structure Found (highest minimum : ℕ) (P : ℕ → Prop) (found : ℕ × ℕ) : Prop where
  client : Highest P found.1
  actual : Highest (fun v => P v ∧ minimum ≤ v ∧ v ≤ highest) found.2

lemma Found.next (h : Found highest minimum P found) (p : UInt8 × UInt8) :
    Found highest minimum (fun v => P v ∨ Seen p v) (supportedVersionsNext highest minimum [p.1, p.2] found) := by
  unfold supportedVersionsNext
  dsimp only [List.getD_cons_zero, List.getD_cons_succ]
  split
  · rename_i hskip
    have hnot : ∀ v, ¬ Seen p v := by
      rintro v ⟨hmajor, hminor, -⟩
      exact hskip.elim (fun hne => hne hmajor) fun hlt => absurd hminor (Nat.not_le.mpr hlt)
    exact ⟨h.client.congr fun v => ⟨.inl, fun hv => hv.resolve_right (hnot v)⟩,
      h.actual.congr fun v => ⟨fun hv => ⟨.inl hv.1, hv.2⟩, fun hv => ⟨hv.1.resolve_right (hnot v), hv.2⟩⟩⟩
  · rename_i hkeep
    obtain ⟨hmajor, hminor⟩ := not_or.mp hkeep
    have hseen : ∀ v, Seen p v ↔ v = versionOf [p.1, p.2] :=
      fun v => ⟨fun hv => hv.2.2, fun hv => ⟨not_not.mp hmajor, Nat.le_of_not_lt hminor, hv⟩⟩
    have hclient : Highest (fun v => P v ∨ Seen p v) (max (versionOf [p.1, p.2]) found.1) :=
      (h.client.max _).congr fun v => or_congr_right (hseen v).symm
    have hout : ¬ (minimum ≤ versionOf [p.1, p.2] ∧ versionOf [p.1, p.2] ≤ highest) →
        Highest (fun v => (P v ∨ Seen p v) ∧ minimum ≤ v ∧ v ≤ highest) found.2 := by
      intro hrange
      refine h.actual.congr fun v => ⟨fun hv => ⟨.inl hv.1, hv.2⟩, fun hv => ⟨hv.1.resolve_right fun hs => ?_, hv.2⟩⟩
      obtain rfl := (hseen v).mp hs
      exact hrange hv.2
    split
    · exact ⟨hclient, hout fun hr => by omega⟩
    · split
      · exact ⟨hclient, hout fun hr => by omega⟩
      · refine ⟨hclient, (h.actual.max _).congr fun v => ?_⟩
        constructor
        · rintro (hv | rfl)
          · exact ⟨.inl hv.1, hv.2⟩
          · exact ⟨.inr ((hseen _).mpr rfl), by omega, by omega⟩
        · rintro ⟨hv | hv, hrange⟩
          · exact .inl ⟨hv, hrange⟩
          · exact .inr ((hseen v).mp hv)

/-- **The loop** over a list of versions. -/
lemma Found.foldl (h : Found highest minimum P found) (ps : List (UInt8 × UInt8)) :
    Found highest minimum (fun v => P v ∨ ∃ p ∈ ps, Seen p v)
      (ps.foldl (fun found p => supportedVersionsNext highest minimum [p.1, p.2] found) found) := by
  induction ps generalizing P found with
  | nil => simpa using h
  | cons p ps ih =>
    have hnext := ih (h.next p)
    simpa only [List.foldl_cons, List.exists_mem_cons_iff, or_assoc] using hnext

lemma wp_supportedVersionsLoop (n : ℕ) (found : ℕ × ℕ) {t : Stuffer} (ht : t.blob.isNull = false)
    (hlen : t.unread.length = 2 * n) :
    wp (supportedVersionsLoop highest minimum n found)
      (fun r _ => r = (versionPairs t.unread).foldl
        (fun found p => supportedVersionsNext highest minimum [p.1, p.2] found) found)
      anyError t := by
  induction n generalizing found t with
  | zero =>
    obtain hnil := List.length_eq_zero_iff.mp hlen
    unfold supportedVersionsLoop
    rw [wp_pure, hnil]
    rfl
  | succ n ih =>
    unfold supportedVersionsLoop
    obtain ⟨a, b, rest, hun⟩ : ∃ a b rest, t.unread = a :: b :: rest := by
      match hun : t.unread with
      | [] => rw [hun] at hlen; cases hlen
      | [_] => rw [hun, List.length_singleton] at hlen; omega
      | a :: b :: rest => exact ⟨a, b, rest, rfl⟩
    rw [hun, List.length_cons, List.length_cons] at hlen
    rw [wp_bind]
    refine wp_readBytes_append (a := [a, b]) hun ht fun u hrest hblob _ => ?_
    have hu := ih (supportedVersionsNext highest minimum [a, b] found) (t := u) (hblob ▸ ht) (by rw [hrest]; omega)
    rw [hrest] at hu
    rw [hun]
    exact hu

/-- **What the handler of supported_versions finds** in the data of the extension. -/
lemma wp_clientSupportedVersionsRecvImpl (highest minimum : ℕ) (t : Stuffer) :
    wp (clientSupportedVersionsRecvImpl highest minimum)
      (fun r _ => Found highest minimum (fun v => ∃ p ∈ versionPairs (t.unread.drop 1), Seen p v) r ∧ r.1 ≠ 0 ∧ r.2 ≠ 0)
      anyError t := by
  have hprocess : wp (clientSupportedVersionsProcess highest minimum)
      (fun r _ => Found highest minimum (fun v => ∃ p ∈ versionPairs (t.unread.drop 1), Seen p v) r)
      anyError t := by
    unfold clientSupportedVersionsProcess
    by_cases havail : 1 ≤ t.dataAvailable
    swap
    · unfold readUint
      rw [wp_bind, wp_bind, wp_readBytes_of_lt havail]
      trivial
    have ht := isNull_eq_false_of_pos havail
    refine wp_then (reads_readUint 1 t ht) fun size u hu => ?_
    obtain ⟨hparse, hblob⟩ := hu
    have hrest : u.unread = t.unread.drop 1 := by
      rw [Parser.uint_eq_some hparse, List.drop_left' (beBytes_length 1 _)]
    refine wp_checked fun hsize => ?_
    refine wp_checked fun heven => ?_
    have hlen : u.unread.length = 2 * (size / 2) := by
      rw [unread_length]
      omega
    refine wp_mono_ok (fun r _ hr => ?_) (wp_supportedVersionsLoop _ _ (hblob ▸ ht) hlen)
    have hnone : Found highest minimum (fun _ => False) (versionUnknown, versionUnknown) :=
      ⟨⟨fun _ h => h.elim, .inl rfl⟩, ⟨fun _ h => h.1.elim, .inl rfl⟩⟩
    rw [hr, ← hrest]
    simpa only [false_or] using hnone.foldl (versionPairs u.unread)
  unfold clientSupportedVersionsRecvImpl
  refine wp_then hprocess fun r _ hr => ?_
  obtain ⟨client, actual⟩ := r
  refine wp_checked fun hclient => ?_
  refine wp_checked fun hactual => ?_
  exact ⟨hr, hclient, hactual⟩

end List

/-! ### Processing -/

section Process

variable {env : HelloServerEnv R} {t : HelloServer R}

/-- The versions after the extensions: `v` are those before, `versions` is the data of supported_versions. -/
def AfterExtensions (policy : VersionPolicy) (versions : Option (List UInt8)) (v v' : ClientHelloVersions) : Prop :=
  match versions with
  | some body => if v.protocolVersion < tls13 then v' = v else
      ∃ client actual, v' = { v with clientProtocolVersion := client, actualProtocolVersion := actual } ∧
        Found v.serverProtocolVersion policy.minimumSupportedVersion
          (fun w => ∃ p ∈ versionPairs (body.drop 1), Seen p w) (client, actual) ∧ actual ≠ 0
  | none => v' = v

/-- The data of supported_versions. -/
def HelloServer.supportedVersions (s : HelloServer R) : Option (List UInt8) :=
  (s.psk.parsed.find? fun e => e.extensionType = Extension.supportedVersions).map fun e => e.extension.bytes

lemma wp_supportedVersionsExtension (t : HelloServer R) :
    wp (extensionProcess serverExtensionAccess (clientSupportedVersionsExtension env) ⟨t.psk.parsed, []⟩)
      (fun _ s => AfterExtensions env.policy t.supportedVersions t.versions s.versions) anyError t := by
  unfold extensionProcess
  refine wp_checked fun _ => ?_
  have himpl : wp (extensionProcessImpl serverExtensionAccess (clientSupportedVersionsExtension env) t.psk.parsed)
      (fun _ s => AfterExtensions env.policy t.supportedVersions t.versions s.versions) anyError t := by
    unfold extensionProcessImpl HelloServer.supportedVersions
    have hiana : (clientSupportedVersionsExtension env).ianaValue = Extension.supportedVersions := rfl
    rw [hiana]
    cases hfind : t.psk.parsed.find? fun e => e.extensionType = Extension.supportedVersions with
    | none => exact wp_extensionIsMissing_noop rfl rfl
    | some e =>
      refine wp_extensionRecv (fun h => Bool.noConfusion h) (Nat.zero_le _) ?_
      show wp (clientSupportedVersionsRecv env (Stuffer.initWritten e.extension)) _ _ t
      unfold clientSupportedVersionsRecv
      rw [wp_read, wp_ite]
      refine ⟨fun hlt => ?_, fun hge => ?_⟩
      · exact (if_pos hlt).mpr rfl
      · have hspec := wp_clientSupportedVersionsRecvImpl t.versions.serverProtocolVersion
          env.policy.minimumSupportedVersion (Stuffer.initWritten e.extension)
        rw [wp_iff_run] at hspec
        cases hrun : (clientSupportedVersionsRecvImpl t.versions.serverProtocolVersion
            env.policy.minimumSupportedVersion).run (Stuffer.initWritten e.extension) with
        | error e u => exact trivial
        | ok r u =>
          obtain ⟨client, actual⟩ := r
          obtain ⟨hfound, -, hactual⟩ := hspec.1 _ _ hrun
          rw [wp_bind, wp_set, wp_when]
          have hafter : AfterExtensions env.policy (some e.extension.bytes) t.versions
              { t.versions with clientProtocolVersion := client, actualProtocolVersion := actual } :=
            (if_neg hge).mpr ⟨client, actual, rfl, hfound, hactual⟩
          exact ⟨fun _ => (wp_ensure _ _).mpr ⟨fun _ => hafter, fun _ => trivial⟩, fun _ => hafter⟩
  exact wp_then himpl fun _ _ h => h

/-- What the end of the processing makes of the versions after the extensions. -/
structure Selects (policy : VersionPolicy) (v v' : ClientHelloVersions) : Prop where
  actual : v'.actualProtocolVersion =
    if v.actualProtocolVersion < tls13 then min v.serverProtocolVersion v.clientProtocolVersion
    else v.actualProtocolVersion
  minimum : policy.minimumProtocolVersion ≤ v.clientProtocolVersion
  quic : policy.quicEnabled = true → tls13 ≤ v'.actualProtocolVersion

lemma wp_onServerRest_versions {P : ClientHelloVersions → Prop} (f : R → Except Err R) {s : HelloServer R}
    (h : P s.versions) : wp (onServerRest f) (fun _ s' => P s'.versions) anyError s := by
  unfold onServerRest
  rw [wp_read, wp_bind, wp_ofExcept]
  exact ⟨fun r _ => (wp_set _).mpr h, fun _ _ => trivial⟩

/-- **The version that comes out.** -/
lemma wp_processClientHello_versions (t : HelloServer R) :
    wp (processClientHello env)
      (fun _ s => ∃ v, AfterExtensions env.policy t.supportedVersions t.versions v ∧ Selects env.policy v s.versions)
      anyError t := by
  have hstable : ∀ P : ClientHelloVersions → Prop, StableBetween fun s : HelloServer R => P s.versions := fun P =>
    ⟨fun _ _ _ h => h, fun _ _ h => h, fun _ _ h => h, fun _ h => h⟩
  have hlist : wp (extensionListProcess serverExtensionAccess (clientHelloExtensions env) ⟨t.psk.parsed, []⟩)
      (fun _ s => AfterExtensions env.policy t.supportedVersions t.versions s.versions) anyError t := by
    have hI := hstable (AfterExtensions env.policy t.supportedVersions t.versions)
    refine wp_then (wp_supportedVersionsExtension t) fun l s hs => ?_
    refine extensionListProcess_maintains serverExtensionAccess (fun b c hc => hI.bits c b hc) (fun x hx => ?_) l s hs
    rcases List.mem_append.mp hx with hx | hx
    · exact upholds_betweenPsk hI x hx
    · obtain rfl := List.mem_singleton.mp hx
      exact upholds_clientPsk fun _ _ h => h
  unfold processClientHello
  rw [wp_read]
  refine wp_then hlist fun _ s hs => ?_
  rw [wp_read]
  have hshare : wp (when (tls13 ≤ s.versions.actualProtocolVersion) (onServerRest env.keyShareSelect))
      (fun _ s' => s'.versions = s.versions) anyError s := by
    rw [wp_when]
    exact ⟨fun _ => wp_onServerRest_versions (P := fun v => v = s.versions) _ rfl, fun _ => rfl⟩
  refine wp_then hshare fun _ u hu => ?_
  have hselect : wp (selectVersion env) (fun _ s' => Selects env.policy u.versions s'.versions) anyError u := by
    unfold selectVersion
    rw [wp_update]
    refine wp_checked fun hmin => ?_
    rw [wp_ensure]
    refine ⟨fun hquic => ⟨?_, ?_, hquic⟩, fun _ => trivial⟩
    · split <;> rfl
    · split at hmin <;> exact hmin
  refine wp_then hselect fun _ w hw => ?_
  exact wp_mono_ok (fun _ _ h => ⟨u.versions, hu ▸ hs, h⟩)
    (wp_onServerRest_versions (P := fun v => Selects env.policy u.versions v) _ hw)

end Process

/-! ### Offers -/

lemma standsFor_of_seen {p : UInt8 × UInt8} (h : Seen p v) : StandsFor p v := by
  obtain ⟨hmajor, hminor, rfl⟩ := h
  have hv : versionOf [p.1, p.2] = 30 + p.2.toNat := by
    unfold versionOf
    rw [List.getD_cons_zero, hmajor]
    rfl
  rw [StandsFor, hv, hmajor, Prod.mk.injEq]
  exact ⟨by show 3 = _; omega, by omega⟩

lemma seen_of_standsFor {p : UInt8 × UInt8} (h : StandsFor p v) (hge : sslv3 ≤ v) (hle : v ≤ tls13) : Seen p v := by
  have hge : 30 ≤ v := hge
  have hle : v ≤ 34 := hle
  obtain ⟨hmajor, hminor⟩ := Prod.mk.inj h
  have h3 : p.1 = 3 := by
    apply UInt8.toNat_inj.mp
    rw [hmajor]
    show v / 10 = 3
    omega
  refine ⟨h3, by omega, ?_⟩
  unfold versionOf
  show v = 10 * p.1.toNat + p.2.toNat
  omega

lemma legacyOffers_iff {legacy : UInt8 × UInt8} (hv : sslv3 ≤ v) :
    LegacyOffers legacy v ↔ 3 ≤ legacy.1.toNat ∧ v ≤ min (versionOf [legacy.1, legacy.2]) tls12 := by
  have hv : 30 ≤ v := hv
  have hof : versionOf [legacy.1, legacy.2] = 10 * legacy.1.toNat + legacy.2.toNat := rfl
  unfold LegacyOffers
  rw [Prod.Lex.toLex_le_toLex]
  unfold tls12
  omega

section Greatest

variable {minimum highest : ℕ}

lemma isGreatest_legacy_iff (hmin : sslv3 ≤ minimum)
    (hused : ∀ v, Offers highest legacy versions v ↔ LegacyOffers legacy v)
    (hn : minimum ≤ n) :
    IsGreatest (commonVersions minimum highest legacy versions) (min highest n) ↔
      minimum ≤ highest ∧ 3 ≤ legacy.1.toNat ∧
        min n highest = min (min (versionOf [legacy.1, legacy.2]) tls12) highest := by
  have hmem : ∀ v, v ∈ commonVersions minimum highest legacy versions ↔ minimum ≤ v ∧ v ≤ highest ∧
      3 ≤ legacy.1.toNat ∧ v ≤ min (versionOf [legacy.1, legacy.2]) tls12 := by
    intro v
    constructor
    · rintro ⟨h₁, h₂, h₃⟩
      exact ⟨h₁, h₂, (legacyOffers_iff (hmin.trans h₁)).mp ((hused v).mp h₃)⟩
    · rintro ⟨h₁, h₂, h₃⟩
      exact ⟨h₁, h₂, (hused v).mpr ((legacyOffers_iff (hmin.trans h₁)).mpr h₃)⟩
  generalize min (versionOf [legacy.1, legacy.2]) tls12 = l at hmem
  constructor
  · rintro ⟨hin, hup⟩
    obtain ⟨h₁, h₂, h₃, h₄⟩ := (hmem _).mp hin
    have hbest : min l highest ≤ min highest n := hup ((hmem _).mpr ⟨by omega, by omega, h₃, by omega⟩)
    exact ⟨by omega, h₃, by omega⟩
  · rintro ⟨h₁, h₂, h₃⟩
    refine ⟨(hmem _).mpr ⟨by omega, by omega, h₂, by omega⟩, fun v hv => ?_⟩
    obtain ⟨-, h₅, -, h₆⟩ := (hmem v).mp hv
    omega

lemma offers_list_iff {body : List UInt8} :
    Offers tls13 legacy (some body) v ↔ ∃ p ∈ versionPairs (body.drop 1), StandsFor p v := by
  unfold Offers
  dsimp only
  rw [if_pos le_rfl]

lemma isGreatest_list {policy : VersionPolicy} {v v' : ClientHelloVersions} {body : List UInt8} {client actual : ℕ}
    (hmin : sslv3 ≤ policy.minimumProtocolVersion) (hserver : v.serverProtocolVersion = tls13)
    (hfound : Found tls13 policy.minimumSupportedVersion (fun w => ∃ p ∈ versionPairs (body.drop 1), Seen p w)
      (client, actual)) (hactual : actual ≠ 0)
    (hsel : Selects policy { v with clientProtocolVersion := client, actualProtocolVersion := actual } v') :
    IsGreatest (commonVersions policy.minimumProtocolVersion tls13 legacy (some body)) v'.actualProtocolVersion := by
  obtain ⟨hseen, hge, hle⟩ := hfound.actual.mem.resolve_left hactual
  -- with QUIC only TLS1.3 is found, and nothing is above it
  have hsup : policy.minimumSupportedVersion = policy.minimumProtocolVersion ∨
      policy.minimumProtocolVersion ≤ policy.minimumSupportedVersion ∧ tls13 ≤ actual := by
    unfold VersionPolicy.minimumSupportedVersion at hge ⊢
    split
    · rename_i hquic
      rw [if_pos hquic] at hge
      exact .inr ⟨Nat.le_max_left _ _, (Nat.le_max_right _ _).trans hge⟩
    · exact .inl rfl
  have hge' : policy.minimumProtocolVersion ≤ actual := hsup.elim (fun h => h ▸ hge) fun h => h.1.trans hge
  have hup : ∀ w, (∃ p ∈ versionPairs (body.drop 1), Seen p w) → policy.minimumProtocolVersion ≤ w → w ≤ tls13 →
      w ≤ actual := fun w hw h₁ h₂ =>
    hsup.elim (fun h => hfound.actual.le w ⟨hw, h ▸ h₁, h₂⟩) fun h => h₂.trans h.2
  have hbest : IsGreatest (commonVersions policy.minimumProtocolVersion tls13 legacy (some body)) actual := by
    refine ⟨⟨hge', hle, offers_list_iff.mpr ?_⟩, fun w hw => ?_⟩
    · obtain ⟨p, hp, hs⟩ := hseen
      exact ⟨p, hp, standsFor_of_seen hs⟩
    · obtain ⟨h₁, h₂, hoffers⟩ := hw
      obtain ⟨p, hp, hs⟩ := offers_list_iff.mp hoffers
      exact hup w ⟨p, hp, seen_of_standsFor hs (hmin.trans h₁) h₂⟩ h₁ h₂
  have hclient : client = actual ∨ tls13 ≤ actual := by
    by_cases h13 : tls13 ≤ actual
    · exact .inr h13
    have hlower := hfound.client.le actual hseen
    have hmem : ∃ p ∈ versionPairs (body.drop 1), Seen p client := hfound.client.mem.resolve_left (by omega)
    have hle13 : client ≤ tls13 := by
      obtain ⟨p, -, hmajor, hminor, hversion⟩ := hmem
      have hthree : p.1.toNat = 3 := congrArg UInt8.toNat hmajor
      have hof : versionOf [p.1, p.2] = 10 * p.1.toNat + p.2.toNat := rfl
      unfold tls13
      omega
    exact .inl (le_antisymm (hup client hmem (hge'.trans hlower) hle13) hlower)
  rw [hsel.actual]
  split
  · rename_i hlt
    obtain rfl := hclient.resolve_right (Nat.not_le.mpr hlt)
    rw [hserver, Nat.min_eq_right hle]
    exact hbest
  · exact hbest

end Greatest

/-! ### The result -/

section Result

/-- The ClientHello that a server has before it: its format, whether that of SSLv2 or not, its version, and the data
of supported_versions. The version of one in the format of SSLv2 was read with the header of its record. -/
inductive ReceivedHello (s : HelloServer R) : Bool → UInt8 × UInt8 → Option (List UInt8) → Prop
  | tls (msg : ClientHelloMsg) (trailing : List UInt8) (format : s.versions.clientHelloVersion ≠ sslv2)
    (decoded : decodeClientHello s.psk.io.unread = some (msg, trailing)) :
    ReceivedHello s false (msg.legacyVersion.getD 0 0, msg.legacyVersion.getD 1 0)
      (msg.extensions.lookup Extension.supportedVersions)
  | sslv2 (legacy : UInt8 × UInt8) (format : s.versions.clientHelloVersion = sslv2)
    (version : s.versions.clientProtocolVersion = versionOf [legacy.1, legacy.2] % 2 ^ 8) :
    ReceivedHello s true legacy none

/-- A server before its first ClientHello. -/
structure FreshServer (s : HelloServer R) : Prop where
  actual : s.versions.actualProtocolVersion = versionUnknown
  server : s.versions.serverProtocolVersion ≤ tls13

/-- The version of a ClientHello without a list that is looked at is read as the pair it is: its major version is 3
or more, and in the format of SSLv2 it does not matter that eight bits are kept and that TLS1.3 is not excluded. -/
def LegacyReadable (minimum highest : ℕ) (isSSLv2 : Bool) (legacy : UInt8 × UInt8) : Prop :=
  minimum ≤ highest ∧ 3 ≤ legacy.1.toNat ∧
    (isSSLv2 = true → min (versionOf [legacy.1, legacy.2] % 2 ^ 8) highest =
      min (min (versionOf [legacy.1, legacy.2]) tls12) highest)

variable {env : HelloServerEnv R} {s s' : HelloServer R} {isSSLv2 : Bool}

lemma ReceivedHello.parsed (h : ReceivedHello s isSSLv2 legacy versions) {t : HelloServer R}
    (ht : ParsesHello env s t) :
    t.supportedVersions = versions ∧ t.versions.clientProtocolVersion =
      if isSSLv2 then versionOf [legacy.1, legacy.2] % 2 ^ 8 else min (versionOf [legacy.1, legacy.2]) tls12 := by
  have hparsed : t.psk.parsed = t.clientHello.extensions := congrArg PskServer.parsed ht.psk
  cases h with
  | tls msg trailing hformat hdecoded =>
    obtain ⟨msg', trailing', hdecoded', hmsg, hversion⟩ := ht.message hformat
    obtain ⟨rfl, -⟩ := Prod.mk.inj (Option.some.inj (hdecoded.symm.trans hdecoded'))
    refine ⟨?_, ?_⟩
    · unfold HelloServer.supportedVersions
      rw [hparsed, ← lookup_knownExtensions (by decide), ← hmsg.extensions, ← find_parsed]
    · rw [ht.clientProtocolVersion hformat, hversion]
      rfl
  | sslv2 legacy hformat hversion =>
    obtain ⟨hnil, hsame⟩ := ht.sslv2 hformat
    refine ⟨?_, ?_⟩
    · unfold HelloServer.supportedVersions
      rw [hparsed, hnil]
      rfl
    · rw [hsame, hversion]
      rfl

/-- The versions with which the extensions are processed. -/
structure Starts (highest client : ℕ) (v : ClientHelloVersions) : Prop where
  server : v.serverProtocolVersion = highest
  client : v.clientProtocolVersion = client
  protocolVersion : v.protocolVersion = highest
  actual : v.actualProtocolVersion < tls13

lemma wp_limitServerVersion (hfirst : FreshServer s) (supportsTls13 : Bool) {t : HelloServer R}
    (ht : ParsesHello env s t) :
    wp (when (supportsTls13 = false) limitServerVersion)
      (fun _ u => u.supportedVersions = t.supportedVersions ∧
        Starts (highestVersion supportsTls13 s.versions.serverProtocolVersion) t.versions.clientProtocolVersion
          u.versions)
      anyError t := by
  have hactual := ht.actualProtocolVersion.trans hfirst.actual
  have hserver := ht.serverProtocolVersion
  have hunknown : versionUnknown < tls13 := by decide
  rw [wp_when]
  unfold highestVersion limitServerVersion
  refine ⟨fun hfalse => (wp_modify _).mpr ⟨rfl, ?_⟩, fun htrue => ⟨rfl, ?_⟩⟩
  · rw [hfalse, if_neg Bool.false_ne_true]
    refine ⟨by rw [hserver], rfl, ?_, ?_⟩
    · unfold ClientHelloVersions.protocolVersion
      rw [hserver, ite_self]
    · exact lt_of_le_of_lt (Nat.min_le_right _ _) (by decide)
  · rw [Bool.not_eq_false] at htrue
    rw [htrue, if_pos rfl]
    refine ⟨hserver, rfl, ?_, hactual ▸ hunknown⟩
    unfold ClientHelloVersions.protocolVersion
    rw [hactual, if_neg (fun h => h rfl), hserver]

lemma exists_selects (hfirst : FreshServer s) {supportsTls13 : Bool} (hrec : ReceivedHello s isSSLv2 legacy versions)
    (hrun : (receiveClientHello env supportsTls13).run s = .ok () s') :
    ∃ v v', Starts (highestVersion supportsTls13 s.versions.serverProtocolVersion)
        (if isSSLv2 then versionOf [legacy.1, legacy.2] % 2 ^ 8 else min (versionOf [legacy.1, legacy.2]) tls12) v ∧
      AfterExtensions env.policy versions v v' ∧ Selects env.policy v' s'.versions := by
  have hwp : wp (receiveClientHello env supportsTls13) (fun _ s' => ∃ v v',
      Starts (highestVersion supportsTls13 s.versions.serverProtocolVersion)
        (if isSSLv2 then versionOf [legacy.1, legacy.2] % 2 ^ 8 else min (versionOf [legacy.1, legacy.2]) tls12) v ∧
      AfterExtensions env.policy versions v v' ∧ Selects env.policy v' s'.versions) anyError s := by
    refine wp_then (wp_parseClientHello s) fun _ t ht => ?_
    obtain ⟨hversions, hclient⟩ := hrec.parsed ht
    refine wp_then (wp_limitServerVersion hfirst supportsTls13 ht) fun _ u hu => ?_
    obtain ⟨hlist, hstarts⟩ := hu
    rw [hclient] at hstarts
    refine wp_mono_ok (fun _ w hw => ?_) (wp_processClientHello_versions u)
    obtain ⟨v', hafter, hselects⟩ := hw
    rw [hlist, hversions] at hafter
    exact ⟨u.versions, v', hstarts, hafter, hselects⟩
  exact (wp_of_ok hrun).mp hwp

/-- **The highest common version.** A server that accepts a first ClientHello has selected the highest version in its
range that the client offers, if and only if the client has sent a list that the server looks at, or its legacy version
is read as it is meant. -/
theorem selectedVersion_highest_iff (env : HelloServerEnv R) (supportsTls13 : Bool) (hfirst : FreshServer s)
    (hpolicy : sslv3 ≤ env.policy.minimumProtocolVersion) (hrec : ReceivedHello s isSSLv2 legacy versions)
    (hrun : (receiveClientHello env supportsTls13).run s = .ok () s') :
    let highest := highestVersion supportsTls13 s.versions.serverProtocolVersion
    IsGreatest (commonVersions env.policy.minimumProtocolVersion highest legacy versions)
        s'.versions.actualProtocolVersion ↔
      (versions.isSome = true ∧ tls13 ≤ highest) ∨
        LegacyReadable env.policy.minimumProtocolVersion highest isSSLv2 legacy := by
  intro highest
  obtain ⟨v, v', hstarts, hafter, hsel⟩ := exists_selects hfirst hrec hrun
  have hhighest : highest ≤ tls13 := by
    unfold highest highestVersion
    split
    · exact hfirst.server
    · exact (Nat.min_le_left _ _).trans hfirst.server
  by_cases hused : versions.isSome = true ∧ tls13 ≤ highest
  · refine iff_of_true ?_ (.inl hused)
    obtain ⟨body, rfl⟩ := Option.isSome_iff_exists.mp hused.1
    have hmax : highest = tls13 := le_antisymm hhighest hused.2
    have hprotocol : ¬ v.protocolVersion < tls13 := Nat.not_lt.mpr (hstarts.protocolVersion ▸ hused.2)
    obtain ⟨client, actual, rfl, hfound, hactual⟩ := (if_neg hprotocol).mp hafter
    have hserver : v.serverProtocolVersion = tls13 := hstarts.server.trans hmax
    rw [hserver] at hfound
    rw [hmax]
    exact isGreatest_list hpolicy hserver hfound hactual hsel
  · -- the list is not there or is not looked at
    have hignored : v' = v ∧ ∀ w, Offers highest legacy versions w ↔ LegacyOffers legacy w := by
      cases versions with
      | none => exact ⟨hafter, fun _ => Iff.rfl⟩
      | some body =>
        have hlt : ¬ tls13 ≤ highest := fun h => hused ⟨rfl, h⟩
        have hprotocol : v.protocolVersion < tls13 := hstarts.protocolVersion ▸ Nat.lt_of_not_le hlt
        refine ⟨(if_pos hprotocol).mp hafter, fun w => ?_⟩
        unfold Offers
        dsimp only
        rw [if_neg hlt]
    obtain ⟨rfl, hoffers⟩ := hignored
    have hmin := hsel.minimum
    rw [hstarts.client] at hmin
    rw [hsel.actual, if_pos hstarts.actual, hstarts.server, hstarts.client,
      isGreatest_legacy_iff hpolicy hoffers hmin, or_iff_right hused, LegacyReadable]
    cases isSSLv2 with
    | true => simp only [if_pos, forall_const]
    | false => simp only [Bool.false_eq_true, if_false, false_implies, and_true]

end Result

/-- A ClientHello with the version `legacy` and these extensions. -/
def helloOfVersion (legacy : List UInt8) (exts : List (ℕ × List UInt8)) : List UInt8 :=
  legacy ++ List.replicate 32 0 ++ [0, 0, 2, 0, 47, 1, 0] ++ encodeExtensionList exts

lemma received_tls {s : HelloServer Unit} {a b : UInt8} {random sessionId cipherSuites compression : List UInt8}
    {exts : List (ℕ × List UInt8)} (hformat : s.versions.clientHelloVersion ≠ sslv2)
    (hdecoded : decodeClientHello s.psk.io.unread =
      some (⟨[a, b], random, sessionId, cipherSuites, compression, exts⟩, [])) :
    ReceivedHello s false (a, b) (exts.lookup Extension.supportedVersions) :=
  .tls _ _ hformat hdecoded

/-- A list with TLS1.1, TLS1.2 twice, and versions that are not known. -/
theorem selectedVersion_highest_list :
    ∃ s s' : HelloServer Unit, (receiveClientHello lenientEnv true).run s = .ok () s' ∧
      IsGreatest (commonVersions sslv3 tls13 (3, 3) (some [10, 3, 2, 3, 3, 127, 28, 3, 3, 2, 13]))
        s'.versions.actualProtocolVersion := by
  let io : ShortBytes :=
    ⟨helloOfVersion [3, 3] [(Extension.supportedVersions, [10, 3, 2, 3, 3, 127, 28, 3, 3, 2, 13])], by decide⟩
  have hrun : (receiveClientHello lenientEnv true).run (serverWith io) = .ok () _ := run_of_succeeds (by decide +kernel)
  have hdecoded : decodeClientHello (serverWith io).psk.io.unread =
      some (⟨[3, 3], List.replicate 32 0, [], [0, 47], [0],
      [(Extension.supportedVersions, [10, 3, 2, 3, 3, 127, 28, 3, 3, 2, 13])]⟩, []) := by decide +kernel
  have hformat : (serverWith io).versions.clientHelloVersion ≠ sslv2 := show 0 ≠ sslv2 by decide
  have hrec := received_tls hformat hdecoded
  exact ⟨_, _, hrun, (selectedVersion_highest_iff lenientEnv true ⟨rfl, le_rfl⟩ le_rfl hrec hrun).mpr
    (.inl ⟨rfl, le_rfl⟩)⟩

/-- **The version 2.13 is taken for TLS1.2**, also by a server with no older version than that; it is below SSLv3.
And a ClientHello in the format of SSLv2 with the version 3.4 leads to TLS1.3. -/
theorem selectedVersion_folded :
    (∃ s s' : HelloServer Unit, FreshServer s ∧ ReceivedHello s false (2, 13) none ∧
      (receiveClientHello { lenientEnv with policy := { minimumProtocolVersion := tls12 } } false).run s = .ok () s' ∧
      s'.versions.actualProtocolVersion = tls12 ∧ commonVersions tls12 tls12 (2, 13) none = ∅) ∧
    ∃ s s' : HelloServer Unit, FreshServer s ∧ ReceivedHello s true (3, 4) none ∧
      (receiveClientHello { lenientEnv with sslv2Parse := fun b => .ok (Blob.zero, b) } true).run s = .ok () s' ∧
      s'.versions.actualProtocolVersion = tls13 := by
  refine ⟨?_, ?_⟩
  · let io : ShortBytes := ⟨helloOfVersion [2, 13] [], by decide⟩
    have hdecoded : decodeClientHello (serverWith io).psk.io.unread =
        some (⟨[2, 13], List.replicate 32 0, [], [0, 47], [0], []⟩, []) := by decide +kernel
    have hformat : (serverWith io).versions.clientHelloVersion ≠ sslv2 := show 0 ≠ sslv2 by decide
    have hrec := received_tls hformat hdecoded
    refine ⟨serverWith io, _, ⟨rfl, le_rfl⟩, hrec, run_of_succeeds (by decide +kernel), by decide +kernel, ?_⟩
    refine Set.eq_empty_of_forall_notMem fun v hv => ?_
    exact absurd ((legacyOffers_iff ((by decide : sslv3 ≤ tls12).trans hv.1)).mp hv.2.2).1 (by decide)
  · let s := serverWith ⟨[0, 3, 0, 0, 0, 0, 0, 19, 1], by decide⟩
    exact ⟨{ s with versions := ⟨sslv2, 34, versionUnknown, tls13⟩ }, _, ⟨rfl, le_rfl⟩, .sslv2 (3, 4) rfl rfl,
      run_of_succeeds (by decide +kernel), by decide +kernel⟩

end S2nTls
