import S2nTls.Lib.Bisect
import S2nTls.Lib.First
import S2nTls.Tls.CertStore
import S2nTls.Tls.ClientHello

/-!
A server chooses a cipher suite (`s2n_set_cipher_as_server`, `tls/s2n_auth_selection.c`, `tls/s2n_kex.c`).

One loop goes over the preferences of the server. A suite that needs a higher version is put aside, and so is one
without ChaCha20 if such suites are to be preferred. What the loop chooses is the first suite of the best kind that
there is.
-/

namespace S2nTls

open Lib

/-! ### Cipher suites -/

inductive AuthMethod
  | rsa | ecdsa | sentinel
  deriving DecidableEq

/-- The key exchanges, `struct s2n_kex`. -/
inductive KexAlg
  | rsa | dhe | ecdhe | kem | hybridEcdheKem | tls13
  deriving DecidableEq

/-- `s2n_kex_includes` of a key exchange and `s2n_kem`. -/
def KexAlg.includesKem : KexAlg → Bool
  | .kem | .hybridEcdheKem => true
  | _ => false

/-- The cipher of a record algorithm. -/
inductive BulkCipher
  | chacha20Poly1305 | other (id : ℕ)
  deriving DecidableEq

/-- The constant fields of a `struct s2n_cipher_suite`. The suites with ChaCha20 have no other cipher, none for SSLv3
and no KEM. -/
structure SuiteDef where
  iana : UInt8 × UInt8
  keyExchangeAlg : KexAlg
  authMethod : AuthMethod
  allRecordAlgs : List BulkCipher
  sslv3RecordAlg : Option BulkCipher
  prfAlg : HmacAlg
  minimumRequiredTlsVersion : ℕ
  chacha20_only : .chacha20Poly1305 ∈ allRecordAlgs → (∀ alg ∈ allRecordAlgs, alg = .chacha20Poly1305) ∧
    sslv3RecordAlg = none ∧ keyExchangeAlg.includesKem = false
  sslv3_ne_chacha20 : sslv3RecordAlg ≠ some .chacha20Poly1305

def SuiteDef.ianaValue (s : SuiteDef) : List UInt8 := [s.iana.1, s.iana.2]

def SuiteDef.isChacha20 (s : SuiteDef) : Bool := s.allRecordAlgs.contains .chacha20Poly1305

/-- A `struct s2n_cipher_suite`. -/
structure ServerSuite where
  suite : SuiteDef
  available : Bool
  recordAlg : Option BulkCipher

def ServerSuite.usesChacha20Alg (s : ServerSuite) : Bool := s.recordAlg = some .chacha20Poly1305

structure Libcrypto where
  isAvailable : BulkCipher → Bool
  pqIsEnabled : Bool

/-- What `s2n_cipher_suites_init` makes of a suite. -/
def Libcrypto.initSuite (lib : Libcrypto) (s : SuiteDef) : ServerSuite :=
  if s.keyExchangeAlg.includesKem = true ∧ lib.pqIsEnabled = false then ⟨s, false, none⟩
  else ⟨s, (s.allRecordAlgs.find? lib.isAvailable).isSome, s.allRecordAlgs.find? lib.isAvailable⟩

/-- Its `sslv3_cipher_suite`: a copy with another record algorithm, or the suite itself. -/
def Libcrypto.sslv3CipherSuite (lib : Libcrypto) (s : SuiteDef) : ServerSuite :=
  match s.sslv3RecordAlg with
  | none => lib.initSuite s
  | some alg => if lib.isAvailable alg = true then ⟨s, true, some alg⟩ else lib.initSuite s

def SuiteDef.number (s : SuiteDef) : ℕ := beNat s.ianaValue

/-! ### The server -/

/-- What the choice depends on, outside of the connection. -/
structure CipherEnv where
  lib : Libcrypto
  /-- `s2n_all_cipher_suites`, in the order of their numbers. -/
  allCipherSuites : List SuiteDef
  sorted : allCipherSuites.Pairwise fun s t => s.number < t.number
  /-- The `cipher_preferences` and the `kem_preferences` of the security policy. -/
  suites : List SuiteDef
  allowChacha20Boosting : Bool
  kemPreferences : List ℕ
  /-- `kem_mapping` -/
  kemMapping : List (List UInt8 × List ℕ)
  config : CertConfig
  /-- Whether the configuration has DH parameters. -/
  dhparams : Bool

/-- What is read and written of the connection. -/
structure CipherConn where
  versions : ClientHelloVersions
  sni : SniConn
  renegotiation : Bool
  secureRenegotiation : Bool
  /-- Whether a curve was negotiated. -/
  negotiatedCurve : Bool
  clientPqKemExtension : Option (List UInt8)
  kem : Option ℕ
  /-- The MAC algorithm of the chosen PSK. -/
  chosenPsk : Option HmacAlg
  cipherSuite : ServerSuite

abbrev CipherM := EStateM Err CipherConn

/-! ### Certificates -/

/-- `s2n_get_auth_method_for_cert_type` -/
def PkeyType.authMethod : PkeyType → AuthMethod
  | .rsa | .rsaPss => .rsa
  | .ecdsa => .ecdsa

section Server

variable (env : CipherEnv) (c : CipherConn)

def certsExistForAuthMethod (authMethod : AuthMethod) : Bool :=
  authMethod = .sentinel ∨ [PkeyType.rsa, .ecdsa, .rsaPss].any fun type =>
    type.authMethod = authMethod ∧ (getCompatibleCertChainAndKey env.config c.sni type).isSome

def isCipherSuiteValidForAuth (s : ServerSuite) : Bool := certsExistForAuthMethod env c s.suite.authMethod

/-! ### Key exchange -/

def cipherSuiteToKem (iana : List UInt8) : Option (List ℕ) :=
  (env.kemMapping.find? fun entry => entry.1 = iana).map (·.2)

/-- The KEM ids of the client; their number is a `uint8_t`. -/
def clientKemIds (bytes : List UInt8) : List ℕ :=
  (List.range (bytes.length / 2 % 2 ^ 8)).map fun j => beNat ((bytes.drop (2 * j)).take 2)

/-- `s2n_choose_kem_with_peer_pref_list` and `s2n_choose_kem_without_peer_pref_list` -/
def chooseKem (iana : List UInt8) : Option ℕ := do
  let compatible ← cipherSuiteToKem env iana
  match c.clientPqKemExtension with
  | none => env.kemPreferences.find? fun kem => compatible.contains kem
  | some bytes => env.kemPreferences.find? fun kem => compatible.contains kem && (clientKemIds bytes).contains kem

def checkKem (s : ServerSuite) : Bool :=
  env.lib.pqIsEnabled && !env.kemPreferences.isEmpty &&
    ((cipherSuiteToKem env s.suite.ianaValue).getD []).isEmpty.not &&
    (chooseKem env c s.suite.ianaValue).isSome

def kexSupported (s : ServerSuite) : Bool :=
  match s.suite.keyExchangeAlg with
  | .rsa => (getCompatibleCertChainAndKey env.config c.sni .rsa).isSome
  | .dhe => env.dhparams
  | .ecdhe => c.negotiatedCurve
  | .kem => checkKem env c s
  | .hybridEcdheKem => c.negotiatedCurve && checkKem env c s
  | .tls13 => tls13 ≤ c.versions.protocolVersion

def configureKem (s : ServerSuite) : CipherM Unit := do
  ensure (env.lib.pqIsEnabled = true) .unimplemented
  match chooseKem env (← get) s.suite.ianaValue with
  | none => throw .kemUnsupportedParams
  | some kem => modify ({ · with kem := some kem })

def configureKex (s : ServerSuite) : CipherM Unit :=
  if s.suite.keyExchangeAlg.includesKem = true then configureKem env s else return

/-! ### The choice -/

/-- `S2N_TLS_CIPHER_SUITE_LEN` or `S2N_SSLv2_CIPHER_SUITE_LEN` -/
def cipherSuiteLen (sslv2 : Bool) : ℕ := if sslv2 then 3 else 2

/-- The cipher suites of a ClientHello: `count` entries from `wire` on, of which the last two bytes count. -/
structure WireSuites where
  wire : List UInt8
  count : ℕ
  sslv2 : Bool
  fits : count * cipherSuiteLen sslv2 ≤ wire.length

def WireSuites.suiteLen (w : WireSuites) : ℕ := cipherSuiteLen w.sslv2

def WireSuites.entry (w : WireSuites) (i : ℕ) : List UInt8 := (w.wire.drop (i * w.suiteLen + (w.suiteLen - 2))).take 2

def WireSuites.contain (w : WireSuites) (iana : List UInt8) : Bool := (List.range w.count).any fun i => w.entry i = iana

def validateChacha20Boosting (w : WireSuites) : Bool :=
  env.allowChacha20Boosting &&
    match bisectByKey SuiteDef.number env.allCipherSuites (beNat (w.entry 0)) with
    | none => false
    | some s => (env.lib.initSuite s).usesChacha20Alg

/-- The suite that is used with a version. -/
def matchFor (version : ℕ) (s : SuiteDef) : ServerSuite :=
  if version = sslv3 then env.lib.sslv3CipherSuite s else env.lib.initSuite s

/-- The loop of `s2n_set_cipher_as_server`, and what is after it. -/
def setCipherLoop (w : WireSuites) (tryChacha20Boosting : Bool) :
    List SuiteDef → (higherVersMatch nonChacha20Match : Option ServerSuite) → CipherM Unit
  | [], higherVersMatch, nonChacha20Match =>
    match nonChacha20Match, higherVersMatch with
    | some s, _ => modify ({ · with cipherSuite := s })
    | none, some s => modify ({ · with cipherSuite := s })
    | none, none => throw .cipherNotSupported
  | ours :: rest, higherVersMatch, nonChacha20Match => do
    let c ← get
    let actual := c.versions.actualProtocolVersion
    let candidate := matchFor env actual ours
    if w.contain ours.ianaValue = false ∨ decide (tls13 ≤ actual) ≠ decide (tls13 ≤ ours.minimumRequiredTlsVersion) ∨
        candidate.available = false ∨ isCipherSuiteValidForAuth env c candidate = false ∨
        kexSupported env c candidate = false then
      setCipherLoop w tryChacha20Boosting rest higherVersMatch nonChacha20Match
    else
      match ← attempt (configureKex env candidate) with
      | .error _ => setCipherLoop w tryChacha20Boosting rest higherVersMatch nonChacha20Match
      | .ok () =>
        if c.chosenPsk.any (fun alg => ours.prfAlg ≠ alg) = true then
          setCipherLoop w tryChacha20Boosting rest higherVersMatch nonChacha20Match
        else if actual < ours.minimumRequiredTlsVersion then
          setCipherLoop w tryChacha20Boosting rest (higherVersMatch.or (some candidate)) nonChacha20Match
        else if tryChacha20Boosting = true ∧ candidate.usesChacha20Alg = false then
          setCipherLoop w tryChacha20Boosting rest higherVersMatch (nonChacha20Match.or (some candidate))
        else modify ({ · with cipherSuite := candidate })

def fallbackScsv : List UInt8 := [0x56, 0x00]

def renegotiationInfoScsv : List UInt8 := [0x00, 0xff]

def setCipherAsServer (w : WireSuites) : CipherM Unit := do
  let c ← get
  when (c.versions.clientProtocolVersion < c.versions.serverProtocolVersion)
    (ensure (w.contain fallbackScsv = false) .fallbackDetected)
  when (w.contain renegotiationInfoScsv = true) do
    ensure (c.renegotiation = false) .badMessage
    modify ({ · with secureRenegotiation := true })
  setCipherLoop env w (validateChacha20Boosting env w) env.suites none none

end Server

/-! ### What is chosen -/

section Choice

variable (env : CipherEnv) (c : CipherConn) (w : WireSuites)

/-- A suite that both sides have and that can be used, apart from the version that it needs. -/
structure Candidate (s : SuiteDef) : Prop where
  offered : ∃ i < w.count, w.entry i = s.ianaValue
  sameClass : tls13 ≤ c.versions.actualProtocolVersion ↔ tls13 ≤ s.minimumRequiredTlsVersion
  available : (matchFor env c.versions.actualProtocolVersion s).available = true
  auth : isCipherSuiteValidForAuth env c (matchFor env c.versions.actualProtocolVersion s) = true
  kex : kexSupported env c (matchFor env c.versions.actualProtocolVersion s) = true
  psk : ∀ alg ∈ c.chosenPsk, s.prfAlg = alg

/-- A candidate that does not need a higher version. -/
def Suitable (s : SuiteDef) : Prop :=
  Candidate env c w s ∧ s.minimumRequiredTlsVersion ≤ c.versions.actualProtocolVersion

/-- A candidate that needs a higher version. -/
def TooHigh (s : SuiteDef) : Prop :=
  Candidate env c w s ∧ c.versions.actualProtocolVersion < s.minimumRequiredTlsVersion

/-- Suites with ChaCha20 are preferred: the server allows it, and the first suite of the client is one of them. -/
def Boosts : Prop :=
  env.allowChacha20Boosting = true ∧ 0 < w.count ∧
    ∃ s ∈ env.allCipherSuites, s.ianaValue = w.entry 0 ∧ s.isChacha20 = true

/-- **The suite that is chosen**: the first suitable one with ChaCha20 if these are preferred, else the first suitable
one, else the first one that needs a higher version. -/
inductive ChosenSuite (s : SuiteDef) : Prop
  | chacha20 (boosts : Boosts env w) (first : IsFirst (fun s => Suitable env c w s ∧ s.isChacha20 = true) env.suites s)
  | suitable (none : Boosts env w → ∀ t ∈ env.suites, ¬ (Suitable env c w t ∧ t.isChacha20 = true))
    (first : IsFirst (Suitable env c w) env.suites s)
  | tooHigh (none : ∀ t ∈ env.suites, ¬ Suitable env c w t) (first : IsFirst (TooHigh env c w) env.suites s)

/-- The client has tried a higher version before. -/
def DetectsFallback : Prop :=
  c.versions.clientProtocolVersion < c.versions.serverProtocolVersion ∧ ∃ i < w.count, w.entry i = fallbackScsv

/-- The client signals secure renegotiation in a way that is not allowed in a renegotiation. -/
def MisusesScsv : Prop := c.renegotiation = true ∧ ∃ i < w.count, w.entry i = renegotiationInfoScsv

end Choice

variable {env : CipherEnv} {s : SuiteDef} {c : CipherConn} {w : WireSuites}

/-! ### Suites with ChaCha20 -/

section Chacha20

variable {lib : Libcrypto}

lemma SuiteDef.isChacha20_iff : s.isChacha20 = true ↔ .chacha20Poly1305 ∈ s.allRecordAlgs := by
  simp [SuiteDef.isChacha20]

lemma usesChacha20Alg_initSuite (havailable : (lib.initSuite s).available = true) :
    (lib.initSuite s).usesChacha20Alg = s.isChacha20 := by
  unfold Libcrypto.initSuite at *
  split at havailable
  · cases havailable
  · rename_i hkem
    obtain ⟨alg, halg⟩ := Option.isSome_iff_exists.mp havailable
    rw [if_neg hkem, ServerSuite.usesChacha20Alg, Bool.eq_iff_iff, SuiteDef.isChacha20_iff]
    rw [halg, decide_eq_true_eq, Option.some_inj]
    have hmem := List.mem_of_find?_eq_some halg
    exact ⟨fun heq => heq ▸ hmem, fun hchacha => (s.chacha20_only hchacha).1 alg hmem⟩

lemma available_of_usesChacha20Alg (h : (lib.initSuite s).usesChacha20Alg = true) :
    (lib.initSuite s).available = true := by
  unfold Libcrypto.initSuite at *
  split at h
  · cases h
  · rename_i hkem
    have hsome : s.allRecordAlgs.find? lib.isAvailable = some .chacha20Poly1305 := of_decide_eq_true h
    rw [if_neg hkem, hsome]
    rfl

lemma usesChacha20Alg_of_isAvailable (hlib : lib.isAvailable .chacha20Poly1305 = true) (hs : s.isChacha20 = true) :
    (lib.initSuite s).usesChacha20Alg = true := by
  have hmem := SuiteDef.isChacha20_iff.mp hs
  obtain ⟨honly, -, hkem⟩ := s.chacha20_only hmem
  unfold Libcrypto.initSuite
  rw [if_neg (by rw [hkem]; simp), ServerSuite.usesChacha20Alg, decide_eq_true_eq]
  cases hfind : s.allRecordAlgs.find? lib.isAvailable with
  | none => exact absurd hlib (by simpa using List.find?_eq_none.mp hfind _ hmem)
  | some alg => exact congrArg some (honly alg (List.mem_of_find?_eq_some hfind))

/-- If ChaCha20 is not there, the suites with it are not. -/
lemma available_eq_false_of_not_isAvailable (hlib : lib.isAvailable .chacha20Poly1305 = false)
    (hs : s.isChacha20 = true) :
    (lib.initSuite s).available = false := by
  have honly := (s.chacha20_only (SuiteDef.isChacha20_iff.mp hs)).1
  have hnone : s.allRecordAlgs.find? lib.isAvailable = none := by
    rw [List.find?_eq_none]
    intro alg halg
    rw [honly alg halg, hlib]
    decide
  unfold Libcrypto.initSuite
  split
  · rfl
  · rw [hnone]
    rfl

variable {version : ℕ}

/-- There is no other suite for SSLv3 in place of one with ChaCha20. -/
lemma matchFor_eq_initSuite (hs : s.isChacha20 = true) : matchFor env version s = env.lib.initSuite s := by
  unfold matchFor Libcrypto.sslv3CipherSuite
  rw [(s.chacha20_only (SuiteDef.isChacha20_iff.mp hs)).2.1]
  exact ite_self _

lemma usesChacha20Alg_matchFor (havailable : (matchFor env version s).available = true) :
    (matchFor env version s).usesChacha20Alg = s.isChacha20 := by
  unfold matchFor at *
  by_cases hversion : version = sslv3
  · rw [if_pos hversion] at *
    unfold Libcrypto.sslv3CipherSuite at *
    cases hsslv3 : s.sslv3RecordAlg with
    | none =>
      rw [hsslv3] at havailable
      exact usesChacha20Alg_initSuite havailable
    | some alg =>
      rw [hsslv3] at havailable
      dsimp only at havailable ⊢
      by_cases halg : env.lib.isAvailable alg = true
      · rw [if_pos halg, ServerSuite.usesChacha20Alg]
        have hne : some alg ≠ some .chacha20Poly1305 := hsslv3 ▸ s.sslv3_ne_chacha20
        have hnot : s.isChacha20 ≠ true := fun hs => by
          rw [(s.chacha20_only (SuiteDef.isChacha20_iff.mp hs)).2.1] at hsslv3
          cases hsslv3
        rw [decide_eq_false hne, Bool.eq_false_iff.mpr hnot]
      · rw [if_neg halg] at havailable ⊢
        exact usesChacha20Alg_initSuite havailable
  · rw [if_neg hversion] at *
    exact usesChacha20Alg_initSuite havailable

end Chacha20

/-! ### The loop -/

section Loop

lemma WireSuites.contain_iff {iana : List UInt8} : w.contain iana = true ↔ ∃ i < w.count, w.entry i = iana := by
  simp [WireSuites.contain]

/-- What changes before the suite is chosen. Nothing of it matters for the choice. -/
def CipherConn.prepared (c : CipherConn) (secureRenegotiation : Bool) (kem : Option ℕ) : CipherConn :=
  { c with secureRenegotiation := secureRenegotiation, kem := kem }

/-- A key exchange that is supported is configured; at most the KEM changes. -/
lemma wp_configureKex {s : ServerSuite} (hkex : kexSupported env c s = true) (flag : Bool) (kem : Option ℕ)
    {R : Err → CipherConn → Prop} :
    wp (attempt (configureKex env s)) (fun r c' => r = .ok () ∧ ∃ kem', c' = c.prepared flag kem') R
      (c.prepared flag kem) := by
  rw [wp_attempt]
  unfold configureKex
  by_cases hincludes : s.suite.keyExchangeAlg.includesKem = true
  · have hcheck : checkKem env c s = true := by
      unfold kexSupported at hkex
      cases halg : s.suite.keyExchangeAlg <;> rw [halg] at hkex hincludes <;> simp_all [KexAlg.includesKem]
    unfold checkKem at hcheck
    simp only [Bool.and_eq_true] at hcheck
    obtain ⟨⟨⟨hpq, -⟩, -⟩, hchoose⟩ := hcheck
    obtain ⟨chosen, hchosen⟩ := Option.isSome_iff_exists.mp hchoose
    rw [if_pos hincludes]
    refine wp_ensured hpq ?_
    have hsame : chooseKem env (c.prepared flag kem) s.suite.ianaValue = some chosen := hchosen
    rw [wp_read, hsame]
    exact ⟨rfl, some chosen, rfl⟩
  · rw [if_neg hincludes]
    exact ⟨rfl, kem, rfl⟩

variable (env c w) in
lemma candidate_iff :
    Candidate env c w s ↔
      ¬ (w.contain s.ianaValue = false ∨ decide (tls13 ≤ c.versions.actualProtocolVersion) ≠
          decide (tls13 ≤ s.minimumRequiredTlsVersion) ∨
        (matchFor env c.versions.actualProtocolVersion s).available = false ∨
        isCipherSuiteValidForAuth env c (matchFor env c.versions.actualProtocolVersion s) = false ∨
        kexSupported env c (matchFor env c.versions.actualProtocolVersion s) = false) ∧
      ¬ c.chosenPsk.any (fun alg => s.prfAlg ≠ alg) = true := by
  have hclass : decide (tls13 ≤ c.versions.actualProtocolVersion) = decide (tls13 ≤ s.minimumRequiredTlsVersion) ↔
      (tls13 ≤ c.versions.actualProtocolVersion ↔ tls13 ≤ s.minimumRequiredTlsVersion) := decide_eq_decide
  have hpsk : ¬ c.chosenPsk.any (fun alg => s.prfAlg ≠ alg) = true ↔ ∀ alg ∈ c.chosenPsk, s.prfAlg = alg := by
    cases c.chosenPsk <;> simp
  rw [hpsk]
  simp only [not_or, Bool.not_eq_false, Ne, not_not, hclass, WireSuites.contain_iff]
  constructor
  · rintro ⟨h₁, h₂, h₃, h₄, h₅, h₆⟩
    exact ⟨⟨h₁, h₂, h₃, h₄, h₅⟩, h₆⟩
  · rintro ⟨⟨h₁, h₂, h₃, h₄, h₅⟩, h₆⟩
    exact ⟨h₁, h₂, h₃, h₄, h₅, h₆⟩

open Classical in
/-- What the rest of the loop chooses: a suite that is taken at once, one put aside because of its cipher, or one put
aside because of its version. -/
noncomputable def loopChoice (env : CipherEnv) (c : CipherConn) (w : WireSuites) (boost : Bool) (suites : List SuiteDef)
    (higherVersMatch nonChacha20Match : Option ServerSuite) : Option ServerSuite :=
  let first (P : SuiteDef → Prop) :=
    (suites.find? fun s => decide (P s)).map (matchFor env c.versions.actualProtocolVersion)
  (first fun s => Suitable env c w s ∧ (boost = true → s.isChacha20 = true)).or
    ((nonChacha20Match.or (first (Suitable env c w))).or (higherVersMatch.or (first (TooHigh env c w))))

variable {boost : Bool} {rest : List SuiteDef} {higher other : Option ServerSuite}

lemma loopChoice_skip (hnot : ¬ Candidate env c w s) :
    loopChoice env c w boost (s :: rest) higher other = loopChoice env c w boost rest higher other := by
  simp only [loopChoice, List.find?_cons, Suitable, TooHigh, hnot, false_and, decide_false]

lemma loopChoice_tooHigh (h : TooHigh env c w s) :
    loopChoice env c w boost (s :: rest) higher other =
      loopChoice env c w boost rest (higher.or (some (matchFor env c.versions.actualProtocolVersion s))) other := by
  have hnot : ¬ Suitable env c w s := fun hs => absurd hs.2 (not_le.mpr h.2)
  cases higher <;> simp [loopChoice, hnot, h]

lemma loopChoice_aside (h : Suitable env c w s) (hnot : ¬ (boost = true → s.isChacha20 = true)) :
    loopChoice env c w boost (s :: rest) higher other =
      loopChoice env c w boost rest higher (other.or (some (matchFor env c.versions.actualProtocolVersion s))) := by
  have hlow : ¬ TooHigh env c w s := fun hs => absurd h.2 (not_le.mpr hs.2)
  cases other <;> simp [loopChoice, hnot, h, hlow]

lemma loopChoice_taken (h : Suitable env c w s) (hchacha : boost = true → s.isChacha20 = true) :
    loopChoice env c w boost (s :: rest) higher other = some (matchFor env c.versions.actualProtocolVersion s) := by
  have hfirst : IsFirst (fun s => Suitable env c w s ∧ (boost = true → s.isChacha20 = true)) (s :: rest) s :=
    ⟨[], rest, rfl, ⟨h, hchacha⟩, by simp⟩
  unfold loopChoice
  dsimp only
  rw [find?_eq_some_iff_isFirst.mpr hfirst]
  rfl

/-- **The loop chooses.** -/
lemma wp_setCipherLoop (boost flag : Bool) (suites : List SuiteDef) :
    ∀ (higher other : Option ServerSuite) (kem : Option ℕ), wp (setCipherLoop env w boost suites higher other)
      (fun _ c' => loopChoice env c w boost suites higher other = some c'.cipherSuite)
      (fun e _ => loopChoice env c w boost suites higher other = none ∧ e = .cipherNotSupported)
      (c.prepared flag kem) := by
  induction suites with
  | nil =>
    intro higher other kem
    unfold setCipherLoop
    cases other with
    | some s =>
      simp [loopChoice]
    | none =>
      cases higher with
      | some s =>
        simp [loopChoice]
      | none =>
        simp [loopChoice]
  | cons s rest ih =>
    intro higher other kem
    unfold setCipherLoop
    rw [wp_read, show (c.prepared flag kem).versions = c.versions from rfl, wp_ite]
    have hcandidate := candidate_iff env c w (s := s)
    refine ⟨fun hskip => ?_, fun hpass => ?_⟩
    · rw [loopChoice_skip fun h => (hcandidate.mp h).1 hskip]
      exact ih higher other kem
    · have hkex : kexSupported env c (matchFor env c.versions.actualProtocolVersion s) = true := by
        simp only [not_or, Bool.not_eq_false] at hpass
        exact hpass.2.2.2.2
      refine wp_then (wp_configureKex hkex flag kem) fun r c' hc' => ?_
      obtain ⟨rfl, kem', rfl⟩ := hc'
      rw [wp_ite]
      refine ⟨fun hpsk => ?_, fun hpsk => ?_⟩
      · rw [loopChoice_skip fun h => (hcandidate.mp h).2 hpsk]
        exact ih higher other kem'
      · have hs : Candidate env c w s := hcandidate.mpr ⟨hpass, hpsk⟩
        rw [wp_ite]
        refine ⟨fun hlow => ?_, fun hversion => ?_⟩
        · rw [loopChoice_tooHigh ⟨hs, hlow⟩]
          exact ih _ other kem'
        · have hsuitable : Suitable env c w s := ⟨hs, not_lt.mp hversion⟩
          rw [usesChacha20Alg_matchFor hs.available, wp_ite]
          refine ⟨fun haside => ?_, fun htake => ?_⟩
          · rw [loopChoice_aside hsuitable fun hall => by rw [hall haside.1] at haside; cases haside.2]
            exact ih higher _ kem'
          · rw [wp_modify, loopChoice_taken hsuitable fun hboost => by
              by_contra hnot
              exact htake ⟨hboost, Bool.eq_false_iff.mpr hnot⟩]

end Loop

/-! ### The result -/

lemma WireSuites.length_entry (hcount : 0 < w.count) : (w.entry 0).length = 2 := by
  have hfits := w.fits
  have hlen : 2 ≤ cipherSuiteLen w.sslv2 := by
    unfold cipherSuiteLen
    split <;> decide
  have hle : cipherSuiteLen w.sslv2 ≤ w.wire.length := (Nat.le_mul_of_pos_left _ hcount).trans hfits
  rw [WireSuites.entry, WireSuites.suiteLen, List.length_take, List.length_drop]
  omega

lemma SuiteDef.number_eq_iff {bytes : List UInt8} (hlen : bytes.length = 2) :
    s.number = beNat bytes ↔ s.ianaValue = bytes := by
  refine ⟨fun heq => ?_, fun heq => congrArg beNat heq⟩
  have hself := beBytes_beNat s.ianaValue
  have hbytes := beBytes_beNat bytes
  rw [SuiteDef.number] at heq
  rw [heq, show s.ianaValue.length = 2 from rfl] at hself
  rw [hlen] at hbytes
  exact hself.symm.trans hbytes

variable (env c w) in
/-- The server finds out whether suites with ChaCha20 are preferred, unless there are none to choose. -/
lemma validateChacha20Boosting_iff :
    (validateChacha20Boosting env w = true ↔ Boosts env w) ∨
      ∀ t ∈ env.suites, ¬ (Suitable env c w t ∧ t.isChacha20 = true) := by
  by_cases hcount : 0 < w.count
  · cases hlib : env.lib.isAvailable .chacha20Poly1305 with
    | true =>
      left
      unfold validateChacha20Boosting Boosts
      rw [Bool.and_eq_true, and_congr_right_iff]
      intro _
      have hfind : ∀ s, bisectByKey SuiteDef.number env.allCipherSuites (beNat (w.entry 0)) = some s ↔
          s ∈ env.allCipherSuites ∧ s.ianaValue = w.entry 0 := fun s => by
        rw [bisectByKey_eq_some_iff env.sorted, SuiteDef.number_eq_iff (WireSuites.length_entry hcount)]
      constructor
      · intro h
        cases hs : bisectByKey SuiteDef.number env.allCipherSuites (beNat (w.entry 0)) with
        | none =>
          rw [hs] at h
          cases h
        | some s =>
          rw [hs] at h
          obtain ⟨hmem, hiana⟩ := (hfind s).mp hs
          have havailable := available_of_usesChacha20Alg h
          exact ⟨hcount, s, hmem, hiana, (usesChacha20Alg_initSuite havailable).symm.trans h⟩
      · rintro ⟨-, s, hmem, hiana, hs⟩
        rw [(hfind s).mpr ⟨hmem, hiana⟩]
        exact usesChacha20Alg_of_isAvailable hlib hs
    | false =>
      right
      rintro t - ⟨ht, hchacha⟩
      have havailable := ht.1.available
      rw [matchFor_eq_initSuite hchacha, available_eq_false_of_not_isAvailable hlib hchacha] at havailable
      cases havailable
  · right
    rintro t - ⟨ht, -⟩
    obtain ⟨i, hi, -⟩ := ht.1.offered
    omega

lemma chosenSuite_of_loopChoice {m : ServerSuite}
    (h : loopChoice env c w (validateChacha20Boosting env w) env.suites none none = some m) :
    ∃ s, ChosenSuite env c w s ∧ m = matchFor env c.versions.actualProtocolVersion s := by
  unfold loopChoice at h
  dsimp only at h
  rw [Option.none_or, Option.none_or, Option.or_eq_some_iff, Option.or_eq_some_iff] at h
  simp only [Option.map_eq_some_iff, Option.map_eq_none_iff, find?_eq_some_iff_isFirst, find?_eq_none_iff_forall] at h
  obtain ⟨s, hs, rfl⟩ | ⟨hnone, ⟨s, hs, rfl⟩ | ⟨hnone', s, hs, rfl⟩⟩ := h
  · refine ⟨s, ?_, rfl⟩
    cases hboost : validateChacha20Boosting env w with
    | true =>
      rw [hboost] at hs
      simp only [true_implies] at hs
      obtain hiff | hnone := validateChacha20Boosting_iff env c w
      · exact .chacha20 (hiff.mp hboost) hs
      · exact absurd hs.holds (hnone s hs.mem)
    | false =>
      rw [hboost] at hs
      simp only [Bool.false_eq_true, false_implies, and_true] at hs
      refine .suitable (fun hboosts => ?_) hs
      obtain hiff | hnone := validateChacha20Boosting_iff env c w
      · rw [hiff.mpr hboosts] at hboost
        cases hboost
      · exact hnone
  · exact ⟨s, .suitable (fun _ t ht hsuitable => hnone t ht ⟨hsuitable.1, fun _ => hsuitable.2⟩) hs, rfl⟩
  · exact ⟨s, .tooHigh hnone' hs, rfl⟩

/-- Nothing is chosen if there are no candidates. -/
lemma forall_not_candidate_of_loopChoice {boost : Bool} (h : loopChoice env c w boost env.suites none none = none) :
    ∀ s ∈ env.suites, ¬ Candidate env c w s := by
  unfold loopChoice at h
  dsimp only at h
  rw [Option.none_or, Option.none_or, Option.or_eq_none_iff, Option.or_eq_none_iff] at h
  simp only [Option.map_eq_none_iff, find?_eq_none_iff_forall] at h
  obtain ⟨-, hsuitable, hhigh⟩ := h
  intro s hs hcandidate
  obtain hle | hlt := le_or_gt s.minimumRequiredTlsVersion c.versions.actualProtocolVersion
  · exact hsuitable s hs ⟨hcandidate, hle⟩
  · exact hhigh s hs ⟨hcandidate, hlt⟩

lemma ChosenSuite.exists_candidate (h : ChosenSuite env c w s) : ∃ s ∈ env.suites, Candidate env c w s := by
  obtain ⟨-, hfirst⟩ | ⟨-, hfirst⟩ | ⟨-, hfirst⟩ := h
  · exact ⟨s, hfirst.mem, hfirst.holds.1.1⟩
  · exact ⟨s, hfirst.mem, hfirst.holds.1⟩
  · exact ⟨s, hfirst.mem, hfirst.holds.1⟩

variable (env c w) in
/-- A program sets the suite to be chosen, or fails for a good reason. -/
abbrev SelectsSuite (m : CipherM Unit) : CipherConn → Prop :=
  wp m (fun _ c' => ¬ DetectsFallback c w ∧ ¬ MisusesScsv c w ∧ ∃ s, ChosenSuite env c w s ∧
      c'.cipherSuite = matchFor env c.versions.actualProtocolVersion s)
    (fun _ _ => DetectsFallback c w ∨ MisusesScsv c w ∨ ∀ s ∈ env.suites, ¬ Candidate env c w s)

variable (env c w) in
lemma wp_setCipherAsServer : SelectsSuite env c w (setCipherAsServer env w) c := by
  have hloop : ∀ flag, ¬ DetectsFallback c w → ¬ MisusesScsv c w → SelectsSuite env c w
      (setCipherLoop env w (validateChacha20Boosting env w) env.suites none none) (c.prepared flag c.kem) := by
    intro flag hfallback hscsv
    refine wp_mono (fun _ c' hc' => ?_) (fun _ _ hnone => ?_) (wp_setCipherLoop _ flag env.suites none none c.kem)
    · exact ⟨hfallback, hscsv, chosenSuite_of_loopChoice hc'⟩
    · exact .inr (.inr (forall_not_candidate_of_loopChoice hnone.1))
  have hrest : ¬ DetectsFallback c w → SelectsSuite env c w (do
      when (w.contain renegotiationInfoScsv = true) do
        ensure (c.renegotiation = false) .badMessage
        modify ({ · with secureRenegotiation := true })
      setCipherLoop env w (validateChacha20Boosting env w) env.suites none none) c := by
    intro hfallback
    rw [SelectsSuite, wp_bind, wp_when]
    refine ⟨fun hcontain => ?_, fun hnot => ?_⟩
    · refine wp_seq_ensure (fun hflag => ?_) fun hflag => ?_
      · exact hloop true hfallback fun h => absurd (h.1.symm.trans hflag) (by decide)
      · exact .inr (.inl ⟨by simpa using hflag, WireSuites.contain_iff.mp hcontain⟩)
    · exact hloop c.secureRenegotiation hfallback fun h => hnot (WireSuites.contain_iff.mpr h.2)
  unfold SelectsSuite setCipherAsServer
  rw [wp_read, wp_bind, wp_when]
  refine ⟨fun hlower => ?_, fun hnot => hrest fun h => hnot h.1⟩
  rw [wp_ensure]
  refine ⟨fun hno => hrest fun h => ?_, fun hcontain =>
    Or.inl ⟨hlower, WireSuites.contain_iff.mp (by simpa using hcontain)⟩⟩
  rw [WireSuites.contain_iff.mpr h.2] at hno
  cases hno

/-- **The cipher suite of a server.** If the choice succeeds, the suite is the first one of the best kind in the order
of the server. It fails if and only if there is no candidate, the client falls back, or it signals secure
renegotiation by the value that a renegotiation must not have. -/
theorem setCipherAsServer_chooses (env : CipherEnv) (w : WireSuites) (c : CipherConn) :
    (∀ c', (setCipherAsServer env w).run c = .ok () c' → ∃ s, ChosenSuite env c w s ∧
      c'.cipherSuite = matchFor env c.versions.actualProtocolVersion s) ∧
    (succeeds (setCipherAsServer env w) c = false ↔
      DetectsFallback c w ∨ MisusesScsv c w ∨ ∀ s ∈ env.suites, ¬ Candidate env c w s) := by
  obtain ⟨hok, herror⟩ := wp_iff_run.mp (wp_setCipherAsServer env c w)
  refine ⟨fun c' hrun => (hok () c' hrun).2.2, ?_⟩
  unfold Lib.succeeds
  cases hrun : (setCipherAsServer env w).run c with
  | ok _ c' =>
    obtain ⟨hfallback, hscsv, s, hs, -⟩ := hok _ c' hrun
    obtain ⟨t, ht, hcandidate⟩ := hs.exists_candidate
    refine iff_of_false (fun h => Bool.noConfusion h) ?_
    rintro (h | h | h)
    · exact hfallback h
    · exact hscsv h
    · exact h t ht hcandidate
  | error e c' => exact iff_of_true rfl (herror e c' hrun)

def rsaWithAes128CbcSha : SuiteDef where
  iana := (0x00, 0x2f)
  keyExchangeAlg := .rsa
  authMethod := .rsa
  allRecordAlgs := [.other 0, .other 1]
  sslv3RecordAlg := some (.other 1)
  prfAlg := .sha256
  minimumRequiredTlsVersion := sslv3
  chacha20_only := by decide
  sslv3_ne_chacha20 := by decide

/-- A server with this suite and an RSA certificate. -/
def rsaCipherEnv : CipherEnv where
  lib := ⟨fun _ => true, false⟩
  allCipherSuites := [rsaWithAes128CbcSha]
  sorted := List.pairwise_singleton _ _
  suites := [rsaWithAes128CbcSha]
  allowChacha20Boosting := false
  kemPreferences := []
  kemMapping := []
  config := { CertConfig.new with defaultCertsByType := fun _ => some ⟨4, by decide⟩ }
  dhparams := false

/-- A connection for TLS1.2 that is renegotiated. -/
def renegotiatingConn : CipherConn where
  versions := ⟨tls12, tls12, tls12, tls12⟩
  sni := SniConn.new
  renegotiation := true
  secureRenegotiation := true
  negotiatedCurve := false
  clientPqKemExtension := none
  kem := none
  chosenPsk := none
  cipherSuite := rsaCipherEnv.lib.initSuite rsaWithAes128CbcSha

/-- **The signalling value in a renegotiation.** There is a candidate and the client does not fall back, but the choice
fails. And in the format of SSLv2 the first byte of an entry does not matter. -/
theorem setCipherAsServer_rejects_scsv :
    (∃ w : WireSuites, w.wire = [0x00, 0x2f, 0x00, 0xff] ∧ w.count = 2 ∧ w.sslv2 = false ∧
      Candidate rsaCipherEnv renegotiatingConn w rsaWithAes128CbcSha ∧ ¬ DetectsFallback renegotiatingConn w ∧
      ∃ c', (setCipherAsServer rsaCipherEnv w).run renegotiatingConn = .error .badMessage c') ∧
    ∃ w : WireSuites, w.wire = [0x07, 0x00, 0x2f] ∧ w.count = 1 ∧ w.sslv2 = true ∧
      succeeds (setCipherAsServer rsaCipherEnv w) { renegotiatingConn with renegotiation := false } = true := by
  refine ⟨⟨⟨[0x00, 0x2f, 0x00, 0xff], 2, false, by decide⟩, rfl, rfl, rfl, ?_, ?_, _, rfl⟩,
    ⟨[0x07, 0x00, 0x2f], 1, true, by decide⟩, rfl, rfl, rfl, by decide +kernel⟩
  · exact ⟨⟨0, by decide, rfl⟩, by decide, by decide, by decide, by decide, by simp [renegotiatingConn]⟩
  · exact fun h => absurd h.1 (by decide)

/-! ### The KEM -/

section Kem

variable (env : CipherEnv) (c : CipherConn)

/-- All entries of a client's list of KEM ids. -/
def kemEntries (bytes : List UInt8) : List ℕ :=
  (List.range (bytes.length / 2)).map fun j => beNat ((bytes.drop (2 * j)).take 2)

/-- The first KEM of the server that goes with the suite and is one of `ids`. -/
def firstKem (iana : List UInt8) (ids : List ℕ) : Option ℕ :=
  env.kemPreferences.find? fun kem => ((cipherSuiteToKem env iana).getD []).contains kem && ids.contains kem

lemma chooseKem_eq (iana bytes : List UInt8) : chooseKem env { c with clientPqKemExtension := some bytes } iana =
    firstKem env iana ((kemEntries bytes).take (bytes.length / 2 % 2 ^ 8)) := by
  rw [kemEntries, ← List.map_take, List.take_range, Nat.min_eq_left (Nat.mod_le _ _)]
  unfold chooseKem firstKem
  cases cipherSuiteToKem env iana with
  | none => exact (List.find?_eq_none.mpr fun _ _ h => Bool.noConfusion h).symm
  | some compatible => rfl

/-- **The choice follows the preference of the server** if the KEM to choose is in the part of the client's list that is
looked at. -/
theorem chooseKem_follows_preference_iff (iana bytes : List UInt8) :
    chooseKem env { c with clientPqKemExtension := some bytes } iana = firstKem env iana (kemEntries bytes) ↔
      ∀ kem, firstKem env iana (kemEntries bytes) = some kem →
        kem ∈ (kemEntries bytes).take (bytes.length / 2 % 2 ^ 8) := by
  rw [chooseKem_eq, firstKem, firstKem, find?_eq_find?_iff fun kem => ?_]
  · refine forall₂_congr fun kem hkem => ?_
    have hfound := List.find?_some hkem
    simp_all
  · simp only [Bool.and_eq_true, List.contains_iff_mem]
    exact fun h => ⟨h.1, List.mem_of_mem_take h.2⟩

end Kem

/-- **With 256 entries none of them is looked at.** -/
theorem chooseKem_ignores_list :
    let env : CipherEnv := { rsaCipherEnv with kemPreferences := [28], kemMapping := [([255, 12], [28])] }
    let bytes := (List.replicate 256 [0, 28]).flatten
    chooseKem env { renegotiatingConn with clientPqKemExtension := some bytes } [255, 12] = none ∧
      firstKem env [255, 12] (kemEntries bytes) = some 28 := by
  decide +kernel

end S2nTls
