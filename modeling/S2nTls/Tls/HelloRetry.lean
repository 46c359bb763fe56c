import S2nTls.Tls.ClientHelloRun

/-!
The two ClientHellos around a HelloRetryRequest.

`s2n_client_hello_verify_for_retry` compares extensions by the blocks they were parsed to, and an
extension that is not there has the same empty block as one without data. It compares versions by one
byte, ten times the major version plus the minor one. So a second ClientHello may add or leave out an
extension without data, and it may have another version with the same byte.
-/

namespace S2nTls

open Lib Stuffer

variable {R : Type} {env : HelloServerEnv R} {first second : ClientHelloMsg} {trailing₁ trailing₂ : List UInt8}

/-- The extensions that may change in a second ClientHello. -/
def retryExceptions : List ℕ :=
  [Extension.keyShare, Extension.cookie, Extension.preSharedKey, Extension.supportedVersions, Extension.earlyData]

/-- **The second ClientHello equals the first** where it may not change. -/
structure SameHello (first second : ClientHelloMsg) : Prop where
  extensions : ∀ n ∈ supportedExtensions, n ∉ retryExceptions → second.extensions.lookup n = first.extensions.lookup n
  earlyData : second.extensions.lookup Extension.earlyData = none
  legacyVersion : second.legacyVersion = first.legacyVersion
  compressionMethods : second.compressionMethods = first.compressionMethods

/-- One of the messages has the extension without data, and the other does not have it. -/
def EmptyInOne (first second : ClientHelloMsg) (n : ℕ) : Prop :=
  (first.extensions.lookup n = none ∧ second.extensions.lookup n = some []) ∨
    (first.extensions.lookup n = some [] ∧ second.extensions.lookup n = none)

/-- A server between its HelloRetryRequest and the second ClientHello, which is in `handshake.io`. -/
structure Retries (s s' : HelloServer R) : Prop where
  clientHello : s'.clientHello = s.clientHello
  clientRandom : s'.clientRandom = s.clientRandom
  clientHelloVersion : s'.versions.clientHelloVersion = s.versions.clientHelloVersion
  isHelloRetryHandshake : s'.isHelloRetryHandshake = true
  messageNumber : 0 < s'.messageNumber

/-- Both messages are accepted: `s₁` receives the first one, `s₂` the second one. -/
structure AcceptsBoth (env : HelloServerEnv R) (s₁ s₂ : HelloServer R) : Prop where
  initial : s₁.isHelloRetryHandshake = false
  accepted : ∃ s₁' s₂', (clientHelloRecv env).run s₁ = .ok () s₁' ∧ Retries s₁' s₂ ∧
    (clientHelloRecv env).run s₂ = .ok () s₂'

/-! ### What is compared -/

section Compared

variable {old new : ClientHello}

lemma Blob.length_bytes (b : Blob) : b.bytes.length = b.size := slice_length _ _ _

/-- The block of an extension has the bytes of the extension, and none if it is not there. -/
lemma ParsedAs.bytes_extension {h : ClientHello} {msg : ClientHelloMsg} (hp : ParsedAs h msg) {n : ℕ}
    (hn : n ∈ supportedExtensions) : (h.extension n).bytes = (msg.extensions.lookup n).getD [] := by
  rw [← lookup_knownExtensions hn, ← hp.extensions, ← find_parsed]
  unfold ClientHello.extension
  cases h.extensions.find? fun e => e.extensionType = n <;> rfl

lemma forM_eq_ok {α : Type} {f : α → Except Err Unit} {l : List α} (h : l.forM f = .ok ()) :
    ∀ a ∈ l, f a = .ok () := by
  induction l with
  | nil => exact fun _ h => absurd h List.not_mem_nil
  | cons a l ih =>
    obtain ⟨_, ha, hl⟩ := exists_ok_of_bind h
    exact List.forall_mem_cons.mpr ⟨ha, ih hl⟩

/-- What `s2n_client_hello_verify_for_retry` makes sure of. -/
structure Compared (old new : ClientHello) : Prop where
  legacyVersion : old.legacyVersion = new.legacyVersion
  compressionMethods : old.compressionMethods.bytes = new.compressionMethods.bytes
  extensions : ∀ n ∈ supportedExtensions, n ∉ retryExceptions → (old.extension n).bytes = (new.extension n).bytes

lemma compared_of_verify {inTest : Bool} {previousClientRandom clientRandom : List UInt8}
    (h : clientHelloVerifyForRetry inTest old new previousClientRandom clientRandom = .ok ()) : Compared old new := by
  unfold clientHelloVerifyForRetry at h
  split at h
  · cases h
  · rename_i hversion
    split at h
    · cases h
    · rename_i hcompression
      refine ⟨not_not.mp hversion, not_not.mp hcompression, fun n hn hexcept => ?_⟩
      obtain ⟨_, -, hextensions⟩ := exists_ok_of_bind h
      have hn := forM_eq_ok hextensions n hn
      simp only [retryExceptions, List.mem_cons, List.not_mem_nil, or_false, not_or] at hexcept
      obtain ⟨hkey, hcookie, hpsk, hversions, hearly⟩ := hexcept
      unfold verifyExtensionForRetry at hn
      simp only [if_neg hkey, if_neg hcookie, if_neg hpsk, if_neg hversions, if_neg hearly] at hn
      split at hn
      · rename_i hempty
        rw [List.length_eq_zero_iff.mp ((Blob.length_bytes _).trans hempty.1),
          List.length_eq_zero_iff.mp ((Blob.length_bytes _).trans hempty.2)]
      · split at hn
        · assumption
        · cases hn

lemma eq_of_versionByte {v w : List UInt8} (hv : v.length = 2) (hw : w.length = 2) (hmajor : v[0]? = w[0]?)
    (h : versionByte v = versionByte w) : v = w := by
  obtain ⟨a, b, rfl⟩ := List.length_eq_two.mp hv
  obtain ⟨a', b', rfl⟩ := List.length_eq_two.mp hw
  obtain rfl : a = a' := by simpa using hmajor
  have hbytes : (10 * a.toNat + b.toNat) % 2 ^ 8 = (10 * a.toNat + b'.toNat) % 2 ^ 8 := by
    have := congrArg UInt8.toNat h
    simpa [versionByte, versionOf] using this
  have hb := b.toNat_lt
  have hb' := b'.toNat_lt
  obtain rfl : b = b' := UInt8.toNat_inj.mp (by omega)
  rfl

end Compared

/-! ### Accepted messages -/

section Accepted

variable {s s' s₁ s₂ : HelloServer R}

/-- What was read of a message is still there after it was processed. -/
def SameFields (s t : HelloServer R) : Prop :=
  t.clientHello = s.clientHello ∧ t.clientRandom = s.clientRandom ∧
    t.versions.clientHelloVersion = s.versions.clientHelloVersion

lemma stable_sameFields (s : HelloServer R) : Stable (SameFields s) where
  rest _ _ _ h := h
  bits _ _ h := h
  pskList _ _ h := h
  pskKeMode _ h := h
  versions _ _ _ h _ := h

lemma upholds_clientPsk {I : HelloServer R → Prop} (h : ∀ s p, I s → I { s with psk := p }) :
    (clientPskExtension env).Upholds I := by
  refine ⟨fun t s hs => ?_, (Keeps.read fun _ => Keeps.ensure _ _).maintains⟩
  show wp (onPsk (clientPskRecv env.psk t)) _ _ s
  unfold onPsk
  rw [wp_zoom, wp_iff_run]
  exact ⟨fun _ p _ => h s p hs, fun _ _ _ => trivial⟩

lemma wp_process_sameFields (t : HelloServer R) :
    wp (do invokeClientHelloCb env; processClientHello env) (fun _ => SameFields t) anyError t := by
  have hI := stable_sameFields t
  refine wp_tried (keeps_invokeClientHelloCb hI.toStableBetween t ⟨rfl, rfl, rfl⟩) fun _ u hu => ?_
  have hkeeps : ∀ x : ExtensionType (HelloServer R), x.Upholds (SameFields t) →
      Maintains (SameFields t) (extensionProcessImpl serverExtensionAccess x u.psk.parsed) := fun x hx =>
    extensionProcessImpl_maintains serverExtensionAccess (fun b c hc => hI.bits c b hc) hx _
  exact wp_processClientHello hI hu hI.toStableBetween (hkeeps _ (upholds_pskKeyExchangeModes hI.toStableBetween))
    (hkeeps _ (upholds_clientPsk fun _ _ h => h)) (fun _ _ h => h) fun _ _ h => h

/-- The handler of early_data is that of `client_hello_extensions` at place 17. -/
lemma clientHelloExtensions_eq : clientHelloExtensions env = (clientHelloExtensionsBeforePsk env).take 17 ++
      clientEarlyDataIndicationExtension env :: [clientExtension env Extension.ems 0, clientPskExtension env] := rfl

/-- **Early data is refused** in a ClientHello that is not the first message. -/
lemma wp_process_earlyData {t : HelloServer R} (hnumber : 0 < t.messageNumber)
    (hfind : (t.psk.parsed.find? fun e => e.extensionType = Extension.earlyData).isSome = true) :
    wp (processClientHello env) (fun _ _ => False) anyError t := by
  have hI : Stable fun s : HelloServer R => 0 < s.messageNumber :=
    ⟨⟨fun _ _ _ h => h, fun _ _ h => h, fun _ _ h => h, fun _ h => h⟩, fun _ _ _ h _ => h⟩
  obtain ⟨e, he⟩ := Option.isSome_iff_exists.mp hfind
  have hrefused : ∀ u : HelloServer R, 0 < u.messageNumber →
      wp (extensionProcessImpl serverExtensionAccess (clientEarlyDataIndicationExtension env) t.psk.parsed)
        (fun _ _ => False) anyError u := by
    intro u hu
    have hfind' : (t.psk.parsed.find? fun e =>
        e.extensionType = (clientEarlyDataIndicationExtension env).ianaValue) = some e := he
    unfold extensionProcessImpl
    rw [hfind']
    refine wp_extensionRecv (fun h => Bool.noConfusion h) (Nat.zero_le _) ?_
    show wp (do ensure ((← get).messageNumber = 0) .unsupportedExtension; setEarlyDataRequested env true) _ _ u
    rw [wp_read]
    exact wp_checked fun hzero => absurd hzero (Nat.ne_of_gt hu)
  have hlist : wp (extensionListProcess serverExtensionAccess (clientHelloExtensions env) ⟨t.psk.parsed, []⟩)
      (fun _ _ => False) anyError t := by
    have hnodup : ((clientHelloExtensions env).map ExtensionType.ianaValue).Nodup := clientHelloExtensions_nodup
    rw [clientHelloExtensions_eq] at hnodup ⊢
    exact extensionListProcess_reaches serverExtensionAccess (fun b c hc => hI.bits c b hc) ⟨t.psk.parsed, []⟩
      hnodup (fun _ _ => List.not_mem_nil)
      (fun x hx => upholds_beforePsk hI x (List.mem_of_mem_take hx)) hrefused (fun _ _ _ _ h => h.elim) t hnumber
  unfold processClientHello
  rw [wp_read]
  exact wp_then hlist fun _ _ h => h.elim

lemma stable_refused (parsed : List ParsedExtension) (n : ℕ) :
    StableBetween fun s : HelloServer R => s.psk.parsed = parsed ∧ s.messageNumber = n :=
  ⟨fun _ _ _ h => h, fun _ _ h => h, fun _ _ h => h, fun _ h => h⟩

/-- **What an accepted message has**: it was parsed, its fields are kept, and early data is only in the
first message. -/
lemma exists_of_accepted (h : (clientHelloRecv env).run s = .ok () s') :
    ∃ t, ParsesHello env s t ∧ SameFields t s' ∧
      (0 < s.messageNumber →
        (t.clientHello.extensions.find? fun e => e.extensionType = Extension.earlyData) = none) := by
  have hwp : wp (clientHelloRecv env) (fun _ s' => ∃ t, ParsesHello env s t ∧ SameFields t s' ∧
      (0 < s.messageNumber → (t.clientHello.extensions.find? fun e => e.extensionType = Extension.earlyData) = none))
      anyError s := by
    refine wp_clientHelloRecv fun t ht => ?_
    by_cases hearly : 0 < s.messageNumber ∧
        (t.clientHello.extensions.find? fun e => e.extensionType = Extension.earlyData).isSome = true
    · -- early data in a later message: there is no way to accept it
      have hparsed : t.psk.parsed = t.clientHello.extensions := congrArg PskServer.parsed ht.psk
      have hcb : wp (invokeClientHelloCb env) _ _ t :=
        keeps_invokeClientHelloCb (stable_refused t.psk.parsed t.messageNumber) t ⟨rfl, rfl⟩
      refine wp_tried hcb fun _ u hu => ?_
      refine wp_mono_ok (fun _ _ hf => hf.elim) (wp_process_earlyData ?_ ?_)
      · rw [hu.2, ht.messageNumber]
        exact hearly.1
      · rw [hu.1, hparsed]
        exact hearly.2
    · refine wp_mono_ok (fun _ u hu => ⟨t, ht, hu, fun hnumber => ?_⟩) (wp_process_sameFields t)
      exact Option.not_isSome_iff_eq_none.mp fun hsome => hearly ⟨hnumber, hsome⟩
  exact (wp_of_ok h).mp hwp

end Accepted

/-! ### Equality -/

section Equality

variable {s₁ s₂ : HelloServer R}

/-- Blocks with the same bytes are the same extension, unless one is empty and the other is not there. -/
lemma lookup_eq_iff {a b : Option (List UInt8)} (h : a.getD [] = b.getD []) :
    b = a ↔ ¬ ((a = none ∧ b = some []) ∨ (a = some [] ∧ b = none)) := by
  cases a with
  | none => cases b <;> simp_all
  | some bs => cases b <;> simp_all [eq_comm]

/-- What the comparison leaves open: whether an extension without data is there, and which of the
versions with one byte it is. -/
lemma sameHello_iff_of_compared {old new : ClientHello} (hold : ParsedAs old first) (hnew : ParsedAs new second)
    (hfirst : first.legacyVersion.length = 2) (hsecond : second.legacyVersion.length = 2)
    (hcompared : Compared old new) (hearly : second.extensions.lookup Extension.earlyData = none) :
    SameHello first second ↔ first.legacyVersion[0]? = second.legacyVersion[0]? ∧
      ∀ n ∈ supportedExtensions, n ∉ retryExceptions → ¬ EmptyInOne first second n := by
  have hbytes : ∀ n ∈ supportedExtensions, n ∉ retryExceptions →
      (first.extensions.lookup n).getD [] = (second.extensions.lookup n).getD [] := fun n hn hexcept => by
    rw [← hold.bytes_extension hn, ← hnew.bytes_extension hn]
    exact hcompared.extensions n hn hexcept
  constructor
  · intro h
    refine ⟨by rw [h.legacyVersion], fun n hn hexcept => ?_⟩
    exact (lookup_eq_iff (hbytes n hn hexcept)).mp (h.extensions n hn hexcept)
  · rintro ⟨hmajor, hempty⟩
    have hversion : versionByte first.legacyVersion = versionByte second.legacyVersion := by
      rw [← hold.legacyVersion, ← hnew.legacyVersion]
      exact hcompared.legacyVersion
    exact {
      extensions := fun n hn hexcept => (lookup_eq_iff (hbytes n hn hexcept)).mpr (hempty n hn hexcept)
      earlyData := hearly
      legacyVersion := (eq_of_versionByte hfirst hsecond hmajor hversion).symm
      compressionMethods := by
        rw [← hold.compressionMethods, ← hnew.compressionMethods]
        exact hcompared.compressionMethods.symm }

/-- **The second ClientHello equals the first** exactly if their versions have the same first byte and no
extension is without data in one of them and missing in the other. -/
theorem second_hello_same_iff (h : AcceptsBoth env s₁ s₂)
    (h₁ : decodeClientHello s₁.psk.io.unread = some (first, trailing₁))
    (h₂ : decodeClientHello s₂.psk.io.unread = some (second, trailing₂)) :
    SameHello first second ↔ first.legacyVersion[0]? = second.legacyVersion[0]? ∧
      ∀ n ∈ supportedExtensions, n ∉ retryExceptions → ¬ EmptyInOne first second n := by
  obtain ⟨s₁', s₂', hrun₁, hretries, hrun₂⟩ := h.accepted
  obtain ⟨t₁, hparse₁, hsame₁, -⟩ := exists_of_accepted hrun₁
  obtain ⟨t₂, hparse₂, -, hearly⟩ := exists_of_accepted hrun₂
  obtain ⟨hversion, hverify⟩ := hparse₂.retry hretries.isHelloRetryHandshake
  have hclientHello : s₂.clientHello = t₁.clientHello := hretries.clientHello.trans hsame₁.1
  have hversion₁ : t₁.versions.clientHelloVersion = tls12 := by
    rw [← hsame₁.2.2, ← hretries.clientHelloVersion, hversion]
  -- a first ClientHello of SSLv2 has no second one
  have hsslv2₁ : s₁.versions.clientHelloVersion ≠ sslv2 := fun hsslv2 => by
    rw [(hparse₁.sslv2 hsslv2).2, hsslv2] at hversion₁
    exact absurd hversion₁ (by decide)
  obtain ⟨msg₁, rest₁, hmsg₁, hparsed₁, -⟩ := hparse₁.message hsslv2₁
  obtain ⟨msg₂, rest₂, hmsg₂, hparsed₂, -⟩ := hparse₂.message (by rw [hversion]; decide)
  obtain rfl : msg₁ = first := congrArg Prod.fst (Option.some.inj (hmsg₁.symm.trans h₁))
  obtain rfl : msg₂ = second := congrArg Prod.fst (Option.some.inj (hmsg₂.symm.trans h₂))
  have hnone : msg₂.extensions.lookup Extension.earlyData = none := by
    rw [← lookup_knownExtensions (by decide), ← hparsed₂.extensions, ← find_parsed,
      hearly hretries.messageNumber]
    rfl
  exact sameHello_iff_of_compared hparsed₁ hparsed₂ (decodeClientHello_cases h₁).1 (decodeClientHello_cases h₂).1
    (compared_of_verify (hclientHello ▸ hverify)) hnone

end Equality

/-! ### Sample messages -/

def lenientEnv : HelloServerEnv Unit where
  malloc _ := true
  inTest := false
  psk := ⟨fun _ => .failed, fun _ _ => false, fun _ _ _ => false, none⟩
  sslv2Parse _ := .error .badMessage
  clientHelloCb := .ok
  policy := { minimumProtocolVersion := sslv3 }
  recv _ _ _ := .ok ()
  ifMissing _ _ := .ok ()
  setEarlyDataState _ _ := .ok ()
  keyShareSelect _ := .ok ()
  finish _ _ _ := .ok ()

/-- The supported_versions extension of a client with TLS1.3. -/
def tls13Versions : ℕ × List UInt8 := (Extension.supportedVersions, [2, 3, 4])

def sampleHello (exts : List (ℕ × List UInt8)) : List UInt8 :=
  [3, 3] ++ List.replicate 32 0 ++ [0, 0, 2, 19, 1, 1, 0] ++ encodeExtensionList (tls13Versions :: exts)

def serverWith (io : ShortBytes) : HelloServer Unit where
  psk := ⟨[], .external, none, 0, .unknown, false, ⟨fun _ => false, fun _ => false, fun _ => false⟩, [], arrived io⟩
  clientHello := ⟨0, Blob.zero, Blob.zero, Blob.zero, []⟩
  clientRandom := []
  versions := ⟨0, 0, versionUnknown, tls13⟩
  isHelloRetryHandshake := false
  messageNumber := 0
  earlyDataRequested := false
  rest := ()

/-- The server after the first message, with a HelloRetryRequest sent and the second one received. -/
def afterRetry (s : HelloServer Unit) (io : ShortBytes) : HelloServer Unit :=
  { s with psk := { s.psk with io := arrived io }, isHelloRetryHandshake := true, messageNumber := 2 }

lemma acceptsBoth_of_succeeds {io₁ io₂ : ShortBytes}
    (h₁ : succeeds (clientHelloRecv lenientEnv) (serverWith io₁) = true)
    (h₂ : succeeds (clientHelloRecv lenientEnv)
      (afterRetry (finalState (clientHelloRecv lenientEnv) (serverWith io₁)) io₂) = true) :
    AcceptsBoth lenientEnv (serverWith io₁)
      (afterRetry (finalState (clientHelloRecv lenientEnv) (serverWith io₁)) io₂) :=
  ⟨rfl, _, _, run_of_succeeds h₁, ⟨rfl, rfl, rfl, rfl, Nat.succ_pos 1⟩, run_of_succeeds h₂⟩

/-- Two messages with an ALPN extension. -/
theorem second_hello_same_alpn :
    ∃ (s₁ s₂ : HelloServer Unit) (first second : ClientHelloMsg),
      AcceptsBoth lenientEnv s₁ s₂ ∧ decodeClientHello s₁.psk.io.unread = some (first, []) ∧
      decodeClientHello s₂.psk.io.unread = some (second, []) ∧ SameHello first second := by
  let io : ShortBytes :=
    ⟨sampleHello [(Extension.alpn, [0, 3, 2, 104, 50])], by decide⟩
  have hboth := acceptsBoth_of_succeeds
    (show succeeds (clientHelloRecv lenientEnv) (serverWith io) = true by decide +kernel)
    (show succeeds (clientHelloRecv lenientEnv)
      (afterRetry (finalState (clientHelloRecv lenientEnv) (serverWith io)) io) = true by decide +kernel)
  have hdecode : decodeClientHello (arrived io).unread = some (⟨[3, 3], List.replicate 32 0, [], [19, 1], [0],
      [tls13Versions, (Extension.alpn, [0, 3, 2, 104, 50])]⟩, []) := by decide +kernel
  refine ⟨_, _, _, _, hboth, hdecode, hdecode, (second_hello_same_iff hboth hdecode hdecode).mpr ⟨rfl, ?_⟩⟩
  rintro n - - (⟨h, h'⟩ | ⟨h, h'⟩)
  · rw [h] at h'
    cases h'
  · rw [h] at h'
    cases h'

/-- **An extension without data is added**: the second ClientHello has extended_master_secret, the first
does not. -/
theorem second_hello_adds_extension :
    ∃ (s₁ s₂ : HelloServer Unit) (first second : ClientHelloMsg),
      AcceptsBoth lenientEnv s₁ s₂ ∧ decodeClientHello s₁.psk.io.unread = some (first, []) ∧
      decodeClientHello s₂.psk.io.unread = some (second, []) ∧ ¬ SameHello first second := by
  let io₁ : ShortBytes := ⟨sampleHello [], by decide⟩
  let io₂ : ShortBytes := ⟨sampleHello [(Extension.ems, [])], by decide⟩
  have hboth := acceptsBoth_of_succeeds
    (show succeeds (clientHelloRecv lenientEnv) (serverWith io₁) = true by decide +kernel)
    (show succeeds (clientHelloRecv lenientEnv)
      (afterRetry (finalState (clientHelloRecv lenientEnv) (serverWith io₁)) io₂) = true by decide +kernel)
  have hfirst : decodeClientHello (arrived io₁).unread =
      some (⟨[3, 3], List.replicate 32 0, [], [19, 1], [0], [tls13Versions]⟩, []) := by decide +kernel
  have hsecond : decodeClientHello (arrived io₂).unread =
      some (⟨[3, 3], List.replicate 32 0, [], [19, 1], [0], [tls13Versions, (Extension.ems, [])]⟩, []) := by
        decide +kernel
  refine ⟨_, _, _, _, hboth, hfirst, hsecond, fun hsame => ?_⟩
  exact absurd (hsame.extensions Extension.ems (by decide) (by decide)) (by decide)

end S2nTls
