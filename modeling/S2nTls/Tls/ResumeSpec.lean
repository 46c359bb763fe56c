import S2nTls.Tls.Resume

/-!
What is written of a session and what becomes of it when it is read.
-/

namespace S2nTls

open Lib Stuffer

variable {suites : CipherSuites}

/-! ### Suites -/

namespace CipherSuites

variable {s : HelloSuite}
variable {now : UInt64}

lemma cipherSuiteFromIana_of_mem (hs : s ∈ suites.all) : suites.cipherSuiteFromIana s.ianaValue = .ok s := by
  have hfound : bisectByKey HelloSuite.number suites.all s.number = some s :=
    (bisectByKey_eq_some_iff suites.sorted).mpr ⟨hs, rfl⟩
  obtain ⟨i, hi, hat⟩ := Option.bind_eq_some_iff.mp hfound
  have hcompare : suites.compareAt s.ianaValue = compareKeyAt HelloSuite.number suites.all s.number := by
    funext j
    unfold compareAt compareKeyAt
    cases suites.all[j]? <;> rfl
  rw [cipherSuiteFromIana, hcompare, hi]
  dsimp only
  rw [hat]

end CipherSuites

/-! ### Appending -/

namespace Stuffer

/-- If `m` succeeds, it has appended `bs`. -/
def Appends (bs : List UInt8) (m : StufferM Unit) : Prop :=
  ∀ t, wp m (fun _ u => u.unread = t.unread ++ bs) (fun _ _ => True) t

variable {a b : List UInt8} {m n : StufferM Unit} {c : Prop} [Decidable c] (malloc : ℕ → Bool)

lemma appends_writeBytes (bs : List UInt8) : Appends bs (writeBytes malloc bs) := fun t =>
  wp_try (fun _ _ h => h.1) (wp_writeBytes malloc bs t)

lemma appends_writeUint (width k : ℕ) : Appends (beBytes width k) (writeUint malloc width k) :=
  appends_writeBytes malloc _

lemma Appends.bind (hm : Appends a m) (hn : Appends b n) : Appends (a ++ b) (m >>= fun _ => n) := fun t => by
  refine wp_tried (hm t) fun _ u hu => ?_
  refine wp_try (fun _ w hw => ?_) (hn u)
  rw [hw, hu, List.append_assoc]

lemma Appends.ensure_bind {e : Err} (hn : c → Appends b n) : Appends b (ensure c e >>= fun _ => n) := fun t =>
  wp_checked fun hc => hn hc t

lemma Appends.when (hm : Appends a m) : Appends (if c then a else []) (when c m) := fun t => by
  rw [wp_when]
  constructor
  · intro hc
    rw [if_pos hc]
    exact hm t
  · intro hc
    rw [if_neg hc, List.append_nil]

end Stuffer

/-! ### What is written -/

structure SessionState where
  version : { v : ℕ // v < 256 }
  cipherSuite : HelloSuite
  ticketIssueTime : UInt64
  ticketAgeAdd : UInt32
  secret : { secret : List UInt8 // secret.length < 256 }
  /-- There is one if a server has written it. -/
  keyingMaterialExpiration : Option UInt64
  maxEarlyDataSize : UInt32
  applicationProtocol : { p : List UInt8 // p.length < 256 }
  context : { context : List UInt8 // context.length < 2 ^ 16 }

namespace SessionState

variable (st : SessionState)

def encodeExpiration : List UInt8 :=
  match st.keyingMaterialExpiration with
  | none => []
  | some time => beBytes 8 time.toNat

def encodeEarlyData : List UInt8 :=
  if st.maxEarlyDataSize > 0 then
    beBytes 1 st.applicationProtocol.1.length ++ (st.applicationProtocol.1 ++
      (beBytes 2 st.context.1.length ++ st.context.1))
  else []

/-- The bytes after the number of the format. -/
def encode : List UInt8 :=
  beBytes 1 st.version.1 ++ (st.cipherSuite.ianaValue ++ (beBytes 8 st.ticketIssueTime.toNat ++
    (beBytes 4 st.ticketAgeAdd.toNat ++ (beBytes 1 st.secret.1.length ++ (st.secret.1 ++
      (st.encodeExpiration ++ (beBytes 4 st.maxEarlyDataSize.toNat ++ st.encodeEarlyData)))))))

end SessionState

/-- The state of a connection at a time. A secret of more than 255 bytes is never written. -/
def ResumeConn.sessionState (c : ResumeConn) (now : UInt64) : SessionState where
  version := c.actualProtocolVersion
  cipherSuite := c.cipherSuite
  ticketIssueTime := now
  ticketAgeAdd := c.ticketAgeAdd
  secret := ⟨c.sessionSecret.take 255, Nat.lt_succ_of_le (List.length_take_le _ _)⟩
  keyingMaterialExpiration := if c.mode = .server then some (keyingMaterialExpirationAt c.ticketConn now) else none
  maxEarlyDataSize := c.earlyDataServerMaxSize
  applicationProtocol := ⟨c.applicationProtocol.string, length_string_lt c.applicationProtocol⟩
  context := c.serverEarlyDataContext

variable {malloc : ℕ → Bool} {c : ResumeConn} {s : Resuming} {R : Err → Resuming → Prop} {rest : List UInt8}

lemma appends_serializeKeyingMaterialExpiration (now : UInt64) :
    Appends (c.sessionState now).encodeExpiration (tls13SerializeKeyingMaterialExpiration malloc c now) := by
  have hbytes : (c.sessionState now).encodeExpiration =
      if c.mode = .server then beBytes 8 (keyingMaterialExpirationAt c.ticketConn now).toNat else [] := by
    unfold SessionState.encodeExpiration ResumeConn.sessionState
    dsimp only
    by_cases hmode : c.mode = .server
    · rw [if_pos hmode, if_pos hmode]
    · rw [if_neg hmode, if_neg hmode]
  rw [hbytes]
  exact (appends_writeUint malloc 8 _).when

lemma appends_serializeEarlyData :
    Appends (beBytes 1 c.applicationProtocol.string.length ++ (c.applicationProtocol.string ++
      (beBytes 2 c.serverEarlyDataContext.1.length ++ c.serverEarlyDataContext.1))) (serializeEarlyData malloc c) :=
  (appends_writeUint malloc 1 _).bind <| (appends_writeBytes malloc _).bind <|
    (appends_writeUint malloc 2 _).bind (appends_writeBytes malloc _)

/-- **Writing.** What is appended is the encoding of the state. -/
lemma appends_writeSessionState (now : UInt64) :
    Appends (beBytes 1 serializedFormatTls13V1 ++ (c.sessionState now).encode) (writeSessionState malloc c now) := by
  refine (appends_writeUint malloc 1 _).bind <| (appends_writeUint malloc 1 _).bind <|
    (appends_writeBytes malloc _).bind <| (appends_writeUint malloc 8 _).bind <|
    (appends_writeUint malloc 4 _).bind <| Appends.ensure_bind fun hlen => ?_
  have hsecret : (c.sessionState now).secret.1 = c.sessionSecret := List.take_of_length_le hlen.2
  rw [hsecret]
  exact (appends_writeUint malloc 1 _).bind <| (appends_writeBytes malloc _).bind <|
    (appends_serializeKeyingMaterialExpiration now).bind <| (appends_writeUint malloc 4 _).bind
    appends_serializeEarlyData.when

/-! ### What is read -/

section Read

variable {α β : Type} {Q : β → Resuming → Prop}

/-- A connection that has gone on to read `rest`. -/
structure AtRest (s : Resuming) (rest : List UInt8) (s' : Resuming) : Prop where
  conn : s'.conn = s.conn
  unread : s'.state.unread = rest
  isNull : s'.state.blob.isNull = false

lemma AtRest.here {s' : Resuming} (h : AtRest s rest s') : AtRest s' rest s' := ⟨rfl, h.unread, h.isNull⟩

lemma AtRest.trans {s₁ s₂ : Resuming} {rest' : List UInt8} (h' : AtRest s₁ rest' s₂) (h : AtRest s rest s₁) :
    AtRest s rest' s₂ := ⟨h'.conn.trans h.conn, h'.unread, h'.isNull⟩

lemma wp_seq_onState {m : StufferM α} {f : α → ResumeM β}
    (h : wp m (fun a u => wp (f a) Q R { s with state := u }) (fun e u => R e { s with state := u }) s.state) :
    wp (onState m >>= f) Q R s := by
  rw [wp_bind, onState, wp_zoom]
  exact h

lemma wp_seq_readUint {f : ℕ → ResumeM β} {width n : ℕ} (h : AtRest s (beBytes width n ++ rest) s)
    (hn : n < 256 ^ width) (hok : ∀ s', AtRest s rest s' → wp (f n) Q R s') :
    wp (onState (readUint width) >>= f) Q R s := by
  exact wp_seq_zoom_readUint h.isNull h.unread hn fun u hnull hu => hok _ ⟨rfl, hu, hnull⟩

variable {f : List UInt8 → ResumeM β}

lemma wp_seq_readBytes {bs : List UInt8} {n : ℕ} (h : AtRest s (bs ++ rest) s)
    (hn : bs.length = n) (hok : ∀ s', AtRest s rest s' → wp (f bs) Q R s') :
    wp (onState (readBytes n) >>= f) Q R s := by
  exact wp_seq_zoom_readBytes h.isNull h.unread hn fun u hnull hu => hok _ ⟨rfl, hu, hnull⟩

lemma wp_seq_rawReadBytes {bs : List UInt8} {n : ℕ} (h : AtRest s (bs ++ rest) s)
    (hn : bs.length = n) (hok : ∀ s', AtRest s rest s' → wp (f bs) Q R s') :
    wp (onState (rawReadBytes n) >>= f) Q R s := by
  refine wp_seq_onState ?_
  unfold rawReadBytes
  rw [wp_bind]
  refine wp_rawRead_of_bytes h.isNull (h.unread ▸ Parser.bytes_append rest hn) fun off u hbs hu hblob => ?_
  dsimp only
  rw [wp_read, wp_pure, hblob, hbs]
  exact hok _ ⟨rfl, hu, hblob ▸ h.isNull⟩

end Read

/-- What `s2n_validate_ticket_age` asks for. -/
def TicketAgeValid (now issueTime : UInt64) : Prop :=
  if now < issueTime then (issueTime - now) / oneSecInNanos ≤ maxAllowedClockSkewSec
  else (now - issueTime) / oneSecInNanos ≤ oneWeekInSec.toUInt64

lemma wp_validateTicketAge_of {Q : Unit → TicketConfig → Prop} {R : Err → TicketConfig → Prop} {issueTime : UInt64}
    {config : TicketConfig} (hok : TicketAgeValid now issueTime → Q () config)
    (herr : ¬ TicketAgeValid now issueTime → R .invalidSessionTicket config) :
    wp (validateTicketAge now issueTime) Q R config := by
  unfold TicketAgeValid at hok herr
  unfold validateTicketAge
  by_cases hskew : now < issueTime
  · rw [if_pos hskew] at hok herr ⊢
    exact (wp_ensure _ _).2 ⟨hok, herr⟩
  · rw [if_neg hskew] at hok herr ⊢
    exact (wp_ensure _ _).2 ⟨hok, herr⟩

/-- What becomes of the early data of a state. -/
def SessionState.earlyDataConfig (st : SessionState) : EarlyDataConfig :=
  if st.maxEarlyDataSize > 0 then
    { maxEarlyDataSize := st.maxEarlyDataSize
      protocolVersion := tls13
      cipherSuite := some st.cipherSuite
      applicationProtocol := st.applicationProtocol.1
      context := st.context.1 }
  else {}

def SessionState.psk (st : SessionState) (identity : Blob) : SessionPsk where
  type := .resumption
  identity := slice identity.data 0 (identity.size % 2 ^ 16)
  secret := st.secret.1
  hmacAlg := st.cipherSuite.prfAlg
  ticketAgeAdd := st.ticketAgeAdd
  ticketIssueTime := st.ticketIssueTime
  keyingMaterialExpiration := st.keyingMaterialExpiration.getD 0
  earlyDataConfig := st.earlyDataConfig

/-- The allocator grants a copy of the bytes. -/
def Allocator.Copies (malloc : Allocator) (bs : List UInt8) : Prop := bs.length = 0 ∨ malloc bs.length = true

lemma except_bind_eq_ok {α β : Type} {x : Except Err α} {f : α → Except Err β} {b : β} :
    x >>= f = .ok b ↔ ∃ a, x = .ok a ∧ f a = .ok b := by
  cases x with
  | error e => exact iff_of_false (fun h => nomatch h) fun ⟨_, h, _⟩ => nomatch h
  | ok a => exact ⟨fun h => ⟨a, rfl, h⟩, fun ⟨_, h, hf⟩ => Except.ok.inj h ▸ hf⟩

lemma Allocator.copy_eq_ok {malloc : Allocator} {bs bs' : List UInt8} :
    malloc.copy bs = .ok bs' ↔ malloc.Copies bs ∧ bs = bs' := by
  unfold Allocator.copy Allocator.Copies
  split <;> simp_all

lemma Allocator.copy_map_eq_ok {α : Type} {malloc : Allocator} {bs : List UInt8} {f : List UInt8 → α} {a : α} :
    (do return f (← malloc.copy bs) : Except Err α) = .ok a ↔ malloc.Copies bs ∧ f bs = a := by
  simp [except_bind_eq_ok, Allocator.copy_eq_ok, pure, Except.pure]

/-- A call that returns `b` if and only if `p` holds. -/
lemma wp_ofExcept_of_iff {σ α : Type} {x : Except Err α} {b : α} {p : Prop} {Q : α → σ → Prop}
    {R : Err → σ → Prop} {s : σ}
    (hx : ∀ a, x = .ok a ↔ p ∧ b = a) (hok : p → Q b s) (herr : ¬ p → ∀ e, R e s) :
    wp (MonadExcept.ofExcept x : EStateM Err σ α) Q R s := by
  rw [wp_ofExcept]
  refine ⟨fun a ha => ?_, fun e he => herr (fun hp => nomatch he.symm.trans ((hx b).mpr ⟨hp, rfl⟩)) e⟩
  obtain ⟨hp, rfl⟩ := (hx a).mp ha
  exact hok hp

/-- There is memory for the blocks of a PSK. -/
def EarlyDataConfig.Granted (config : EarlyDataConfig) (malloc : Allocator) : Prop :=
  malloc.Copies config.applicationProtocol ∧ malloc.Copies config.context

structure SessionPsk.Granted (psk : SessionPsk) (malloc : Allocator) : Prop where
  identity : malloc.Copies psk.identity
  secret : malloc.Copies psk.secret
  earlySecret : malloc.Copies psk.earlySecret
  earlyDataConfig : psk.earlyDataConfig.Granted malloc

/-- The reasons for which a connection does not refuse a state. -/
structure SessionState.Accepted (st : SessionState) (c : ResumeConn) (identity : Blob) (now : UInt64) : Prop where
  clock : c.config.clock c.config.readings = some now
  identity_isNull : identity.isNull = false
  identity_size : identity.size % 2 ^ 16 ≠ 0
  version : tls13 ≤ st.version.1
  age : TicketAgeValid now st.ticketIssueTime
  secret_le : st.secret.1.length ≤ tlsSecretLen
  secret_ne : ¬ ∀ b ∈ st.secret.1, b = 0
  expiration : ∀ time ∈ st.keyingMaterialExpiration, now < time
  memory : (st.psk identity).Granted c.malloc

section Psk

variable {st : SessionState} {identity : Blob} {Q : SessionPsk → Resuming → Prop} {psk : SessionPsk}

section Setters

variable {malloc : Allocator} {psk' : SessionPsk} {bs : List UInt8}

namespace SessionPsk

lemma setIdentity_eq_ok :
    psk.setIdentity malloc identity = .ok psk' ↔ (identity.isNull = false ∧ identity.size % 2 ^ 16 ≠ 0 ∧
      malloc.Copies (slice identity.data 0 (identity.size % 2 ^ 16))) ∧
      { psk with identity := slice identity.data 0 (identity.size % 2 ^ 16) } = psk' := by
  unfold setIdentity
  split
  · simp_all
  · split
    · simp_all
    · rw [Allocator.copy_map_eq_ok]
      simp_all

lemma setSecret_eq_ok :
    psk.setSecret malloc bs = .ok psk' ↔ ((¬ ∀ b ∈ bs, b = 0) ∧ malloc.Copies bs) ∧
      { psk with secret := bs } = psk' := by
  unfold setSecret
  split
  · simp_all
  · split
    · simp_all
    · rw [Allocator.copy_map_eq_ok]
      simp_all

lemma setApplicationProtocol_eq_ok : psk.setApplicationProtocol malloc bs = .ok psk' ↔ malloc.Copies bs ∧
    { psk with earlyDataConfig := { psk.earlyDataConfig with applicationProtocol := bs } } = psk' :=
  Allocator.copy_map_eq_ok

lemma setEarlyDataContext_eq_ok : psk.setEarlyDataContext malloc bs = .ok psk' ↔ malloc.Copies bs ∧
    { psk with earlyDataConfig := { psk.earlyDataConfig with context := bs } } = psk' :=
  Allocator.copy_map_eq_ok

/-- A clone, when there is memory for it, is the PSK itself. -/
lemma clone_eq_ok : psk.clone malloc = .ok psk' ↔ psk.clone malloc = .ok psk ∧ psk = psk' := by
  refine ⟨fun h => ?_, fun h => h.2 ▸ h.1⟩
  have heq : psk = psk' := by
    unfold clone at h
    split at h
    · exact nomatch h
    · obtain ⟨identity, hidentity, h⟩ := except_bind_eq_ok.1 h
      obtain ⟨withSecret, hsecret, h⟩ := except_bind_eq_ok.1 h
      obtain ⟨earlySecret, hearly, h⟩ := except_bind_eq_ok.1 h
      obtain ⟨withProtocol, hprotocol, hcontext⟩ := except_bind_eq_ok.1 h
      obtain ⟨-, rfl⟩ := Allocator.copy_eq_ok.1 hidentity
      obtain ⟨-, rfl⟩ := setSecret_eq_ok.1 hsecret
      obtain ⟨-, rfl⟩ := Allocator.copy_eq_ok.1 hearly
      obtain ⟨-, rfl⟩ := setApplicationProtocol_eq_ok.1 hprotocol
      exact (setEarlyDataContext_eq_ok.1 hcontext).2
  exact ⟨heq.symm ▸ h, heq⟩

end SessionPsk

end Setters

lemma uint64_toNat_lt (x : UInt64) : x.toNat < 256 ^ 8 := x.toNat_lt
lemma uint32_toNat_lt (x : UInt32) : x.toNat < 256 ^ 4 := x.toNat_lt

lemma wp_readEarlyData (hsuite : st.cipherSuite ∈ suites.all) (hprf : psk.hmacAlg = st.cipherSuite.prfAlg)
    (hconfig : psk.earlyDataConfig = {})
    (h : AtRest s (beBytes 4 st.maxEarlyDataSize.toNat ++ (st.encodeEarlyData ++ rest)) s)
    (hok : ∀ s', st.earlyDataConfig.Granted s.conn.malloc → AtRest s rest s' →
      Q { psk with earlyDataConfig := st.earlyDataConfig } s')
    (herr : ¬ st.earlyDataConfig.Granted s.conn.malloc → ∀ e s', R e s') :
    wp (readEarlyData suites st.cipherSuite.ianaValue psk) Q R s := by
  unfold readEarlyData
  refine wp_seq_readUint h (uint32_toNat_lt _) fun s₁ h₁ => ?_
  have hpos : st.maxEarlyDataSize.toNat > 0 ↔ st.maxEarlyDataSize > 0 := by
    rw [gt_iff_lt, gt_iff_lt, UInt32.lt_iff_toNat_lt]
    rfl
  by_cases hmax : st.maxEarlyDataSize > 0
  · rw [if_pos (hpos.2 hmax)]
    have hconfigured : psk.configureEarlyData suites (UInt32.ofNat st.maxEarlyDataSize.toNat) st.cipherSuite.ianaValue =
        .ok { psk with earlyDataConfig := { psk.earlyDataConfig with
          maxEarlyDataSize := st.maxEarlyDataSize, protocolVersion := tls13,
          cipherSuite := some st.cipherSuite } } := by
      unfold SessionPsk.configureEarlyData
      rw [CipherSuites.cipherSuiteFromIana_of_mem hsuite, UInt32.ofNat_toNat]
      exact if_pos hprf.symm
    refine wp_seq_ofExcept (fun psk' hpsk => ?_) fun e he => nomatch hconfigured.symm.trans he
    obtain rfl := Except.ok.inj (hconfigured.symm.trans hpsk)
    have hbytes : st.encodeEarlyData ++ rest = beBytes 1 st.applicationProtocol.1.length ++
        (st.applicationProtocol.1 ++ (beBytes 2 st.context.1.length ++ (st.context.1 ++ rest))) := by
      rw [SessionState.encodeEarlyData, if_pos hmax]
      simp only [List.append_assoc]
    rw [hbytes] at h₁
    refine wp_seq_readUint h₁.here (by rw [pow_one]; exact st.applicationProtocol.2) fun s₂ h₂ => ?_
    refine wp_seq_rawReadBytes h₂.here rfl fun s₃ h₃ => ?_
    rw [SessionState.earlyDataConfig, if_pos hmax] at hok herr
    rw [wp_read, h₃.conn, h₂.conn, h₁.conn, wp_bind]
    refine wp_ofExcept_of_iff (fun _ => SessionPsk.setApplicationProtocol_eq_ok) (fun hprotocol => ?_) fun hno e =>
      herr (fun hgrant => hno hgrant.1) e _
    refine wp_seq_readUint h₃.here st.context.2 fun s₄ h₄ => ?_
    refine wp_seq_rawReadBytes h₄.here rfl fun s₅ h₅ => ?_
    have h₅' := h₅.trans (h₄.trans (h₃.trans (h₂.trans h₁)))
    rw [wp_read, h₅'.conn]
    refine wp_ofExcept_of_iff (fun _ => SessionPsk.setEarlyDataContext_eq_ok) (fun hcontext => ?_) fun hno e =>
      herr (fun hgrant => hno hgrant.2) e _
    rw [hconfig]
    exact hok s₅ ⟨hprotocol, hcontext⟩ h₅'
  · rw [if_neg fun hlt => hmax (hpos.1 hlt), wp_pure]
    have hbytes : st.encodeEarlyData ++ rest = rest := by
      rw [SessionState.encodeEarlyData, if_neg hmax, List.nil_append]
    rw [SessionState.earlyDataConfig, if_neg hmax, ← hconfig] at hok
    exact hok s₁ (hconfig ▸ ⟨.inl rfl, .inl rfl⟩) (hbytes ▸ h₁)

/-- The expiration is there for a server, and has to be later than `now`. -/
lemma wp_readKeyingMaterialExpiration (hmode : s.conn.mode = .server ↔ st.keyingMaterialExpiration.isSome = true)
    (h : AtRest s (st.encodeExpiration ++ rest) s)
    (hok : ∀ s', (∀ time ∈ st.keyingMaterialExpiration, now < time) → AtRest s rest s' →
      Q { psk with keyingMaterialExpiration := st.keyingMaterialExpiration.getD psk.keyingMaterialExpiration } s')
    (herr : (¬ ∀ time ∈ st.keyingMaterialExpiration, now < time) → ∀ e s', R e s') :
    wp (readKeyingMaterialExpiration now psk) Q R s := by
  unfold readKeyingMaterialExpiration
  rw [wp_read]
  unfold SessionState.encodeExpiration at h
  cases htime : st.keyingMaterialExpiration with
  | none =>
    rw [htime] at hmode hok h
    have hclient : s.conn.mode ≠ .server := fun hserver => nomatch hmode.1 hserver
    rw [if_neg hclient, wp_pure]
    exact hok s (fun _ hno => nomatch hno) h
  | some time =>
    rw [htime] at hmode hok herr h
    rw [if_pos (hmode.2 rfl)]
    refine wp_seq_readUint h (uint64_toNat_lt time) fun s₁ h₁ => ?_
    rw [UInt64.ofNat_toNat]
    refine wp_seq_ensure (fun hlt => ?_) fun hnot => herr (fun hall => hnot (hall time rfl)) _ _
    rw [wp_pure]
    refine hok s₁ (fun time' heq => ?_) h₁
    obtain rfl := Option.some.inj heq
    exact hlt

lemma wp_readSecret (h : AtRest s (beBytes 4 st.ticketAgeAdd.toNat ++ (beBytes 1 st.secret.1.length ++
      (st.secret.1 ++ rest))) s)
    (hok : ∀ s', st.secret.1.length ≤ tlsSecretLen → (¬ ∀ b ∈ st.secret.1, b = 0) → s.conn.malloc.Copies st.secret.1 →
      AtRest s rest s' → Q { psk with ticketAgeAdd := st.ticketAgeAdd, secret := st.secret.1 } s')
    (herr : ¬ (st.secret.1.length ≤ tlsSecretLen ∧ (¬ ∀ b ∈ st.secret.1, b = 0) ∧ s.conn.malloc.Copies st.secret.1) →
      ∀ e s', R e s') :
    wp (readSecret psk) Q R s := by
  unfold readSecret
  refine wp_seq_readUint h (uint32_toNat_lt _) fun s₁ h₁ => ?_
  refine wp_seq_readUint h₁.here (by rw [pow_one]; exact st.secret.2) fun s₂ h₂ => ?_
  refine wp_seq_ensure (fun hle => ?_) fun hnot => herr (fun h => hnot h.1) _ _
  refine wp_seq_rawReadBytes h₂.here rfl fun s₃ h₃ => ?_
  rw [wp_read, h₃.conn, h₂.conn, h₁.conn, UInt32.ofNat_toNat]
  refine wp_ofExcept_of_iff (fun _ => SessionPsk.setSecret_eq_ok) (fun h => ?_) fun hno e => herr (fun h => hno h.2) e _
  exact hok s₃ hle h.1 h.2 (h₃.trans (h₂.trans h₁))

def ResumeConn.ticked (c : ResumeConn) : ResumeConn :=
  { c with config := { c.config with readings := c.config.readings + 1 } }

lemma wp_seq_wallClock {β : Type} {f : UInt64 → ResumeM β} {Q : β → Resuming → Prop}
    (hok : ∀ now, s.conn.config.clock s.conn.config.readings = some now →
      wp (f now) Q R { s with conn := s.conn.ticked })
    (herr : s.conn.config.clock s.conn.config.readings = none → ∀ e s', R e s') :
    wp (onResumeConfig configWallClock >>= f) Q R s := by
  rw [wp_bind, onResumeConfig, onResumeConn, wp_zoom, wp_zoom, wp_configWallClock]
  exact ⟨hok, fun hnone => herr hnone _ _⟩

lemma wp_seq_validateTicketAge {β : Type} {f : Unit → ResumeM β} {Q : β → Resuming → Prop} {issueTime : UInt64}
    (hok : TicketAgeValid now issueTime → wp (f ()) Q R s) (herr : ¬ TicketAgeValid now issueTime → ∀ e s', R e s') :
    wp (onResumeConfig (validateTicketAge now issueTime) >>= f) Q R s := by
  rw [wp_bind, onResumeConfig, onResumeConn, wp_zoom, wp_zoom]
  exact wp_validateTicketAge_of hok fun hnot => herr hnot _ _

/-- **Reading.** The encoding of a state becomes its PSK if it is accepted, and is refused otherwise. -/
lemma wp_readSessionPsk (hsuite : st.cipherSuite ∈ suites.all)
    (hmode : s.conn.mode = .server ↔ st.keyingMaterialExpiration.isSome = true)
    (h : AtRest s (st.encode ++ rest) s)
    (hok : ∀ now s', st.Accepted s.conn identity now → s'.conn = s.conn.ticked → s'.state.unread = rest →
      Q (st.psk identity) s')
    (herr : (∀ now, ¬ st.Accepted s.conn identity now) → ∀ e s', R e s') :
    wp (readSessionPsk suites identity) Q R s := by
  have hbytes : st.encode ++ rest = beBytes 1 st.version.1 ++ (st.cipherSuite.ianaValue ++
      (beBytes 8 st.ticketIssueTime.toNat ++ (beBytes 4 st.ticketAgeAdd.toNat ++ (beBytes 1 st.secret.1.length ++
        (st.secret.1 ++ (st.encodeExpiration ++ (beBytes 4 st.maxEarlyDataSize.toNat ++
          (st.encodeEarlyData ++ rest)))))))) := by
    simp only [SessionState.encode, List.append_assoc]
  rw [hbytes] at h
  unfold readSessionPsk
  rw [wp_read, wp_bind]
  refine wp_ofExcept_of_iff (fun _ => SessionPsk.setIdentity_eq_ok) (fun hidentity => ?_) fun hno e =>
    herr (fun now ha => hno ⟨ha.identity_isNull, ha.identity_size, ha.memory.identity⟩) e _
  obtain ⟨hnull, hsize, hidentity⟩ := hidentity
  refine wp_seq_readUint h (by rw [pow_one]; exact st.version.2) fun s₁ h₁ => ?_
  refine wp_seq_ensure (fun hversion => ?_) fun hnot => herr (fun now ha => hnot ha.version) _ _
  refine wp_seq_readBytes h₁.here rfl fun s₂ h₂ => ?_
  refine wp_seq_ofExcept (fun suite hsuite' => ?_) fun e he =>
    nomatch (CipherSuites.cipherSuiteFromIana_of_mem hsuite).symm.trans he
  obtain rfl := Except.ok.inj ((CipherSuites.cipherSuiteFromIana_of_mem hsuite).symm.trans hsuite')
  refine wp_seq_readUint h₂.here (uint64_toNat_lt _) fun s₃ h₃ => ?_
  have hconn : s₃.conn = s.conn := h₃.conn.trans (h₂.conn.trans h₁.conn)
  refine wp_seq_wallClock (fun now hclock => ?_) fun hnone => herr fun now ha => ?_
  rotate_left
  · rw [hconn] at hnone
    exact nomatch hnone.symm.trans ha.clock
  rw [hconn] at hclock ⊢
  -- the clock is read once
  have hnow : ∀ now', st.Accepted s.conn identity now' → now' = now := fun now' ha =>
    Option.some.inj (ha.clock.symm.trans hclock)
  rw [UInt64.ofNat_toNat]
  refine wp_seq_validateTicketAge (fun hage => ?_) fun hnot =>
    herr fun now' ha => hnot (hnow now' ha ▸ ha.age)
  rw [wp_bind]
  refine wp_readSecret ⟨rfl, h₃.unread, h₃.isNull⟩ (fun s₄ hsecret hne hcopies h₄ => ?_) fun hnot =>
    herr fun now' ha => hnot ⟨ha.secret_le, ha.secret_ne, ha.memory.secret⟩
  have hmode₄ : s₄.conn.mode = .server ↔ st.keyingMaterialExpiration.isSome = true := by rw [h₄.conn]; exact hmode
  rw [wp_bind]
  refine wp_readKeyingMaterialExpiration hmode₄ h₄.here (fun s₅ hexpiration h₅ => ?_) fun hnot =>
    herr fun now' ha => hnot (hnow now' ha ▸ ha.expiration)
  have hconn₅ : s₅.conn = s.conn.ticked := h₅.conn.trans h₄.conn
  refine wp_readEarlyData hsuite rfl rfl h₅.here (fun s₆ hgrant h₆ => ?_) fun hnot => herr fun now' ha => hnot ?_
  · rw [hconn₅] at hgrant
    exact hok now s₆ ⟨hclock, hnull, hsize, hversion, hage, hsecret, hne, hexpiration, hidentity, hcopies,
      .inl rfl, hgrant⟩
      (h₆.conn.trans hconn₅) h₆.unread
  · rw [hconn₅]
    exact ha.memory.earlyDataConfig

/-- The PSK fits into the connection's offer, and there is memory for it. -/
@[mk_iff]
structure ResumeConn.Appends (c : ResumeConn) (psk : SessionPsk) : Prop where
  fits : c.mode = .client → psk.offeredSize + 8 ≤ 65535
  clone : psk.clone c.mallocLater = .ok psk
  memory : c.mallocLater (sizeOfPsk * 16) = true

/-- The reasons for which a connection does not refuse a PSK of a session. -/
structure ResumeConn.Installs (c : ResumeConn) (psk : SessionPsk) : Prop extends c.Appends psk where
  type : c.pskList = [] ∨ c.pskType = .resumption
  freed : c.pskList = [] ∨ c.mallocLater.releases = true

lemma atRest_of_encode (h : s.state.unread = st.encode ++ rest) : AtRest s (st.encode ++ rest) s := by
  refine ⟨rfl, h, isNull_eq_false_of_pos ?_⟩
  rw [← unread_length, h, SessionState.encode]
  simp only [List.length_append, beBytes_length]
  omega

/-- The connection with a PSK of a session as its only one. -/
def ResumeConn.withPsk (c : ResumeConn) (psk : SessionPsk) : ResumeConn :=
  { c with pskType := .resumption, pskList := [psk], chosenPsk := none, chosenPskWireIndex := 0 }

lemma wp_appendSessionPsk {Q : Unit → ResumeConn → Prop} {R : Err → ResumeConn → Prop} (hlist : c.pskList = [])
    (hok : c.Appends psk → Q () { c with pskType := psk.type, pskList := [psk] })
    (herr : ¬ c.Appends psk → ∀ e c', R e c') :
    wp (appendSessionPsk psk) Q R c := by
  unfold appendSessionPsk connectionSetPskType
  rw [wp_bind, wp_read]
  refine wp_ensured (.inl hlist) ?_
  rw [wp_set, wp_read]
  dsimp only
  rw [hlist]
  refine wp_ensured (List.forall_mem_nil _) ?_
  have hsum : 4 + (List.map SessionPsk.offeredSize []).sum + psk.offeredSize + 4 = psk.offeredSize + 8 := by
    rw [List.map_nil, List.sum_nil]
    omega
  rw [hsum]
  refine wp_seq_ensure (fun hfits => ?_) fun hnot => herr (fun h => hnot h.fits) _ _
  rw [wp_bind, wp_failWith]
  refine wp_ofExcept_of_iff (fun _ => SessionPsk.clone_eq_ok) (fun hclone => ?_) fun hnot _ =>
    herr (fun h => hnot h.clone) _ _
  refine wp_seq_ensure (fun hmemory => ?_) fun hnot => herr (fun h => hnot h.memory) _ _
  rw [wp_set]
  exact hok ⟨hfits, hclone, hmemory⟩

lemma wp_pskParametersWipe {Q : Unit → ResumeConn → Prop} {R : Err → ResumeConn → Prop}
    (hok : c.pskList = [] ∨ c.mallocLater.releases = true →
      Q () { c with pskType := .resumption, pskList := [], chosenPsk := none, chosenPskWireIndex := 0 })
    (herr : ¬ (c.pskList = [] ∨ c.mallocLater.releases = true) →
      R .cancelled { c with pskList := c.pskList.modifyHead SessionPsk.zeroed }) :
    wp pskParametersWipe Q R c := by
  unfold pskParametersWipe
  rw [wp_read, wp_ite]
  exact ⟨hok, herr⟩

/-- **A round trip, the second half.** -/
lemma wp_tls13DeserializeSessionState {Q : Unit → Resuming → Prop} (hsuite : st.cipherSuite ∈ suites.all)
    (hmode : s.conn.mode = .server ↔ st.keyingMaterialExpiration.isSome = true)
    (h : AtRest s (st.encode ++ rest) s)
    (hok : ∀ now s', st.Accepted s.conn identity now → s.conn.Installs (st.psk identity) →
      s'.conn = s.conn.ticked.withPsk (st.psk identity) → Q () s')
    (herr : (∀ now, st.Accepted s.conn identity now → ¬ s.conn.Installs (st.psk identity)) → ∀ e s', R e s') :
    wp (tls13DeserializeSessionState suites identity) Q R s := by
  unfold tls13DeserializeSessionState
  rw [wp_bind]
  refine wp_readSessionPsk hsuite hmode h (fun now s₁ haccept hconn _ => ?_) fun hnot =>
    herr fun now ha => absurd ha (hnot now)
  rw [wp_bind, onResumeConn, wp_zoom]
  unfold connectionSetPskType
  rw [wp_read, hconn]
  refine wp_seq_ensure (fun htype => ?_) fun hnot => herr (fun _ _ hinst => hnot hinst.type) _ _
  rw [wp_set, wp_bind, onResumeConn, wp_zoom]
  refine wp_pskParametersWipe (fun hfreed => ?_) fun hnot => herr (fun _ _ hinst => hnot hinst.freed) _ _
  rw [onResumeConn, wp_zoom]
  refine wp_appendSessionPsk rfl (fun happ => ?_) fun hnot => fun _ _ =>
    herr (fun _ _ hinst => hnot ⟨hinst.fits, hinst.clone, hinst.memory⟩) _ _
  exact hok now _ haccept ⟨⟨happ.fits, happ.clone, happ.memory⟩, htype, hfreed⟩ rfl

end Psk

end S2nTls
