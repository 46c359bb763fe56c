import S2nTls.Stuffer.Written
import S2nTls.Tls.ClientHelloFormat

/-!
What a server that receives a ClientHello has read of it, and what the handlers of the extensions
before pre_shared_key leave as it is.
-/

namespace S2nTls

open Lib Stuffer

variable {R : Type} {env : HelloServerEnv R}

/-! ### The handlers -/

variable {J : HelloServer R → Prop}

section Handlers

/-- What the handlers between those of supported_versions and pre_shared_key may do leaves `I` true. -/
structure StableBetween (I : HelloServer R → Prop) : Prop where
  rest : ∀ s r requested, I s → I { s with rest := r, earlyDataRequested := requested }
  bits : ∀ s b, I s → I (serverExtensionAccess.setBits b s)
  pskList : ∀ s l, I s → I { s with psk := { s.psk with pskList := l } }
  pskKeMode : ∀ s, I s → I { s with psk := { s.psk with pskKeMode := .pskDheKe } }

/-- What the handlers before that of pre_shared_key may do leaves `I` true. -/
structure Stable (I : HelloServer R → Prop) : Prop extends StableBetween I where
  versions : ∀ s client actual, I s →
    (s.isHelloRetryHandshake = true ∧ s.messageNumber > 0 → client = tls13 ∧ actual = tls13) →
    I { s with versions := { s.versions with clientProtocolVersion := client, actualProtocolVersion := actual } }

variable {I : HelloServer R → Prop}

section Between

variable (hI : StableBetween I)
include hI

variable (f : R → Except Err R)

lemma keeps_onServerRest : Keeps I (onServerRest f) := by
  intro s hs
  unfold onServerRest
  rw [wp_read, wp_bind, wp_ofExcept]
  exact ⟨fun rest _ => (wp_set _).mpr (hI.rest s rest s.earlyDataRequested hs), fun _ _ => hs⟩

variable (ianaValue minimumVersion : ℕ)

lemma upholds_clientExtension :
    (clientExtension env ianaValue minimumVersion).Upholds I :=
  ⟨fun _ => (keeps_onServerRest hI _).maintains, (Keeps.pure _).maintains⟩

omit hI in
lemma keeps_pskKeyExchangeModesRecv {P : PskServer → Prop} (h : ∀ c, P c → P { c with pskKeMode := .pskDheKe })
    (t : Stuffer) : Keeps P (pskKeyExchangeModesRecv t) :=
  (Keeps.runLocal _ _).bind fun _ => .ite (.pure _)
    ((Keeps.runLocal _ _).bind fun _ => .when (.modify h))

lemma upholds_pskKeyExchangeModes : (pskKeyExchangeModesExtension env).Upholds I := by
  refine ⟨fun t s hs => ?_, (Keeps.pure _).maintains⟩
  show wp (onPsk (pskKeyExchangeModesRecv t)) _ _ s
  unfold onPsk
  rw [wp_zoom]
  have hkeeps : Keeps (fun p => I { s with psk := p }) (pskKeyExchangeModesRecv t) :=
    keeps_pskKeyExchangeModesRecv (fun p hp => hI.pskKeMode { s with psk := p } hp) t
  exact hkeeps.maintains s.psk hs

lemma keeps_setEarlyDataRequested (requested : Bool) : Keeps I (setEarlyDataRequested env requested) := by
  intro s hs
  unfold setEarlyDataRequested
  rw [wp_read, wp_bind, wp_ofExcept]
  exact ⟨fun rest _ => (wp_set _).mpr (hI.rest s rest requested hs), fun _ _ => hs⟩

lemma upholds_clientEarlyDataIndication : (clientEarlyDataIndicationExtension env).Upholds I :=
  ⟨fun _ => (Keeps.read fun _ => (Keeps.ensure _ _).bind fun _ => keeps_setEarlyDataRequested hI _).maintains,
    (keeps_setEarlyDataRequested hI _).maintains⟩

lemma upholds_withIfMissing :
    ({ clientExtension env ianaValue minimumVersion with ifMissing := onServerRest f } :
      ExtensionType (HelloServer R)).Upholds I :=
  ⟨fun _ => (keeps_onServerRest hI _).maintains, (keeps_onServerRest hI _).maintains⟩

/-- **All handlers between those of supported_versions and pre_shared_key** uphold what is stable. -/
lemma upholds_betweenPsk : ∀ x ∈ (clientHelloExtensionsBeforePsk env).tail, x.Upholds I := by
  unfold clientHelloExtensionsBeforePsk
  simp only [List.tail_cons, List.forall_mem_cons]
  have hplain : ∀ i v, (clientExtension env i v).Upholds I := upholds_clientExtension hI
  have hcookie : ({ clientExtension env Extension.cookie tls13 with
      isResponse := true, ifMissing := extensionErrorIfMissing } : ExtensionType (HelloServer R)).Upholds I :=
    ⟨fun _ => (keeps_onServerRest hI _).maintains, (Keeps.throw _).maintains⟩
  exact ⟨hplain _ _, hplain _ _, hplain _ _, hplain _ _, hplain _ _, hplain _ _,
    hplain _ _, hplain _ _, hplain _ _, hplain _ _, hplain _ _, hplain _ _, upholds_withIfMissing hI _ _ _, hcookie,
    upholds_withIfMissing hI _ _ _, upholds_pskKeyExchangeModes hI, upholds_clientEarlyDataIndication hI, hplain _ _,
    fun _ h => absurd h List.not_mem_nil⟩

lemma keeps_invokeClientHelloCb : Keeps I (invokeClientHelloCb env) := by
  intro s hs
  unfold invokeClientHelloCb
  rw [wp_read, wp_when]
  refine ⟨fun _ => ?_, fun _ => hs⟩
  rw [wp_bind, wp_ofExcept]
  refine ⟨fun r _ => (wp_set _).mpr ?_, fun _ _ => hs⟩
  exact hI.rest _ r.2 s.earlyDataRequested (hI.pskList s r.1 hs)

end Between

variable (hI : Stable I)
include hI

lemma upholds_clientSupportedVersions : (clientSupportedVersionsExtension env).Upholds I := by
  refine ⟨fun t s hs => ?_, (Keeps.pure _).maintains⟩
  show wp (clientSupportedVersionsRecv env t) _ _ s
  unfold clientSupportedVersionsRecv
  rw [wp_read]
  split
  · exact hs
  · cases (clientSupportedVersionsRecvImpl s.versions.serverProtocolVersion
      env.policy.minimumSupportedVersion).run t with
    | error e _ => exact trivial
    | ok versions _ =>
      obtain ⟨client, actual⟩ := versions
      dsimp only
      rw [wp_bind, wp_set, wp_when]
      refine ⟨fun _ => (wp_ensure _ _).mpr ⟨fun hv => ?_, fun _ => trivial⟩, fun hnot => ?_⟩
      · exact hI.versions s client actual hs fun _ => hv
      · exact hI.versions s client actual hs fun h => absurd h hnot

/-- **All handlers before that of pre_shared_key** uphold what is stable. -/
lemma upholds_beforePsk : ∀ x ∈ clientHelloExtensionsBeforePsk env, x.Upholds I := by
  intro x hx
  rcases List.mem_cons.mp hx with rfl | hx
  · exact upholds_clientSupportedVersions hI
  · exact upholds_betweenPsk hI.toStableBetween x hx

omit hI in
lemma clientHelloExtensions_nodup : ((clientHelloExtensions env).map ExtensionType.ianaValue).Nodup := by
  show List.Nodup [Extension.supportedVersions, Extension.supportedGroups, Extension.keyShare,
    Extension.signatureAlgorithms, Extension.serverName, Extension.alpn, Extension.npn, Extension.statusRequest,
    Extension.sctList, Extension.maxFragLen, Extension.sessionTicket, Extension.ecPointFormats,
    Extension.pqKemParameters, Extension.renegotiationInfo, Extension.cookie, Extension.quicTransportParameters,
    Extension.pskKeyExchangeModes, Extension.earlyData, Extension.ems, Extension.preSharedKey]
  decide

/-- **The extensions of a ClientHello**: what holds before them and is stable holds when the handler of
psk_key_exchange_modes runs, and what holds then, when that of pre_shared_key runs. -/
theorem wp_processClientHello {K : HelloServer R → Prop} {s : HelloServer R} (hs : I s) (hK : StableBetween K)
    (hmodes : ∀ t, I t → wp (extensionProcessImpl serverExtensionAccess (pskKeyExchangeModesExtension env) s.psk.parsed)
      (fun _ => K) anyError t)
    (hpsk : ∀ t, K t → wp (extensionProcessImpl serverExtensionAccess (clientPskExtension env) s.psk.parsed)
      (fun _ => J) anyError t)
    (hrest : ∀ t r, J t → J { t with rest := r })
    (hactual : ∀ t actual, J t → J { t with versions := { t.versions with actualProtocolVersion := actual } }) :
    wp (processClientHello env) (fun _ => J) anyError s := by
  unfold processClientHello
  rw [wp_read]
  have hlist : wp (extensionListProcess serverExtensionAccess (clientHelloExtensions env) ⟨s.psk.parsed, []⟩)
      (fun _ => J) anyError s := by
    have hbefore : ∀ x ∈ (clientHelloExtensionsBeforePsk env).take 16, x.Upholds I := fun x hx =>
      upholds_beforePsk hI x (List.mem_of_mem_take hx)
    have hlate : ∀ x ∈ (clientHelloExtensionsBeforePsk env).drop 17, x.Upholds K := fun x hx =>
      upholds_betweenPsk hK x (List.mem_of_mem_drop (i := 16) hx)
    have heq : clientHelloExtensions env = (clientHelloExtensionsBeforePsk env).take 16 ++
        pskKeyExchangeModesExtension env ::
          ((clientHelloExtensionsBeforePsk env).drop 17 ++ [clientPskExtension env]) := rfl
    have hnodup : ((clientHelloExtensions env).map ExtensionType.ianaValue).Nodup := clientHelloExtensions_nodup
    rw [heq] at hnodup ⊢
    refine extensionListProcess_reaches serverExtensionAccess (fun b c hc => hI.bits c b hc) ⟨s.psk.parsed, []⟩
      hnodup (fun _ _ => List.not_mem_nil) hbefore hmodes (fun l hl hnew => ?_) s hs
    refine extensionListProcess_reaches serverExtensionAccess (fun b c hc => hK.bits c b hc) l
      (hnodup.sublist (((List.sublist_cons_self _ _).trans (List.sublist_append_right _ _)).map _))
      (fun y hy => hnew y (List.mem_append_right _ hy)) hlate (hl ▸ hpsk) fun _ _ _ _ h => h
  have honRest : ∀ f t, J t → wp (onServerRest f) (fun _ => J) anyError t := by
    intro f t ht
    unfold onServerRest
    rw [wp_read, wp_bind, wp_ofExcept]
    exact ⟨fun r _ => (wp_set _).mpr (hrest t r ht), fun _ _ => trivial⟩
  refine wp_then hlist fun _ t ht => ?_
  rw [wp_read]
  have hshare : wp (when (tls13 ≤ t.versions.actualProtocolVersion) (onServerRest env.keyShareSelect))
      (fun _ => J) anyError t := by
    rw [wp_when]
    exact ⟨fun _ => honRest _ t ht, fun _ => ht⟩
  refine wp_then hshare fun _ u hu => ?_
  have hselect : wp (selectVersion env) (fun _ => J) anyError u := by
    unfold selectVersion
    rw [wp_update, wp_read]
    refine wp_checked fun _ => ?_
    rw [wp_ensure]
    refine ⟨fun _ => ?_, fun _ => trivial⟩
    split
    · exact hactual u _ hu
    · exact hu
  refine wp_then hselect fun _ v hv => ?_
  rw [wp_read]
  exact honRest _ v hv

end Handlers

/-! ### Parsing -/

section Parsing

variable {s s' : HelloServer R}

/-- `s'` is `s` after it has parsed the message in `handshake.io`. -/
structure ParsesHello (env : HelloServerEnv R) (s s' : HelloServer R) : Prop where
  psk : s'.psk = { s.psk with io := s'.psk.io, parsed := s'.clientHello.extensions }
  io : s'.psk.io.writtenView = s.psk.io.writtenView
  isHelloRetryHandshake : s'.isHelloRetryHandshake = s.isHelloRetryHandshake
  messageNumber : s'.messageNumber = s.messageNumber
  actualProtocolVersion : s'.versions.actualProtocolVersion = s.versions.actualProtocolVersion
  sslv2 : s.versions.clientHelloVersion = sslv2 → s'.clientHello.extensions = [] ∧ s'.versions = s.versions
  message : s.versions.clientHelloVersion ≠ S2nTls.sslv2 → ∃ msg trailing,
    decodeClientHello s.psk.io.unread = some (msg, trailing) ∧ ParsedAs s'.clientHello msg ∧
      s'.versions.clientHelloVersion = min (versionOf msg.legacyVersion) tls12
  retry : s.isHelloRetryHandshake = true → s.versions.clientHelloVersion = tls12 ∧
    clientHelloVerifyForRetry env.inTest s.clientHello s'.clientHello s.clientRandom s'.clientRandom = .ok ()
  serverProtocolVersion : s'.versions.serverProtocolVersion = s.versions.serverProtocolVersion
  clientProtocolVersion : s.versions.clientHelloVersion ≠ S2nTls.sslv2 →
    s'.versions.clientProtocolVersion = s'.versions.clientHelloVersion

lemma wp_collectClientHello (malloc : ℕ → Bool) (t : Stuffer) :
    wp (collectClientHello malloc)
      (fun raw u => raw.isNull = false ∧ raw.bytes = t.unread ∧ u.writtenView = t.writtenView)
      anyError t := by
  unfold collectClientHello
  rw [wp_read]
  refine wp_checked fun _ => ?_
  refine wp_checked fun _ => ?_
  refine wp_tried (frames_skipRead _ t) fun _ u hu => ?_
  rw [wp_pure]
  have hsize : t.dataAvailable ≤ t.blob.size := by
    have h₁ := t.write_le_high
    have h₂ := t.high_le_size
    unfold Stuffer.dataAvailable
    omega
  exact ⟨rfl, Blob.bytes_sub hsize, hu⟩

lemma wp_parseClientHello (s : HelloServer R) :
    wp (parseClientHello env) (fun _ s' => ParsesHello env s s') anyError s := by
  unfold parseClientHello onPsk
  rw [wp_bind, wp_zoom, wp_zoom]
  refine wp_try (fun raw t ht => ?_) (wp_collectClientHello env.malloc s.psk.io)
  obtain ⟨hnull, hbytes, hview⟩ := ht
  rw [wp_read]
  refine wp_checked fun hversion => ?_
  split
  · rename_i hsslv2
    rw [wp_bind, wp_ofExcept]
    refine ⟨fun fields _ => (wp_set _).mpr ⟨rfl, hview, rfl, rfl, rfl, fun _ => ⟨rfl, rfl⟩, fun h => absurd hsslv2 h,
      fun hretry => ?_, rfl, fun h => absurd hsslv2 h⟩, fun _ _ => trivial⟩
    exact absurd (hsslv2.symm.trans (hversion hretry)) (by decide)
  · rename_i hsslv2
    have hraw : (Stuffer.initWritten raw).blob.isNull = false := hnull
    rw [wp_bind, wp_onLocal]
    refine wp_try (fun r u hr => ?_) (wp_clientHelloParseRaw hraw)
    obtain ⟨clientProtocolVersion, clientRandom, clientHello⟩ := r
    obtain ⟨msg, hmsg, hv, hrandom, hparsed⟩ := hr
    rw [unread_initWritten, hbytes] at hmsg
    dsimp only at hv hrandom hparsed ⊢
    rw [wp_bind, wp_set]
    unfold verifyForRetry
    rw [wp_read, wp_when, wp_ofExcept]
    have hmessage : s.versions.clientHelloVersion ≠ sslv2 → ∃ msg' trailing,
        decodeClientHello s.psk.io.unread = some (msg', trailing) ∧ ParsedAs clientHello msg' ∧
          min (versionOf clientProtocolVersion) tls12 = min (versionOf msg'.legacyVersion) tls12 := fun _ =>
      ⟨msg, u.unread, hmsg, hparsed, by rw [hv]⟩
    refine ⟨fun hretry => ⟨fun _ hok => ?_, fun _ _ => trivial⟩, fun hretry => ?_⟩
    · exact ⟨rfl, hview, rfl, rfl, rfl, fun h => absurd h hsslv2, hmessage, fun h => ⟨hversion h, hok⟩,
        rfl, fun _ => rfl⟩
    · exact ⟨rfl, hview, rfl, rfl, rfl, fun h => absurd h hsslv2, hmessage, fun h => absurd h hretry,
        rfl, fun _ => rfl⟩

/-- A message is received only after it was parsed. -/
theorem wp_clientHelloRecv
    (h : ∀ t, ParsesHello env s t → wp (do invokeClientHelloCb env; processClientHello env)
      (fun _ => J) anyError t) :
    wp (clientHelloRecv env) (fun _ => J) anyError s :=
  wp_then (wp_parseClientHello s) fun _ t ht => h t ht

end Parsing

end S2nTls
