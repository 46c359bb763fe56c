import S2nTls.Tls.HelloRetry
import S2nTls.Tls.PskAgreement

/-!
What a PSK binder covers.

The server checks a binder against the message without its last bytes, as many as the binder list takes.
That is the part of the message before the binders exactly if the binder list ends the message. The check
that pre_shared_key is the last extension counts known extensions only, and bytes behind the binder list
or behind the extension list are not looked at. A PSK that was chosen for the first ClientHello is also
kept if the second one does not offer any.
-/

namespace S2nTls

open Lib Stuffer

variable {α : Type} {message : List UInt8} {psk : PreSharedKey}

/-! ### Where the binders are -/

/-- The data of a pre_shared_key extension. -/
def pskBody (identities binders : List UInt8) : List UInt8 :=
  beBytes 2 identities.length ++ (identities ++ (beBytes 2 binders.length ++ binders))

/-- A message on the wire that offers PSKs, taken apart. -/
structure WireHello (message : List UInt8) where
  hello : ClientHelloMsg
  trailing : List UInt8
  decoded : decodeClientHello (message.drop 4) = some (hello, trailing)
  front : List (ℕ × List UInt8)
  after : List (ℕ × List UInt8)
  identities : List UInt8
  binders : List UInt8
  rest : List UInt8
  identities_lt : identities.length < 2 ^ 16
  binders_lt : binders.length < 2 ^ 16
  extensions : hello.extensions = front ++ (Extension.preSharedKey, pskBody identities binders ++ rest) :: after

namespace WireHello

variable (w : WireHello message)

/-- What stands behind the binder list. -/
def behind : List UInt8 := w.rest ++ (w.after.flatMap encodeExtension ++ w.trailing)

/-- What stands before the binder list. -/
def beforeBinders : List UInt8 := message.take (message.length - (2 + w.binders.length + w.behind.length))

lemma suffix : beBytes 2 w.binders.length ++ (w.binders ++ w.behind) <:+ message := by
  have hne : w.hello.extensions ≠ [] := by
    rw [w.extensions]
    simp
  have hexts := suffix_of_decodeClientHello w.decoded hne
  rw [w.extensions, List.flatMap_append, List.flatMap_cons, encodeExtension, pskBody] at hexts
  refine List.IsSuffix.trans ?_ (hexts.trans (List.drop_suffix 4 message))
  unfold behind
  simp only [List.append_assoc]
  refine List.IsSuffix.trans ?_ (List.suffix_append _ _)
  refine List.IsSuffix.trans ?_ (List.suffix_append _ _)
  refine List.IsSuffix.trans ?_ (List.suffix_append _ _)
  refine List.IsSuffix.trans ?_ (List.suffix_append _ _)
  exact List.suffix_append _ _

lemma length_le : 2 + w.binders.length + w.behind.length ≤ message.length := by
  have hle := w.suffix.length_le
  simp only [List.length_append, beBytes_length] at hle
  omega

lemma length_beforeBinders :
    w.beforeBinders.length = message.length - (2 + w.binders.length + w.behind.length) := by
  unfold beforeBinders
  rw [List.length_take]
  omega

lemma after_eq_nil (h : w.behind = []) : w.after = [] := by
  obtain ⟨-, hrest⟩ := List.append_eq_nil_iff.mp h
  obtain ⟨hafter, -⟩ := List.append_eq_nil_iff.mp hrest
  cases hafter' : w.after with
  | nil => rfl
  | cons e exts =>
    rw [hafter'] at hafter
    simp [encodeExtension, beBytes] at hafter

lemma trailing_eq_nil (h : w.behind = []) : w.trailing = [] :=
  (List.append_eq_nil_iff.mp (List.append_eq_nil_iff.mp h).2).2

end WireHello

/-! ### Choosing leaves the message alone -/

section Frames

variable (env : PskEnv)

lemma frames_onWireData (m : StufferM α) : Frames (fun s : PskSelecting => s.conn.io) (onWireData m) := by
  refine .zoom ?_ m
  intro _ _
  rfl

lemma frames_onPskServer {m : EStateM Err PskServer α} (h : Frames PskServer.io m) :
    Frames (fun s : PskSelecting => s.conn.io) (onPskServer m) := by
  intro s
  unfold onPskServer
  rw [wp_zoom]
  exact h s.conn

lemma frames_offeredPskListNext : Frames (fun s : PskSelecting => s.conn.io) offeredPskListNext := by
  have hread : Frames (fun s : PskSelecting => s.conn.io) offeredPskListReadNext := by
    refine (frames_onWireData _).bind fun _ => .checked <| (frames_onWireData _).bind fun o => ?_
    cases o with
    | none => exact .throw _
    | some off =>
      refine .read fun _ => (frames_onWireData _).bind fun _ => Frames.get_bind fun s => ?_
      refine wp_guard rfl fun _ => ?_
      rw [wp_bind, wp_set, wp_pure]
  refine .read fun _ => (Frames.ensure _ _).bind fun _ s => ?_
  rw [wp_failWith]
  exact hread s

lemma frames_offeredPskListReread : Frames (fun s : PskSelecting => s.conn.io) offeredPskListReread := by
  refine .bind (.modify ?_) fun _ => frames_onWireData _
  intro _
  rfl

lemma frames_offeredPskListChoosePsk (psk : OfferedPsk) : Frames PskServer.io (offeredPskListChoosePsk env psk) := by
  have hdecrypt : ∀ identity, Frames PskServer.io (decryptTicket env identity) := by
    intro identity
    unfold decryptTicket
    cases env.decrypt identity with
    | failed => exact .throw _
    | wiped =>
      refine .bind (.modify ?_) fun _ => .throw _
      intro _
      rfl
    | restored psk => exact .modify fun _ => rfl
  have hknown : Frames PskServer.io (chooseKnownPsk env psk) := by
    refine .read fun c => ?_
    cases c.pskList.find? fun known => known.identity = psk.identity.bytes with
    | none => exact .throw _
    | some chosen => exact .checked <| .modify fun _ => rfl
  exact .read fun _ => .bind (.when (hdecrypt _)) fun _ => hknown

/-- Selecting a PSK leaves the message alone. -/
lemma selectInv_io (io : Stuffer) : SelectInv env (fun _ s => s.conn.io = io) fun _ _ => True where
  next hs := frames_offeredPskListNext.wp (fun _ _ ht => ⟨ht.trans hs, trivial⟩) fun _ _ ht => ⟨0, ht.trans hs⟩
  reread hs := frames_offeredPskListReread.wp (fun _ _ ht => ht.trans hs) fun _ _ ht => ⟨0, ht.trans hs⟩
  forget hs := hs
  take hs _ _ := hs
  choose hs _ := (frames_onPskServer (frames_offeredPskListChoosePsk env _)).wp (fun _ _ ht => ⟨0, ht.trans hs⟩)
    fun _ _ ht => ⟨0, ht.trans hs⟩

lemma frames_selectPsk (pskType : PskType) : Frames (fun s : PskSelecting => s.conn.io) (selectPsk env pskType) := by
  intro s
  refine wp_mono (fun _ _ ht => ?_) (fun _ _ ht => ?_) ((selectInv_io env s.conn.io).keeps_selectPsk pskType s ⟨0, rfl⟩)
  · exact ht.choose_spec
  · exact ht.choose_spec

end Frames

/-! ### Receiving the extension -/

section Receiving

variable {env : PskEnv} {c : PskServer} {extension : Stuffer}

lemma encode_of_vector {t u v : Stuffer} {n off : ℕ} (hsize : Parser.uint 2 t.unread = some (n, u.unread))
    (hbytes : Parser.bytes n u.unread = some (slice u.blob.data off n, v.unread)) :
    (slice u.blob.data off n).length < 2 ^ 16 ∧
      t.unread = beBytes 2 (slice u.blob.data off n).length ++ (slice u.blob.data off n ++ v.unread) := by
  obtain ⟨hu, -⟩ := Parser.bytes_eq_some.mp hbytes
  rw [slice_length, ← hu]
  exact ⟨Parser.uint_lt hsize, Parser.uint_eq_some hsize⟩

/-- A vector is found in only one way. -/
lemma vector_inj {a b x y : List UInt8} (ha : a.length < 2 ^ 16) (hb : b.length < 2 ^ 16)
    (h : beBytes 2 a.length ++ (a ++ x) = beBytes 2 b.length ++ (b ++ y)) : a = b ∧ x = y := by
  have hparse := congrArg (Parser.uint 2) h
  rw [Parser.uint_append _ ha, Parser.uint_append _ hb] at hparse
  obtain ⟨hlen, hrest⟩ := Prod.mk.inj (Option.some.inj hparse)
  exact List.append_inj hrest hlen

/-- A binder was accepted for the ClientHello `part`; it is in the list of binders. -/
lemma wp_recvBinderLoop (chosenPskWireIndex : ℕ) (part : List UInt8) (fuel : ℕ) : ∀ (wireIndex : ℕ) {t : Stuffer},
    t.blob.isNull = false → wp (recvBinderLoop env psk chosenPskWireIndex part fuel wireIndex)
      (fun _ _ => (∃ binder, env.verifyBinder psk part binder = true) ∧ psk.hmacAlg.digestSize < t.unread.length)
      anyError t := by
  induction fuel with
  | zero => exact fun _ _ _ => trivial
  | succ fuel ih =>
    intro wireIndex t ht
    unfold recvBinderLoop
    rw [wp_read]
    split
    · trivial
    · refine wp_tried (reads_readUint 1 t ht) fun n u hu => ?_
      have hunull : u.blob.isNull = false := hu.2 ▸ ht
      refine wp_tried (wp_rawRead_bytes n hunull (R := fun _ _ => True)) fun o v hv => ?_
      cases o with
      | none => trivial
      | some off =>
        obtain ⟨huv, -⟩ := Parser.bytes_eq_some.mp (hv.2 off rfl)
        have hlen : t.unread.length = 1 + (n + v.unread.length) := by
          rw [Parser.uint_eq_some hu.1, huv, List.length_append, List.length_append, beBytes_length, slice_length]
        rw [wp_read]
        split
        · refine wp_checked fun hn => ?_
          rw [wp_ensure]
          exact ⟨fun hverify => ⟨⟨_, hverify⟩, by omega⟩, fun _ => trivial⟩
        · refine wp_mono_ok (fun _ _ h => ⟨h.1, ?_⟩) (ih (wireIndex + 1) (hv.1 ▸ hunull))
          have := h.2
          omega

lemma wp_readUint_of_null {t : Stuffer} {width : ℕ} (hnull : t.blob.isNull = true) (hwidth : 0 < width)
    {Q : ℕ → Stuffer → Prop} : wp (readUint width) Q anyError t := by
  have hsize := t.blob.null_size hnull
  have h₁ := t.write_le_high
  have h₂ := t.high_le_size
  have hlt : ¬ width ≤ t.dataAvailable := by
    unfold Stuffer.dataAvailable
    omega
  unfold readUint
  rw [wp_bind, wp_readBytes_of_lt hlt]
  trivial

lemma wp_recvIdentities :
    wp (recvIdentities env extension)
      (fun extension' c' => c'.io = c.io ∧ extension'.blob.isNull = false ∧ ∃ identities, identities.length < 2 ^ 16 ∧
        extension.unread = beBytes 2 identities.length ++ (identities ++ extension'.unread))
      anyError c := by
  unfold recvIdentities
  rw [wp_bind, wp_onLocal]
  cases hnull : extension.blob.isNull with
  | true => exact wp_readUint_of_null hnull (by decide)
  | false =>
    refine wp_try (fun n t ht => ?_) (reads_readUint 2 extension hnull)
    have htnull : t.blob.isNull = false := ht.2 ▸ hnull
    rw [wp_bind, wp_onLocal]
    refine wp_mono_ok (fun o u hu => ?_) (wp_rawRead_bytes n htnull)
    cases o with
    | none => exact trivial
    | some off =>
      have hframes : Frames PskServer.io (recvIdentityList env (Stuffer.initWritten (u.blob.sub off n))) := by
        intro c
        rw [wp_recvIdentityList]
        exact wp_mono_ok (fun _ s hs => Frames.ensure _ _ |>.wp (fun _ _ h => h.trans hs) fun _ _ h => h.trans hs)
          (frames_selectPsk env c.pskType _)
      refine wp_tried (hframes c) fun _ c' hc' => ?_
      rw [wp_pure]
      exact ⟨hc', hu.1 ▸ htnull, _, encode_of_vector ht.1 (hu.2 off rfl)⟩

/-- The binder of `psk` was accepted for the part of `io` before the binder list, which is in
`extension`. -/
def BinderChecked (env : PskEnv) (psk : PreSharedKey) (io : Stuffer) (data : List UInt8) : Prop :=
  ∃ binders rest binder, binders.length < 2 ^ 16 ∧ data = beBytes 2 binders.length ++ (binders ++ rest) ∧
    env.verifyBinder psk (partialClientHello io binders.length) binder = true ∧
    psk.hmacAlg.digestSize < binders.length

lemma wp_recvBinders (hnull : extension.blob.isNull = false) :
    wp (recvBinders env psk extension) (fun _ c' => c' = c ∧ BinderChecked env psk c.io extension.unread)
      anyError c := by
  unfold recvBinders
  rw [wp_bind, wp_onLocal]
  refine wp_try (fun n t ht => ?_) (reads_readUint 2 extension hnull)
  have htnull : t.blob.isNull = false := ht.2 ▸ hnull
  rw [wp_bind, wp_onLocal]
  refine wp_mono_ok (fun o u hu => ?_) (wp_rawRead_bytes n htnull)
  cases o with
  | none => exact trivial
  | some off =>
    have hbytes := hu.2 off rfl
    rw [wp_read]
    refine wp_checked fun _ => ?_
    refine wp_checked fun _ => ?_
    rw [wp_bind, wp_onLocal]
    refine wp_try (fun _ _ hloop => ?_)
      (wp_recvBinderLoop c.chosenPskWireIndex (partialClientHello c.io n) n 0 rfl)
    rw [wp_pure]
    obtain ⟨⟨binder, hverify⟩, hlen⟩ := hloop
    have hlist : (Stuffer.initWritten (u.blob.sub off n)).unread = slice t.blob.data off n := by
      rw [unread_initWritten, Blob.bytes_sub (hu.1 ▸ le_size_of_bytes hbytes), hu.1]
    rw [hlist] at hlen
    obtain ⟨hlt, hencode⟩ := encode_of_vector ht.1 hbytes
    refine ⟨rfl, slice t.blob.data off n, u.unread, binder, hlt, hencode, ?_, hlen⟩
    rwa [slice_length]

/-- **What is known of a PSK that the server has chosen**: if nothing was chosen before, or the exchange
mode is the right one, its binder was checked, and no known extension follows. -/
lemma wp_clientPskRecv (hmode : c.chosenPsk.isSome = true → c.pskKeMode = .pskDheKe) :
    wp (clientPskRecv env extension)
      (fun _ c' => ∀ psk, c'.chosenPsk = some psk →
        c.parsed.findIdx (fun e => e.extensionType = Extension.preSharedKey) = c.parsed.length - 1 ∧
        ∃ identities data, identities.length < 2 ^ 16 ∧
          extension.unread = beBytes 2 identities.length ++ (identities ++ data) ∧ BinderChecked env psk c.io data)
      anyError c := by
  unfold clientPskRecv clientPskChecks
  rw [wp_bind, wp_read]
  refine wp_checked fun _ => ?_
  refine wp_checked fun hlast => ?_
  refine wp_checked fun _ => ?_
  refine (wp_ensure _ _).mpr ⟨fun _ => ?_, fun _ => trivial⟩
  rw [wp_read, wp_when]
  refine ⟨fun _ => ?_, fun hnot psk hpsk => ?_⟩
  · unfold recvPsks
    rw [wp_bind, wp_attempt]
    refine wp_mono (fun extension' c' hc' => ?_) (fun _ c' _ => ?_) wp_recvIdentities
    · obtain ⟨hio, hnull, identities, hlt, hidentities⟩ := hc'
      unfold recvBindersOfChosen
      dsimp only
      rw [wp_read]
      cases hchosen : c'.chosenPsk with
      | none =>
        intro psk hpsk
        rw [hchosen] at hpsk
        cases hpsk
      | some chosen =>
        refine wp_mono_ok (fun _ c'' hc'' => ?_) (wp_recvBinders hnull)
        intro psk hpsk
        obtain ⟨rfl, hchecked⟩ := hc''
        obtain rfl : chosen = psk := Option.some.inj (hchosen.symm.trans hpsk)
        exact ⟨hlast, identities, _, hlt, hidentities, hio ▸ hchecked⟩
    · rw [wp_modify]
      intro psk hpsk
      cases hpsk
  · exact absurd (hmode (by rw [hpsk]; rfl)) hnot

end Receiving

/-! ### Receiving a ClientHello -/

section Hello

variable {R : Type} {env : HelloServerEnv R} {s s' t : HelloServer R}

/-- The data of a psk_key_exchange_modes extension lists psk_dhe_ke. -/
def listsPskDheKe : List UInt8 → Bool
  | [] => false
  | n :: modes => n.toNat ≤ modes.length && (modes.take n.toNat).contains 1

lemma wp_pskKeyExchangeModesRecv {c : PskServer} {t : Stuffer} (h : listsPskDheKe t.unread = true) :
    wp (pskKeyExchangeModesRecv t) (fun _ c' => c' = { c with pskKeMode := .pskDheKe }) noError c := by
  cases hun : t.unread with
  | nil =>
    rw [hun] at h
    exact absurd h Bool.false_ne_true
  | cons n modes =>
    rw [hun, listsPskDheKe, Bool.and_eq_true, decide_eq_true_eq, List.contains_iff_mem] at h
    have hpos : 0 < n.toNat := Nat.pos_of_ne_zero fun hzero => by simp [hzero] at h
    unfold pskKeyExchangeModesRecv
    refine (readsNext_readUint (by decide)).seq (fun u _ hu => ?_) fun hlt => ?_
    · rw [hun] at hu ⊢
      have hmodes : u.unread = modes := hu
      have hn : beNat ((n :: modes).take 1) = n.toNat := by simp [beNat]
      dsimp only
      rw [hn, if_neg (by rw [← unread_length, hmodes]; omega)]
      refine (readsNext_readBytes hpos).seq (fun _ _ _ => ?_) fun hlt => ?_
      · rw [hmodes, wp_when, wp_modify]
        exact ⟨fun _ => rfl, fun hnot => absurd h.2 hnot⟩
      · rw [hmodes] at hlt
        omega
    · rw [hun, List.length_cons] at hlt
      omega

/-- A PSK that is there before a ClientHello comes from the first one, before a HelloRetryRequest. The exchange mode
that was listed there may have been cleared since, with the decryption of a ticket. -/
def PskFromFirst (s : HelloServer R) : Prop :=
  s.psk.chosenPsk.isSome = true → (s.versions.actualProtocolVersion = tls13 ∧ s.isHelloRetryHandshake = true ∧
    0 < s.messageNumber) ∧ (s.psk.pskKeMode = .pskDheKe ∨
      listsPskDheKe (s.clientHello.extension Extension.pskKeyExchangeModes).bytes = true)

/-- What holds until the handler of pre_shared_key runs on the message that was parsed to `t`. -/
structure BeforePsk (t s : HelloServer R) : Prop where
  chosenPsk : s.psk.chosenPsk = t.psk.chosenPsk
  parsed : s.psk.parsed = t.psk.parsed
  extensions : s.clientHello.extensions = t.psk.parsed
  io : s.psk.io = t.psk.io
  fromFirst : PskFromFirst s

lemma stable_beforePsk (t : HelloServer R) : Stable (BeforePsk t) where
  rest _ _ _ h := ⟨h.chosenPsk, h.parsed, h.extensions, h.io, h.fromFirst⟩
  bits _ _ h := ⟨h.chosenPsk, h.parsed, h.extensions, h.io, h.fromFirst⟩
  pskList _ _ h := ⟨h.chosenPsk, h.parsed, h.extensions, h.io, h.fromFirst⟩
  pskKeMode _ h := ⟨h.chosenPsk, h.parsed, h.extensions, h.io, fun hsome => ⟨(h.fromFirst hsome).1, .inl rfl⟩⟩
  versions _ _ _ h hv := ⟨h.chosenPsk, h.parsed, h.extensions, h.io, fun hsome =>
    have hfirst := h.fromFirst hsome
    ⟨⟨(hv hfirst.1.2).2, hfirst.1.2⟩, hfirst.2⟩⟩

/-- What holds after the handler of psk_key_exchange_modes: the binder of a PSK will be looked at. -/
def ReadyForPsk (t s : HelloServer R) : Prop :=
  BeforePsk t s ∧ (s.psk.chosenPsk.isSome = true → s.psk.pskKeMode = .pskDheKe)

lemma stable_readyForPsk (t : HelloServer R) : StableBetween (ReadyForPsk t) where
  rest s r b h := ⟨(stable_beforePsk t).rest s r b h.1, h.2⟩
  bits s b h := ⟨(stable_beforePsk t).bits s b h.1, h.2⟩
  pskList s l h := ⟨(stable_beforePsk t).pskList s l h.1, h.2⟩
  pskKeMode s h := ⟨(stable_beforePsk t).pskKeMode s h.1, fun _ => rfl⟩

lemma wp_pskKeyExchangeModesExtension (h : BeforePsk t s) :
    wp (extensionProcessImpl serverExtensionAccess (pskKeyExchangeModesExtension env) t.psk.parsed)
      (fun _ => ReadyForPsk t) anyError s := by
  by_cases hready : s.psk.chosenPsk.isSome = true → s.psk.pskKeMode = .pskDheKe
  · exact extensionProcessImpl_maintains serverExtensionAccess (fun b c hc => (stable_readyForPsk t).bits c b hc)
      (upholds_pskKeyExchangeModes (stable_readyForPsk t)) _ s ⟨h, hready⟩
  · obtain ⟨hsome, hmode⟩ := Classical.not_imp.1 hready
    have hlists := (h.fromFirst hsome).2.resolve_left hmode
    have hiana : (pskKeyExchangeModesExtension env).ianaValue = Extension.pskKeyExchangeModes := rfl
    unfold extensionProcessImpl
    rw [ClientHello.extension, h.extensions] at hlists
    rw [hiana]
    cases hfind : t.psk.parsed.find? fun e => e.extensionType = Extension.pskKeyExchangeModes with
    | none =>
      rw [hfind] at hlists
      exact absurd hlists Bool.false_ne_true
    | some e =>
      rw [hfind] at hlists
      refine wp_extensionRecv (fun h => Bool.noConfusion h) (h.fromFirst hsome).1.1.ge ?_
      show wp (onPsk (pskKeyExchangeModesRecv (Stuffer.initWritten e.extension))) _ _ s
      rw [onPsk, wp_zoom]
      refine wp_mono (fun _ c hc => ?_) (fun _ _ h => h.elim) (wp_pskKeyExchangeModesRecv hlists)
      subst hc
      exact (stable_readyForPsk t).bits _ _ ⟨(stable_beforePsk t).pskKeMode s h, fun _ => rfl⟩

/-- Where a PSK comes from that a server has after a ClientHello: from before, if there was no extension,
or from the extension, as the last one that is known. -/
def PskOrigin (env : PskEnv) (t : HelloServer R) (psk : PreSharedKey) : Prop :=
  match t.psk.parsed.find? fun e => e.extensionType = Extension.preSharedKey with
  | none => t.psk.chosenPsk = some psk
  | some e => t.psk.parsed.findIdx (fun e => e.extensionType = Extension.preSharedKey) = t.psk.parsed.length - 1 ∧
      ∃ identities data, identities.length < 2 ^ 16 ∧
        e.extension.bytes = beBytes 2 identities.length ++ (identities ++ data) ∧ BinderChecked env psk t.psk.io data

lemma wp_clientPskExtension (hready : ReadyForPsk t s) :
    wp (extensionProcessImpl serverExtensionAccess (clientPskExtension env) t.psk.parsed)
      (fun _ s' => ∀ psk, s'.psk.chosenPsk = some psk → PskOrigin env.psk t psk) anyError s := by
  obtain ⟨h, hmode⟩ := hready
  unfold extensionProcessImpl PskOrigin
  have hiana : (clientPskExtension env).ianaValue = Extension.preSharedKey := rfl
  rw [hiana]
  cases hfind : t.psk.parsed.find? fun e => e.extensionType = Extension.preSharedKey with
  | none =>
    have hkept : ∀ psk, s.psk.chosenPsk = some psk → t.psk.chosenPsk = some psk := fun psk hpsk => h.chosenPsk ▸ hpsk
    unfold extensionIsMissing
    rw [wp_read, if_neg (fun hr => Bool.noConfusion hr.1)]
    split
    · exact hkept
    · show wp (get >>= fun c : HelloServer R => ensure (c.earlyDataRequested = false) Err.unsupportedExtension) _ _ s
      rw [wp_read, wp_ensure]
      exact ⟨fun _ => hkept, fun _ => trivial⟩
  | some e =>
    dsimp only
    unfold extensionRecv
    rw [wp_read]
    refine wp_checked fun _ => ?_
    split
    · rename_i hversion
      -- the extension is passed over: then nothing was chosen before
      intro psk hpsk
      exact absurd hversion (h.fromFirst (by rw [hpsk]; rfl)).1.1.not_lt
    · show wp (do onPsk (clientPskRecv env.psk (Stuffer.initWritten e.extension)); modify _) _ _ s
      unfold onPsk
      rw [wp_bind, wp_zoom]
      refine wp_mono_ok (fun _ c hc => ?_) (wp_clientPskRecv hmode)
      rw [wp_modify]
      intro psk hpsk
      rw [h.parsed, h.io, unread_initWritten] at hc
      exact hc psk hpsk

/-- **Where a PSK comes from** after a ClientHello. -/
lemma exists_origin (hs : PskFromFirst s) (hrun : (clientHelloRecv env).run s = .ok () s')
    (hchosen : s'.psk.chosenPsk = some psk) : ∃ t, ParsesHello env s t ∧ PskOrigin env.psk t psk := by
  have hwp : wp (clientHelloRecv env)
      (fun _ s' => ∀ psk, s'.psk.chosenPsk = some psk → ∃ t, ParsesHello env s t ∧ PskOrigin env.psk t psk)
      anyError s := by
    refine wp_clientHelloRecv fun t ht => ?_
    have hpsk : t.psk.chosenPsk = s.psk.chosenPsk := by rw [ht.psk]
    have hmode : t.psk.pskKeMode = s.psk.pskKeMode := by rw [ht.psk]
    have hparsed : t.psk.parsed = t.clientHello.extensions := by rw [ht.psk]
    have hbefore : BeforePsk t t := by
      refine ⟨rfl, rfl, hparsed.symm, rfl, fun hsome => ?_⟩
      obtain ⟨hfirst, hlists⟩ := hs (hpsk ▸ hsome)
      -- the second message must have the same exchange modes
      have hsame := (compared_of_verify (ht.retry hfirst.2.1).2).extensions Extension.pskKeyExchangeModes (by decide)
        (by decide)
      rw [ht.actualProtocolVersion, ht.isHelloRetryHandshake, ht.messageNumber, hmode, ← hsame]
      exact ⟨hfirst, hlists⟩
    refine wp_tried (keeps_invokeClientHelloCb (stable_beforePsk t).toStableBetween t hbefore) fun _ u hu => ?_
    refine wp_processClientHello (stable_beforePsk t) hu (stable_readyForPsk t) (fun v hv => ?_) (fun v hv => ?_)
      (fun _ _ h => h) fun _ _ h => h
    · rw [hu.parsed]
      exact wp_pskKeyExchangeModesExtension hv
    · rw [hu.parsed]
      exact wp_mono_ok (fun _ _ h psk hpsk => ⟨t, ht, h psk hpsk⟩) (wp_clientPskExtension hv)
  exact (wp_of_ok hrun).mp hwp psk hchosen

/-- A ClientHello with its header is in the buffer, as the handshake layer leaves it. -/
structure HelloServer.Holds (s : HelloServer R) (message : List UInt8) : Prop where
  written : s.psk.io.written = message
  readCursor : s.psk.io.readCursor = 4
  length_le : message.length ≤ 4 + 2 ^ 16

lemma HelloServer.Holds.unread (h : s.Holds message) : s.psk.io.unread = message.drop 4 := by
  rw [unread_eq_drop_written, h.written, h.readCursor]

/-- The last bytes are cut off; with a binder in the list the size does not wrap around. -/
lemma HelloServer.Holds.partialClientHello_eq (h : s.Holds message) {n : ℕ} (hn : 32 < n) :
    partialClientHello s.psk.io n = message.take (message.length - (2 + n)) := by
  have hlen : s.psk.io.writeCursor = message.length := by rw [← written_length, h.written]
  have hle := h.length_le
  have hsize : partialClientHelloSize s.psk.io n = message.length - (2 + n) := by
    unfold partialClientHelloSize
    rw [Nat.mod_eq_of_lt (by omega), hlen, Nat.add_comm n 2]
  calc partialClientHello s.psk.io n = slice s.psk.io.blob.data 0 (message.length - (2 + n)) := by
        rw [partialClientHello, hsize]
    _ = s.psk.io.written.take (message.length - (2 + n)) := by
        rw [Stuffer.written, hlen, take_slice _ _ (Nat.sub_le _ _)]
    _ = message.take (message.length - (2 + n)) := by rw [h.written]

lemma find_of_findIdx_last {p : α → Bool} {l : List α} {e : α} (he : p e = true)
    (h : (l ++ [e]).findIdx p = l.length) : (l ++ [e]).find? p = some e := by
  have hnone : l.find? p = none := by
    rw [List.find?_eq_none]
    intro x hx hpx
    have hlt := List.findIdx_lt_length_of_exists ⟨x, hx, hpx⟩
    rw [List.findIdx_append, if_pos hlt] at h
    omega
  rw [List.find?_append, hnone, Option.none_or, List.find?_singleton, if_pos he]

lemma bytes_of_last {parsed : List ParsedExtension} {e : ParsedExtension} {exts : List (ℕ × List UInt8)}
    {body : List UInt8} (hparsed : parsed.map ParsedExtension.pair =
      knownExtensions (exts ++ [(Extension.preSharedKey, body)]))
    (hidx : parsed.findIdx (fun e => e.extensionType = Extension.preSharedKey) = parsed.length - 1)
    (hfind : parsed.find? (fun e => e.extensionType = Extension.preSharedKey) = some e) : e.extension.bytes = body := by
  have hknown : knownExtensions (exts ++ [(Extension.preSharedKey, body)]) =
      knownExtensions exts ++ [(Extension.preSharedKey, body)] := by
    unfold knownExtensions
    rw [List.filter_append]
    rfl
  obtain ⟨front, last, rfl, -, hlast⟩ := List.map_eq_append_iff.mp (hparsed.trans hknown)
  obtain ⟨x, rfl, hx⟩ := List.map_eq_singleton_iff.mp hlast
  have htype : x.extensionType = Extension.preSharedKey := congrArg Prod.fst hx
  have hidx' : (front ++ [x]).findIdx (fun e => e.extensionType = Extension.preSharedKey) = front.length := by
    rw [hidx, List.length_append, List.length_singleton, Nat.add_sub_cancel]
  rw [find_of_findIdx_last (by simpa using htype) hidx'] at hfind
  obtain rfl := Option.some.inj hfind
  exact congrArg Prod.snd hx

/-- A binder for `psk` was accepted for these bytes. -/
def Verified (env : HelloServerEnv R) (psk : PreSharedKey) (bytes : List UInt8) : Prop :=
  ∃ binder, env.psk.verifyBinder psk bytes binder = true

variable (w : WireHello message)

/-- **What the server has checked** of a message whose last extension on the wire is pre_shared_key. -/
lemma WireHello.checked (hafter : w.after = []) (hs : PskFromFirst s) (hholds : s.Holds message)
    (hrun : (clientHelloRecv env).run s = .ok () s') (hchosen : s'.psk.chosenPsk = some psk) :
    32 < w.binders.length ∧ Verified env psk (partialClientHello s.psk.io w.binders.length) := by
  obtain ⟨t, ht, horigin⟩ := exists_origin hs hrun hchosen
  have hparsed : t.psk.parsed = t.clientHello.extensions := by rw [ht.psk]
  have hsslv2 : s.versions.clientHelloVersion ≠ sslv2 := by
    intro hv
    unfold PskOrigin at horigin
    rw [hparsed, (ht.sslv2 hv).1, ht.psk] at horigin
    have hfirst := hs (by rw [show s.psk.chosenPsk = some psk from horigin]; rfl)
    exact absurd (hv.symm.trans (ht.retry hfirst.1.2.1).1) (by decide)
  obtain ⟨msg, trailing, hdecode, hmsg, -⟩ := ht.message hsslv2
  rw [hholds.unread, w.decoded] at hdecode
  obtain ⟨rfl, -⟩ := Prod.mk.inj (Option.some.inj hdecode)
  have hmap : t.psk.parsed.map ParsedExtension.pair =
      knownExtensions (w.front ++ [(Extension.preSharedKey, pskBody w.identities w.binders ++ w.rest)]) := by
    rw [hparsed, hmsg.extensions, w.extensions, hafter]
  unfold PskOrigin at horigin
  cases hfind : t.psk.parsed.find? fun e => e.extensionType = Extension.preSharedKey with
  | none =>
    have hmem : (Extension.preSharedKey, pskBody w.identities w.binders ++ w.rest) ∈
        t.psk.parsed.map ParsedExtension.pair := by
      rw [hmap]
      exact List.mem_filter.mpr ⟨List.mem_append_right _ (List.mem_singleton_self _), rfl⟩
    obtain ⟨x, hx, hpair⟩ := List.mem_map.mp hmem
    have htype : x.extensionType = Extension.preSharedKey := congrArg Prod.fst hpair
    exact absurd (by simpa using htype) (List.find?_eq_none.mp hfind x hx)
  | some e =>
    rw [hfind] at horigin
    obtain ⟨hidx, identities, data, hlt, hbytes, binders, rest, binder, hblt, hdata, hverify, hsize⟩ := horigin
    rw [bytes_of_last hmap hidx hfind, pskBody, List.append_assoc, List.append_assoc, List.append_assoc] at hbytes
    obtain ⟨-, hbinders⟩ := vector_inj w.identities_lt hlt hbytes
    rw [hdata] at hbinders
    obtain ⟨hbinders, -⟩ := vector_inj w.binders_lt hblt hbinders
    have hio : partialClientHello t.psk.io binders.length = partialClientHello s.psk.io w.binders.length := by
      obtain ⟨hblob, hcursor⟩ := Prod.mk.inj ht.io
      rw [hbinders, partialClientHello, partialClientHello, partialClientHelloSize, partialClientHelloSize, hblob,
        hcursor]
    have hdigest : 32 ≤ psk.hmacAlg.digestSize := by
      rcases psk.hmacAlg_valid with halg | halg <;> rw [halg] <;> decide
    refine ⟨?_, binder, hio ▸ hverify⟩
    rw [hbinders]
    exact lt_of_le_of_lt hdigest hsize

/-- The server receives `message` and ends with `psk`. -/
structure EndsWithPsk (env : HelloServerEnv R) (s s' : HelloServer R) (message : List UInt8) (psk : PreSharedKey) :
    Prop where
  fromFirst : PskFromFirst s
  holds : s.Holds message
  run : (clientHelloRecv env).run s = .ok () s'
  chosen : s'.psk.chosenPsk = some psk

/-- The binder of `psk` authenticates the ClientHello: pre_shared_key is the last extension, nothing comes
after the extension list, and what was checked is the message up to the binder list. -/
def BinderCovers (env : HelloServerEnv R) (s : HelloServer R) (psk : PreSharedKey) (message : List UInt8) : Prop :=
  ∃ w : WireHello message, w.after = [] ∧ w.trailing = [] ∧
    partialClientHello s.psk.io w.binders.length = w.beforeBinders ∧ Verified env psk w.beforeBinders

lemma WireHello.partialClientHello_eq_iff (hafter : w.after = []) (h : EndsWithPsk env s s' message psk) :
    partialClientHello s.psk.io w.binders.length = w.beforeBinders ↔ w.behind = [] := by
  obtain ⟨hbinders, -⟩ := w.checked hafter h.fromFirst h.holds h.run h.chosen
  rw [h.holds.partialClientHello_eq hbinders]
  have hle := w.length_le
  constructor
  · intro heq
    have hlen := congrArg List.length heq
    rw [List.length_take, w.length_beforeBinders] at hlen
    exact List.eq_nil_of_length_eq_zero (by omega)
  · intro hnil
    rw [beforeBinders, hnil, List.length_nil, Nat.add_zero]

end Hello

/-! ### Sample messages -/

def samplePsk : PreSharedKey := ⟨[65], [1], .sha256, 0, 0, sha256_valid⟩

/-- The binder of `samplePsk` is accepted, and every ticket is one for it. -/
def pskEnv : HelloServerEnv Unit :=
  { lenientEnv with psk := ⟨fun _ => .restored samplePsk, fun _ _ => true, fun psk _ _ => psk = samplePsk, none⟩ }

/-- The extensions of a ClientHello that offers `samplePsk` for these exchange modes. -/
def samplePskExtensions (modes : List UInt8) : List (ℕ × List UInt8) :=
  [(Extension.keyShare, []), (Extension.pskKeyExchangeModes, modes),
    (Extension.preSharedKey, pskBody [0, 1, 65, 0, 0, 0, 0] (32 :: List.replicate 32 0))]

/-- A message of the handshake: type and length come first. -/
def clientHelloMessage (exts : List (ℕ × List UInt8)) : List UInt8 :=
  1 :: (beBytes 3 (sampleHello exts).length ++ sampleHello exts)

/-- A server that has received this message and has read its header. -/
def HelloServer.reading (s : HelloServer Unit) (io : ShortBytes) :
    HelloServer Unit :=
  { s with psk := { s.psk with io := finalState (skipRead 4) (arrived io) } }

/-- A message that offers psk_dhe_ke. -/
def dheMessage : ShortBytes :=
  ⟨clientHelloMessage (samplePskExtensions [1, 1]), by decide +kernel⟩

/-- A server that has taken a ticket of a first ClientHello, and has sent a HelloRetryRequest. -/
def ticketRetryServer : HelloServer Unit :=
  let s := serverWith dheMessage
  let s := { s with psk := { s.psk with pskType := .resumption, useTickets := true } }
  { finalState (clientHelloRecv pskEnv) (s.reading dheMessage) with isHelloRetryHandshake := true, messageNumber := 2 }

end S2nTls
