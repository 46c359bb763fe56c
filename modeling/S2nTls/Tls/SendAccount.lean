import S2nTls.Tls.IoFrame

/-!
The bytes of the caller that `s2n_sendv_with_offset_impl` puts into records.

`conn->current_user_data_consumed` counts the bytes that are in records and that the caller has not been told about. So
what a call returns, and the change of that counter, add up to what the call has put into records.
-/

namespace S2nTls

open Lib Stuffer

variable {K ω : Type} {w : Conn K → ω} {c : Conn K}

lemma Conn.appBytes_withRecord (c : Conn K) (r : WrittenRecord) :
    (c.withRecord r).appBytes =
      c.appBytes + if r.contentType = tlsApplicationData then r.plaintext.length else 0 := by
  unfold Conn.appBytes S2nTls.appBytes Conn.withRecord
  rw [List.map_append, List.sum_append, List.map_singleton, List.sum_singleton]

/-- The view shows neither the records nor how many bytes of the caller are in them. -/
structure Steady (w : Conn K → ω) : Prop extends Outer w where
  anyRecord : ∀ c r, w (c.withRecord r) = w c
  consumed : ∀ c s, (s.sendInUse, s.dynamicBuffers) = (c.send.sendInUse, c.send.dynamicBuffers) →
    w { c with send := s } = w c

/-- The view together with the account of the bytes. -/
def accountView (w : Conn K → ω) (c : Conn K) : ω × ℕ × ℕ := (w c, c.send.currentUserDataConsumed, c.appBytes)

lemma Steady.outer (h : Steady w) : Outer (accountView w) where
  crypto c x := Prod.ext (h.crypto c x) rfl
  env c e he := Prod.ext (h.env c e he) rfl
  uses c us := Prod.ext (h.uses c us) rfl
  handed c bs := Prod.ext (h.handed c bs) rfl
  messages c ms := Prod.ext (h.messages c ms) rfl
  record c r hr := by
    refine Prod.ext (h.anyRecord c r) (Prod.ext rfl ?_)
    show (c.withRecord r).appBytes = c.appBytes
    rw [c.appBytes_withRecord, if_neg hr, Nat.add_zero]
  send c s hs := by
    refine Prod.ext (h.send c s hs) (Prod.ext ?_ rfl)
    exact (Prod.mk.inj (Prod.mk.inj hs).2).2
  io c t := Prod.ext (h.io c t) rfl
  keys c s n m := Prod.ext (h.keys c s n m) rfl
  recv c r := Prod.ext (h.recv c r) rfl
  closed c r x := Prod.ext (h.closed c r x) rfl
  clientVersion c n := Prod.ext (h.clientVersion c n) rfl

/-- The account after `k` more bytes were put into records, of which the counter has not heard. -/
structure Wrote (w : Conn K → ω) (c : Conn K) (k : ℕ) (c' : Conn K) : Prop where
  view : w c' = w c
  consumed : c'.send.currentUserDataConsumed = c.send.currentUserDataConsumed
  appBytes : c'.appBytes = c.appBytes + k

variable {c' : Conn K}

lemma Wrote.of_view (h : accountView w c' = accountView w c) : Wrote w c 0 c' :=
  ⟨(Prod.mk.inj h).1, (Prod.mk.inj (Prod.mk.inj h).2).1, (Prod.mk.inj (Prod.mk.inj h).2).2⟩

lemma Wrote.view_eq (h : Wrote w c 0 c') : accountView w c' = accountView w c :=
  Prod.ext h.view (Prod.ext h.consumed h.appBytes)

lemma Wrote.of_eq {c' c'' : Conn K} {k : ℕ} (h : accountView w c' = accountView w c) (h' : Wrote w c' k c'') :
    Wrote w c k c'' := by
  obtain ⟨hview, hconsumed, happ⟩ := Wrote.of_view h
  exact ⟨h'.view.trans hview, h'.consumed.trans hconsumed, by rw [h'.appBytes, happ, Nat.add_zero]⟩

lemma returns_recordBuild (ct : ContentType) (iov : Option (List Iovec)) (offs n : ℕ) (rs : Stuffer) :
    Returns (fun p => p.1.length = n) (recordBuild ct iov offs n rs : ConnM K _) := by
  have hprotect : ∀ r ct iv aad padding extra rs, Returns (fun p => p.1.length = n)
      (recordProtect r ct iv aad n padding extra rs : ConnM K _) := by
    intro r ct iv aad padding extra rs
    unfold recordProtect
    refine .bind fun c => .bind fun _ => .bind fun _ => .bind fun _ => .bind fun _ => .pure ?_
    exact slice_length _ _ _
  unfold recordBuild
  refine .bind fun c => .bind fun _ => .bind fun _ => .bind fun _ => .bind fun _ => .bind fun _ => .bind fun _ => ?_
  exact .bind fun _ => .bind fun _ => hprotect _ _ _ _ _ _ _

lemma wp_recordWritev_account (h : Steady w) (iov : Option (List Iovec)) (offs n : ℕ) :
    wp (recordWritev tlsApplicationData iov offs n) (fun k c' => k ≤ n ∧ Wrote w c k c')
      (fun _ c' => Wrote w c 0 c') c := by
  have ho := h.outer
  unfold recordWritev
  rw [wp_read, wp_ite]
  refine ⟨fun _ => ?_, fun _ => ?_⟩
  · unfold ktlsRecordWritev
    rw [wp_read]
    refine wp_seq_ofExcept (fun _ _ => ?_) fun _ _ => .of_view rfl
    refine wp_guard (.of_view rfl) fun _ => ?_
    exact wp_guard (.of_view rfl) fun hct => absurd hct (by decide)
  unfold recordWritevOut
  rw [wp_read]
  refine (ho.recordSwitchToInitial _).seq rfl (fun _ _ h₁ => ?_) fun _ _ he => .of_view he
  refine (frames_recordCheckWrite _).seq h₁ (fun _ _ h₂ => ?_) fun _ _ he => .of_view he
  refine frames_recordMaxWritePayloadSize.seq h₂ (fun m _ h₃ => ?_) fun _ _ he => .of_view he
  refine (frames_recordAllocOut ho.out _).seq h₃ (fun _ c₄ h₄ => ?_) fun _ _ he => .of_view he
  rw [wp_read]
  refine wp_seq (wp_and (returns_recordBuild tlsApplicationData iov offs (min n m) (recordStuffer c₄.send.out) c₄)
    (ho.blind.recordBuild _ _ _ _ _ c₄)) (fun p c₅ h₅ => ?_) fun _ _ he => .of_view (he.2.trans h₄)
  have hbuilt : accountView w c₅ = accountView w c := h₅.2.trans h₄
  unfold recordSyncOut
  rw [wp_bind, wp_read]
  refine (ho.onOut _).seq hbuilt (fun _ c₆ h₆ => ?_) fun _ _ he => .of_view he
  rw [wp_modify]
  -- the record counts from here on
  have hwrote : Wrote w c (min n m) (c₆.withRecord ⟨tlsApplicationData, p.1, p.2.unread⟩) := by
    have h₆ := Wrote.of_view h₆
    refine ⟨(h.anyRecord _ _).trans h₆.view, h₆.consumed, ?_⟩
    rw [Conn.appBytes_withRecord, if_pos rfl, h₅.1, h₆.appBytes, Nat.add_zero]
  rw [wp_bind, wp_when]
  exact ⟨fun hccs => absurd hccs.2 (by decide), fun _ => ⟨Nat.min_le_left _ _, hwrote⟩⟩

/-! ### The loop -/

/-- A call that returns `n` bytes or none has put as many into records as it returned and as the counter went up by,
and no more than there were. -/
structure Balanced (w : Conn K → ω) (totalSize : ℕ) (c : Conn K) (n : ℕ) (c' : Conn K) : Prop where
  view : w c' = w c
  le_total : n + c'.send.currentUserDataConsumed ≤ totalSize
  appBytes : c'.appBytes + c.send.currentUserDataConsumed = c.appBytes + (n + c'.send.currentUserDataConsumed)
  grows : c.appBytes ≤ c'.appBytes

variable {totalSize : ℕ}

lemma Balanced.of_view (h : accountView w c' = accountView w c)
    (hle : c.send.currentUserDataConsumed ≤ totalSize) : Balanced w totalSize c 0 c' := by
  obtain ⟨hview, hconsumed, happ⟩ := Wrote.of_view h
  exact ⟨hview, by omega, by omega, by omega⟩

lemma Balanced.trans {c' c'' : Conn K} {n : ℕ} (h : Balanced w totalSize c 0 c')
    (h' : Balanced w totalSize c' n c'') : Balanced w totalSize c n c'' := by
  obtain ⟨hview, -, happ, hgrows⟩ := h
  obtain ⟨hview', hle', happ', hgrows'⟩ := h'
  exact ⟨hview'.trans hview, hle', by omega, hgrows.trans hgrows'⟩

lemma Balanced.of_wrote {k m : ℕ} (hw : Steady w) (h : Wrote w c k c')
    (hle : c.send.currentUserDataConsumed + k ≤ totalSize) :
    Balanced w totalSize c 0 { c' with send := { c'.send with
      currentUserDataConsumed := c'.send.currentUserDataConsumed + k
      activeApplicationBytesConsumed := m } } := by
  refine ⟨?_, ?_, ?_, h.appBytes.symm ▸ Nat.le_add_right _ _⟩
  · rw [← h.view]
    exact hw.consumed c' _ rfl
  · show 0 + (c'.send.currentUserDataConsumed + k) ≤ totalSize
    rw [h.consumed]
    omega
  · show c'.appBytes + _ = _ + (0 + (c'.send.currentUserDataConsumed + k))
    rw [h.appBytes, h.consumed]
    omega

lemma Balanced.acknowledge {sent : ℕ} (hw : Steady w) (h : Balanced w totalSize c 0 c')
    (hsent : sent ≤ c'.send.currentUserDataConsumed) :
    Balanced w totalSize c sent { c' with send := { c'.send with
      currentUserDataConsumed := c'.send.currentUserDataConsumed - sent } } := by
  obtain ⟨hview, hle, happ, hgrows⟩ := h
  refine ⟨?_, ?_, ?_, hgrows⟩
  · rw [← hview]
    exact hw.consumed c' _ rfl
  · show sent + (c'.send.currentUserDataConsumed - sent) ≤ totalSize
    omega
  · show c'.appBytes + _ = _ + (sent + (c'.send.currentUserDataConsumed - sent))
    omega

variable {R : Err → Conn K → Prop}

lemma wp_modifySend {f : SendState → SendState} {Q : Unit → Conn K → Prop} :
    wp (modifySend f) Q R c ↔ Q () { c with send := f c.send } := by
  unfold modifySend
  rw [wp_modify]

variable {iov : List Iovec} {offs maxPayloadSize : ℕ}

/-- A record takes no more than there is left. -/
lemma returns_sendvToWrite (cbcHackUsed : Bool) :
    wp (sendvToWrite totalSize maxPayloadSize cbcHackUsed)
      (fun p _ => c.send.currentUserDataConsumed < totalSize → c.send.currentUserDataConsumed + p.1 ≤ totalSize)
      anyError c := by
  unfold sendvToWrite
  rw [wp_read]
  have hmin : min (totalSize - c.send.currentUserDataConsumed) maxPayloadSize ≤
      totalSize - c.send.currentUserDataConsumed := Nat.min_le_left _ _
  have hnext : Returns (fun n => n ≤ totalSize - c.send.currentUserDataConsumed)
      (if c.send.activeApplicationBytesConsumed < c.send.dynamicRecordResizeThreshold then do
        return min (← recordMinWritePayloadSize)
          (min (totalSize - c.send.currentUserDataConsumed) maxPayloadSize)
      else return min (totalSize - c.send.currentUserDataConsumed) maxPayloadSize : ConnM K ℕ) := by
    split
    · exact .bind fun _ => .pure ((Nat.min_le_right _ _).trans hmin)
    · exact .pure hmin
  refine wp_tried (hnext c) fun n c' hn => ?_
  split
  · rw [wp_pure]
    intro hlt
    show c.send.currentUserDataConsumed + 1 ≤ totalSize
    omega
  · rw [wp_pure]
    intro hlt
    show c.send.currentUserDataConsumed + n ≤ totalSize
    omega

/-- **The loop keeps the account**, from a state in which the bytes that have been sent are among those in records. -/
lemma wp_sendvLoop (h : Steady w) (fuel : ℕ) :
    ∀ (cbcHackUsed : Bool) (sent : ℕ) (c : Conn K), sent ≤ c.send.currentUserDataConsumed →
      c.send.currentUserDataConsumed ≤ totalSize →
      wp (sendvLoop iov offs totalSize maxPayloadSize fuel cbcHackUsed sent)
        (fun r c' => Balanced w totalSize c (r.getD 0) c') (fun _ c' => Balanced w totalSize c 0 c') c := by
  induction fuel with
  | zero => exact fun _ _ c _ hle => Balanced.of_view rfl hle
  | succ fuel ih =>
    intro cbcHackUsed sent c hsent hle
    have ho := h.outer
    unfold sendvLoop
    rw [wp_read]
    split
    · exact Balanced.of_view rfl hle
    · rename_i hne
      have hlt : c.send.currentUserDataConsumed < totalSize := lt_of_le_of_ne hle hne
      refine wp_seq (wp_and (returns_sendvToWrite cbcHackUsed)
        (frames_sendvToWrite totalSize maxPayloadSize cbcHackUsed c))
        (fun p c₁ h₁ => ?_) fun _ _ he => .of_view he.2 hle
      obtain ⟨toWrite, cbcHackUsed'⟩ := p
      dsimp only
      refine ho.postHandshakeSend.seq h₁.2 (fun _ c₂ h₂ => ?_) fun _ _ he => .of_view he hle
      rw [wp_read]
      refine wp_seq (wp_recordWritev_account h (some iov) _ toWrite) (fun k c₃ h₃ => ?_)
        fun _ _ he => .of_view (he.view_eq.trans h₂) hle
      rw [wp_bind, wp_modifySend]
      have hbalanced := Balanced.of_wrote (m := (c₃.send.activeApplicationBytesConsumed + k) % 2 ^ 64) h
        (Wrote.of_eq h₂ h₃.2) ((Nat.add_le_add_left h₃.1 _).trans (h₁.1 hlt))
      have hconsumed : sent ≤ c₃.send.currentUserDataConsumed + k := by
        rw [h₃.2.consumed, (Wrote.of_view h₂).consumed]
        omega
      generalize hc₄ : ({ c₃ with send := _ } : Conn K) = c₄ at hbalanced
      have hsent : sent ≤ c₄.send.currentUserDataConsumed := by
        rw [← hc₄]
        exact hconsumed
      have hnext : ∀ c₅, accountView w c₅ = accountView w c₄ → Balanced w totalSize c 0 c₅ ∧
          c₅.send.currentUserDataConsumed = c₄.send.currentUserDataConsumed := by
        intro c₅ h₅
        refine ⟨hbalanced.trans (.of_view h₅ ?_), (Wrote.of_view h₅).consumed⟩
        exact (Nat.le_add_left _ _).trans hbalanced.le_total
      have hflush : Frames (accountView w) (shouldFlush totalSize) := frames_shouldFlush totalSize
      refine hflush.seq rfl (fun flushNow c₅ h₅ => ?_) fun _ _ he => (hnext _ he).1
      split
      · refine ho.flush.attempt.seq h₅ (fun r c₆ h₆ => ?_) fun _ _ he => (hnext _ he).1
        obtain ⟨hbalanced₆, hconsumed₆⟩ := hnext c₆ h₆
        cases r with
        | error e =>
          dsimp only
          split
          · rw [wp_bind, wp_modifySend, wp_pure]
            exact hbalanced₆.acknowledge h (hsent.trans hconsumed₆.ge)
          · exact hbalanced₆
        | ok _ =>
          rw [wp_read]
          exact wp_mono (fun _ _ hr => hbalanced₆.trans hr) (fun _ _ hr => hbalanced₆.trans hr)
            (ih _ _ c₆ le_rfl ((Nat.le_add_left _ _).trans hbalanced₆.le_total))
      · obtain ⟨hbalanced₅, hconsumed₅⟩ := hnext c₅ h₅
        exact wp_mono (fun _ _ hr => hbalanced₅.trans hr) (fun _ _ hr => hbalanced₅.trans hr)
          (ih _ _ c₅ (hsent.trans hconsumed₅.ge) ((Nat.le_add_left _ _).trans hbalanced₅.le_total))

/-! ### The call -/

/-- What the guards, early data and the handshake say, and whether memory can be freed. -/
def Conn.ioView (c : Conn K) :
    (Bool × Bool) × EarlyData × Mode × Config × (ℕ × ℕ × StateMachine) × (Fault → Bool) :=
  ((c.send.sendInUse, c.send.dynamicBuffers), c.earlyData, c.mode, c.config,
    (c.handshake.handshakeType, c.handshake.messageNumber, c.handshake.stateMachine), c.env.fault)

lemma steady_ioView : Steady (Conn.ioView (K := K)) where
  env _ _ he := by unfold Conn.ioView; rw [he]
  send _ _ hs := by
    obtain ⟨huse, hrest⟩ := Prod.mk.inj hs
    obtain ⟨hdynamic, -⟩ := Prod.mk.inj hrest
    unfold Conn.ioView
    rw [← huse, ← hdynamic]
  anyRecord _ _ := rfl
  consumed _ _ hs := by unfold Conn.ioView; rw [← hs]

section View

variable (h : c'.ioView = c.ioView)

include h

lemma isEarlyDataIo_of_ioView : c'.isEarlyDataIo = c.isEarlyDataIo := by
  simp only [Conn.ioView, Prod.mk.injEq] at h
  unfold Conn.isEarlyDataIo Conn.currentMessageType
  rw [h.2.1, h.2.2.1, h.2.2.2.2.1.1, h.2.2.2.2.1.2.1, h.2.2.2.2.1.2.2]

lemma maxEarlyDataSize_of_ioView : c'.maxEarlyDataSize = c.maxEarlyDataSize := by
  simp only [Conn.ioView, Prod.mk.injEq] at h
  unfold Conn.maxEarlyDataSize Conn.serverMaxEarlyDataSize
  rw [h.2.1, h.2.2.1, h.2.2.2.1, h.2.2.2.2.1.1]

lemma earlyData_of_ioView : c'.earlyData = c.earlyData := by
  simp only [Conn.ioView, Prod.mk.injEq] at h
  exact h.2.1

end View

/-- What `s2n_early_data_validate_send` allows. -/
def Conn.AllowsSend (c : Conn K) (totalSize : ℕ) : Prop :=
  c.isEarlyDataIo = true → c.earlyData.bytes + totalSize % 2 ^ 32 ≤ c.maxEarlyDataSize.toNat

lemma wp_remainingEarlyDataSize {Q : ℕ → Conn K → Prop}
    (hok : ∀ n, (n = 0 ∨ c.earlyData.bytes + n ≤ c.maxEarlyDataSize.toNat) →
      (c.earlyData.state = .requested ∨ c.earlyData.state = .accepted →
        c.earlyData.bytes + n ≤ c.maxEarlyDataSize.toNat) → Q n c)
    (herr : ∀ e, R e c) : wp remainingEarlyDataSize Q R c := by
  unfold remainingEarlyDataSize
  rw [wp_read]
  cases hstate : c.earlyData.state
  case unknown | requested | accepted =>
    dsimp only
    refine wp_guard (herr _) fun hle => ?_
    rw [wp_pure]
    exact hok _ (.inr (by omega)) fun _ => by omega
  case notRequested | rejected | endOfEarlyData =>
    rw [wp_pure]
    exact hok 0 (.inl rfl) fun hno => by simp [hstate] at hno

lemma wp_earlyDataValidateSend (n : ℕ) :
    wp (earlyDataValidateSend n) (fun _ c' => c' = c ∧ c.AllowsSend n) (fun _ c' => c' = c) c := by
  unfold earlyDataValidateSend
  rw [wp_read, wp_when]
  refine ⟨fun _ => ?_, fun hno => ⟨rfl, fun hearly => absurd hearly hno⟩⟩
  refine wp_guard rfl fun _ => ?_
  refine wp_guard rfl fun _ => ?_
  refine wp_guard rfl fun hstate => ?_
  rw [wp_bind]
  refine wp_remainingEarlyDataSize (fun allowed _ hallowed => ?_) fun _ => rfl
  have hle := hallowed hstate
  rw [wp_ensure]
  refine ⟨fun hn => ⟨rfl, fun _ => ?_⟩, fun _ => rfl⟩
  omega

/-- What a call has put into records, if it returns `n` bytes or fails. -/
structure Accounted (c : Conn K) (totalSize n : ℕ) (c' : Conn K) : Prop where
  allowed : c.AllowsSend totalSize
  le_total : n + c'.send.currentUserDataConsumed ≤ totalSize
  appBytes : c'.appBytes + c.send.currentUserDataConsumed ≤ c.appBytes + (n + c'.send.currentUserDataConsumed)
  grows : c.appBytes ≤ c'.appBytes

lemma Conn.AllowsSend.of_ioView (h : c'.ioView = c.ioView) (hallows : c'.AllowsSend totalSize) :
    c.AllowsSend totalSize := by
  unfold Conn.AllowsSend at hallows ⊢
  rwa [isEarlyDataIo_of_ioView h, maxEarlyDataSize_of_ioView h, earlyData_of_ioView h] at hallows

/-- **The account of a call.** -/
lemma wp_sendvWithOffsetImpl (iov : List Iovec) (offs : ℤ) :
    wp (sendvWithOffsetImpl iov offs)
      (fun n c' => c'.ioView = c.ioView ∧ (c.send.ktlsSendEnabled = false →
        ∃ totalSize, sendvTotalSize iov offs = .ok totalSize ∧ Accounted c totalSize n c'))
      (fun _ c' => c'.ioView = c.ioView ∧ (accountView Conn.ioView c' = accountView Conn.ioView c ∨
        ∃ totalSize, sendvTotalSize iov offs = .ok totalSize ∧ Accounted c totalSize 0 c')) c := by
  have hw : Steady (Conn.ioView (K := K)) := steady_ioView
  have ho := hw.outer
  have hfailed : ∀ c' : Conn K, accountView Conn.ioView c' = accountView Conn.ioView c →
      c'.ioView = c.ioView ∧ (accountView Conn.ioView c' = accountView Conn.ioView c ∨
        ∃ totalSize, sendvTotalSize iov offs = .ok totalSize ∧ Accounted c totalSize 0 c') :=
    fun c' h => ⟨(Wrote.of_view h).view, .inl h⟩
  unfold sendvWithOffsetImpl
  rw [wp_read]
  refine wp_guard (hfailed _ rfl) fun _ => ?_
  refine wp_guard (hfailed _ rfl) fun _ => ?_
  refine ho.flush.seq rfl (fun _ c₁ h₁ => ?_) fun _ _ he => hfailed _ he
  rw [wp_ite]
  refine ⟨fun hktls => ?_, fun _ => ?_⟩
  · refine (ho.ktlsSendvWithOffset iov offs).wp (fun _ _ he => ?_) fun _ _ he => hfailed _ (Eq.trans he h₁)
    exact ⟨(Wrote.of_view (Eq.trans he h₁)).view, fun hno => Bool.noConfusion (hktls.symm.trans hno)⟩
  unfold sendvRecords
  rw [wp_read]
  refine frames_recordMaxWritePayloadSize.seq h₁ (fun maxPayloadSize c₂ h₂ => ?_) fun _ _ he => hfailed _ he
  refine wp_seq_ofExcept (fun totalSize htotal => ?_) fun _ _ => hfailed _ h₂
  refine wp_guard (hfailed _ h₂) fun hle => ?_
  refine wp_seq (wp_earlyDataValidateSend totalSize) (fun _ c₃ h₃ => ?_) fun _ _ he => hfailed _ (he ▸ h₂)
  obtain ⟨rfl, hallowed⟩ := h₃
  have hallowed := hallowed.of_ioView (Wrote.of_view h₂).view
  refine ho.dynamicRecordTimeout.seq h₂ (fun _ c₄ h₄ => ?_) fun _ _ he => hfailed _ he
  have hc₁ := Wrote.of_view h₁
  have hc₄ := Wrote.of_view h₄
  have hconsumed : c₁.send.currentUserDataConsumed = c₄.send.currentUserDataConsumed :=
    hc₁.consumed.trans hc₄.consumed.symm
  have haccounted : ∀ (n : ℕ) (c₅ : Conn K), Balanced Conn.ioView totalSize c₄ n c₅ → c₅.ioView = c.ioView ∧
      Accounted c totalSize n c₅ := by
    intro n c₅ h₅
    refine ⟨h₅.view.trans hc₄.view, hallowed, h₅.le_total, ?_, hc₄.appBytes.ge.trans h₅.grows⟩
    rw [← hc₄.consumed, h₅.appBytes, hc₄.appBytes, Nat.add_zero]
  refine wp_seq (wp_sendvLoop hw _ false _ c₄ hconsumed.le (hconsumed ▸ hle)) (fun r c₅ h₅ => ?_) fun _ c₅ h₅ => ?_
  · cases r with
    | some n =>
      rw [wp_pure]
      obtain ⟨hview, hacc⟩ := haccounted n c₅ h₅
      exact ⟨hview, fun _ => ⟨totalSize, htotal, hacc⟩⟩
    | none =>
      rw [wp_bind, wp_modifySend, wp_pure]
      obtain ⟨hview, hacc⟩ := haccounted 0 c₅ h₅
      have hle₅ := hacc.le_total
      have happ₅ := hacc.appBytes
      refine ⟨hview, fun _ => ⟨totalSize, htotal, hallowed, le_rfl, ?_, hacc.grows⟩⟩
      show c₅.appBytes + c.send.currentUserDataConsumed ≤ c.appBytes + (totalSize + 0)
      omega
  · obtain ⟨hview, hacc⟩ := haccounted 0 c₅ h₅
    exact ⟨hview, .inr ⟨totalSize, htotal, hacc⟩⟩

end S2nTls
