import S2nTls.Tls.Negotiate
import S2nTls.Tls.RecordFrame

/-!
What sending and receiving leave alone.

The functions of the record layer change buffers, keys, counters and the record of what was done. A view of the
connection that shows none of these is the same before and after, whatever happens. It may show the guards of the
connection, the state of early data and of the handshake, and the bytes of the caller that are in records.
-/

namespace S2nTls

open Lib Stuffer

variable {K ω α : Type} {view : Conn K → ω}
variable {ct : ContentType}

/-- A record is added to those that were written. -/
def Conn.withRecord (c : Conn K) (r : WrittenRecord) : Conn K :=
  { c with trace := { c.trace with records := c.trace.records ++ [r] } }

/-- The fields of sending that no function but the loop of `s2n_sendv_with_offset_impl` changes. -/
def SendState.held (s : SendState) : Bool × Bool × ℕ := (s.sendInUse, s.dynamicBuffers, s.currentUserDataConsumed)

/-- The view does not show what the record layer changes. Of the records that were written it may show those with
application data. -/
structure Outer (view : Conn K → ω) : Prop where
  crypto : ∀ c x, view { c with crypto := x } = view c := by intros; rfl
  env : ∀ c e, e.fault = c.env.fault → view { c with env := e } = view c := by intros; rfl
  uses : ∀ c us, view { c with trace := { c.trace with sequenceUses := us } } = view c := by intros; rfl
  handed : ∀ c bs, view { c with trace := { c.trace with handed := bs } } = view c := by intros; rfl
  messages : ∀ c ms, view { c with trace := { c.trace with postHandshake := ms } } = view c := by intros; rfl
  record : ∀ c r, r.contentType ≠ tlsApplicationData → view (c.withRecord r) = view c := by intros; rfl
  send : ∀ c s, s.held = c.send.held → view { c with send := s } = view c
  io : ∀ c t, view { c with handshake := { c.handshake with io := t } } = view c := by intros; rfl
  keys : ∀ c s n m, view { c with secrets := s, sendKeyUpdated := n, recvKeyUpdated := m } = view c := by intros; rfl
  recv : ∀ c r, view { c with recv := r } = view c := by intros; rfl
  closed : ∀ c r w, view { c with readClosed := r, writeClosed := w } = view c := by intros; rfl
  clientVersion : ∀ c n, view { c with clientProtocolVersion := n } = view c := by intros; rfl

namespace Outer

variable (h : Outer view)

include h

lemma blind : Blind view where
  side c _ _ _ := h.crypto c _
  random c _ := h.env c _ rfl
  uses := h.uses

lemma out (c : Conn K) (t : Stuffer) : view { c with send := { c.send with out := t } } = view c := h.send c _ rfl

lemma onOut (f : StufferM α) : Frames view (onOut f) := frames_onOut h.out f

lemma onIo (f : StufferM α) : Frames view (onIo f) := .zoom (fun t c => h.io c t) f

lemma modifySend {f : SendState → SendState} (hf : ∀ s, (f s).held = s.held) : Frames view (modifySend f) :=
  .modify fun c => h.send c _ (hf c.send)

/-! ### Records -/

lemma recordSwitchToInitial (ct : ContentType) : Frames view (recordSwitchToInitial ct) := by
  unfold S2nTls.recordSwitchToInitial
  refine .read fun c => .when (.checked ?_)
  exact .modify fun c => h.crypto c _

lemma recordSyncOut (ct : ContentType) (bs : List UInt8) (rs : Stuffer)
    (hrecord : ∀ c : Conn K, view (c.withRecord ⟨ct, bs, rs.unread⟩) = view c) :
    Frames view (recordSyncOut ct bs rs) := by
  unfold S2nTls.recordSyncOut
  exact .read fun c => .bind (h.onOut _) fun _ => .modify hrecord

lemma recordWritev_of (hrecord : ∀ (c : Conn K) bs w, view (c.withRecord ⟨ct, bs, w⟩) = view c)
    (iov : Option (List Iovec)) (offs n : ℕ) : Frames view (recordWritev ct iov offs n) := by
  unfold recordWritev recordWritevOut
  refine .read fun _ => .ite (frames_ktlsRecordWritev ct h.out _ _ _) ?_
  refine .read fun saved => .bind (h.recordSwitchToInitial _) fun _ => ?_
  refine .bind (frames_recordCheckWrite _) fun _ => ?_
  refine .bind frames_recordMaxWritePayloadSize fun _ => ?_
  refine .bind (frames_recordAllocOut h.out _) fun _ => .read fun c => ?_
  refine .bind (h.blind.recordBuild _ _ _ _ _) fun p => ?_
  refine .bind (h.recordSyncOut _ _ _ fun c => hrecord c _ _) fun _ => ?_
  exact .bind (.when (.modify fun c => h.crypto c _)) fun _ => .pure _

lemma recordWritev (hct : ct ≠ tlsApplicationData) (iov : Option (List Iovec)) (offs n : ℕ) :
    Frames view (S2nTls.recordWritev ct iov offs n) :=
  h.recordWritev_of (fun c _ _ => h.record c _ hct) iov offs n

lemma recordWrite (hct : ct ≠ tlsApplicationData) (bs : List UInt8) : Frames view (recordWrite ct bs) := by
  unfold S2nTls.recordWrite
  exact .bind (h.recordWritev hct _ _ _) fun _ => .ensure _ _

/-! ### Flushing -/

lemma connectionSendStuffer : Frames view (connectionSendStuffer : ConnM K ℕ) := by
  unfold S2nTls.connectionSendStuffer
  refine .read fun c => .checked ?_
  split
  · exact .throw _
  · refine .bind (.modify fun c => h.env c _ rfl) fun _ => ?_
    split
    · exact .throw _
    · exact .bind (h.modifySend fun _ => rfl) fun _ => .throw _
    · refine .bind (.modify fun c => h.handed c _) fun _ => ?_
      exact .bind (h.onOut _) fun _ => .pure _

lemma flushLoop (fuel : ℕ) : Frames view (flushLoop fuel : ConnM K Unit) := by
  induction fuel with
  | zero => exact .pure _
  | succ fuel ih =>
    unfold S2nTls.flushLoop
    refine .read fun c => .ite (.pure _) ?_
    refine .bind h.connectionSendStuffer fun w => ?_
    exact .bind (h.modifySend fun _ => rfl) fun _ => ih

lemma flushOut : Frames view (flushOut : ConnM K Unit) := by
  unfold S2nTls.flushOut
  exact .read fun c => .bind (h.flushLoop _) fun _ => h.onOut _

lemma alertsWriteWarning : Frames view (alertsWriteWarning : ConnM K Unit) := by
  unfold S2nTls.alertsWriteWarning
  exact .read fun c => .when (h.recordWrite (by decide) _)

lemma flush : Frames view (flush : ConnM K Unit) := by
  unfold S2nTls.flush
  refine .bind h.flushOut fun _ => .read fun c => .when ?_
  refine .bind h.alertsWriteWarning fun _ => ?_
  exact .bind (h.modifySend fun _ => rfl) fun _ => h.flushOut

/-! ### Messages after the handshake -/

lemma quicWriteHandshakeMessage : Frames view (quicWriteHandshakeMessage : ConnM K Unit) := by
  unfold S2nTls.quicWriteHandshakeMessage
  refine .read fun c => .bind (h.onOut _) fun _ => ?_
  exact .bind (h.onIo _) fun _ => h.onOut _

/-- A message of any type, if the view does not show such records. -/
lemma handshakeMessageSend_of (hrecord : ∀ (c : Conn K) bs w, view (c.withRecord ⟨ct, bs, w⟩) = view c) :
    Frames view (handshakeMessageSend ct : ConnM K Unit) := by
  have hloop : ∀ iov fuel n, Frames view (handshakeMessageSendLoop ct iov fuel n : ConnM K Unit) := by
    intro iov fuel
    induction fuel with
    | zero => exact fun _ => .pure _
    | succ fuel ih =>
      intro n
      unfold handshakeMessageSendLoop
      refine .ite (.bind (h.recordWritev_of hrecord _ _ _) fun _ => ?_) (.pure _)
      exact .bind (h.onIo _) fun _ => .bind h.flush fun _ => ih _
  unfold handshakeMessageSend
  refine .read fun c => .ite (.pure _) (.ite ?_ ?_)
  · exact .bind h.quicWriteHandshakeMessage fun _ => h.flush
  · refine .bind (h.onIo _) fun p => ?_
    split
    · exact .throw _
    · exact .bind (h.onIo _) fun _ => hloop _ _ _

lemma postHandshakeWriteRecords : Frames view (postHandshakeWriteRecords : ConnM K Unit) := by
  unfold S2nTls.postHandshakeWriteRecords
  refine .read fun c => .bind (.when h.flush) fun _ => ?_
  exact .bind (h.handshakeMessageSend_of fun c _ _ => h.record c _ (show tlsHandshake ≠ tlsApplicationData by decide))
    fun _ => h.onIo _

lemma updateApplicationTrafficKeys (m : Mode) (status : KeyUpdateStatus) :
    Frames view (updateApplicationTrafficKeys m status : ConnM K Unit) := by
  unfold S2nTls.updateApplicationTrafficKeys
  refine .read fun c => .checked ?_
  refine .checked <| .bind (h.blind.setImplicitIv _ _ _) fun _ => ?_
  refine .checked ?_
  split
  · exact .throw _
  · refine .bind (h.blind.onSide _ _ _) fun _ => .bind (.modify fun c => ?_) fun _ => ?_
    · cases status with
      | receiving => exact h.keys c _ _ _
      | sending => exact h.keys c _ _ _
    · exact .bind (h.blind.onSequence _ _ _) fun _ => .modify fun c => h.keys c _ _ _

lemma keyUpdateSend : Frames view (keyUpdateSend : ConnM K Unit) := by
  unfold S2nTls.keyUpdateSend
  refine .read fun c => .checked ?_
  refine .bind (.modify fun c => ?_) fun _ => .read fun _ => .when ?_
  · dsimp only
    split
    · exact h.send c _ rfl
    · rfl
  · refine .checked <| .bind h.flush fun _ => .bind (h.recordWrite (by decide) _) fun _ => ?_
    refine .bind (h.updateApplicationTrafficKeys _ _) fun _ => ?_
    exact .bind (h.modifySend fun _ => rfl) fun _ => h.flush

lemma tls13ServerNstWrite : Frames view (tls13ServerNstWrite : ConnM K Unit) := by
  unfold S2nTls.tls13ServerNstWrite
  refine .read fun c => .bind (h.onIo _) fun _ => ?_
  refine .checked <| .checked ?_
  exact h.modifySend fun _ => rfl

lemma nstSendLoop (left : ℕ) : Frames view (nstSendLoop left : ConnM K Unit) := by
  induction left with
  | zero => exact .pure _
  | succ left ih =>
    unfold S2nTls.nstSendLoop
    refine .bind h.tls13ServerNstWrite.attempt fun r => ?_
    split
    · exact .pure _
    · exact .bind h.postHandshakeWriteRecords fun _ => ih

lemma tls13ServerNstSend : Frames view (tls13ServerNstSend : ConnM K Unit) := by
  unfold S2nTls.tls13ServerNstSend
  refine .read fun c => .checked ?_
  refine .ite (.pure _) (.ite (h.onIo _) (.ite (h.modifySend fun _ => rfl) ?_))
  refine .checked ?_
  split
  · exact .throw _
  · exact .bind (.when (h.onIo _)) fun _ => h.nstSendLoop _

lemma postHandshakeSend : Frames view (postHandshakeSend : ConnM K Unit) := by
  unfold S2nTls.postHandshakeSend
  refine .read fun c => .when ?_
  refine .bind h.postHandshakeWriteRecords fun _ => .bind h.keyUpdateSend fun _ => ?_
  exact .bind h.tls13ServerNstSend fun _ => h.onIo _

/-! ### Sizes -/

lemma dynamicRecordTimeout : Frames view (dynamicRecordTimeout : ConnM K Unit) := by
  unfold S2nTls.dynamicRecordTimeout
  refine .read fun c => .when ?_
  split
  · exact .throw _
  · refine .bind (.modify fun c => h.env c _ rfl) fun _ => ?_
    exact .bind (.when (h.modifySend fun _ => rfl)) fun _ => h.modifySend fun _ => rfl

/-! ### kTLS -/

lemma ktlsSendvWithOffset (iov : List Iovec) (offs : ℤ) : Frames view (ktlsSendvWithOffset iov offs : ConnM K ℕ) := by
  have hlimit : ∀ n, Frames view (ktlsCheckEstimatedRecordLimit n : ConnM K Unit) := fun n =>
    .read fun _ => .when (.checked (.ensure _ _))
  have hsendmsg : ∀ n, Frames view (ktlsSendmsg n : ConnM K ℕ) := by
    intro n
    unfold ktlsSendmsg
    refine .read fun c => ?_
    split
    · exact .throw _
    · refine .bind (.modify fun c => h.env c _ rfl) fun _ => ?_
      split
      · exact .throw _
      · exact .throw _
      · exact .pure _
  have hloop : ∀ n, Frames view (ktlsIncrementLoop n : ConnM K Unit) := by
    intro n
    induction n with
    | zero => exact .pure _
    | succ n ih => exact .read fun _ => .bind (h.blind.onSequence _ _ _) fun _ => ih
  unfold S2nTls.ktlsSendvWithOffset
  refine .bind (.ofExcept _) fun _ => .bind (hlimit _) fun _ => .read fun _ => ?_
  refine .bind (.when (.bind (.ofExcept _) fun _ => .pure _)) fun _ => .bind (hsendmsg _) fun _ => ?_
  exact .bind (.when (hloop _)) fun _ => .pure _

end Outer

lemma frames_recordMinWritePayloadSize : Frames view (recordMinWritePayloadSize : ConnM K ℕ) := by
  unfold recordMinWritePayloadSize
  refine .read fun c => .checked ?_
  refine .checked <| .checked ?_
  exact .checked <| .pure _

lemma frames_sendvToWrite (totalSize maxPayloadSize : ℕ) (cbcHackUsed : Bool) :
    Frames view (sendvToWrite totalSize maxPayloadSize cbcHackUsed : ConnM K (ℕ × Bool)) := by
  unfold sendvToWrite
  refine .read fun c => .bind ?_ fun _ => .ite (.pure _) (.pure _)
  exact .ite (.bind frames_recordMinWritePayloadSize fun _ => .pure _) (.pure _)

lemma frames_shouldFlush (totalSize : ℕ) : Frames view (shouldFlush totalSize : ConnM K Bool) := by
  unfold shouldFlush
  refine .read fun c => .ite (.pure _) (.ite (.pure _) ?_)
  refine .bind frames_recordMaxWritePayloadSize.attempt fun r => ?_
  split
  · exact .pure _
  · exact .pure _

lemma frames_remainingEarlyDataSize : Frames view (remainingEarlyDataSize : ConnM K ℕ) := by
  unfold remainingEarlyDataSize
  refine .read fun c => ?_
  split
  all_goals first
    | exact .pure _
    | exact .checked <| .pure _

end S2nTls
