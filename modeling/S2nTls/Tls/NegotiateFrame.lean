import S2nTls.Tls.RecvFrame

/-!
What the loop of the handshake keeps, if the handlers of the messages do.

Most functions leave alone everything that the record layer does not change. The loop also goes from one message to the
next and counts early data that is passed over, so that here it is invariants that are kept. Some errors may break an
invariant, if they end the call.
-/

namespace S2nTls

open Lib Stuffer

variable {K ω α : Type} {view : Conn K → ω} {E : Err → Prop} {I : Conn K → Prop} {hs : Handlers K}
variable {P : Err → Prop}

/-- What decides the invariant is out of reach of the record layer, and going on with the handshake does not break it.
It is broken by no error, or by errors that end the handshake. -/
structure Inert (view : Conn K → ω) (E : Err → Prop) (I : Conn K → Prop) : Prop extends Outer view where
  respects : ∀ c c', view c' = view c → I c → I c'
  number : ∀ c n, I c → I { c with handshake := { c.handshake with messageNumber := n } }
  type : ∀ c t, t.testBit 0 = c.handshake.handshakeType.testBit 0 → I c →
    I { c with handshake := { c.handshake with handshakeType := t } }
  earlyBytes : ∀ n, KeepsIf E I (earlyDataRecordBytes n)
  anyRecord : ∀ c r, view (c.withRecord r) = view c
  errors : ∀ e, e.type ≠ .blocked → E e → ∀ e', E e'

/-- What is done for the messages keeps the invariant. -/
structure Handlers.Respect (hs : Handlers K) (E : Err → Prop) (I : Conn K → Prop) : Prop where
  handler : ∀ m, KeepsIf E (fun l : Link K => I l.conn) (hs.handler m)
  transcriptUpdate : KeepsIf E I hs.transcriptUpdate
  secretsUpdate : KeepsIf E I hs.secretsUpdate
  secretsClean : KeepsIf E I hs.secretsClean

/-- What is done for the messages leaves the view alone. -/
structure Handlers.Leave (hs : Handlers K) (view : Conn K → ω) : Prop where
  handler : ∀ m, Frames (fun l : Link K => view l.conn) (hs.handler m)
  transcriptUpdate : Frames view hs.transcriptUpdate
  secretsUpdate : Frames view hs.secretsUpdate
  secretsClean : Frames view hs.secretsClean

lemma Handlers.Leave.respect (hl : hs.Leave view) (hI : ∀ c c', view c' = view c → I c → I c') : hs.Respect E I where
  handler m := (hl.handler m).keepsIf fun l l' h => hI l.conn l'.conn h
  transcriptUpdate := hl.transcriptUpdate.keepsIf hI
  secretsUpdate := hl.secretsUpdate.keepsIf hI
  secretsClean := hl.secretsClean.keepsIf hI

/-! ### Parts of the state -/

abbrev KeepsIo (E : Err → Prop) (I : Conn K → Prop) : IoM K α → Prop := KeepsIf E fun s => I s.link.conn

lemma keepsIf_onLink {m : LinkM K α} (hm : KeepsIf E (fun l : Link K => I l.conn) m) : KeepsIo E I (onLink m) :=
  hm.zoom (fun _ hs => hs) fun _ _ _ ht => ht

variable {m : ConnM K α}

lemma keepsIf_onIoConn (hm : KeepsIf E I m) : KeepsIo E I (onIoConn m) :=
  hm.zoom (fun _ hs => hs) fun _ _ _ ht => ht

lemma Handlers.Respect.activeHandler (hr : hs.Respect E I) : KeepsIo E I (activeHandler hs) :=
  .read fun _ => keepsIf_onLink (hr.handler _)

lemma throws_setBlocked (b : Blocked) : Throws P (setBlocked b : IoM K Unit) := .modify _

lemma throws_onIoConn (hm : Throws P m) : Throws P (onIoConn m) := by
  unfold onIoConn
  exact hm.zoom

/-- The blinding of an error does not fail. -/
lemma throws_applyErrorBlinding (e : Err) : Throws P (applyErrorBlinding e : IoM K Unit) := by
  have hclosed : Throws P (setClosed : IoM K Unit) := throws_onIoConn (.modify _)
  have hwipe : Throws P (onIn wipe : ConnM K Unit) := by
    unfold onIn
    exact .zoom (.modify _)
  unfold applyErrorBlinding
  refine .bind (throws_onIoConn hwipe) fun _ => .when (.ite hclosed ?_)
  exact .bind hclosed fun _ => .modify _

lemma throws_recordWipe : Throws P (recordWipe : ConnM K Unit) := by
  unfold recordWipe onHeaderIn onIn onBufferIn
  refine .bind (.zoom (.modify _)) fun _ => .bind (.zoom (.modify _)) fun _ => ?_
  have hfree (malloc : ℕ → Bool) : Throws P (free malloc) := fun t =>
    wp_mono (fun _ _ _ => trivial) (fun _ _ hfail => absurd (fun _ _ => rfl) hfail.2) (wp_free malloc t)
  refine .bind (.modify _) fun _ => .read fun _ => .bind (.zoom (hfree _)) fun _ => ?_
  refine .bind (.zoom (.modify _)) fun _ => .read fun _ => .when ?_
  exact .zoom (.modify _)

lemma fails_withErrorBlinding {f : IoM K α} (hf : Fails P f) : Fails P (withErrorBlinding f) := by
  intro s
  unfold withErrorBlinding
  rw [wp_bind, wp_attempt]
  refine wp_mono (fun _ _ hno => hno.elim) (fun e t he => ?_) (hf s)
  exact Fails.bind (throws_applyErrorBlinding e) (fun _ => Fails.throw he) t

lemma frames_negotiateBlocked (e : Err) : FramesIo view (negotiateBlocked e) :=
  .ite (.bind (frames_setBlocked _) fun _ => .modify fun _ => rfl) (.when (frames_setBlocked _))

lemma throws_negotiateBlocked (e : Err) : Throws P (negotiateBlocked e : IoM K Unit) :=
  .ite (.bind (throws_setBlocked _) fun _ => .modify _) (.when (throws_setBlocked _))

namespace Inert

variable (h : Inert view E I)

include h

lemma ofConn (hm : Frames view m) : KeepsIf E I m := hm.keepsIf h.respects

lemma ofIo {m : IoM K α} (hm : FramesIo view m) : KeepsIo E I m :=
  hm.keepsIf fun s t => h.respects s.link.conn t.link.conn

lemma withErrorBlinding {f : IoM K α} (hf : KeepsIo E I f) : KeepsIo E I (withErrorBlinding f) := by
  unfold S2nTls.withErrorBlinding
  refine hf.attempt_bind (fun _ => .pure _) (fun e _ => ?_) fun e he => ?_
  · exact .bind (h.ofIo (h.applyErrorBlinding e)) fun _ => .throw _
  · exact .bind (throws_applyErrorBlinding e) fun _ => .throw he

/-! ### Messages -/

lemma advanceMessage : KeepsIf E I (advanceMessage : ConnM K Unit) := by
  refine (Keeps.bind (.modify fun c hc => h.number c _ hc) fun _ => Keeps.modify fun c hc => ?_).keepsIf
  split
  · exact h.number c _ hc
  · exact hc

lemma copyToIo (n : ℕ) : Frames view (copyToIo n : ConnM K Unit) := by
  unfold S2nTls.copyToIo
  refine .read fun _ => .zoom (fun p c => ?_) _
  rw [← h.recv c { c.recv with inStuffer := p.1 }]
  exact h.io { c with recv := { c.recv with inStuffer := p.1 } } _

lemma readFullHandshakeMessage : Frames view (readFullHandshakeMessage : ConnM K _) := by
  unfold S2nTls.readFullHandshakeMessage readHandshakeBody
  refine .read fun c => .ite (.bind (h.copyToIo _) fun _ => .pure _) ?_
  refine .bind (.when (h.copyToIo _)) fun _ => .bind (h.onIo _) fun p => ?_
  refine .checked <| .read fun _ => ?_
  refine .bind (h.copyToIo _) fun _ => .read fun _ => .ite (.pure _) ?_
  exact .bind (h.onIo _) fun _ => .pure _

lemma skipEarlyRecord : KeepsIo E I (skipEarlyRecord : IoM K Unit) := by
  refine keepsIf_onIoConn (.bind (h.ofConn (h.onIn _)) fun _ => .read fun _ => ?_)
  exact .bind (h.earlyBytes _) fun _ => h.ofConn h.recordWipe

lemma quicReadHandshakeMessage : FramesLink view (quicReadHandshakeMessage : LinkM K _) := by
  unfold S2nTls.quicReadHandshakeMessage
  refine .read fun _ => .checked ?_
  refine .bind (h.onBufferInPart _) fun _ => .bind (h.readInBytes (fun t c => h.io c t) _) fun _ => ?_
  refine .bind (h.onIoPart _) fun p => .bind (h.onIoPart _) fun _ => ?_
  split
  · refine .bind ?_ fun _ => .pure _
    unfold quicReadBody
    refine .bind (h.readInBytes (fun _ c => h.recv c _) _) fun _ => .read fun _ => ?_
    exact .checked <| h.recvInInit _ _ _
  · exact .throw _

lemma expectOptional (t : HandshakeMsg) : KeepsIf E I (expectOptional hs t) := by
  have hauth : ∀ n : ℕ, (n ||| HandshakeType.clientAuth).testBit 0 = n.testBit 0 := by
    intro n
    simp [HandshakeType.clientAuth]
  have hocsp : ∀ n : ℕ, (n &&& (255 ^^^ HandshakeType.ocspStatus)).testBit 0 = n.testBit 0 := by
    intro n
    simp [HandshakeType.ocspStatus]
  unfold S2nTls.expectOptional
  refine .read fun c => .when ?_
  split
  · exact .throw _
  · refine .bind (.when ?_) fun _ => .read fun _ => .when ?_
    · refine .checked <| .checked ?_
      exact (Keeps.modify fun c hc => h.type c _ (hauth _) hc).keepsIf
    · refine .checked ?_
      exact (Keeps.modify fun c hc => h.type c _ (hocsp _) hc).keepsIf

/-! ### With the handlers -/

variable (hr : hs.Respect E I)

include hr

lemma finishRead : KeepsIf E I (finishRead hs) := by
  unfold S2nTls.finishRead
  refine .bind hr.transcriptUpdate fun _ => .bind (h.ofConn (h.onIo _)) fun _ => ?_
  exact .bind hr.secretsUpdate fun _ => h.advanceMessage

lemma handshakeWriteIo : KeepsIo E I (handshakeWriteIo hs) := by
  have hio : ∀ f : StufferM Unit, KeepsIo E I (onIoConn (onIo f)) :=
    fun f => keepsIf_onIoConn (h.ofConn (h.onIo f))
  unfold S2nTls.handshakeWriteIo populateMessage
  refine .read fun _ => .bind (.read fun _ => .when ?_) fun _ => ?_
  · refine .bind (.when (hio _)) fun _ => .bind hr.activeHandler fun _ => ?_
    exact .when (hio _)
  · refine keepsIf_onIoConn (.bind (h.ofConn (h.handshakeMessageSend_of fun c _ _ => h.anyRecord c _)) fun _ => ?_)
    refine .bind (.when hr.transcriptUpdate) fun _ => .bind (h.ofConn (h.onOut _)) fun _ => ?_
    exact .bind (h.ofConn (h.onIo _)) fun _ => .bind hr.secretsUpdate fun _ => h.advanceMessage

lemma handshakeHandleSslv2 : KeepsIo E I (handshakeHandleSslv2 hs) := by
  unfold S2nTls.handshakeHandleSslv2
  refine .read fun _ => .checked ?_
  refine .bind (h.ofIo (frames_onIoConn (.read fun _ => h.copyToIo _))) fun _ => ?_
  have hrest : ∀ r : Except Err Unit, KeepsIo E I (do
      onIoConn (onIo wipe)
      onIoConn recordWipe
      S2nTls.withErrorBlinding (MonadExcept.ofExcept r)
      onIoConn S2nTls.advanceMessage) := by
    intro r
    refine .bind (h.ofIo (frames_onIoConn (h.onIo _))) fun _ => ?_
    refine .bind (h.ofIo (frames_onIoConn h.recordWipe)) fun _ => ?_
    exact .bind (h.withErrorBlinding (Keeps.ofExcept r).keepsIf) fun _ => keepsIf_onIoConn h.advanceMessage
  refine hr.activeHandler.attempt_bind (fun _ => hrest _) (fun _ _ => hrest _) fun e he => ?_
  have hio : Throws (fun e' => ¬ E e') (onIo wipe : ConnM K Unit) := by
    unfold onIo
    exact .zoom (.modify _)
  refine .bind (throws_onIoConn hio) fun _ => .bind (throws_onIoConn throws_recordWipe) fun _ => ?_
  exact (fails_withErrorBlinding (.throw he)).before _

lemma handshakeCcsRecv : KeepsIo E I (handshakeCcsRecv hs) := by
  unfold S2nTls.handshakeCcsRecv
  refine .read fun _ => ?_
  refine .bind (.when (.checked <| .ensure _ _)) fun _ => ?_
  refine .checked <| .bind (h.ofIo (frames_onIoConn (h.copyToIo _))) fun _ => ?_
  refine .bind (keepsIf_onLink (hr.handler _)) fun _ => ?_
  refine .bind (h.ofIo (frames_onIoConn (h.onIo _))) fun _ => ?_
  refine .bind (h.ofIo (frames_onIoConn h.recordWipe)) fun _ => .read fun _ => ?_
  exact .when (keepsIf_onIoConn h.advanceMessage)

lemma processHandshakeMessage (t : HandshakeMsg) : KeepsIo E I (processHandshakeMessage hs t) := by
  unfold S2nTls.processHandshakeMessage
  refine .bind (keepsIf_onIoConn (h.expectOptional _)) fun _ => .read fun _ => .ite ?_ ?_
  · refine .checked <| .checked ?_
    exact h.ofIo (frames_onIoConn (h.onIo _))
  · refine .checked <| .checked ?_
    refine .checked <| .checked ?_
    exact .bind (h.withErrorBlinding hr.activeHandler) fun _ => keepsIf_onIoConn (h.finishRead hr)

lemma handshakeMessagesLoop (fuel : ℕ) : KeepsIo E I (handshakeMessagesLoop hs fuel) := by
  have hwipe : KeepsIo E I (onIoConn recordWipe) := h.ofIo (frames_onIoConn h.recordWipe)
  induction fuel with
  | zero => exact hwipe
  | succ fuel ih =>
    unfold S2nTls.handshakeMessagesLoop
    refine .read fun _ => .ite hwipe (.checked ?_)
    refine .bind (h.ofIo (frames_onIoConn h.readFullHandshakeMessage)) fun r => ?_
    split
    · exact hwipe
    · exact .bind (h.processHandshakeMessage hr _) fun _ => ih

lemma handshakeRecord (t : ContentType) (b : Bool) : KeepsIo E I (handshakeRecord hs t b) := by
  have happ : FramesIo view (handshakeAppDataRecv : IoM K Unit) := by
    unfold handshakeAppDataRecv
    refine .read fun _ => .ite ?_ (.ite ?_ (.throw _))
    · exact .bind (frames_onIoConn frames_earlyDataValidateRecv) fun _ => .throw _
    · refine .checked <| .checked ?_
      exact .checked <| .throw _
  unfold S2nTls.handshakeRecord handshakeOtherRecord
  refine .bind (.when (.checked <| h.handshakeHandleSslv2 hr)) fun _ => ?_
  refine .bind (.when (h.ofIo happ)) fun _ => .ite (h.handshakeCcsRecv hr) (.ite ?_ ?_)
  · exact h.ofIo (.bind (.when (h.onAlerts _)) fun _ => frames_onIoConn h.recordWipe)
  · refine .read fun _ => .checked ?_
    exact h.handshakeMessagesLoop hr _

lemma handshakeReadIo : KeepsIo E I (handshakeReadIo hs) := by
  unfold S2nTls.handshakeReadIo
  refine .read fun _ => .ite ?_ ?_
  · exact .bind (h.ofIo (frames_onLink h.quicReadHandshakeMessage)) fun _ => h.handshakeRecord hr _ _
  · refine .bind (h.ofIo h.readFullRecord.attempt) fun r => ?_
    split
    · exact h.skipEarlyRecord
    · exact .throw _
    · exact h.handshakeRecord hr _ _

/-! ### The loop -/

lemma handleRetryState : KeepsIo E I (handleRetryState hs) := by
  unfold S2nTls.handleRetryState
  refine hr.activeHandler.attempt_bind (fun _ => ?_) (fun e _ => ?_) fun e he => ?_
  · refine .bind (h.ofIo (.modify fun _ => rfl)) fun _ => .read fun _ => .ite ?_ ?_
    · exact .when (h.ofIo (frames_onIoConn (h.onIo _)))
    · exact keepsIf_onIoConn (.bind (h.ofConn h.recordWipe) fun _ => h.finishRead hr)
  · refine .ite (.throw _) (.bind (h.ofIo (.modify fun _ => rfl)) fun _ => ?_)
    refine .read fun _ => .ite (.throw _) ?_
    refine .bind (h.ofIo (frames_onIoConn h.recordWipe)) fun _ => ?_
    refine .bind (h.ofIo (.modify fun _ => rfl)) fun _ => ?_
    exact h.withErrorBlinding (.throw _)
  · refine .ite (.throw he) (.bind (.modify _) fun _ => .read fun _ => ?_)
    refine .ite (.throw he) (.bind (throws_onIoConn throws_recordWipe) fun _ => ?_)
    exact .bind (.modify _) fun _ => fails_withErrorBlinding (.throw he)

lemma negotiateWrite : KeepsIo E I (negotiateWrite hs) := by
  unfold S2nTls.negotiateWrite
  refine .bind (h.ofIo (frames_setBlocked _)) fun _ => ?_
  refine (h.handshakeWriteIo hr).attempt_bind (fun _ => .pure _) (fun e he => ?_) fun e he => ?_
  · dsimp only
    by_cases hblocked : e.type ≠ .blocked
    · -- no error breaks the invariant
      have hall := h.errors e hblocked he
      rw [if_pos hblocked]
      refine .bind ((h.handshakeReadIo hr).keeps hall).attempt.keepsIf fun r => ?_
      split
      · exact .throw _
      · exact .throw _
    · rw [if_neg hblocked]
      exact .bind (h.ofIo (frames_negotiateBlocked e)) fun _ => .throw _
  · refine .ite (.bind (Throws.attempt _) fun r => ?_) (.bind (throws_negotiateBlocked e) fun _ => ?_)
    · split
      · exact .throw fun halert => he (h.errors .alert (by decide) halert e)
      · exact .throw he
    · exact .throw he

lemma negotiateRead : KeepsIo E I (negotiateRead hs) := by
  unfold S2nTls.negotiateRead tryDeleteSessionCache
  refine .bind (h.ofIo (frames_setBlocked _)) fun _ => ?_
  refine (h.handshakeReadIo hr).attempt_bind (fun _ => .pure _) (fun e _ => ?_) fun e he => ?_
  · refine .bind (.when (h.ofIo (.modify fun _ => rfl))) fun _ => ?_
    exact .bind (h.ofIo (frames_negotiateBlocked e)) fun _ => .throw _
  · refine .bind (.when (.modify _)) fun _ => ?_
    exact .bind (throws_negotiateBlocked e) fun _ => .throw he

lemma negotiateFinish : KeepsIo E I (negotiateFinish hs) := by
  unfold S2nTls.negotiateFinish
  refine .read fun _ => .when (.bind (keepsIf_onIoConn hr.secretsClean) fun _ => ?_)
  refine .bind (h.ofIo (frames_onIoConn h.postHandshakeSend).attempt) fun r => ?_
  split
  · exact .bind (.when (h.ofIo (frames_setBlocked _))) fun _ => .throw _
  · exact h.ofIo (frames_onIoConn (.read fun _ => h.onIo _))

lemma negotiateRound : KeepsIo E I (negotiateRound hs) := by
  unfold S2nTls.negotiateRound flushIo
  refine .bind ?_ fun _ => .read fun _ => .checked ?_
  · refine h.ofIo (.bind (frames_setBlocked _) fun _ => .bind (frames_onIoConn h.flush) fun _ => ?_)
    exact frames_setBlocked _
  · refine .read fun _ => .bind (.when ?_) fun _ => .read fun _ => ?_
    · exact .bind (h.ofIo (frames_setBlocked _)) fun _ => h.handleRetryState hr
    · exact .ite (.bind (h.negotiateWrite hr) fun _ => h.negotiateFinish hr)
        (.bind (h.negotiateRead hr) fun _ => h.negotiateFinish hr)

/-- **What the handshake keeps.** -/
lemma negotiateImpl (fuel : ℕ) : KeepsIo E I (negotiateImpl hs fuel) := by
  induction fuel with
  | zero => exact .throw _
  | succ fuel ih =>
    unfold S2nTls.negotiateImpl
    refine .read fun _ => .ite (h.ofIo (frames_setBlocked _)) ?_
    exact .bind (h.negotiateRound hr) fun _ => ih

end Inert

end S2nTls
