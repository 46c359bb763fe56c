import S2nTls.Tls.IoFrame

/-!
What receiving leaves alone: a view that does not show what the record layer changes is the same before and after a
record is read, and before and after `s2n_recv_impl`.
-/

namespace S2nTls

open Lib Stuffer

variable {K ω α : Type} {view : Conn K → ω}
variable {p : Part K}

abbrev FramesLink (view : Conn K → ω) : LinkM K α → Prop := Frames fun l => view l.conn

abbrev FramesIo (view : Conn K → ω) : IoM K α → Prop := Frames fun s => view s.link.conn

lemma frames_onLinkConn {m : ConnM K α} (hm : Frames view m) : FramesLink view (onLinkConn m) := by
  intro l
  unfold onLinkConn
  rw [wp_zoom]
  exact hm l.conn

lemma frames_onPart (hp : ∀ t c, view (p.put t c) = view c) (f : StufferM α) :
    FramesLink view (onPart p f) := .zoom (fun t l => hp t l.conn) f

variable (n : ℕ)

namespace Outer

variable (h : Outer view)

include h

/-! ### The record -/

variable (f : StufferM α)

lemma onIn : Frames view (onIn f) := .zoom (fun _ c => h.recv c _) f

lemma onHeaderIn : Frames view (onHeaderIn f) := .zoom (fun _ c => h.recv c _) f

lemma onBufferIn : Frames view (onBufferIn f) := .zoom (fun _ c => h.recv c _) f

lemma onPostIn : Frames view (onPostIn f) := .zoom (fun _ c => h.recv c _) f

lemma recordHeaderParse : Frames view (recordHeaderParse : ConnM K _) := by
  unfold S2nTls.recordHeaderParse
  refine .read fun c => .checked ?_
  refine .bind (h.onHeaderIn _) fun _ => .bind (h.onHeaderIn _) fun _ => ?_
  refine .bind (.modify fun c => ?_) fun _ => .checked ?_
  · split
    · rfl
    · exact h.recv c _
  · exact .bind (h.onHeaderIn _) fun _ => .bind (h.onHeaderIn _) fun _ => .pure _

lemma sslv2RecordHeaderParse : Frames view (sslv2RecordHeaderParse : ConnM K _) := by
  unfold S2nTls.sslv2RecordHeaderParse
  refine .read fun c => .checked ?_
  refine .bind (h.onHeaderIn _) fun _ => .checked ?_
  refine .read fun _ => .checked ?_
  refine .bind (h.onHeaderIn _) fun _ => .bind (h.onHeaderIn _) fun _ => ?_
  refine .bind (.modify fun c => h.clientVersion c _) fun _ => ?_
  exact .bind (h.onHeaderIn _) fun _ => .pure _

lemma recordParseDone (skip n : ℕ) : Frames view (recordParseDone skip n : ConnM K Unit) := by
  unfold S2nTls.recordParseDone
  refine .bind (h.onIn _) fun _ => .bind (h.onHeaderIn _) fun _ => ?_
  refine .bind (h.onIn _) fun _ => .read fun _ => ?_
  exact .bind (h.onIn _) fun _ => .modify fun c => h.recv c _

variable (r : ParamsRef) (m : Mode)

lemma recordParseMac (ptr n : ℕ) : Frames view (recordParseMac r m ptr n : ConnM K Unit) := by
  unfold S2nTls.recordParseMac
  refine .read fun c => .bind (h.onHeaderIn _) fun _ => .read fun _ => ?_
  refine .bind (h.blind.onMac _ _ _) fun _ => .bind (h.blind.onMac _ _ _) fun _ => ?_
  exact .ite (.bind (h.blind.onMac _ _ _) fun _ => h.blind.onMac _ _ _) (h.blind.onMac _ _ _)

lemma streamDecrypt (en : List UInt8) : Frames view (streamDecrypt r m en : ConnM K _) := by
  unfold S2nTls.streamDecrypt
  refine .read fun c => ?_
  split
  · exact h.blind.callCipher _ _ _ _ _
  · exact .pure _

lemma recordParseStream : Frames view (recordParseStream r m n : ConnM K Unit) := by
  unfold S2nTls.recordParseStream
  refine .bind (h.onHeaderIn _) fun _ => .bind (h.onIn _) fun _ => .read fun c => ?_
  refine .checked <| .bind (h.streamDecrypt _ _ _) fun _ => ?_
  refine .bind (h.onIn _) fun _ => .bind (h.recordParseMac _ _ _ _) fun _ => ?_
  refine .bind (h.blind.onSequence _ _ _) fun _ => .bind (h.blind.onMac _ _ _) fun _ => ?_
  refine .bind (h.blind.onMac _ _ _) fun _ => .checked ?_
  exact h.recordParseDone _ _

lemma verifyCbc (data : ℕ → UInt8) (n : ℕ) :
    Frames view (verifyCbc r m data n : ConnM K Unit) := by
  unfold S2nTls.verifyCbc
  refine .read fun c => .checked ?_
  refine .bind (h.blind.onMac _ _ _) fun _ => .read fun _ => ?_
  refine .bind (h.blind.onMac _ _ _) fun _ => .bind (h.blind.onMac _ _ _) fun _ => ?_
  refine .bind (h.blind.onMac _ _ _) fun _ => .bind (h.blind.onMac _ _ _) fun _ => ?_
  exact .ite (.ensure _ _) (.checked <| .ensure _ _)

lemma recordParseIv (k n : ℕ) : Frames view (recordParseIv r m k n : ConnM K ℕ) := by
  unfold S2nTls.recordParseIv
  refine .read fun c => .ite ?_ (.pure _)
  refine .bind (h.onIn _) fun _ => .bind (h.blind.setImplicitIv _ _ _) fun _ => ?_
  exact .checked <| .pure _

lemma recordParseCbc (x : CbcCipher K) (r : ParamsRef) (m : Mode) (n : ℕ) :
    Frames view (recordParseCbc x r m n : ConnM K Unit) := by
  unfold S2nTls.recordParseCbc
  refine .bind (h.onHeaderIn _) fun _ => .checked ?_
  refine .bind (h.recordParseIv _ _ _ _) fun _ => .bind (h.onIn _) fun _ => ?_
  refine .read fun c => .checked ?_
  refine .checked <| .checked ?_
  refine .bind (h.blind.callCipher _ _ _ _ _) fun _ => .bind (h.onIn _) fun _ => ?_
  refine .bind (.when (h.blind.setImplicitIv _ _ _)) fun _ => .checked ?_
  refine .bind (h.recordParseMac _ _ _ _) fun _ => .bind (h.blind.onSequence _ _ _) fun _ => ?_
  refine .read fun _ => .bind (h.verifyCbc _ _ _ _).attempt fun r => ?_
  split
  · exact .throw _
  · exact h.recordParseDone _ _

lemma recordParseComposite (x : CompositeCipher K) (r : ParamsRef) (m : Mode) (ct : ContentType) (n : ℕ) :
    Frames view (recordParseComposite x r m ct n : ConnM K Unit) := by
  unfold S2nTls.recordParseComposite
  refine .bind (h.onHeaderIn _) fun _ => .bind (h.onIn _) fun _ => ?_
  refine .read fun c => .checked ?_
  refine .bind (h.blind.callCipher _ _ _ _ _) fun _ => .checked ?_
  refine .checked <| .checked ?_
  refine .checked <| .bind (h.blind.callCipher _ _ _ _ _) fun _ => ?_
  refine .bind (h.onIn _) fun _ => .bind (h.blind.setImplicitIv _ _ _) fun _ => ?_
  refine .checked <| .bind (h.blind.onSequence _ _ _) fun _ => ?_
  exact h.recordParseDone _ _

lemma recordParseAead (x : AeadCipher K) (r : ParamsRef) (m : Mode) (ct : ContentType) (n : ℕ) :
    Frames view (recordParseAead x r m ct n : ConnM K Unit) := by
  unfold S2nTls.recordParseAead
  refine .read fun c => .bind (h.onIn _) fun _ => ?_
  refine .checked <| .bind (.ofExcept _) fun _ => ?_
  refine .checked <| .bind (.ofExcept _) fun _ => ?_
  refine .checked <| .bind (h.blind.callCipher _ _ _ _ _) fun _ => ?_
  refine .bind (h.onIn _) fun _ => .bind (h.blind.onSequence _ _ _) fun _ => ?_
  exact h.recordParseDone _ _

lemma recordParse : Frames view (recordParse : ConnM K Unit) := by
  unfold S2nTls.recordParse
  refine .bind h.recordHeaderParse fun p => .read fun c => ?_
  refine .bind (.when (.ensure _ _)) fun _ => ?_
  refine .bind (.when (.ensure _ _)) fun _ => ?_
  unfold recordParseFragment
  split
  · exact h.recordParseAead _ _ _ _ _
  · exact h.recordParseCbc _ _ _ _
  · exact h.recordParseComposite _ _ _ _ _
  · exact h.recordParseStream _ _ _
  · exact h.recordParseStream _ _ _

lemma recordWipe : Frames view (recordWipe : ConnM K Unit) := by
  unfold S2nTls.recordWipe
  refine .bind (h.onHeaderIn _) fun _ => .bind (h.onIn _) fun _ => ?_
  refine .bind (.modify fun c => h.recv c _) fun _ => .read fun _ => .bind (h.onIn _) fun _ => ?_
  refine .bind (h.onBufferIn _) fun _ => .read fun _ => ?_
  exact .when (h.onBufferIn _)

/-! ### Messages after the handshake -/

lemma keyUpdateRecv (request : List UInt8) : Frames view (keyUpdateRecv request : ConnM K Unit) := by
  unfold S2nTls.keyUpdateRecv
  refine .read fun c => .checked ?_
  refine .checked <| .checked ?_
  split
  · exact .throw _
  · refine .bind ?_ fun _ => h.updateApplicationTrafficKeys _ _
    exact .ite (.read fun _ => .checked (h.modifySend fun _ => rfl)) (.ensure _ _)

lemma clientHelloRequestRecv : Frames view (clientHelloRequestRecv : ConnM K Unit) := by
  have hqueue : Frames view (queueReaderNoRenegotiationAlert : ConnM K Unit) := by
    unfold queueReaderNoRenegotiationAlert
    refine .read fun c => .checked ?_
    exact .when (h.modifySend fun _ => rfl)
  unfold S2nTls.clientHelloRequestRecv
  refine .read fun c => .bind (.when (.ensure _ _)) fun _ => ?_
  refine .checked ?_
  split
  · exact .pure _
  · refine .ite hqueue ?_
    split
    · exact .throw _
    · exact hqueue
    · exact .pure _
    · exact .pure _

lemma postHandshakeProcess (t : HandshakeMsg) (body : List UInt8) :
    Frames view (postHandshakeProcess t body : ConnM K Unit) := by
  unfold S2nTls.postHandshakeProcess
  refine .bind (.modify fun c => h.messages c _) fun _ => ?_
  refine .ite (h.keyUpdateRecv _) (.ite ?_ (.ite h.clientHelloRequestRecv (.throw _)))
  unfold tls13ServerNstRecv
  refine .read fun c => .checked ?_
  exact .checked <| .when (.ensure _ _)

lemma fillPostIn : Frames view (fillPostIn n : ConnM K Unit) := by
  unfold S2nTls.fillPostIn
  exact .read fun c => .when (.zoom (fun _ c => h.recv c _) _)

lemma recvBody (t : HandshakeMsg) (len : ℕ) : Frames view (recvBody t len : ConnM K Unit) := by
  have hroom : ∀ hlen, Frames view (makeRoom len hlen : ConnM K Unit) := by
    intro hlen
    unfold makeRoom
    refine .read fun c => .checked ?_
    refine .ite (h.onPostIn _) (.bind (h.onPostIn _) fun _ => ?_)
    exact .bind (h.onPostIn _) fun _ => h.onPostIn _
  unfold S2nTls.recvBody
  refine .read fun c => .checked ?_
  split
  · refine .ite (.bind (h.onIn _) fun p => ?_) ?_
    · split
      · exact .throw _
      · exact h.postHandshakeProcess _ _
    · unfold recvFragmentedBody collectBody
      refine .read fun _ => .bind (.when (hroom _)) fun _ => ?_
      refine .bind (h.fillPostIn _) fun _ => .read fun _ => ?_
      exact .checked <| h.postHandshakeProcess _ _
  · exact .throw _

lemma postHandshakeMessageRecv : Frames view (postHandshakeMessageRecv : ConnM K Unit) := by
  unfold S2nTls.postHandshakeMessageRecv beginMessage
  refine .bind (.bind (h.onPostIn _) fun _ => .read fun _ => ?_) fun _ => ?_
  · exact .when (.modify fun c => h.recv c _)
  · refine .bind (h.fillPostIn _) fun _ => .read fun _ => ?_
    refine .checked <| .bind (h.onPostIn _) fun p => ?_
    exact h.recvBody _ _

lemma postHandshakeRecv : Frames view (postHandshakeRecv : ConnM K Unit) := by
  have hloop : ∀ fuel, Frames view (postHandshakeRecvLoop fuel : ConnM K Unit) := by
    intro fuel
    induction fuel with
    | zero => exact .pure _
    | succ fuel ih =>
      unfold postHandshakeRecvLoop
      refine .read fun c => .ite (.pure _) ?_
      exact .bind h.postHandshakeMessageRecv fun _ => .bind (h.onPostIn _) fun _ => ih
  unfold S2nTls.postHandshakeRecv
  exact .read fun _ => hloop _

/-! ### The transport -/

lemma onBufferInPart : FramesLink view (onPart bufferInPart f) :=
  frames_onPart (fun _ c => h.recv c _) f

lemma onIoPart : FramesLink view (onPart ioPart f) :=
  frames_onPart (fun t c => h.io c t) f

lemma recvStuffer (hp : ∀ t c, view (p.put t c) = view c) (len : ℕ) : FramesLink view (recvStuffer p len) := by
  unfold S2nTls.recvStuffer
  refine .read fun l => .bind (frames_onPart hp _).attempt fun r => ?_
  split
  · exact .throw _
  · split
    · exact .throw _
    · exact .bind (.modify fun _ => rfl) fun _ => .throw _
    · exact .bind (.modify fun _ => rfl) fun _ => .throw _
    · exact .bind (.modify fun l => h.closed l.conn _ _) fun _ => .throw _
    · exact .bind (.modify fun _ => rfl) fun _ => frames_onPart hp _

lemma readInBytes (hp : ∀ t c, view (p.put t c) = view c) (n : ℕ) : FramesLink view (readInBytes p n) := by
  have hloop : ∀ fuel, FramesLink view (readInBytesLoop p n fuel) := by
    intro fuel
    induction fuel with
    | zero => exact .pure _
    | succ fuel ih =>
      unfold readInBytesLoop
      refine .read fun l => .ite ?_ (.pure _)
      exact .bind (h.recvStuffer hp _) fun _ => ih
  exact hloop n

lemma recvInInit (written total : ℕ) (ht : total < 2 ^ 32) : FramesLink view (recvInInit written total ht) := by
  unfold S2nTls.recvInInit
  refine .checked <| .read fun _ => ?_
  refine .checked <| .bind (h.onBufferInPart _) fun p => ?_
  split
  · exact .throw _
  · refine .bind (.modify fun l => h.recv l.conn _) fun _ => .read fun _ => ?_
    exact frames_onLinkConn (h.onIn _)

lemma recvBufferIn : FramesLink view (recvBufferIn n) := by
  unfold S2nTls.recvBufferIn
  refine .read fun _ => .bind (h.onBufferInPart _) fun _ => .read fun _ => ?_
  refine .when (.bind (.when ?_) fun _ => h.readInBytes (fun _ c => h.recv c _) _)
  unfold shiftBufferIn
  exact .bind (h.onBufferInPart _) fun _ => .modify fun _ => rfl

lemma readHeader : FramesLink view (readHeader : LinkM K Unit) := by
  unfold S2nTls.readHeader
  refine .bind (frames_onLinkConn (h.onHeaderIn _)) fun _ => .read fun _ => .when ?_
  refine .bind (h.recvBufferIn _).attempt fun _ => .read fun _ => ?_
  exact .bind (frames_onLinkConn (.zoom (fun _ c => h.recv c _) _)) fun _ => .ofExcept _

lemma readFragment (hn : n < 2 ^ 32) : FramesLink view (readFragment n hn) := by
  unfold S2nTls.readFragment
  refine .read fun _ => .when (.bind (h.onBufferInPart _) fun _ => ?_)
  refine .bind (h.recvBufferIn _).attempt fun _ => .read fun _ => ?_
  exact .bind (h.recvInInit _ _ _) fun _ => .ofExcept _

end Outer

lemma frames_earlyDataValidateRecv : Frames view (earlyDataValidateRecv : ConnM K Unit) := by
  unfold earlyDataValidateRecv
  refine .read fun _ => .when (.checked ?_)
  refine .checked <| .checked ?_
  exact .ensure _ _

/-! ### Errors -/

lemma frames_onLink {m : LinkM K α} (hm : FramesLink view m) : FramesIo view (onLink m) := by
  intro s
  unfold onLink
  rw [wp_zoom]
  exact hm s.link

lemma frames_onIoConn {m : ConnM K α} (hm : Frames view m) : FramesIo view (onIoConn m) := by
  intro s
  unfold onIoConn
  rw [wp_zoom]
  exact hm s.link.conn

lemma frames_setBlocked (b : Blocked) : FramesIo view (setBlocked b) :=
  .modify fun _ => rfl

namespace Outer

variable (h : Outer view)

include h

lemma onAlerts (f : EStateM Err AlertConn α) : FramesIo view (onAlerts f) := by
  refine .zoom (fun a s => ?_) f
  show view { s.link.conn with readClosed := _, writeClosed := _, recv := _ } = view s.link.conn
  rw [← h.closed s.link.conn a.status.readClosed a.status.writeClosed]
  exact h.recv { s.link.conn with readClosed := a.status.readClosed, writeClosed := a.status.writeClosed } _

lemma applyErrorBlinding (e : Err) : FramesIo view (applyErrorBlinding e) := by
  have hclosed : FramesIo view setClosed :=
    frames_onIoConn (.modify fun c => h.closed c _ _)
  unfold S2nTls.applyErrorBlinding kill
  refine .bind (frames_onIoConn (h.onIn _)) fun _ => .when (.ite hclosed ?_)
  exact .bind hclosed fun _ => .modify fun _ => rfl

lemma withErrorBlinding {f : IoM K α} (hf : FramesIo view f) : FramesIo view (withErrorBlinding f) := by
  unfold S2nTls.withErrorBlinding
  refine .bind hf.attempt fun r => ?_
  split
  · exact .pure _
  · exact .bind (h.applyErrorBlinding _) fun _ => .throw _

/-! ### Records and application data -/

variable (t : ContentType)

lemma decryptRecord : FramesIo view (decryptRecord t) := by
  have hparse : FramesIo view (onIoConn S2nTls.recordParse) :=
    frames_onIoConn h.recordParse
  have hfail : FramesIo view
      (failWith .earlyDataTrialDecrypt (onIoConn S2nTls.recordParse)) := by
    intro s
    rw [wp_failWith]
    exact hparse s
  have hrest : ∀ s : Io K, FramesIo view
      (if s.link.conn.actualProtocolVersion = tls13 ∧ t = tlsApplicationData then
        onIoConn (S2nTls.onIn tls13ParseRecordType) else pure t) :=
    fun s => .ite (frames_onIoConn (h.onIn _)) (.pure _)
  unfold S2nTls.decryptRecord
  refine .read fun _ => .ite ?_ ?_
  · exact .bind hfail fun _ => .read hrest
  · exact .bind (h.withErrorBlinding hparse) fun _ => .read hrest

lemma ktlsReadFullRecord : FramesIo view (ktlsReadFullRecord : IoM K _) := by
  have hrecvmsg : ∀ len, FramesLink view (ktlsRecvmsg len : LinkM K _) := by
    intro len
    unfold ktlsRecvmsg
    refine .checked <| .read fun l => ?_
    split
    · exact .throw _
    · exact .bind (.modify fun _ => rfl) fun _ => .throw _
    · exact .bind (.modify fun _ => rfl) fun _ => .throw _
    · exact .throw _
    · refine .bind (.modify fun _ => rfl) fun _ => .bind (h.onBufferInPart _) fun _ => ?_
      split
      · exact .throw _
      · exact .pure _
  unfold S2nTls.ktlsReadFullRecord
  refine .read fun _ => .ite (.pure _) ?_
  refine .bind (frames_onLink (h.onBufferInPart _)) fun _ => .read fun _ => .checked ?_
  refine .bind (h.withErrorBlinding (frames_onLink (hrecvmsg _))) fun p => ?_
  dsimp only
  split
  · exact .bind (frames_onLink (.bind (h.onBufferInPart _) fun _ => h.recvInInit _ _ _)) fun _ => .pure _
  · exact .throw _

lemma readFullRecord : FramesIo view (readFullRecord : IoM K _) := by
  have hheader : ∀ b : Bool, Frames view
      (if b then S2nTls.sslv2RecordHeaderParse else S2nTls.recordHeaderParse : ConnM K (ContentType × ℕ)) := by
    intro b
    exact .ite h.sslv2RecordHeaderParse h.recordHeaderParse
  unfold S2nTls.readFullRecord readNextRecord parseHeader
  refine .read fun _ => .ite (.bind h.ktlsReadFullRecord fun _ => .pure _) (.ite (.pure _) ?_)
  refine .bind (frames_onLink h.readHeader) fun _ => .read fun _ => ?_
  refine .bind (h.withErrorBlinding (frames_onIoConn (hheader _))) fun p => ?_
  dsimp only
  split
  · refine .bind (frames_onLink (h.readFragment _ _)) fun _ => .ite (.pure _) ?_
    exact .bind (h.decryptRecord _) fun _ => .pure _
  · exact .throw _

lemma processRecord : FramesIo view (processRecord t) := by
  unfold S2nTls.processRecord
  have hwipe : FramesIo view (onIoConn S2nTls.recordWipe) := frames_onIoConn h.recordWipe
  refine .ite (.bind (h.onAlerts _) fun _ => hwipe) (.bind (.when ?_) fun _ => hwipe)
  refine .bind (frames_onIoConn h.postHandshakeRecv).attempt fun r => ?_
  split
  · exact .pure _
  · exact .pure _
  · exact h.withErrorBlinding (.throw _)

lemma checkInterleaving : Frames view (checkInterleaving t : ConnM K Unit) := by
  unfold S2nTls.checkInterleaving
  refine .when (.read fun _ => .checked ?_)
  exact .when (h.onPostIn _)

lemma takeApplicationData : Frames view (takeApplicationData n : ConnM K _) := by
  unfold S2nTls.takeApplicationData
  refine .read fun _ => .bind (h.onIn _) fun _ => .read fun _ => ?_
  exact .bind (.when h.recordWipe) fun _ => .pure _

lemma recvLoop (fuel : ℕ) : ∀ size bs, FramesIo view (recvLoop fuel size bs) := by
  induction fuel with
  | zero => exact fun _ _ => .pure _
  | succ fuel ih =>
    intro size bs
    unfold S2nTls.recvLoop
    refine .read fun _ => .ite (.pure _) ?_
    refine .bind h.readFullRecord.attempt fun r => ?_
    split
    · unfold recvFailed
      exact .ite (.pure _) (.bind (.modify fun _ => rfl) fun _ => .throw _)
    · refine .checked ?_
      refine .bind (frames_onIoConn (h.checkInterleaving _)) fun _ => .ite ?_ ?_
      · refine .bind (frames_onIoConn (h.takeApplicationData _)) fun _ => .read fun _ => ?_
        exact .ite (.pure _) (ih _ _)
      · exact .bind (h.processRecord _) fun _ => ih _ _

lemma recvImpl (size : ℤ) : FramesIo view (recvImpl size) := by
  unfold S2nTls.recvImpl
  refine .checked <| .bind (frames_setBlocked _) fun _ => ?_
  refine .read fun _ => .ite ?_ ?_
  · refine .read fun _ => .checked ?_
    exact .bind (frames_setBlocked _) fun _ => .pure _
  · refine .read fun _ => .checked ?_
    refine .bind (frames_onIoConn frames_earlyDataValidateRecv) fun _ => .read fun _ => ?_
    refine .bind (h.recvLoop _ _ _) fun _ => .read fun _ => ?_
    exact .bind (.when (frames_setBlocked _)) fun _ => .pure _

end Outer

end S2nTls
