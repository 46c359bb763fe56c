import S2nTls.Stuffer.Fixed
import S2nTls.Tls.RecordWrite

/-!
What `s2n_record_writev` does to the output buffer, whatever becomes of the cipher and its keys.

The pieces of the function work on the parameters of one direction and on a stuffer of their own. A
view of the connection that shows neither of these is the same before and after, so the output
changes only where the finished record is handed over.
-/

namespace S2nTls

open Lib Stuffer

variable {K ω : Type} {view : Conn K → ω}

/-! ### Views -/

/-- The view does not show what protecting a record changes. -/
structure Blind (view : Conn K → ω) : Prop where
  side : ∀ c r m d, view (c.setSide r m d) = view c
  random : ∀ c f, view { c with env := { c.env with random := f } } = view c
  uses : ∀ c us, view { c with trace := { c.trace with sequenceUses := us } } = view c

lemma frames_onOut {α : Type} (h : ∀ c t, view { c with send := { c.send with out := t } } = view c)
    (f : StufferM α) : Frames view (onOut f) := by
  unfold onOut
  apply Frames.zoom
  intro t c
  exact h c t

variable (ct : ContentType)

lemma frames_recordCheckWrite : Frames view (recordCheckWrite ct : ConnM K Unit) := by
  unfold recordCheckWrite
  refine .read fun c => ?_
  exact .bind (.when (.ensure _ _)) fun _ => .when (.ensure _ _)

lemma frames_recordMaxWritePayloadSize : Frames view (recordMaxWritePayloadSize : ConnM K ℕ) := by
  unfold recordMaxWritePayloadSize
  refine .read fun c => .checked ?_
  exact .ite (.checked <| .pure _) (.pure _)

lemma frames_recordAllocOut (h : ∀ c t, view { c with send := { c.send with out := t } } = view c)
    (n : ℕ) : Frames view (recordAllocOut n) := by
  unfold recordAllocOut
  refine .read fun c => .when ?_
  simp only
  split
  · exact frames_onOut h _
  · exact .throw _

lemma frames_recordWriteTrailer (r : ParamsRef) (ct : ContentType) (n : ℕ) (rs : Stuffer) :
    Frames view (recordWriteTrailer r ct n rs : ConnM K Stuffer) := by
  unfold recordWriteTrailer
  refine .read fun c => ?_
  simp only
  refine .bind (.execLocal _ _) fun _ => ?_
  split
  · exact .execLocal _ _
  · exact .pure _

lemma frames_recordSyncOut (hout : ∀ c t, view { c with send := { c.send with out := t } } = view c)
    (hrecords : ∀ c records, view { c with trace := { c.trace with records := records } } = view c) (ct : ContentType)
    (bs : List UInt8) (rs : Stuffer) : Frames view (recordSyncOut ct bs rs : ConnM K Unit) := by
  unfold recordSyncOut
  refine .read fun c => .bind (frames_onOut hout _) fun _ => ?_
  exact .modify fun _ => hrecords _ _

lemma frames_ktlsRecordWritev (hout : ∀ c t, view { c with send := { c.send with out := t } } = view c)
    (iov : Option (List Iovec)) (offs n : ℕ) : Frames view (ktlsRecordWritev ct iov offs n : ConnM K ℕ) := by
  unfold ktlsRecordWritev
  refine .read fun _ => .bind (.ofExcept _) fun _ => .checked <| .checked ?_
  exact .bind (frames_onOut hout _) fun _ => .pure _

namespace Blind

variable {α : Type} (h : Blind view)

include h

variable (r : ParamsRef) (m : Mode)

lemma onSide (f : EStateM Err (CryptoSide K) α) :
    Frames view (onSide r m f) := .zoom (fun d c => h.side c r m d) f

lemma onMac (f : EStateM Err HmacState α) : Frames view (onMac r m f) :=
  h.onSide r m _

lemma onSequence (f : EStateM Err SequenceNumber α) :
    Frames view (onSequence r m f) := h.onSide r m _

lemma setImplicitIv (bs : List UInt8) :
    Frames view (setImplicitIv r m bs) := h.onSide r m _

variable (n : ℕ)

lemma traceUse : Frames view (traceUse r n) :=
  .modify fun c => h.uses c _

lemma getPublicRandomData : Frames view (getPublicRandomData n) := by
  unfold S2nTls.getPublicRandomData
  refine .read fun c => .checked ?_
  exact .bind (.modify fun c => h.random c _) fun _ => .pure _

lemma callCipher (f : Fault) (e : Err) (call : K → Option (K × α)) :
    Frames view (callCipher r m f e call) := by
  unfold S2nTls.callCipher
  refine .read fun c => .checked ?_
  split
  · exact .throw _
  · exact .bind (h.onSide _ _ _) fun _ => .pure _

lemma recordInitialHmac :
    Frames view (recordInitialHmac r ct n) := by
  unfold S2nTls.recordInitialHmac
  refine .read fun c => ?_
  simp only
  split
  · exact h.callCipher _ _ _ _ _
  · exact .pure _

lemma recordEncrypt (seq : ℕ) (iv aad en : List UInt8) :
    Frames view (recordEncrypt r seq iv aad en) := by
  unfold S2nTls.recordEncrypt
  refine .read fun c => ?_
  split
  · exact .pure _
  · exact h.callCipher _ _ _ _ _
  · refine .bind (h.callCipher _ _ _ _ _) fun _ => ?_
    refine .bind (.when (.checked ?_)) fun _ => .pure _
    exact h.setImplicitIv _ _ _
  · exact .bind (h.traceUse _ _) fun _ => h.callCipher _ _ _ _ _
  · refine .bind (h.traceUse _ _) fun _ => .bind (h.callCipher _ _ _ _ _) fun _ => ?_
    refine .checked ?_
    exact .bind (h.setImplicitIv _ _ _) fun _ => .pure _

lemma recordWriteIv (rs : Stuffer) :
    Frames view (recordWriteIv r ct n rs) := by
  unfold S2nTls.recordWriteIv
  refine .read fun c => ?_
  simp only
  split
  · refine .bind (.execLocal _ _) fun _ => ?_
    refine .bind (.ofExcept _) fun _ => .bind (.ofExcept _) fun _ => ?_
    exact .pure _
  · refine .ite (.bind (h.getPublicRandomData _) fun _ => ?_) (.pure _)
    refine .bind (h.setImplicitIv _ _ _) fun _ => ?_
    exact .bind (.execLocal _ _) fun _ => .pure _
  · refine .ite (.bind (h.getPublicRandomData _) fun _ => ?_) (.pure _)
    refine .bind (h.setImplicitIv _ _ _) fun _ => ?_
    refine .bind (h.getPublicRandomData _) fun _ => ?_
    exact .bind (.execLocal _ _) fun _ => .pure _
  · exact .pure _

lemma recordWriteMac (header plaintext : List UInt8) (rs : Stuffer) :
    Frames view (recordWriteMac r header plaintext rs) := by
  unfold S2nTls.recordWriteMac
  refine .read fun c => ?_
  simp only
  refine .ite (.pure _) ?_
  refine .bind (h.onMac _ _ _) fun _ => .bind (h.onMac _ _ _) fun _ => ?_
  refine .bind (.when (h.onMac _ _ _)) fun _ => ?_
  refine .bind (h.onMac _ _ _) fun _ => .bind (h.onMac _ _ _) fun _ => ?_
  refine .bind (.runLocal _ _) fun p => ?_
  split
  · exact .throw _
  · refine .bind (h.onMac _ _ _) fun _ => .bind (h.traceUse _ _) fun _ => ?_
    refine .bind (.execLocal _ _) fun _ => .bind (h.onMac _ _ _) fun _ => ?_
    exact .pure _

lemma recordEncryptInPlace (seq : ℕ) (iv aad : List UInt8) (skip len : ℕ) (rs : Stuffer) :
    Frames view (recordEncryptInPlace r seq iv aad skip len rs) := by
  unfold S2nTls.recordEncryptInPlace
  refine .read fun c => .bind (.execLocal _ _) fun _ => ?_
  refine .bind (.execLocal _ _) fun _ => .bind (.execLocal _ _) fun _ => ?_
  refine .checked <| .bind (.runLocal _ _) fun p => ?_
  split
  · exact .throw _
  · exact .bind (h.recordEncrypt _ _ _ _ _) fun _ => .execLocal _ _

lemma recordProtect (iv aad : List UInt8) (n padding extra : ℕ) (rs : Stuffer) :
    Frames view (recordProtect r ct iv aad n padding extra rs) := by
  unfold S2nTls.recordProtect
  refine .read fun c => .bind (h.recordWriteMac _ _ _ _) fun _ => ?_
  refine .bind (h.onSequence _ _ _) fun _ => .bind (frames_recordWriteTrailer _ _ _ _) fun _ => ?_
  exact .bind (h.recordEncryptInPlace _ _ _ _ _ _ _) fun _ => .pure _

lemma recordBuild (iov : Option (List Iovec)) (offs n : ℕ) (rs : Stuffer) :
    Frames view (recordBuild ct iov offs n rs) := by
  unfold S2nTls.recordBuild
  refine .read fun c => ?_
  simp only
  refine .bind (.execLocal _ _) fun _ => .bind (.execLocal _ _) fun _ => ?_
  refine .bind (h.recordInitialHmac _ _ _) fun _ => .checked ?_
  refine .bind (.execLocal _ _) fun _ => .bind (h.recordWriteIv _ _ _ _) fun _ => ?_
  exact .bind (.ofExcept _) fun _ => .bind (.execLocal _ _) fun _ => h.recordProtect _ _ _ _ _ _ _ _

end Blind

end S2nTls
