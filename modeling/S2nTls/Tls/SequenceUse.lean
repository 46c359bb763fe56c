import S2nTls.Lib.Run
import S2nTls.Tls.KeyUpdate
import S2nTls.Tls.RecordFrame

/-!
With which sequence numbers a key is used.

A call of `s2n_record_writev` may fail at any of its steps, before or after the sequence number
went into a MAC or a ciphertext and before or after it was incremented. `WriteEffect` lists what
such a call can do to the counter and to the list of uses; everything about runs of calls follows
from that list.
-/

namespace S2nTls

open Lib Relation

variable {K : Type}
variable {c : Conn K} {m : Mode} {r : ParamsRef}

/-! ### The counters and the uses -/

/-- What decides how one direction of a parameter set is used next. -/
structure SideView where
  sequenceNumber : ℕ
  generation : ℕ
  /-- Whether the record MAC has been set back to its key since it was used. -/
  intact : Bool
  hmacAlg : HmacAlg

/-- The writing direction of both parameter sets, and the uses so far. -/
structure SeqView where
  mode : Mode
  side : ParamsRef → SideView
  uses : List SequenceUse

def CryptoSide.view (d : CryptoSide K) (alg : HmacAlg) : SideView :=
  ⟨d.sequenceNumber.value, d.generation, d.recordMac.intact, alg⟩

def Conn.seqView (c : Conn K) : SeqView :=
  { mode := c.mode
    side := fun r => (c.crypto.side r c.mode).view (c.crypto.suite r).recordAlg.hmacAlg
    uses := c.trace.sequenceUses }

variable {v : SeqView}

namespace SeqView

/-- The key of the set `r` is used with the number `n`. -/
def useAt (v : SeqView) (r : ParamsRef) (n : ℕ) : SeqView :=
  { v with uses := v.uses ++ [⟨r, v.mode, (v.side r).generation, n⟩] }

/-- The key of the set `r` is used with its present sequence number. -/
def use (v : SeqView) (r : ParamsRef) : SeqView := v.useAt r (v.side r).sequenceNumber

def updateSide (v : SeqView) (r : ParamsRef) (f : SideView → SideView) : SeqView :=
  { v with side := Function.update v.side r (f (v.side r)) }

/-- The sequence number of the set `r` is incremented. -/
def bump (v : SeqView) (r : ParamsRef) : SeqView :=
  v.updateSide r fun d => { d with sequenceNumber := d.sequenceNumber + 1 }

/-- The record MAC of the set `r` could be reset or not. -/
def setIntact (v : SeqView) (r : ParamsRef) (b : Bool) : SeqView :=
  v.updateSide r fun d => { d with intact := b }

/-- A new key is installed in the set `r`. -/
def rekey (v : SeqView) (r : ParamsRef) : SeqView :=
  v.updateSide r fun d => { d with sequenceNumber := 0, generation := d.generation + 1 }

variable {f : SideView → SideView}

@[simp] lemma updateSide_side_self (v : SeqView) (r : ParamsRef) (f : SideView → SideView) :
    (v.updateSide r f).side r = f (v.side r) := by
  simp [updateSide]

lemma updateSide_side_of_ne {r' : ParamsRef} (h : r' ≠ r) (v : SeqView) (f : SideView → SideView) :
    (v.updateSide r f).side r' = v.side r' := by
  simp [updateSide, h]

lemma updateSide_updateSide (v : SeqView) (r : ParamsRef) (f g : SideView → SideView) :
    (v.updateSide r f).updateSide r g = v.updateSide r (g ∘ f) := by
  simp [updateSide]

lemma updateSide_eq_self (h : f (v.side r) = v.side r) : v.updateSide r f = v := by
  simp [updateSide, h]

lemma setIntact_self {b : Bool} (h : (v.side r).intact = b) : v.setIntact r b = v := by
  refine updateSide_eq_self ?_
  rw [← h]

/-- A use does not depend on what else happened to the set, if the number is the same. -/
lemma updateSide_useAt (h : (f (v.side r)).generation = (v.side r).generation) :
    (v.updateSide r f).useAt r (v.side r).sequenceNumber = (v.use r).updateSide r f := by
  simp [updateSide, use, useAt, h]

end SeqView

lemma seqView_setSide {d : CryptoSide K} (hm : c.mode = m)
    (h : ∀ alg, d.view alg = f ((c.crypto.side r m).view alg)) :
    (c.setSide r m d).seqView = c.seqView.updateSide r f := by
  subst hm
  simp only [Conn.seqView, Conn.setSide, CryptoState.suite_setSide, SeqView.updateSide]
  congr 1
  funext r'
  by_cases hr : r' = r
  · subst hr
    simp [h]
  · simp [CryptoState.side_setSide_of_ne (.inl hr), hr]

/-- What is done to the other direction does not show. -/
lemma seqView_setSide_of_ne (h : c.mode ≠ m) (r : ParamsRef)
    (d : CryptoSide K) : (c.setSide r m d).seqView = c.seqView := by
  simp only [Conn.seqView, Conn.setSide, CryptoState.suite_setSide, CryptoState.side_setSide_of_ne (.inr h)]

lemma seqView_setSide_of_view_eq {d : CryptoSide K} (h : ∀ alg, d.view alg = (c.crypto.side r m).view alg) :
    (c.setSide r m d).seqView = c.seqView := by
  by_cases hm : c.mode = m
  · rw [seqView_setSide (f := id) hm h]
    exact SeqView.updateSide_eq_self rfl
  · exact seqView_setSide_of_ne hm r d

/-- **What a call of `s2n_record_writev` can do** to the counter of the set `r` it writes with. -/
inductive WriteEffect (r : ParamsRef) (v : SeqView) : SeqView → Prop
  /-- It failed before the number was used. -/
  | none : WriteEffect r v v
  /-- It failed after incrementing the number and before using it, or the cipher is null. -/
  | skip : WriteEffect r v (v.bump r)
  /-- The number was used and incremented. -/
  | spend : WriteEffect r v ((v.use r).bump r)
  /-- The number went into the MAC, which could not be reset, and was not incremented. -/
  | spoil : (v.side r).hmacAlg ≠ .none → WriteEffect r v ((v.use r).setIntact r false)

/-! ### Pieces that leave counters and uses alone -/

variable (fault : Fault → Bool)

lemma frames_onSide_modify {f : CryptoSide K → CryptoSide K} (h : ∀ d alg, (f d).view alg = d.view alg) :
    Frames Conn.seqView (onSide r m (modify f) : ConnM K PUnit) := by
  intro c
  unfold onSide
  exact seqView_setSide_of_view_eq (h _)

lemma frames_callCipher {α : Type} (r : ParamsRef) (m : Mode) (f : Fault) (e : Err)
    (call : K → Option (K × α)) : Frames Conn.seqView (callCipher r m f e call) := by
  unfold callCipher
  refine .read fun c => .checked ?_
  split
  · exact .throw _
  · exact .bind (frames_onSide_modify fun _ _ => rfl) fun _ => .pure _

lemma frames_setImplicitIv (r : ParamsRef) (m : Mode) (bs : List UInt8) :
    Frames Conn.seqView (setImplicitIv r m bs : ConnM K Unit) := by
  unfold setImplicitIv
  exact frames_onSide_modify fun _ _ => rfl

lemma frames_getPublicRandomData (n : ℕ) :
    Frames Conn.seqView (getPublicRandomData n : ConnM K (List UInt8)) := by
  unfold getPublicRandomData
  refine .read fun c => .checked ?_
  exact .bind (.modify fun _ => rfl) fun _ => .pure _

lemma frames_recordInitialHmac (r : ParamsRef) (ct : ContentType) (n : ℕ) :
    Frames Conn.seqView (recordInitialHmac r ct n : ConnM K ℕ) := by
  unfold recordInitialHmac
  refine .read fun c => ?_
  split
  · exact frames_callCipher _ _ _ _ _
  · exact .pure _

lemma frames_recordWriteIv (r : ParamsRef) (ct : ContentType) (n : ℕ) (rs : Stuffer) :
    Frames Conn.seqView (recordWriteIv r ct n rs : ConnM K (List UInt8 × List UInt8 × Stuffer)) := by
  unfold recordWriteIv
  refine .read fun c => ?_
  simp only
  split
  · refine .bind (.execLocal _ _) fun _ => ?_
    refine .bind (.ofExcept _) fun _ => .bind (.ofExcept _) fun _ => ?_
    exact .pure _
  · refine .ite (.bind (frames_getPublicRandomData _) fun _ => ?_) (.pure _)
    refine .bind (frames_setImplicitIv _ _ _) fun _ => ?_
    exact .bind (.execLocal _ _) fun _ => .pure _
  · refine .ite (.bind (frames_getPublicRandomData _) fun _ => ?_) (.pure _)
    refine .bind (frames_setImplicitIv _ _ _) fun _ => ?_
    refine .bind (frames_getPublicRandomData _) fun _ => ?_
    exact .bind (.execLocal _ _) fun _ => .pure _
  · exact .pure _

lemma frames_onMac {α : Type} {f : EStateM Err HmacState α} (hf : Frames HmacState.intact f)
    (r : ParamsRef) (m : Mode) : Frames Conn.seqView (onMac r m f : ConnM K α) := by
  intro c
  unfold onMac onSide
  rw [wp_zoom, wp_zoom]
  refine hf.wp (fun _ x hx => ?_) fun _ x hx => ?_ <;>
  · refine seqView_setSide_of_view_eq fun alg => ?_
    simp only [CryptoSide.view]
    rw [hx]

lemma frames_hmacUpdate (bs : List UInt8) :
    Frames HmacState.intact (HmacState.update fault bs) := by
  unfold HmacState.update
  refine Frames.get_bind fun st => ?_
  simp only [wp_bind, wp_ensure, wp_set, and_self, implies_true]

/-! ### Pieces that use a number -/

lemma frames_hmacDigest : Frames HmacState.intact (HmacState.digest fault) := by
  unfold HmacState.digest
  refine Frames.get_bind fun st => ?_
  simp only [wp_bind, wp_ensure, wp_set, wp_pure, and_self, implies_true]

lemma wp_reset (r : ParamsRef) (hm : c.mode = m) :
    wp (onMac r m (HmacState.reset fault) : ConnM K Unit) (fun _ c' => c'.seqView = c.seqView.setIntact r true)
      (fun _ c' => c'.seqView = c.seqView.setIntact r false) c := by
  unfold onMac onSide HmacState.reset
  simp only [wp_zoom, wp_bind, wp_ensure, wp_modify]
  refine ⟨fun _ => ?_, fun _ => ?_⟩
  · exact seqView_setSide hm fun _ => rfl
  · exact seqView_setSide hm fun _ => rfl

lemma wp_traceUse (r : ParamsRef) (n : ℕ) (c : Conn K) :
    wp (traceUse r n : ConnM K Unit) (fun _ c' => c'.seqView = c.seqView.useAt r n)
      noError c := by
  unfold traceUse
  rfl

lemma recordWriteMac_effect (r : ParamsRef) (header plaintext : List UInt8) (rs : Stuffer)
    (c : Conn K) (hv : c.seqView = v) (hintact : (v.side r).hmacAlg ≠ .none → (v.side r).intact = true) :
    wp (recordWriteMac r header plaintext rs)
      (fun _ c' => c'.seqView = v ∨ c'.seqView = v.use r ∧ (v.side r).hmacAlg ≠ .none)
      (fun _ c' => c'.seqView = v ∨ c'.seqView = (v.use r).setIntact r false ∧ (v.side r).hmacAlg ≠ .none) c := by
  have hmode : ∀ {c' : Conn K}, c'.seqView.mode = v.mode → c'.mode = c.mode := by
    intro c' h
    have hvm : v.mode = c.mode := by rw [← hv]; rfl
    exact h.trans hvm
  have hhmac : (v.side r).hmacAlg = (c.crypto.suite r).recordAlg.hmacAlg := by rw [← hv]; rfl
  have hseq : (v.side r).sequenceNumber = (c.crypto.side r c.mode).sequenceNumber.value := by
    rw [← hv]; rfl
  have hupd : ∀ bs, Frames Conn.seqView
      (onMac r c.mode (HmacState.update c.env.fault bs) : ConnM K Unit) := fun bs =>
    frames_onMac (frames_hmacUpdate _ _) _ _
  unfold recordWriteMac
  rw [wp_read]
  simp only [wp_ite, wp_pure]
  refine ⟨fun _ => .inl hv, fun hne => ?_⟩
  rw [← hhmac] at hne
  have hfail : ∀ (e : Err) (c' : Conn K), c'.seqView = v → c'.seqView = v ∨
      c'.seqView = (v.use r).setIntact r false ∧ (v.side r).hmacAlg ≠ .none := fun _ _ h => .inl h
  -- feeding the MAC leaves numbers and uses alone, and so does a failure of it
  refine (hupd _).seq hv (fun _ c₁ h₁ => ?_) hfail
  refine (hupd _).seq h₁ (fun _ c₂ h₂ => ?_) hfail
  refine (Frames.when (hupd _)).seq h₂ (fun _ c₃ h₃ => ?_) hfail
  refine (hupd _).seq h₃ (fun _ c₄ h₄ => ?_) hfail
  refine (hupd _).seq h₄ (fun _ c₅ h₅ => ?_) hfail
  refine wp_seq_onLocal (fun p => ?_) fun e => hfail e c₅ h₅
  obtain ⟨_ | ptr, rs⟩ := p
  · exact .inl h₅
  refine (frames_onMac (frames_hmacDigest _) _ _).seq h₅ (fun _ c₆ h₆ => ?_) hfail
  refine wp_sure_then (wp_traceUse r _ c₆) fun _ c₇ h₇ => ?_
  have hused : c₇.seqView = v.use r := by
    rw [h₇, h₆, ← hseq]
    rfl
  rw [wp_bind, wp_execLocal, Stuffer.poke, wp_modify]
  have hm₇ : c₇.mode = c.mode := hmode (by rw [hused]; rfl)
  refine wp_seq (wp_reset _ r hm₇) (fun _ c' h => ?_) fun _ c' h => .inr ⟨by rw [h, hused], hne⟩
  refine .inr ⟨?_, hne⟩
  rw [h, hused]
  exact SeqView.setIntact_self (hintact hne)

lemma recordEncrypt_effect (r : ParamsRef) (n : ℕ) (iv aad en : List UInt8) (c : Conn K)
    (hv : c.seqView = v) :
    wp (recordEncrypt r n iv aad en)
      (fun _ c' => c'.seqView = v ∨ c'.seqView = v.useAt r n ∧ (v.side r).hmacAlg = .none)
      (fun _ c' => c'.seqView = v ∨ c'.seqView = v.useAt r n ∧ (v.side r).hmacAlg = .none) c := by
  have hhmac : (v.side r).hmacAlg = (c.crypto.suite r).recordAlg.hmacAlg := by rw [← hv]; rfl
  have hwf := (c.crypto.suite r).recordAlg.wellFormed
  unfold recordEncrypt
  rw [wp_read]
  split
  · exact .inl hv
  · exact (frames_callCipher _ _ _ _ _).wp (fun _ _ h => .inl (h.trans hv))
      fun _ _ h => .inl (h.trans hv)
  · refine Frames.wp ?_ (fun _ _ h => .inl (Eq.trans h hv)) fun _ _ h => .inl (Eq.trans h hv)
    refine .bind (frames_callCipher _ _ _ _ _) fun _ => ?_
    refine .bind (.when ?_) fun _ => .pure _
    exact .checked <| frames_setImplicitIv _ _ _
  · rename_i x hx
    simp only [hx, RecordAlg.WellFormed] at hwf
    have hnone : (v.side r).hmacAlg = .none := hhmac.trans hwf.1
    refine wp_sure_then (wp_traceUse r n c) fun _ c₁ h₁ => ?_
    rw [hv] at h₁
    exact (frames_callCipher _ _ _ _ _).wp (fun _ _ h => .inr ⟨h.trans h₁, hnone⟩)
      fun _ _ h => .inr ⟨h.trans h₁, hnone⟩
  · rename_i x hx
    simp only [hx, RecordAlg.WellFormed] at hwf
    have hnone : (v.side r).hmacAlg = .none := hhmac.trans hwf.1
    refine wp_sure_then (wp_traceUse r n c) fun _ c₁ h₁ => ?_
    rw [hv] at h₁
    refine Frames.wp ?_ (fun _ _ h => .inr ⟨Eq.trans h h₁, hnone⟩)
      fun _ _ h => .inr ⟨Eq.trans h h₁, hnone⟩
    refine .bind (frames_callCipher _ _ _ _ _) fun _ => ?_
    refine .checked ?_
    exact .bind (frames_setImplicitIv _ _ _) fun _ => .pure _

lemma recordEncryptInPlace_effect (r : ParamsRef) (n : ℕ) (iv aad : List UInt8) (skip len : ℕ)
    (rs : Stuffer) (c : Conn K) (hv : c.seqView = v) :
    wp (recordEncryptInPlace r n iv aad skip len rs)
      (fun _ c' => c'.seqView = v ∨ c'.seqView = v.useAt r n ∧ (v.side r).hmacAlg = .none)
      (fun _ c' => c'.seqView = v ∨ c'.seqView = v.useAt r n ∧ (v.side r).hmacAlg = .none) c := by
  unfold recordEncryptInPlace
  rw [wp_read]
  refine wp_seq_execLocal (fun _ => ?_) fun _ => .inl hv
  refine wp_seq_execLocal (fun _ => ?_) fun _ => .inl hv
  refine wp_seq_execLocal (fun _ => ?_) fun _ => .inl hv
  refine wp_guard (.inl hv) fun _ => ?_
  refine wp_seq_onLocal (fun p => ?_) fun _ => .inl hv
  obtain ⟨_ | ptr, rs⟩ := p
  · exact .inl hv
  refine wp_then (recordEncrypt_effect r n iv aad _ c hv) fun _ c₁ h₁ => ?_
  exact wp_execLocal_of_forall (fun _ => h₁) fun _ => h₁

lemma wp_increment (r : ParamsRef) (hm : c.mode = m) (hlt : (c.seqView.side r).sequenceNumber + 1 < 2 ^ 64) :
    wp (onSequence r m SequenceNumber.increment : ConnM K Unit)
      (fun _ c' => c'.seqView = c.seqView.bump r) noError c := by
  subst hm
  unfold onSequence onSide
  rw [wp_zoom, wp_zoom, wp_of_ok (SequenceNumber.increment_of_lt hlt)]
  refine seqView_setSide rfl fun alg => ?_
  simp only [CryptoSide.view]
  congr 1
  exact SequenceNumber.value_ofNat hlt

/-! ### One call -/

/-- The counter that a record of the given type would be written with. -/
def Conn.writeSequence (c : Conn K) (contentType : ContentType) : ℕ :=
  (c.crypto.side (c.writeTarget contentType) c.mode).sequenceNumber.value

variable (ct : ContentType)

lemma recordSwitchToInitial_writeRef (c : Conn K) :
    wp (recordSwitchToInitial ct)
      (fun _ c' => c'.seqView = c.seqView ∧ c'.writeRef = c.writeTarget ct)
      (fun _ c' => c'.seqView = c.seqView) c := by
  unfold recordSwitchToInitial
  simp only [wp_bind, wp_get, wp_when, wp_ensure, wp_modify]
  refine ⟨fun h => ⟨fun _ => ⟨rfl, ?_⟩, fun _ => trivial⟩, fun h => ⟨trivial, ?_⟩⟩
  · simp only [Conn.writeTarget, if_pos h, Conn.writeRef]
    cases c.mode <;> rfl
  · simp only [Conn.writeTarget, if_neg h]

/-- Protecting a record below the largest number ends in one of the effects of `WriteEffect`,
whichever of its steps fails. -/
lemma recordProtect_effect (iv aad : List UInt8)
    (n padding extra : ℕ) (rs : Stuffer) (hv : c.seqView = v)
    (hlt : (v.side r).sequenceNumber + 1 < 2 ^ 64)
    (hintact : (v.side r).hmacAlg ≠ .none → (v.side r).intact = true) :
    wp (recordProtect r ct iv aad n padding extra rs) (fun _ c' => WriteEffect r v c'.seqView)
      (fun _ c' => WriteEffect r v c'.seqView) c := by
  have hm : c.mode = v.mode := by rw [← hv]; rfl
  have hseq : (c.crypto.side r c.mode).sequenceNumber.value = (v.side r).sequenceNumber := by
    rw [← hv]
    rfl
  unfold recordProtect
  rw [wp_read]
  rw [hseq]
  refine wp_seq (recordWriteMac_effect r _ _ _ c hv hintact) (fun p c₇ h₇ => ?_) fun e c' h => ?_
  swap
  · obtain h | ⟨h, hne⟩ := h
    · rw [h]
      exact .none
    · rw [h]
      exact .spoil hne
  have hm₇ : c₇.mode = c.mode := by
    have : c₇.seqView.mode = v.mode := by
      obtain h | ⟨h, -⟩ := h₇ <;> rw [h]
      rfl
    exact this.trans hm.symm
  have hlt₇ : (c₇.seqView.side r).sequenceNumber + 1 < 2 ^ 64 := by
    obtain h | ⟨h, -⟩ := h₇ <;> rw [h] <;> exact hlt
  refine wp_sure_then (wp_increment r hm₇ hlt₇) fun _ c₈ h₈ => ?_
  have hinc : ∀ (e : Err) (c' : Conn K), c'.seqView = c₇.seqView.bump r → WriteEffect r v c'.seqView := by
    intro e c' h
    rw [h]
    obtain h₇ | ⟨h₇, -⟩ := h₇ <;> rw [h₇]
    · exact .skip
    · exact .spend
  refine (frames_recordWriteTrailer _ _ _ _).seq h₈ (fun rs c₉ h₉ => ?_) hinc
  have henc : ∀ c' : Conn K, (c'.seqView = c₇.seqView.bump r ∨
      c'.seqView = (c₇.seqView.bump r).useAt r (v.side r).sequenceNumber ∧
        ((c₇.seqView.bump r).side r).hmacAlg = .none) → WriteEffect r v c'.seqView := by
    rintro c' (h | ⟨h, hnone'⟩)
    · exact hinc .safety c' h
    · -- the cipher authenticates, so there was no MAC
      have hmac : ((c₇.seqView.bump r).side r).hmacAlg = (v.side r).hmacAlg := by
        obtain h₇ | ⟨h₇, -⟩ := h₇ <;> rw [h₇] <;> simp [SeqView.bump, SeqView.use, SeqView.useAt]
      rw [hmac] at hnone'
      obtain h₇ | ⟨-, hne⟩ := h₇
      · rw [h, h₇, SeqView.bump, SeqView.updateSide_useAt rfl]
        exact .spend
      · exact absurd hnone' hne
  refine wp_seq (recordEncryptInPlace_effect r _ iv aad _ _ rs c₉ h₉) (fun rs c₁₀ h₁₀ => ?_)
    fun _ c' h => henc c' h
  exact henc c₁₀ h₁₀

variable (iov : Option (List Stuffer.Iovec))

/-- The same for the whole record: up to its protection nothing happens to counters and uses. -/
lemma recordBuild_effect
    (offs n : ℕ) (rs : Stuffer) (hv : c.seqView = v)
    (hr : c.writeRef = r) (hlt : (v.side r).sequenceNumber + 1 < 2 ^ 64)
    (hintact : (v.side r).hmacAlg ≠ .none → (v.side r).intact = true) :
    wp (recordBuild ct iov offs n rs) (fun _ c' => WriteEffect r v c'.seqView)
      (fun _ c' => WriteEffect r v c'.seqView) c := by
  have hfail : ∀ (e : Err) (c' : Conn K), c'.seqView = v → WriteEffect r v c'.seqView := by
    intro e c' h
    rw [h]
    exact .none
  unfold recordBuild
  rw [wp_read]
  rw [hr]
  refine wp_seq_execLocal (fun _ => ?_) fun e => hfail e c hv
  refine wp_seq_execLocal (fun _ => ?_) fun e => hfail e c hv
  refine (frames_recordInitialHmac _ _ _).seq hv (fun padAndMac c₅ h₅ => ?_) hfail
  refine wp_guard (hfail .safety c₅ h₅) fun _ => ?_
  refine wp_seq_execLocal (fun _ => ?_) fun e => hfail e c₅ h₅
  refine (frames_recordWriteIv _ _ _ _).seq h₅ (fun p c₆ h₆ => ?_) hfail
  refine wp_seq_ofExcept (fun _ _ => ?_) fun e _ => hfail e c₆ h₆
  refine wp_seq_execLocal (fun _ => ?_) fun e => hfail e c₆ h₆
  exact recordProtect_effect ct _ _ _ _ _ _ h₆ hlt hintact

/-- The MAC that a record of the given type would be written with, if there is one, was not left by a reset that
failed. -/
def Conn.MacIntact (c : Conn K) (contentType : ContentType) : Prop :=
  (c.crypto.suite (c.writeTarget contentType)).recordAlg.hmacAlg ≠ .none →
    (c.crypto.side (c.writeTarget contentType) c.mode).recordMac.intact = true

/-- **Every call of `s2n_record_writev` below the largest number** ends in one of the effects of
`WriteEffect`, whichever of its steps fails. -/
theorem recordWritev_effect (offs toWrite : ℕ)
    (c : Conn K) (hlt : c.writeSequence ct + 1 < 2 ^ 64) (hintact : c.MacIntact ct) :
    wp (recordWritev ct iov offs toWrite)
      (fun _ c' => WriteEffect (c.writeTarget ct) c.seqView c'.seqView)
      (fun _ c' => WriteEffect (c.writeTarget ct) c.seqView c'.seqView) c := by
  generalize htr : c.writeTarget ct = r
  generalize hv : c.seqView = v
  have hlt' : (v.side r).sequenceNumber + 1 < 2 ^ 64 := by
    rw [← hv, ← htr]
    exact hlt
  have hintact' : (v.side r).hmacAlg ≠ .none → (v.side r).intact = true := by
    rw [← hv, ← htr]
    exact hintact
  have hnone : ∀ {c' : Conn K}, c'.seqView = v → WriteEffect r v c'.seqView := by
    intro c' h
    rw [h]
    exact .none
  unfold recordWritev
  rw [wp_read, wp_ite]
  refine ⟨fun _ => ?_, fun _ => ?_⟩
  · have hktls : Frames Conn.seqView (ktlsRecordWritev ct iov offs toWrite : ConnM K ℕ) :=
      frames_ktlsRecordWritev ct (fun _ _ => rfl) iov offs toWrite
    exact hktls.wp (fun _ _ h => hnone (h.trans hv)) fun _ _ h => hnone (h.trans hv)
  unfold recordWritevOut
  rw [wp_read]
  refine wp_seq (recordSwitchToInitial_writeRef ct c) (fun _ c₁ h₁ => ?_)
    fun _ _ h => hnone (h.trans hv)
  obtain ⟨hv₁, hr₁⟩ := h₁
  rw [hv] at hv₁
  rw [htr] at hr₁
  have hkeep : ∀ (e : Err) (c' : Conn K), (c'.seqView, c'.writeRef) = (v, r) →
      WriteEffect r v c'.seqView := by
    intro e c' h
    exact hnone (congrArg Prod.fst h)
  refine (frames_recordCheckWrite ct).seq (by rw [hv₁, hr₁]) (fun _ c₂ h₂ => ?_) hkeep
  refine frames_recordMaxWritePayloadSize.seq h₂ (fun maxSize c₃ h₃ => ?_) hkeep
  refine (frames_recordAllocOut (fun _ _ => rfl) _).seq h₃ (fun _ c₄ h₄ => ?_) hkeep
  obtain ⟨hv₄, hr₄⟩ := Prod.mk.inj h₄
  rw [wp_read]
  refine wp_then (recordBuild_effect ct iov offs _ _ hv₄ hr₄ hlt' hintact') fun p c₅ h₅ => ?_
  have hlast : ∀ (e : Err) (c' : Conn K), c'.seqView = c₅.seqView → WriteEffect r v c'.seqView := by
    intro e c' h
    rw [h]
    exact h₅
  refine (frames_recordSyncOut (fun _ _ => rfl) (fun _ _ => rfl) _ _ _).seq rfl (fun _ c₆ h₆ => ?_) hlast
  refine Frames.seq (.when (.modify fun _ => ?_)) h₆ (fun _ c₇ h₇ => ?_) hlast
  · rfl
  · exact hlast .safety c₇ h₇

lemma seqView_countKeyUpdate (c : Conn K) (status : KeyUpdateStatus) :
    (c.countKeyUpdate status).seqView = c.seqView := by
  cases status <;> rfl

/-- A change of the traffic keys of one direction starts its numbers again, or changes nothing
that a record is protected with. -/
theorem updateApplicationTrafficKeys_effect (m : Mode) (status : KeyUpdateStatus) (c : Conn K) :
    wp (updateApplicationTrafficKeys m status)
      (fun _ c' => c'.seqView = c.seqView ∨ c'.seqView = c.seqView.rekey .secure)
      (fun _ c' => c'.seqView = c.seqView) c := by
  unfold updateApplicationTrafficKeys
  refine wp_guard rfl fun _ => ?_
  refine wp_guard rfl fun _ => ?_
  refine (frames_setImplicitIv _ _ _).seq rfl (fun _ c₁ h₁ => ?_) fun _ _ h => h
  refine wp_guard h₁ fun _ => ?_
  rw [← h₁]
  split
  · exact rfl
  simp only [onSide, onSequence, wp_bind, wp_zoom, wp_modify, wp_set]
  generalize hc₂ : Conn.countKeyUpdate _ status = c₂
  have hm₂ : c₂.mode = c₁.mode := by
    rw [← hc₂]
    cases status <;> rfl
  by_cases hm : c₁.mode = m
  · -- the new key and the number zero are stored one after the other, and nothing fails in between
    right
    have h₂ : c₂.seqView =
        c₁.seqView.updateSide .secure fun d => { d with generation := d.generation + 1 } := by
      rw [← hc₂, seqView_countKeyUpdate]
      exact seqView_setSide hm fun _ => rfl
    have h₃ := seqView_setSide (r := .secure)
      (d := { c₂.crypto.side .secure m with sequenceNumber := SequenceNumber.zero })
      (f := fun d => { d with sequenceNumber := 0 }) (hm₂.trans hm) fun _ => rfl
    rw [h₂, SeqView.updateSide_updateSide] at h₃
    exact h₃
  · left
    have h₂ : c₂.seqView = c₁.seqView := by
      rw [← hc₂, seqView_countKeyUpdate]
      exact seqView_setSide_of_ne hm _ _
    rw [← h₂]
    exact seqView_setSide_of_ne (by rwa [hm₂]) _ _

/-! ### Runs -/

def SequenceUse.key (u : SequenceUse) : ParamsRef × Mode × ℕ := (u.ref, u.writer, u.generation)

/-- **What happens on a connection that writes.** A call of `s2n_record_writev` or of
`s2n_update_application_traffic_keys` may fail or not, and is followed by any other. `install` is
a key that the handshake puts into a parameter set. `other` is everything else, in particular what
libcrypto, the allocator and the random generator will answer next. -/
inductive SendStep (mayWrite : Conn K → ContentType → Prop) (c : Conn K) : Conn K → Prop
  | write (ct : ContentType) (iov : Option (List Stuffer.Iovec)) (offs toWrite : ℕ) :
      mayWrite c ct → SendStep mayWrite c (finalState (recordWritev ct iov offs toWrite) c)
  | updateKeys (m : Mode) (status : KeyUpdateStatus) :
      SendStep mayWrite c (finalState (updateApplicationTrafficKeys m status) c)
  | install (c' : Conn K) (r : ParamsRef) (f : SideView → SideView) :
      (f (c.seqView.side r)).generation = (c.seqView.side r).generation + 1 →
      c'.seqView = c.seqView.updateSide r f → SendStep mayWrite c c'
  | other (c' : Conn K) : c'.seqView = c.seqView → SendStep mayWrite c c'

/-- The number `n` will not be used again: it is below the counter, or it is the counter and has
gone into a MAC that could not be reset. -/
def SideView.Past (d : SideView) (n : ℕ) : Prop :=
  n < d.sequenceNumber ∨ n = d.sequenceNumber ∧ d.hmacAlg ≠ .none ∧ d.intact = false

/-- The uses under each key increase, and those under the present keys are past. -/
structure UsesIncrease (v : SeqView) : Prop where
  increase : v.uses.Pairwise fun u u' => u.key = u'.key → u.sequenceNumber < u'.sequenceNumber
  generation_le : ∀ u ∈ v.uses, u.generation ≤ (v.side u.ref).generation
  past : ∀ u ∈ v.uses, u.generation = (v.side u.ref).generation →
    (v.side u.ref).Past u.sequenceNumber

namespace UsesIncrease

variable (h : UsesIncrease v)

include h

lemma updateSide (hg : (v.side r).generation ≤ (f (v.side r)).generation)
    (hp : ∀ n, (f (v.side r)).generation = (v.side r).generation → (v.side r).Past n →
      (f (v.side r)).Past n) :
    UsesIncrease (v.updateSide r f) := by
  refine ⟨h.increase, fun u hu => ?_, fun u hu => ?_⟩ <;> by_cases hr : u.ref = r
  · rw [hr, SeqView.updateSide_side_self]
    exact (hr ▸ h.generation_le u hu).trans hg
  · rw [SeqView.updateSide_side_of_ne hr]
    exact h.generation_le u hu
  · have hle := h.generation_le u hu
    have hpast := h.past u hu
    rw [hr] at hle hpast ⊢
    rw [SeqView.updateSide_side_self]
    intro hgen
    have hgen' : (f (v.side r)).generation = (v.side r).generation := by omega
    exact hp _ hgen' (hpast (hgen.trans hgen'))
  · rw [SeqView.updateSide_side_of_ne hr]
    exact h.past u hu

/-- A use goes beyond all that is past if the MAC is intact; then the number has to become past. -/
lemma use (hr : (v.side r).hmacAlg ≠ .none → (v.side r).intact = true)
    (hg : (f (v.side r)).generation = (v.side r).generation)
    (hp : ∀ n ≤ (v.side r).sequenceNumber, (f (v.side r)).Past n) :
    UsesIncrease ((v.use r).updateSide r f) := by
  have hlt : ∀ n, (v.side r).Past n → n < (v.side r).sequenceNumber := by
    rintro n (hn | ⟨-, hne, hnr⟩)
    · exact hn
    · exact absurd ((hr hne).symm.trans hnr) (by decide)
  have hold : UsesIncrease (v.updateSide r f) :=
    h.updateSide hg.ge fun n _ hn => hp n (hlt n hn).le
  refine ⟨?_, fun u hu => ?_, fun u hu => ?_⟩
  · refine List.pairwise_append.mpr ⟨h.increase, List.pairwise_singleton _ _, fun u hu u' hu' => ?_⟩
    obtain rfl := List.mem_singleton.mp hu'
    intro hkey
    obtain ⟨href, -, hgen⟩ : u.ref = r ∧ u.writer = v.mode ∧ u.generation = (v.side r).generation := by
      simpa [SequenceUse.key] using hkey
    have hpast := h.past u hu (by rw [href, hgen])
    rw [href] at hpast
    exact hlt _ hpast
  · obtain hu | hu := List.mem_append.mp hu
    · exact hold.generation_le u hu
    · obtain rfl := List.mem_singleton.mp hu
      rw [SeqView.updateSide_side_self]
      exact hg.ge
  · obtain hu | hu := List.mem_append.mp hu
    · exact hold.past u hu
    · obtain rfl := List.mem_singleton.mp hu
      intro _
      rw [SeqView.updateSide_side_self]
      exact hp _ le_rfl

/-- Each effect of a call of `s2n_record_writev` keeps the invariant. -/
lemma writeEffect {v' : SeqView} (hr : (v.side r).hmacAlg ≠ .none → (v.side r).intact = true)
    (he : WriteEffect r v v') : UsesIncrease v' := by
  cases he with
  | none => exact h
  | skip =>
    refine h.updateSide le_rfl fun n _ hn => .inl ?_
    obtain hn | ⟨rfl, -⟩ := hn
    · exact Nat.lt_succ_of_lt hn
    · exact Nat.lt_succ_self _
  | spend => exact h.use hr rfl fun n hn => .inl (Nat.lt_succ_of_le hn)
  | spoil hne =>
    refine h.use hr rfl fun n hn => ?_
    obtain hn | rfl := Nat.lt_or_eq_of_le hn
    · exact .inl hn
    · exact .inr ⟨rfl, hne, rfl⟩

end UsesIncrease

/-- The sequence number that a record would be written with is not the largest one. -/
def Conn.BelowLimit (c : Conn K) (contentType : ContentType) : Prop :=
  c.writeSequence contentType ≠ 2 ^ 64 - 1

lemma usesIncrease_step (c c' : Conn K) (h : UsesIncrease c.seqView)
    (hstep : SendStep (fun c ct => c.BelowLimit ct ∧ c.MacIntact ct) c c') : UsesIncrease c'.seqView := by
  cases hstep with
  | write ct iov offs toWrite hok =>
    have hlt : c.writeSequence ct + 1 < 2 ^ 64 := by
      have := (c.crypto.side (c.writeTarget ct) c.mode).sequenceNumber.value_lt
      have hne := hok.1
      unfold Conn.BelowLimit Conn.writeSequence at hne
      unfold Conn.writeSequence
      omega
    exact h.writeEffect hok.2 (finalState_of_wp (P := fun t : Conn K => WriteEffect _ _ t.seqView)
      (recordWritev_effect ct iov offs toWrite c hlt hok.2))
  | updateKeys m status =>
    have heff : wp (updateApplicationTrafficKeys m status)
        (fun _ t => t.seqView = c.seqView ∨ t.seqView = c.seqView.rekey .secure)
        (fun _ t => t.seqView = c.seqView ∨ t.seqView = c.seqView.rekey .secure) c :=
      wp_mono (fun _ _ ht => ht) (fun _ _ ht => .inl ht)
        (updateApplicationTrafficKeys_effect m status c)
    obtain heq | heq := finalState_of_wp heff <;> rw [heq]
    · exact h
    · exact h.updateSide (Nat.le_succ _) fun n hgen => absurd hgen (Nat.succ_ne_self _)
  | install _ r f hgen heq =>
    rw [heq]
    exact h.updateSide (by omega) fun n hn => absurd hn (by omega)
  | other _ heq =>
    rw [heq]
    exact h

/-- **No sequence number is used twice under one key**, in any run of record writes that may fail
anywhere and be repeated, as long as no record is written while the counter is at its largest
value or the MAC was left by a reset that failed. The counter itself goes up by exactly one whenever it is
incremented. -/
theorem sequenceUses_increase {c c' : Conn K} (hinit : c.trace.sequenceUses = [])
    (hrun : ReflTransGen (SendStep fun c ct => c.BelowLimit ct ∧ c.MacIntact ct) c c') :
    (c'.trace.sequenceUses.Pairwise fun u u' =>
      u.key = u'.key → u.sequenceNumber < u'.sequenceNumber) ∧
    ∀ s s' : SequenceNumber, SequenceNumber.increment.run s = .ok () s' → s'.value = s.value + 1 := by
  have h₀ : UsesIncrease c.seqView := by
    have huses : c.seqView.uses = [] := hinit
    refine ⟨?_, ?_, ?_⟩ <;> rw [huses] <;> simp
  refine ⟨(invariant_of_step usesIncrease_step hrun h₀).increase, fun s s' hs => ?_⟩
  by_cases hlt : s.value + 1 < 2 ^ 64
  · rw [SequenceNumber.increment_of_lt hlt] at hs
    cases hs
    exact SequenceNumber.value_ofNat hlt
  · have hmax : s.value + 1 = 2 ^ 64 := by
      have := s.value_lt
      omega
    rw [SequenceNumber.increment_of_max hmax] at hs
    cases hs

/-! ### The largest number -/

/-- A server with the TLS1.3 suite that copies, whose next record gets the sequence number `n`. -/
def serverAt (n : ℕ) : Conn Unit where
  mode := .server
  crypto :=
    { initial := CryptoParameters.new ()
      secure :=
        { cipherSuite := copyingCipherSuite
          client := CryptoSide.new ()
          server := { CryptoSide.new () with sequenceNumber := SequenceNumber.ofNat n } }
      client := .secure
      server := .secure }
  send := { multirecordSend := true }

/-- One call of `s2n_record_writev` with a byte of application data. -/
def writeByte (c : Conn Unit) : Conn Unit :=
  finalState (recordWritev tlsApplicationData (some [⟨fun _ => 7, 1, false⟩]) 0 1) c

theorem sequenceUses_increase_two_records :
    (writeByte (writeByte (serverAt 0))).trace.sequenceUses.map (·.sequenceNumber) = [0, 1] ∧
    (writeByte (writeByte (serverAt 0))).trace.sequenceUses.Pairwise fun u u' =>
      u.key = u'.key → u.sequenceNumber < u'.sequenceNumber := by
  refine ⟨by rfl, (sequenceUses_increase (c := serverAt 0) rfl ?_).1⟩
  refine (ReflTransGen.single ?_).tail (b := writeByte (serverAt 0)) ?_
  · exact SendStep.write _ _ _ _ ⟨show (serverAt 0).writeSequence _ ≠ _ by decide, fun _ => rfl⟩
  · exact SendStep.write _ _ _ _ ⟨show (writeByte (serverAt 0)).writeSequence _ ≠ _ by decide, fun _ => rfl⟩

def copyingStream : StreamCipher Unit where
  encrypt k d := some (k, d)
  decrypt k d := some (k, d)
  encrypt_length := by rintro k k' d d' ⟨⟩; rfl
  decrypt_length := by rintro k k' d d' ⟨⟩; rfl

/-- A suite with that cipher and a MAC. -/
def copyingStreamSuite : CipherSuite Unit where
  recordAlg :=
    { cipher := ⟨.stream copyingStream, 32, fun k _ => some k, fun k _ => some k⟩
      hmacAlg := .md5
      flags := .none
      encryptionLimit := 2 ^ 64 - 1
      wellFormed := ⟨by decide, rfl⟩ }
  prfAlg := .sha256

/-- A server with a stream cipher that copies and a MAC of zeros, whose reset fails. -/
def macServer : Conn Unit where
  mode := .server
  actualProtocolVersion := tls12
  crypto :=
    { initial := CryptoParameters.new ()
      secure :=
        { cipherSuite := copyingStreamSuite
          client := CryptoSide.new ()
          server := { CryptoSide.new () with recordMac :=
            { alg := .md5, mac := fun _ => List.replicate 16 0, mac_length := fun _ => rfl,
              fed := [], ready := true } } }
      client := .secure
      server := .secure }
  send := { multirecordSend := true }
  env := { fault := fun f => f == .hmacReset }

/-- The connection after a call in which the reset failed; now it works. -/
def macServerAfter : Conn Unit := { writeByte macServer with env := {} }

/-- **A number is used again.** The second of three calls finds the counter at its largest value, fails
with `S2N_ERR_RECORD_LIMIT` and leaves zero, which the third call then uses. And a call whose MAC could not be reset
fails before the number is incremented, so that the next call uses it again. -/
theorem sequenceUses_wrap :
    (∃ c c' : Conn Unit, c.trace.sequenceUses = [] ∧ ReflTransGen (SendStep fun _ _ => True) c c' ∧
      c'.trace.sequenceUses = [⟨.secure, .server, 0, 2 ^ 64 - 2⟩, ⟨.secure, .server, 0, 0⟩] ∧
      ¬ c'.trace.sequenceUses.Pairwise fun u u' => u.key = u'.key → u.sequenceNumber < u'.sequenceNumber) ∧
    ∃ c c' : Conn Unit, c.trace.sequenceUses = [] ∧ ReflTransGen (SendStep Conn.BelowLimit) c c' ∧
      c'.trace.sequenceUses = [⟨.secure, .server, 0, 0⟩, ⟨.secure, .server, 0, 0⟩] := by
  refine ⟨?_, macServer, writeByte macServerAfter, rfl, ?_, by rfl⟩
  · have hstep : ∀ c : Conn Unit, SendStep (fun _ _ => True) c (writeByte c) := fun c =>
      SendStep.write _ _ _ _ trivial
    refine ⟨serverAt (2 ^ 64 - 2), writeByte (writeByte (writeByte (serverAt (2 ^ 64 - 2)))), rfl,
      ((ReflTransGen.single (hstep _)).tail (hstep _)).tail (hstep _), by rfl, ?_⟩
    intro h
    have huses : (writeByte (writeByte (writeByte (serverAt (2 ^ 64 - 2))))).trace.sequenceUses =
        [⟨.secure, .server, 0, 2 ^ 64 - 2⟩, ⟨.secure, .server, 0, 0⟩] := by rfl
    rw [huses] at h
    exact absurd h (by simp [SequenceUse.key])
  · refine ((ReflTransGen.single (b := writeByte macServer) ?_).tail (b := writeByte macServer) (c := macServerAfter)
      ?_).tail ?_
    · exact SendStep.write _ _ _ _ (show macServer.writeSequence _ ≠ _ by decide)
    · exact SendStep.other _ rfl
    · exact SendStep.write _ _ _ _ (show macServerAfter.writeSequence _ ≠ _ by decide)

end S2nTls
