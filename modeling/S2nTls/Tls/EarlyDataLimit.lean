import S2nTls.Tls.Guards

/-!
The limit of early data.

A client may send as much early data as the first PSK allows for. What a call has put into records, and what it tells
the caller, are counted apart, and the records of a call that fails belong to the next one. A server counts what it
receives and what it passes over.
-/

namespace S2nTls

open Lib Stuffer

variable {K ω α : Type} {c : Conn K} {hs : Handlers K} {E : Err → Prop} {I : Conn K → Prop} {view : Conn K → ω}
variable {c' : Conn K} {B M : ℕ}

/-! ### What the calls keep -/

variable {m : IoM K α}

section Release

variable {P : Err → Prop}

lemma throws_onEndIo (hm : Throws P m) : Throws P (onEndIo m) := by
  unfold onEndIo
  exact hm.zoom

lemma throws_growableAlloc_zero (malloc : ℕ → Bool) : Throws P (growableAlloc malloc 0) := by
  intro t
  exact trivial

lemma throws_free (h : P .cancelled) (malloc : Allocator) : Throws P (free malloc) := fun t =>
  wp_mono (fun _ _ _ => trivial) (fun e _ (hfail : e = .cancelled ∧ _) => hfail.1 ▸ h) (wp_free malloc t)

lemma throws_dynamicFreeInBuffer (h : P .cancelled) : Throws P (onLink dynamicFreeInBuffer : IoM K Unit) := by
  have hpart : ∀ f : StufferM Unit, Throws P f → Throws P (onPart bufferInPart f : LinkM K Unit) := by
    intro f hf
    unfold onPart
    exact hf.zoom
  have hfree : Throws P (dynamicFreeInBuffer : LinkM K Unit) := by
    unfold dynamicFreeInBuffer
    refine .read fun _ => .when (.bind (hpart _ (throws_free h _)) fun _ => ?_)
    exact hpart _ (throws_growableAlloc_zero _)
  unfold onLink
  exact hfree.zoom

lemma throws_dynamicFreeOutBuffer (h : P .cancelled) : Throws P (dynamicFreeOutBuffer : ConnM K Unit) := by
  have hout : ∀ f : StufferM Unit, Throws P f → Throws P (onOut f : ConnM K Unit) := by
    intro f hf
    unfold onOut
    exact hf.zoom
  unfold dynamicFreeOutBuffer
  refine .read fun _ => .when (.bind (hout _ (throws_free h _)) fun _ => ?_)
  exact hout _ (throws_growableAlloc_zero _)

end Release

namespace Inert

variable (h : Inert view E I)

include h

lemma dynamicFreeInBuffer : FramesLink view (dynamicFreeInBuffer : LinkM K Unit) := by
  unfold S2nTls.dynamicFreeInBuffer
  exact .read fun _ => .when (.bind (h.onBufferInPart _) fun _ => h.onBufferInPart _)

lemma dynamicFreeOutBuffer : Frames view (dynamicFreeOutBuffer : ConnM K Unit) := by
  unfold S2nTls.dynamicFreeOutBuffer
  exact .read fun _ => .when (.bind (h.onOut _) fun _ => h.onOut _)

omit h in
lemma onEndIo (hm : KeepsIf E (fun s : Io K => I s.link.conn) m) :
    KeepsIf E (fun e : Endpoint K => I e.conn) (onEndIo m) :=
  hm.zoom (fun _ hs => hs) fun _ _ _ ht => ht

omit h in
lemma modifyEndpoint {f : Endpoint K → Endpoint K} (hf : ∀ e, (f e).conn = e.conn) :
    KeepsIf E (fun e : Endpoint K => I e.conn) (modify f : EndM K Unit) :=
  (Keeps.modify fun e he => by rw [hf]; exact he).keepsIf

lemma recordSentBytes (r : Except Err ℕ) : KeepsIf E I (recordSentBytes r : ConnM K Unit) := by
  cases r with
  | ok n => exact h.earlyBytes n
  | error e => exact .pure _

omit h in
lemma frames_onEndIo (hm : FramesIo view m) :
    Frames (fun e : Endpoint K => view e.conn) (S2nTls.onEndIo m) := by
  intro e
  unfold S2nTls.onEndIo
  rw [wp_zoom]
  exact hm e.io

lemma recvEnd (r : Except Err (List UInt8)) : KeepsIf E (fun e : Endpoint K => I e.conn) (do
    S2nTls.onEndIo (onLink S2nTls.dynamicFreeInBuffer)
    modify fun e => { e with recvInUse := false }
    MonadExcept.ofExcept r) := by
  refine .bind (onEndIo (h.ofIo (frames_onLink h.dynamicFreeInBuffer))) fun _ => ?_
  exact .bind (modifyEndpoint fun _ => rfl) fun _ => (Keeps.ofExcept _).keepsIf

lemma recvConn (size : ℤ) : KeepsIf E (fun e : Endpoint K => I e.conn) (S2nTls.recv size) := by
  unfold S2nTls.recv
  refine .read fun _ => .checked <| .bind (modifyEndpoint fun _ => rfl) fun _ => ?_
  have himpl : KeepsIf E (fun e : Endpoint K => I e.conn) (attempt (S2nTls.onEndIo (S2nTls.recvImpl size))) :=
    (frames_onEndIo (h.recvImpl size)).attempt.keepsIf fun e e' => h.respects e.conn e'.conn
  refine .bind himpl fun r => .bind (onEndIo (keepsIf_onIoConn (h.recordSentBytes _))) fun _ => ?_
  exact h.recvEnd r

lemma negotiateConn (hr : hs.Respect E I) (fuel : ℕ) :
    KeepsIf E (fun e : Endpoint K => I e.conn) (S2nTls.negotiate hs fuel) := by
  unfold S2nTls.negotiate
  refine .read fun _ => .checked <| .bind (modifyEndpoint fun _ => rfl) fun _ => ?_
  have hrest : ∀ r : Except Err Unit, KeepsIf E (fun e : Endpoint K => I e.conn) (do
      S2nTls.onEndIo (onLink S2nTls.dynamicFreeInBuffer)
      onEndConn S2nTls.dynamicFreeOutBuffer
      modify fun e => { e with negotiateInUse := false }
      MonadExcept.ofExcept r) := by
    intro r
    refine .bind (onEndIo (h.ofIo (frames_onLink h.dynamicFreeInBuffer))) fun _ => ?_
    refine .bind (onEndIo (h.ofIo (frames_onIoConn h.dynamicFreeOutBuffer))) fun _ => ?_
    exact .bind (modifyEndpoint fun _ => rfl) fun _ => (Keeps.ofExcept _).keepsIf
  refine (onEndIo (h.negotiateImpl hr fuel)).attempt_bind (fun _ => hrest _) (fun _ _ => hrest _) fun e he => ?_
  -- a buffer that cannot be given back breaks no more than the handshake did
  have hcancelled : ¬ E .cancelled := fun hall => he (h.errors .cancelled (by decide) hall e)
  refine .bind (throws_onEndIo (throws_dynamicFreeInBuffer hcancelled)) fun _ => ?_
  refine .bind (throws_onEndIo (throws_onIoConn (throws_dynamicFreeOutBuffer hcancelled))) fun _ => ?_
  exact .bind (.modify _) fun _ => .throw he

end Inert

/-! ### The counter -/

/-- The counter has not gone down, nor has it wrapped. -/
def Conn.Counting (B : ℕ) (c : Conn K) : Prop := B ≤ c.earlyData.bytes ∧ c.earlyData.bytes < 2 ^ 64

/-- What `s2n_early_data_record_bytes` does to the counter, however it ends. -/
lemma wp_earlyDataRecordBytes_bytes (n : ℕ) (c : Conn K) :
    wp (earlyDataRecordBytes n)
      (fun _ c' => ∃ m, c' = { c with earlyData := { c.earlyData with bytes := m } } ∧ c.earlyData.bytes ≤ m ∧
        (c.earlyData.bytes < 2 ^ 64 → m < 2 ^ 64) ∧ (c.isEarlyDataIo = true → m ≤ c.maxEarlyDataSize.toNat) ∧
        (c.isEarlyDataIo = false → m = c.earlyData.bytes))
      (fun e c' => e.type ≠ .blocked ∧ ∃ m, c' = { c with earlyData := { c.earlyData with bytes := m } } ∧
        (c.earlyData.bytes < 2 ^ 64 → c.earlyData.bytes ≤ m ∧ m < 2 ^ 64)) c := by
  have hmax := c.maxEarlyDataSize.toNat_lt
  refine wp_mono (fun _ c' h => ?_) (fun _ c' h => h.2) (wp_earlyDataRecordBytes n c)
  obtain ⟨hcounts, rfl⟩ := h
  unfold Conn.countEarly
  cases hio : c.isEarlyDataIo with
  | true =>
    have hle := hcounts hio
    exact ⟨_, if_pos rfl, Nat.le_add_right _ _, fun _ => by omega, fun _ => hle, fun hno => absurd hno (by decide)⟩
  | false => exact ⟨c.earlyData.bytes, if_neg (by decide), le_rfl, id, fun hno => absurd hno (by decide), fun _ => rfl⟩

lemma keeps_counting_earlyDataRecordBytes (B n : ℕ) :
    Keeps (Conn.Counting B) (earlyDataRecordBytes n : ConnM K Unit) := by
  intro c hc
  refine wp_mono (fun _ c' hc' => ?_) (fun _ c' hc' => ?_) (wp_earlyDataRecordBytes_bytes n c)
  · obtain ⟨m, rfl, hle, hlt, -⟩ := hc'
    exact ⟨hc.1.trans hle, hlt hc.2⟩
  · obtain ⟨-, m, rfl, hm⟩ := hc'
    exact ⟨hc.1.trans (hm hc.2).1, (hm hc.2).2⟩

/-! ### The client -/

/-- How much has been counted, and how much is in records that the caller has not been told about. -/
def Conn.countView (c : Conn K) : ℕ × ℕ := (c.earlyData.bytes, c.send.currentUserDataConsumed)

/-- The two counters together account for `N` bytes. -/
def Conn.Covers (B N : ℕ) (c : Conn K) : Prop :=
  c.Counting B ∧ N ≤ c.earlyData.bytes + c.send.currentUserDataConsumed

lemma outer_countView : Outer (Conn.countView (K := K)) where
  send _ _ hs := Prod.ext rfl (Prod.mk.inj (Prod.mk.inj hs).2).2

lemma Conn.Covers.of_countView {N : ℕ} {c : Conn K} (h : c'.countView = c.countView) (hc : c.Covers B N) :
    c'.Covers B N := by
  obtain ⟨hbytes, hconsumed⟩ := Prod.mk.inj h
  unfold Conn.Covers Conn.Counting at *
  rw [hbytes, hconsumed]
  exact hc

lemma inert_covers (B N : ℕ) : Inert (Conn.countView (K := K)) (fun _ => True) (Conn.Covers B N) where
  toOuter := outer_countView
  respects _ _ h hc := hc.of_countView h
  number _ _ hc := hc
  type _ _ _ hc := hc
  earlyBytes n := by
    refine Keeps.keepsIf fun c hc => ?_
    refine wp_mono (fun _ c' hc' => ?_) (fun _ c' hc' => ?_) (wp_earlyDataRecordBytes_bytes n c)
    · obtain ⟨m, rfl, hle, hlt, -⟩ := hc'
      exact ⟨⟨hc.1.1.trans hle, hlt hc.1.2⟩, hc.2.trans (Nat.add_le_add_right hle _)⟩
    · obtain ⟨-, m, rfl, hm⟩ := hc'
      obtain ⟨hle, hlt⟩ := hm hc.1.2
      exact ⟨⟨hc.1.1.trans hle, hlt⟩, hc.2.trans (Nat.add_le_add_right hle _)⟩
  anyRecord _ _ := rfl
  errors _ _ _ _ := trivial

/-- What a call of `s2n_send` changes in the accounts: nothing, or what it has put into records is covered and within
the limit. -/
def Counted (M : ℕ) (c c' : Conn K) : Prop :=
  (c'.countView = c.countView ∧ c'.appBytes = c.appBytes) ∨
    c'.appBytes + (c.earlyData.bytes + c.send.currentUserDataConsumed) ≤
        c.appBytes + (c'.earlyData.bytes + c'.send.currentUserDataConsumed) ∧
      c'.earlyData.bytes + c'.send.currentUserDataConsumed ≤ M ∧ c.appBytes ≤ c'.appBytes

/-- The guard, the buffer and the limit aside, nothing is left to do after the bytes have been counted. -/
lemma frames_sendvEnd (r : Except Err ℕ) :
    Frames (fun c : Conn K => (c.countView, c.appBytes)) (do
      dynamicFreeOutBuffer
      modifySend fun s => { s with sendInUse := false }
      MonadExcept.ofExcept r) := by
  have hfree : Frames (fun c : Conn K => (c.countView, c.appBytes)) dynamicFreeOutBuffer := by
    unfold dynamicFreeOutBuffer
    refine .read fun _ => .when ?_
    exact .bind (frames_onOut (fun _ _ => rfl) _) fun _ => frames_onOut (fun _ _ => rfl) _
  exact .bind hfree fun _ => .bind (.modify fun _ => rfl) fun _ => .ofExcept r

/-- A total that `s2n_early_data_validate_send` sees as it is. -/
def TotalFits (iov : List Iovec) (offs : ℤ) : Prop :=
  ∀ totalSize ∈ (sendvTotalSize iov offs).toOption, totalSize < 2 ^ 32

lemma Accounted.within {totalSize n : ℕ} (h : Accounted c totalSize n c') (hlt : totalSize < 2 ^ 32)
    (hearly : c.isEarlyDataIo = true) :
    c'.appBytes + (c.earlyData.bytes + c.send.currentUserDataConsumed) ≤
        c.appBytes + (c.earlyData.bytes + n + c'.send.currentUserDataConsumed) ∧
      c.earlyData.bytes + n + c'.send.currentUserDataConsumed ≤ c.maxEarlyDataSize.toNat ∧
      c.appBytes ≤ c'.appBytes := by
  have hgrows := h.grows
  have hallowed := h.allowed hearly
  have hle := h.le_total
  have happ := h.appBytes
  omega

/-- **The account of a call that sends early data.** -/
lemma wp_sendvWithOffset_early {iov : List Iovec} {offs : ℤ} (hearly : c.isEarlyDataIo = true)
    (hktls : c.send.ktlsSendEnabled = false) (hfits : TotalFits iov offs) :
    wp (sendvWithOffset iov offs) (fun _ c' => Counted c.maxEarlyDataSize.toNat c c')
      (fun _ c' => Counted c.maxEarlyDataSize.toNat c c') c := by
  unfold sendvWithOffset
  refine wp_guard (.inl ⟨rfl, rfl⟩) fun _ => ?_
  rw [wp_bind, wp_modifySend, wp_bind, wp_attempt]
  have hlt : ∀ totalSize, sendvTotalSize iov offs = .ok totalSize → totalSize < 2 ^ 32 :=
    fun totalSize htotal => hfits totalSize (by rw [htotal]; rfl)
  have hend : ∀ (r : Except Err ℕ) (c₂ : Conn K), Counted c.maxEarlyDataSize.toNat c c₂ →
      wp (do dynamicFreeOutBuffer; modifySend fun s => { s with sendInUse := false }; MonadExcept.ofExcept r)
        (fun _ c' => Counted c.maxEarlyDataSize.toNat c c') (fun _ c' => Counted c.maxEarlyDataSize.toNat c c') c₂ := by
    intro r c₂ hcounted
    have hsame : ∀ c' : Conn K, (c'.countView, c'.appBytes) = (c₂.countView, c₂.appBytes) →
        Counted c.maxEarlyDataSize.toNat c c' := by
      intro c' h'
      obtain ⟨hview, happ⟩ := Prod.mk.inj h'
      obtain ⟨hbytes, hconsumed⟩ := Prod.mk.inj hview
      unfold Counted at hcounted ⊢
      rw [hview, happ, hbytes, hconsumed]
      exact hcounted
    exact (frames_sendvEnd r).wp (fun _ c' h' => hsame c' h') fun _ c' h' => hsame c' h'
  refine wp_mono (fun n c₂ h₂ => ?_) (fun e c₂ h₂ => ?_) (wp_sendvWithOffsetImpl iov offs)
  · obtain ⟨hview, hrecords⟩ := h₂
    obtain ⟨totalSize, htotal, hacc⟩ := hrecords hktls
    have hearly₂ : c₂.isEarlyDataIo = true := (isEarlyDataIo_of_ioView hview).trans hearly
    have hwithin := hacc.within (hlt _ htotal) hearly
    have hcounts : c₂.Counts (.ok n) := fun _ => by
      rw [earlyData_of_ioView hview, maxEarlyDataSize_of_ioView hview]
      exact le_of_add_le_left hwithin.2.1
    refine wp_seq (wp_earlyDataRecordBytes n c₂) (fun _ c₃ h₃ => ?_) fun _ _ hfail => absurd hcounts hfail.1
    refine hend _ c₃ (.inr ?_)
    rw [h₃.2, Conn.countEarly, if_pos hearly₂, earlyData_of_ioView hview]
    exact hwithin
  · refine hend _ c₂ ?_
    obtain ⟨hview, hsame | ⟨totalSize, htotal, hacc⟩⟩ := h₂
    · have hwrote := Wrote.of_view hsame
      have hdata := earlyData_of_ioView hview
      exact .inl ⟨Prod.ext (congrArg EarlyData.bytes hdata) hwrote.consumed, hwrote.appBytes⟩
    · refine .inr ?_
      rw [earlyData_of_ioView hview]
      exact hacc.within (hlt _ htotal) hearly

lemma keeps_counting_sendvWithOffset (B : ℕ) (iov : List Iovec) (offs : ℤ) :
    Keeps (Conn.Counting B) (sendvWithOffset iov offs : ConnM K ℕ) := by
  have himpl : Keeps (Conn.Counting B) (sendvWithOffsetImpl iov offs : ConnM K ℕ) := by
    intro c hc
    have hsame : ∀ c' : Conn K, c'.ioView = c.ioView → c'.Counting B := by
      intro c' hview
      unfold Conn.Counting
      rw [earlyData_of_ioView hview]
      exact hc
    exact wp_mono (fun _ c' h => hsame c' h.1) (fun _ c' h => hsame c' h.1) (wp_sendvWithOffsetImpl iov offs)
  unfold sendvWithOffset
  refine .read fun _ => .checked ?_
  refine .bind (.modify fun _ hc => hc) fun _ => .bind himpl.attempt fun r => .bind ?_ fun _ => ?_
  · cases r with
    | ok n => exact keeps_counting_earlyDataRecordBytes B n
    | error e => exact .pure _
  · have hframes := (frames_sendvEnd (K := K) r).map fun p => p.1.1
    exact hframes.keeps fun n => B ≤ n ∧ n < 2 ^ 64

/-- A call that sends early data without kTLS and with a total below `2 ^ 32`, where `M` bytes are allowed. -/
def Sent.Within (M : ℕ) (s : Sent K) : Prop :=
  s.conn.isEarlyDataIo = true ∧ s.conn.send.ktlsSendEnabled = false ∧ TotalFits s.iov s.offs ∧
    s.conn.maxEarlyDataSize.toNat = M

/-- How much the calls have put into records. -/
def written (calls : List (Sent K)) : ℕ := (calls.map Sent.written).sum

/-- The counter works. Calls that follow one another and are all within the limit have together not put more than `M`
bytes into records; if no other one came after them then all of it is accounted for. -/
def Endpoint.Limited (B M : ℕ) (e : Endpoint K) : Prop :=
  e.conn.Counting B ∧
    (∀ calls, calls <:+ e.sent → (∀ s ∈ calls, s.Within M) →
      written calls ≤ e.conn.earlyData.bytes + e.conn.send.currentUserDataConsumed) ∧
    ∀ calls, calls <:+: e.sent → (∀ s ∈ calls, s.Within M) → written calls ≤ M

/-- A call that does not send application data. -/
lemma keeps_limited {call : GuardedCall} {body : EndM K α} (hrecord : Frames Endpoint.record body)
    (hcovers : ∀ N, KeepsIf (fun _ => True) (fun e : Endpoint K => e.conn.Covers B N) body) :
    Keeps (Endpoint.Limited B M) (begins call >>= fun _ => body) := by
  intro e he
  unfold begins
  rw [wp_update]
  set e₁ : Endpoint K := { e with begun := e.begun ++ [⟨call, e.io, e.guards⟩] } with he₁
  set N := e.conn.earlyData.bytes + e.conn.send.currentUserDataConsumed with hN
  have hend : ∀ e' : Endpoint K, e'.record = e₁.record ∧ e'.conn.Covers B N → e'.Limited B M := by
    rintro e' ⟨hrec, hconn⟩
    have hsent : e'.sent = e.sent := congrArg Prod.snd hrec
    refine ⟨hconn.1, fun calls hcalls hall => ?_, ?_⟩
    · rw [hsent] at hcalls
      exact (he.2.1 calls hcalls hall).trans hconn.2
    · rw [hsent]
      exact he.2.2
  have hkeeps := ((hcovers N).keeps fun _ => trivial) e₁ ⟨he.1, le_rfl⟩
  exact wp_always hend (wp_and (hrecord e₁) hkeeps)

lemma Counted.covers {E : ℕ} {c : Conn K} (h : Counted M c c') (hle : E ≤ M)
    (hcover : E ≤ c.earlyData.bytes + c.send.currentUserDataConsumed) :
    E + (c'.appBytes - c.appBytes) ≤ M ∧
      E + (c'.appBytes - c.appBytes) ≤ c'.earlyData.bytes + c'.send.currentUserDataConsumed := by
  obtain ⟨hview, happ⟩ | ⟨happ, hwithin, hgrows⟩ := h
  · obtain ⟨hbytes, hconsumed⟩ := Prod.mk.inj hview
    rw [happ, hbytes, hconsumed, Nat.sub_self]
    exact ⟨hle, hcover⟩
  · omega

lemma written_concat (calls : List (Sent K)) (s : Sent K) : written (calls ++ [s]) = written calls + s.written := by
  simp [written]

/-- **A call of `s2n_send`**, which is counted if it is within the limit. -/
lemma Endpoint.Limited.ends {e : Endpoint K} {iov : List Iovec} {offs : ℤ} (he : e.Limited B M)
    (hcounting : c'.Counting B) (hcounted : e.conn.isEarlyDataIo = true → e.conn.send.ktlsSendEnabled = false →
      TotalFits iov offs → Counted e.conn.maxEarlyDataSize.toNat e.conn c') : (e.ends iov offs c').Limited B M := by
  obtain ⟨-, hcover, hlimit⟩ := he
  -- the calls that end with this one
  have hlast : ∀ calls, calls <:+ (e.ends iov offs c').sent → (∀ s ∈ calls, s.Within M) →
      written calls ≤ M ∧ written calls ≤ c'.earlyData.bytes + c'.send.currentUserDataConsumed := by
    intro calls hcalls hall
    rcases List.suffix_concat_iff.mp hcalls with rfl | ⟨before, rfl, hbefore⟩
    · exact ⟨Nat.zero_le _, Nat.zero_le _⟩
    obtain ⟨hearly, hktls, hfits, hmax⟩ := hall _ (List.mem_append_right _ (List.mem_singleton_self _))
    have hall' : ∀ s ∈ before, s.Within M := fun s hs => hall s (List.mem_append_left _ hs)
    have hcounted' := hcounted hearly hktls hfits
    rw [hmax] at hcounted'
    rw [written_concat]
    exact hcounted'.covers (hlimit before hbefore.isInfix hall') (hcover before hbefore hall')
  refine ⟨hcounting, fun calls hcalls hall => (hlast calls hcalls hall).2, fun calls hcalls hall => ?_⟩
  rcases List.infix_concat_iff.mp hcalls with hsuffix | hinfix
  · exact (hlast calls hsuffix hall).1
  · exact hlimit calls hinfix hall

lemma keeps_limited_sendCall (B M : ℕ) (iov : List Iovec) (offs : ℤ) :
    Keeps (Endpoint.Limited B M) (sendCall iov offs : EndM K ℕ) := by
  intro e he
  unfold sendCall begins
  rw [wp_update, wp_zoom]
  set e₁ : Endpoint K := { e with begun := e.begun ++ [⟨.send iov offs, e.io, e.guards⟩] } with he₁
  have he₁ : e₁.Limited B M := he
  have hcounting := keeps_counting_sendvWithOffset B iov offs e.conn he.1
  by_cases hopen : e.conn.isEarlyDataIo = true ∧ e.conn.send.ktlsSendEnabled = false ∧ TotalFits iov offs
  · have hboth := wp_and hcounting (wp_sendvWithOffset_early hopen.1 hopen.2.1 hopen.2.2)
    exact wp_always (fun _ h => he₁.ends h.1 fun _ _ _ => h.2) hboth
  · exact wp_always (fun _ h => he₁.ends h fun hearly hktls hfits => absurd ⟨hearly, hktls, hfits⟩ hopen) hcounting

/-! ### The server -/

/-- Not more early data has been counted than is allowed. -/
def Conn.WithinLimit (c : Conn K) : Prop := c.earlyData.bytes ≤ c.maxEarlyDataSize.toNat

lemma Conn.WithinLimit.of_ioView (hview : c'.ioView = c.ioView) (hc : c.WithinLimit) : c'.WithinLimit := by
  unfold Conn.WithinLimit
  rw [earlyData_of_ioView hview, maxEarlyDataSize_of_ioView hview]
  exact hc

lemma inert_withinLimit : Inert (Conn.ioView (K := K)) (fun e => e.type = .blocked) Conn.WithinLimit where
  toOuter := steady_ioView.toOuter
  respects _ _ hview hc := hc.of_ioView hview
  number _ _ hc := hc
  type c t ht hc := by
    unfold Conn.WithinLimit Conn.maxEarlyDataSize at hc ⊢
    rw [ht]
    exact hc
  earlyBytes n := by
    intro c hc
    refine wp_mono (fun _ c' hc' => ?_) (fun e c' hc' he => absurd he hc'.1) (wp_earlyDataRecordBytes_bytes n c)
    obtain ⟨m, rfl, -, -, hearly, hother⟩ := hc'
    cases hio : c.isEarlyDataIo with
    | true => exact hearly hio
    | false =>
      have hm := hother hio
      rw [hm]
      exact hc
  anyRecord := steady_ioView.anyRecord
  errors _ hne he := absurd he hne

/-- **`s2n_recv` does not succeed beyond the limit**, during early data or after it was kept. -/
lemma wp_recv_withinLimit (size : ℤ) (e : Endpoint K) (h : e.conn.isEarlyDataIo = true ∨ e.conn.WithinLimit) :
    wp (recv size) (fun _ e' => e'.conn.WithinLimit) anyError e := by
  unfold recv
  refine wp_checked fun _ => ?_
  rw [wp_update, wp_bind, wp_attempt]
  have himpl : Frames (fun e : Endpoint K => e.conn.ioView) (onEndIo (recvImpl size)) :=
    Inert.frames_onEndIo (steady_ioView.toOuter.recvImpl size)
  refine himpl.wp (fun bs e₁ h₁ => ?_) fun err e₁ _ => ?_
  · unfold onEndConn onIoConn
    rw [wp_bind, onEndIo, wp_zoom, wp_zoom]
    refine wp_try (fun _ c₂ h₂ => ?_) (wp_earlyDataRecordBytes_bytes bs.length e₁.io.link.conn)
    obtain ⟨m, rfl, -, -, hearly, hother⟩ := h₂
    have hwithin : Conn.WithinLimit { e₁.conn with earlyData := { e₁.conn.earlyData with bytes := m } } := by
      cases hio : e₁.conn.isEarlyDataIo with
      | true => exact hearly hio
      | false =>
        rw [isEarlyDataIo_of_ioView h₁] at hio
        have hm := hother ((isEarlyDataIo_of_ioView h₁).trans hio)
        rw [hm]
        refine Conn.WithinLimit.of_ioView h₁ (h.resolve_left ?_)
        exact fun htrue => absurd (htrue.symm.trans hio) (by decide)
    have hrest := inert_withinLimit.recvEnd (K := K) (.ok bs)
    exact wp_try (fun _ _ ht => ht) (hrest _ hwithin)
  · have hfails : Fails (fun _ => True) (do
        onEndConn (recordSentBytes (Except.map List.length (.error err : Except Err (List UInt8))))
        onEndIo (onLink dynamicFreeInBuffer)
        modify fun e => { e with recvInUse := false }
        MonadExcept.ofExcept (.error err : Except Err (List UInt8)) : EndM K (List UInt8)) := by
      refine .bind (Throws.any _) fun _ => .bind (Throws.any _) fun _ => .bind (Throws.any _) fun _ => ?_
      exact .throw trivial
    exact wp_mono_ok (fun _ _ hno => hno.elim) (hfails e₁)

section Handshake

variable (hr : hs.Respect (fun e => e.type = .blocked) Conn.WithinLimit)

include hr

lemma keepsIf_recvEarlyDataLoop (fuel : ℕ) (maxDataLen : ℤ) (rounds : ℕ) :
    KeepsIf (fun e => e.type = .blocked) (fun e : Endpoint K => e.conn.WithinLimit)
      (recvEarlyDataLoop hs fuel maxDataLen rounds) := by
  have hbegins : ∀ call, KeepsIf (fun e : Err => e.type = .blocked) (fun e : Endpoint K => e.conn.WithinLimit)
      (begins call) := fun call => Inert.modifyEndpoint fun _ => rfl
  induction rounds with
  | zero => exact .throw _
  | succ rounds ih =>
    unfold recvEarlyDataLoop negotiateCall recvCall
    refine .attempt_bind (.bind (hbegins _) fun _ => inert_withinLimit.negotiateConn hr fuel)
      (fun _ => .pure _) (fun e _ => ?_) fun e he => ?_
    · refine .read fun _ => .ite (.throw _) (.read fun _ => ?_)
      refine .ite ?_ ?_
      · refine .bind (Api.Invariant.keeps_onEndConn_of_frames Api.Invariant.frames_canContinue).keepsIf fun _ => ?_
        exact .ite (.throw _) (Inert.onEndIo (inert_withinLimit.ofIo (frames_setBlocked _)))
      · refine .bind (.bind (hbegins _) fun _ => inert_withinLimit.recvConn _) fun _ => ?_
        exact .bind (Inert.modifyEndpoint fun _ => rfl) fun _ => ih
    · refine .read fun _ => ?_
      rw [if_pos (.inl he)]
      exact .throw he

/-- **`s2n_recv_early_data` does not succeed beyond the limit**, if it was kept before. -/
lemma keepsIf_recvEarlyData (fuel rounds : ℕ) (maxDataLen : ℤ) :
    KeepsIf (fun e => e.type = .blocked) (fun e : Endpoint K => e.conn.WithinLimit)
      (recvEarlyData hs fuel rounds maxDataLen) := by
  have hexpected : ∀ b, KeepsIf (fun e : Err => e.type = .blocked) (fun e : Endpoint K => e.conn.WithinLimit)
      (onEndConn (setEarlyDataExpected b)) := by
    intro b
    have hmodify : Keeps (Conn.WithinLimit (K := K)) (setEarlyDataExpected b) := .modify fun _ hc => hc
    exact Inert.onEndIo (keepsIf_onIoConn hmodify.keepsIf)
  have himpl : KeepsIf (fun e : Err => e.type = .blocked) (fun e : Endpoint K => e.conn.WithinLimit)
      (recvEarlyDataImpl hs fuel rounds maxDataLen) := by
    unfold recvEarlyDataImpl
    refine .bind (Inert.onEndIo (inert_withinLimit.ofIo (frames_setBlocked _))) fun _ => ?_
    refine .bind (Inert.modifyEndpoint fun _ => rfl) fun _ => .read fun _ => ?_
    refine .checked ?_
    refine .bind (Api.Invariant.keeps_onEndConn_of_frames Api.Invariant.frames_canContinue).keepsIf fun _ => ?_
    exact .ite (.pure _) (keepsIf_recvEarlyDataLoop hr fuel maxDataLen rounds)
  unfold recvEarlyData
  refine .bind (hexpected true) fun _ => himpl.attempt_bind (fun _ => ?_) (fun e _ => ?_) fun e he => ?_
  · exact .bind (hexpected false) fun _ => (Keeps.ofExcept _).keepsIf
  · exact .bind (hexpected false) fun _ => (Keeps.ofExcept _).keepsIf
  · have hmodify : Throws (fun e : Err => ¬ e.type = .blocked) (setEarlyDataExpected false : ConnM K Unit) :=
      .modify _
    exact .bind (throws_onEndIo (throws_onIoConn hmodify)) fun _ => .throw he

end Handshake

/-! ### Whole runs -/

/-- What is done for the messages does not touch the counters, and no message that is accepted lowers the limit below
what has been counted. -/
structure Handlers.CountsEarlyData (hs : Handlers K) : Prop where
  counters : hs.Leave Conn.countView
  limit : hs.Respect (fun e => e.type = .blocked) Conn.WithinLimit

lemma keeps_limited_of_frames {m : EndM K α}
    (hm : Frames (fun e : Endpoint K => (e.record, e.conn.countView)) m) : Keeps (Endpoint.Limited B M) m :=
  hm.keeps fun p => (B ≤ p.2.1 ∧ p.2.1 < 2 ^ 64) ∧
    (∀ calls, calls <:+ p.1.2 → (∀ s ∈ calls, s.Within M) → written calls ≤ p.2.1 + p.2.2) ∧
    ∀ calls, calls <:+: p.1.2 → (∀ s ∈ calls, s.Within M) → written calls ≤ M

lemma frames_counts_onEndIo {f : IoM K α} (hf : Frames (fun s : Io K => s.link.conn.countView) f) :
    Frames (fun e : Endpoint K => (e.record, e.conn.countView)) (onEndIo f) := by
  intro e
  unfold onEndIo
  rw [wp_zoom]
  have hsame : ∀ s : Io K, s.link.conn.countView = e.conn.countView →
      (Endpoint.record { e with io := s }, s.link.conn.countView) = (e.record, e.conn.countView) :=
    fun s hs => congrArg (e.record, ·) hs
  exact hf.wp (fun _ => hsame) fun _ => hsame

lemma limited_invariant (hl : hs.Leave Conn.countView) (B M : ℕ) : Api.Invariant hs (Endpoint.Limited B M) where
  send := keeps_limited_sendCall B M
  recv size := keeps_limited (frames_record_recv size) fun N => (inert_covers B N).recvConn size
  negotiate fuel := keeps_limited (frames_record_negotiate fuel) fun N =>
    (inert_covers B N).negotiateConn (hl.respect fun _ _ h hc => hc.of_countView h) fuel
  expected b := by
    have hmodify : Frames (Conn.countView (K := K)) (setEarlyDataExpected b) := .modify fun _ => rfl
    exact keeps_limited_of_frames (frames_counts_onEndIo (frames_onIoConn hmodify))
  blocked b := keeps_limited_of_frames (frames_counts_onEndIo (frames_setBlocked b))
  data _ _ _ he := he

/-- The key under which the connection writes: the parameters it is in, and how many keys were there before. -/
def Conn.writeKey (c : Conn K) : ParamsRef × ℕ := (c.writeRef, c.writeSide.generation)

/-- The calls of `s2n_send` that found the connection writing under `key`. -/
def Endpoint.sentUnder (e : Endpoint K) (key : ParamsRef × ℕ) : List (Sent K) :=
  e.sent.filter fun s => s.conn.writeKey = key

instance (iov : List Iovec) (offs : ℤ) : Decidable (TotalFits iov offs) :=
  inferInstanceAs (Decidable (∀ totalSize ∈ (sendvTotalSize iov offs).toOption, totalSize < 2 ^ 32))

instance (M : ℕ) (s : Sent K) : Decidable (s.Within M) := inferInstanceAs (Decidable (_ ∧ _ ∧ _ ∧ _))

/-! ### Examples -/

lemma idleHandlers_countsEarlyData : idleHandlers.CountsEarlyData where
  counters := ⟨fun _ => .pure (), .pure (), .pure (), .pure ()⟩
  limit := ⟨fun _ => .pure (), .pure (), .pure (), .pure ()⟩

/-- A stuffer without memory that can grow. -/
def growableStuffer : Stuffer := finalState (growableAlloc .ample 0) Stuffer.zero

/-- A client that has sent its first message and may send `limit` bytes of early data, in records of 16 bytes. -/
def earlyDataClient (limit : UInt32) (socket : List SendResult) : Endpoint Unit where
  io := { link := { conn := {
    mode := .client
    serverProtocolVersion := tls13
    actualProtocolVersion := tls13
    crypto :=
      { initial := CryptoParameters.new ()
        secure := { CryptoParameters.new () with cipherSuite := copyingCipherSuite }
        client := .secure }
    send := { maxOutgoingFragmentLength := 16 }
    recv := { bufferIn := growableStuffer, headerIn := growableStuffer }
    earlyData := { state := .requested, expected := true, psks := [⟨true, limit⟩] }
    handshake := { io := growableStuffer, stateMachine := .tls13, messageNumber := 1 }
    env := { socket := socket } } } }

/-- Six bytes in a record of which three are sent, then the same call again, then as much as is left of ten bytes. -/
def earlyDataCalls : List (ApiCall Unit) :=
  [.send [⟨fun _ => 7, 6, false⟩] 0, .sendEarlyData 1 (fun _ => 7) 6, .sendEarlyData 1 (fun _ => 9) 20]

end S2nTls
