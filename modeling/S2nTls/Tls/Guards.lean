import S2nTls.Tls.Api
import S2nTls.Tls.NegotiateFrame
import S2nTls.Tls.SendAccount

/-!
The guards against calls that overlap.

Between the call that a guard protects and the statement that releases it there are two that can fail: the bytes of
early data are counted, and an empty buffer is given back. A call leaves the guards as it found them exactly if neither
fails, whatever becomes of the call itself.
-/

namespace S2nTls

open Lib Stuffer

/-! ### Guards -/

section Guarded

variable {σ α G : Type} [PartialOrder G] {guards : σ → G} (flag : G → Bool) (put : Bool → G → G) (set : Bool → σ → σ)
  {body : EStateM Err σ α} {finish : Except Err α → EStateM Err σ Unit}

/-- What the calls with a guard have in common: the call itself, and what is done before the guard is released. -/
def guarded (inUse : σ → Bool) (body : EStateM Err σ α) (finish : Except Err α → EStateM Err σ Unit) :
    EStateM Err σ α := do
  ensure (inUse (← get) = false) .reentrancy
  modify (set true)
  let result ← attempt body
  finish result
  modify (set false)
  MonadExcept.ofExcept result

lemma frames_guarded {ω : Type} {view : σ → ω} {inUse : σ → Bool} (hset : ∀ b s, view (set b s) = view s)
    (hbody : Frames view body) (hfinish : ∀ r, Frames view (finish r)) :
    Frames view (guarded set inUse body finish) := by
  unfold guarded
  refine .read fun _ => .checked <| .bind (.modify (hset true)) fun _ => .bind hbody.attempt fun r => ?_
  exact .bind (hfinish r) fun _ => .bind (.modify (hset false)) fun _ => .ofExcept r

/-- **The guard is released exactly if the end of the call does not fail.** -/
lemma wp_guarded {fits : Except Err α → σ → Prop}
    (hput : ∀ g, flag g = false → put false (put true g) = g ∧ g < put true g)
    (hset : ∀ b s, guards (set b s) = put b (guards s)) (hbody : Frames guards body)
    (hfinish : ∀ r s, wp (finish r) (fun _ t => fits r s ∧ guards t = guards s)
      (fun _ t => ¬ fits r s ∧ guards t = guards s) s) (s : σ) :
    let released (t : σ) : Prop := guards s ≤ guards t ∧ (guards t = guards s ↔
      (flag (guards s) = false → fits (outcome body (set true s)) (finalState body (set true s))))
    wp (guarded set (fun s => flag (guards s)) body finish) (fun _ => released) (fun _ => released) s := by
  intro released
  unfold guarded
  rw [wp_read]
  refine wp_seq_ensure (fun hfree => ?_) fun hused => ⟨le_rfl, iff_of_true rfl fun hfree => absurd hfree hused⟩
  obtain ⟨hback, hgrows⟩ := hput _ hfree
  rw [wp_update, wp_bind, wp_attempt]
  have hrest : ∀ r s₂, outcome body (set true s) = r ∧ finalState body (set true s) = s₂ →
      guards s₂ = guards (set true s) →
      wp (finish r >>= fun _ => modify (set false) >>= fun _ => MonadExcept.ofExcept r) (fun _ => released)
        (fun _ => released) s₂ := by
    rintro _ _ ⟨rfl, rfl⟩ hview
    rw [hset] at hview
    refine wp_seq (hfinish _ _) (fun _ s₃ h₃ => ?_) fun _ s₃ h₃ => ?_
    · have hsame : guards (set false s₃) = guards s := by rw [hset, h₃.2, hview, hback]
      have hend : released (set false s₃) := ⟨hsame.ge, iff_of_true hsame fun _ => h₃.1⟩
      rw [wp_update]
      exact (wp_ofExcept _).mpr ⟨fun _ _ => hend, fun _ _ => hend⟩
    · have hkept : guards s < guards s₃ := by rwa [h₃.2, hview]
      exact ⟨hkept.le, iff_of_false hkept.ne' fun hfits => h₃.1 (hfits hfree)⟩
  exact wp_mono (fun _ s₂ h => hrest _ s₂ h.1 h.2) (fun _ s₂ h => hrest _ s₂ h.1 h.2)
    (wp_and (wp_outcome body (set true s)) (hbody (set true s)))

end Guarded

variable {K : Type} {c : Conn K} {hs : Handlers K}
variable {c' : Conn K} {e : Endpoint K}

/-! ### The end of a call -/

/-- The connection with `send_in_use` set or cleared. -/
def Conn.setSendInUse (b : Bool) (c : Conn K) : Conn K := { c with send := { c.send with sendInUse := b } }

/-- What a call returns is within what is left of the limit, if it is early data. -/
def Conn.Counts (c : Conn K) : Except Err ℕ → Prop
  | .ok n => c.isEarlyDataIo = true → c.earlyData.bytes + n ≤ c.maxEarlyDataSize.toNat
  | .error _ => True

/-- `conn->out` need not be given back, or can be. -/
def Conn.OutReleases (c : Conn K) : Prop :=
  c.send.dynamicBuffers = true ∧ c.send.out.isConsumed = true → c.send.out.CanFree ⟨c.env.malloc, !c.env.fault .free⟩

/-- `conn->buffer_in` need not be given back, or can be. -/
def Conn.InReleases (c : Conn K) : Prop :=
  c.send.dynamicBuffers = true ∧ c.recv.bufferIn.isConsumed = true →
    c.recv.bufferIn.CanFree ⟨c.env.malloc, !c.env.fault .free⟩

/-- The connection after `n` bytes have been counted, if they are early data. -/
def Conn.countEarly (c : Conn K) (n : ℕ) : Conn K :=
  if c.isEarlyDataIo = true then { c with earlyData := { c.earlyData with bytes := c.earlyData.bytes + n } } else c

lemma wp_earlyDataRecordBytes (n : ℕ) (c : Conn K) :
    wp (earlyDataRecordBytes n) (fun _ c' => c.Counts (.ok n) ∧ c' = c.countEarly n)
      (fun e c' => ¬ c.Counts (.ok n) ∧ e.type ≠ .blocked ∧
        ∃ m, c' = { c with earlyData := { c.earlyData with bytes := m } } ∧
          (c.earlyData.bytes < 2 ^ 64 → c.earlyData.bytes ≤ m ∧ m < 2 ^ 64)) c := by
  unfold earlyDataRecordBytes Conn.countEarly Conn.Counts
  rw [wp_read, wp_when]
  refine ⟨fun hearly => ?_, fun hno => ⟨fun hearly => absurd hearly hno, (if_neg hno).symm⟩⟩
  have hmax := c.maxEarlyDataSize.toNat_lt
  rw [wp_ite]
  refine ⟨fun hover => ?_, fun hfits => ?_⟩
  · refine ⟨fun hle => ?_, by decide, 2 ^ 64 - 1, rfl, fun hlt => by omega⟩
    have := hle hearly
    omega
  · rw [wp_update, wp_ensure]
    refine ⟨fun hle => ⟨fun _ => hle, (if_pos hearly).symm⟩, fun hno => ⟨fun hle => hno (hle hearly), by decide, ?_⟩⟩
    exact ⟨_, rfl, fun _ => ⟨Nat.le_add_right _ _, by omega⟩⟩

/-- Counting changes nothing but the counter. -/
lemma wp_recordSentBytes (r : Except Err ℕ) (c : Conn K) :
    wp (recordSentBytes r)
      (fun _ c' => c.Counts r ∧ ∃ m, c' = { c with earlyData := { c.earlyData with bytes := m } })
      (fun _ c' => ¬ c.Counts r ∧ ∃ m, c' = { c with earlyData := { c.earlyData with bytes := m } }) c := by
  cases r with
  | error e => exact ⟨trivial, c.earlyData.bytes, rfl⟩
  | ok n =>
    refine wp_mono (fun _ c' h => ⟨h.1, ?_⟩) (fun _ c' h => ⟨h.1, ?_⟩) (wp_earlyDataRecordBytes n c)
    · rw [h.2]
      unfold Conn.countEarly
      split
      · exact ⟨_, rfl⟩
      · exact ⟨c.earlyData.bytes, rfl⟩
    · obtain ⟨m, hm, -⟩ := h.2.2
      exact ⟨m, hm⟩

lemma wp_dynamicFreeOutBuffer (c : Conn K) :
    wp dynamicFreeOutBuffer (fun _ c' => c.OutReleases ∧ c'.send.sendInUse = c.send.sendInUse)
      (fun _ c' => ¬ c.OutReleases ∧ c'.send.sendInUse = c.send.sendInUse) c := by
  unfold dynamicFreeOutBuffer Conn.OutReleases onOut
  rw [wp_read, wp_when]
  refine ⟨fun hempty => ?_, fun hno => ⟨fun h => absurd h hno, rfl⟩⟩
  rw [wp_bind, wp_zoom]
  refine wp_mono (fun _ _ hfree => ?_) (fun _ _ hfail => ?_) (wp_free _ c.send.out)
  · exact ⟨fun _ => hfree.2, rfl⟩
  · exact ⟨fun h => hfail.2 (h hempty), rfl⟩

lemma wp_dynamicFreeInBuffer (l : Link K) :
    wp dynamicFreeInBuffer
      (fun _ l' => l.conn.InReleases ∧ l'.conn.send = l.conn.send ∧ l'.conn.env = l.conn.env)
      (fun _ l' => ¬ l.conn.InReleases ∧ l'.conn.send = l.conn.send ∧ l'.conn.env = l.conn.env) l := by
  unfold dynamicFreeInBuffer Conn.InReleases onPart
  rw [wp_read, wp_when]
  refine ⟨fun hempty => ?_, fun hno => ⟨fun h => absurd h hno, rfl, rfl⟩⟩
  rw [wp_bind, wp_zoom]
  refine wp_mono (fun _ _ hfree => ?_) (fun _ _ hfail => ?_) (wp_free _ l.conn.recv.bufferIn)
  · exact ⟨fun _ => hfree.2, rfl, rfl⟩
  · exact ⟨fun h => hfail.2 (h hempty), rfl, rfl⟩

/-! ### The calls -/

lemma inert_sendInUse (b : Bool) :
    Inert (fun c : Conn K => c.send.sendInUse) (fun _ => True) fun c => c.send.sendInUse = b where
  send _ _ hs := (Prod.mk.inj hs).1
  respects _ _ hview hc := hview.trans hc
  number _ _ hc := hc
  type _ _ _ hc := hc
  earlyBytes n := by
    refine Keeps.keepsIf fun c hc => ?_
    refine wp_mono (fun _ c' hc' => ?_) (fun _ c' hc' => ?_) (wp_recordSentBytes (.ok n) c)
    · obtain ⟨-, m, rfl⟩ := hc'
      exact hc
    · obtain ⟨-, m, rfl⟩ := hc'
      exact hc
  anyRecord _ _ := rfl
  errors _ _ _ _ := trivial

/-- The end of a call does not fail. -/
def Begun.Fits (hs : Handlers K) (b : Begun K) : Prop :=
  match b.call with
  | .send iov offs =>
    let c := b.io.link.conn.setSendInUse true
    let c' := finalState (sendvWithOffsetImpl iov offs) c
    b.guards.1 = false → c'.Counts (outcome (sendvWithOffsetImpl iov offs) c) ∧ c'.OutReleases
  | .recv size =>
    let c' := (finalState (recvImpl size) b.io).link.conn
    b.guards.2.1 = false → c'.Counts ((outcome (recvImpl size) b.io).map List.length) ∧ c'.InReleases
  | .negotiate fuel =>
    let c' := (finalState (negotiateImpl hs fuel) b.io).link.conn
    b.guards.2.2 = false → c'.InReleases ∧ c'.OutReleases

/-- The guards before and after a call. -/
def Begun.Released (hs : Handlers K) (b : Begun K) (guards : Bool × Bool × Bool) : Prop :=
  b.guards ≤ guards ∧ (guards = b.guards ↔ b.Fits hs)

/-- **`s2n_sendv_with_offset` releases its guard.** -/
lemma wp_sendvWithOffset_guard (iov : List Iovec) (offs : ℤ) (e : Endpoint K) :
    wp (sendvWithOffset iov offs)
      (fun _ c' => Begun.Released hs ⟨.send iov offs, e.io, e.guards⟩ (c'.send.sendInUse, e.guards.2))
      (fun _ c' => Begun.Released hs ⟨.send iov offs, e.io, e.guards⟩ (c'.send.sendInUse, e.guards.2)) e.conn := by
  have hguarded : (sendvWithOffset iov offs : ConnM K ℕ) = guarded Conn.setSendInUse (fun c => c.send.sendInUse)
      (sendvWithOffsetImpl iov offs) (fun r => do recordSentBytes r; dynamicFreeOutBuffer) := by
    unfold sendvWithOffset guarded
    simp only [bind_assoc]
    rfl
  have hbody : Frames (fun c : Conn K => (c.send.sendInUse, e.guards.2)) (sendvWithOffsetImpl iov offs) := fun c =>
    wp_mono (fun _ _ h => congrArg (fun v => (v.1.1, e.guards.2)) h.1)
      (fun _ _ h => congrArg (fun v => (v.1.1, e.guards.2)) h.1) (wp_sendvWithOffsetImpl iov offs)
  have hfinish : ∀ (r : Except Err ℕ) (c : Conn K), wp (do recordSentBytes r; dynamicFreeOutBuffer)
      (fun _ c' => (c.Counts r ∧ c.OutReleases) ∧ (c'.send.sendInUse, e.guards.2) = (c.send.sendInUse, e.guards.2))
      (fun _ c' => ¬ (c.Counts r ∧ c.OutReleases) ∧
        (c'.send.sendInUse, e.guards.2) = (c.send.sendInUse, e.guards.2)) c := by
    intro r c
    refine wp_seq (wp_recordSentBytes r c) (fun _ c₁ h₁ => ?_) fun _ c₁ h₁ => ?_
    · obtain ⟨hcounts, m, rfl⟩ := h₁
      exact wp_mono (fun _ _ h => ⟨⟨hcounts, h.1⟩, congrArg (·, e.guards.2) h.2⟩)
        (fun _ _ h => ⟨fun hall => h.1 hall.2, congrArg (·, e.guards.2) h.2⟩) (wp_dynamicFreeOutBuffer _)
    · obtain ⟨hcounts, m, rfl⟩ := h₁
      exact ⟨fun hall => hcounts hall.1, rfl⟩
  have hput : ∀ g : Bool × Bool × Bool, g.1 = false → (false, g.2) = g ∧ g < (true, g.2) := by
    rintro ⟨_, g⟩ rfl
    exact ⟨rfl, by simp⟩
  rw [hguarded]
  exact wp_guarded Prod.fst (fun b g => (b, g.2)) Conn.setSendInUse hput (fun _ _ => rfl) hbody hfinish e.conn

section Endpoint

variable {α : Type}

def Endpoint.record (e : Endpoint K) : List (Begun K) × List (Sent K) := (e.begun, e.sent)

lemma frames_record_onEndIo (f : IoM K α) : Frames Endpoint.record (onEndIo f) := by
  refine .zoom (fun _ _ => ?_) f
  rfl

lemma recv_eq (size : ℤ) : (recv size : EndM K (List UInt8)) =
    guarded (fun b e => { e with recvInUse := b }) (fun e => e.guards.2.1) (onEndIo (recvImpl size)) (fun r => do
      onEndConn (recordSentBytes (r.map List.length))
      onEndIo (onLink dynamicFreeInBuffer)) := by
  unfold recv guarded
  simp only [bind_assoc]
  rfl

lemma negotiate_eq (fuel : ℕ) : negotiate hs fuel =
    guarded (fun b e => { e with negotiateInUse := b }) (fun e => e.guards.2.2) (onEndIo (negotiateImpl hs fuel))
      (fun _ => do
        onEndIo (onLink dynamicFreeInBuffer)
        onEndConn dynamicFreeOutBuffer) := by
  unfold negotiate guarded
  simp only [bind_assoc]
  rfl

lemma frames_record_recv (size : ℤ) : Frames Endpoint.record (recv size : EndM K (List UInt8)) := by
  rw [recv_eq]
  exact frames_guarded _ (fun _ _ => rfl) (frames_record_onEndIo _) fun _ =>
    .bind (frames_record_onEndIo _) fun _ => frames_record_onEndIo _

lemma frames_record_negotiate (fuel : ℕ) : Frames Endpoint.record (negotiate hs fuel) := by
  rw [negotiate_eq]
  exact frames_guarded _ (fun _ _ => rfl) (frames_record_onEndIo _) fun _ =>
    .bind (frames_record_onEndIo _) fun _ => frames_record_onEndIo _

lemma guards_of_sendInUse {s : Io K} (h : s.link.conn.send.sendInUse = e.conn.send.sendInUse) :
    Endpoint.guards { e with io := s } = e.guards :=
  congrArg (·, e.recvInUse, e.negotiateInUse) h

lemma frames_guards_onEndIo {f : IoM K α} (hf : Frames (fun s : Io K => s.link.conn.send.sendInUse) f) :
    Frames Endpoint.guards (onEndIo f) := by
  intro e
  unfold onEndIo
  rw [wp_zoom]
  exact hf.wp (fun _ _ hs => guards_of_sendInUse hs) fun _ _ hs => guards_of_sendInUse hs

lemma wp_onEndIo_dynamicFreeInBuffer (e : Endpoint K) : wp (onEndIo (onLink dynamicFreeInBuffer))
      (fun _ e' => e.conn.InReleases ∧ (e'.conn.OutReleases ↔ e.conn.OutReleases) ∧ e'.guards = e.guards)
      (fun _ e' => ¬ e.conn.InReleases ∧ e'.guards = e.guards) e := by
  unfold onEndIo onLink
  rw [wp_zoom, wp_zoom]
  refine wp_mono (fun _ l h => ⟨h.1, ?_, ?_⟩) (fun _ l h => ⟨h.1, ?_⟩) (wp_dynamicFreeInBuffer e.io.link)
  · unfold Conn.OutReleases Endpoint.conn
    rw [h.2.1, h.2.2]
  · exact guards_of_sendInUse (congrArg SendState.sendInUse h.2.1)
  · exact guards_of_sendInUse (congrArg SendState.sendInUse h.2.1)

/-- **`s2n_recv` releases its guard.** -/
lemma wp_recv_guard (size : ℤ) (e : Endpoint K) :
    wp (recv size) (fun _ e' => Begun.Released hs ⟨.recv size, e.io, e.guards⟩ e'.guards)
      (fun _ e' => Begun.Released hs ⟨.recv size, e.io, e.guards⟩ e'.guards) e := by
  have hbody : Frames Endpoint.guards (onEndIo (recvImpl size) : EndM K (List UInt8)) :=
    frames_guards_onEndIo ((steady_ioView.toOuter.recvImpl size).map fun v => v.1.1)
  have hfinish : ∀ (r : Except Err (List UInt8)) (e : Endpoint K),
      wp (do onEndConn (recordSentBytes (r.map List.length)); onEndIo (onLink dynamicFreeInBuffer))
        (fun _ e' => (e.conn.Counts (r.map List.length) ∧ e.conn.InReleases) ∧ e'.guards = e.guards)
        (fun _ e' => ¬ (e.conn.Counts (r.map List.length) ∧ e.conn.InReleases) ∧ e'.guards = e.guards) e := by
    intro r e
    rw [wp_bind]
    unfold onEndConn onIoConn
    rw [onEndIo, wp_zoom, wp_zoom]
    refine wp_mono (fun _ c₁ h₁ => ?_) (fun _ c₁ h₁ => ?_) (wp_recordSentBytes _ e.io.link.conn)
    · obtain ⟨hcounts, m, rfl⟩ := h₁
      exact wp_mono (fun _ _ h => ⟨⟨hcounts, h.1⟩, h.2.2⟩) (fun _ _ h => ⟨fun hall => h.1 hall.2, h.2⟩)
        (wp_onEndIo_dynamicFreeInBuffer _)
    · obtain ⟨hcounts, m, rfl⟩ := h₁
      exact ⟨fun hall => hcounts hall.1, rfl⟩
  have hput : ∀ g : Bool × Bool × Bool, g.2.1 = false →
      (g.1, false, g.2.2) = g ∧ g < (g.1, true, g.2.2) := by
    rintro ⟨a, _, b⟩ rfl
    exact ⟨rfl, by simp⟩
  rw [recv_eq]
  have h := wp_guarded (fun g => g.2.1) (fun b g => (g.1, b, g.2.2)) (fun b e => { e with recvInUse := b }) hput
    (fun _ _ => rfl) hbody hfinish e
  rwa [onEndIo, outcome_zoom, finalState_zoom] at h

section Handshake

variable (hl : hs.Leave fun c => c.send.sendInUse)

include hl

/-- **`s2n_negotiate` releases its guard.** -/
lemma wp_negotiate_guard (fuel : ℕ) (e : Endpoint K) :
    wp (negotiate hs fuel) (fun _ e' => Begun.Released hs ⟨.negotiate fuel, e.io, e.guards⟩ e'.guards)
      (fun _ e' => Begun.Released hs ⟨.negotiate fuel, e.io, e.guards⟩ e'.guards) e := by
  have hbody : Frames Endpoint.guards (onEndIo (negotiateImpl hs fuel)) := by
    refine frames_guards_onEndIo fun s => ?_
    have hrespects : ∀ c c' : Conn K, c'.send.sendInUse = c.send.sendInUse →
        c.send.sendInUse = s.link.conn.send.sendInUse → c'.send.sendInUse = s.link.conn.send.sendInUse :=
      fun _ _ h hc => h.trans hc
    exact ((inert_sendInUse s.link.conn.send.sendInUse).negotiateImpl (hl.respect hrespects) fuel).keeps
      (fun _ => trivial) s rfl
  have hfinish : ∀ e : Endpoint K, wp (do onEndIo (onLink dynamicFreeInBuffer); onEndConn dynamicFreeOutBuffer)
        (fun _ e' => (e.conn.InReleases ∧ e.conn.OutReleases) ∧ e'.guards = e.guards)
        (fun _ e' => ¬ (e.conn.InReleases ∧ e.conn.OutReleases) ∧ e'.guards = e.guards) e := by
    intro e
    refine wp_seq (wp_onEndIo_dynamicFreeInBuffer e) (fun _ e₁ h₁ => ?_) fun _ _ h₁ => ?_
    · unfold onEndConn onIoConn onEndIo
      rw [wp_zoom, wp_zoom]
      refine wp_mono (fun _ _ h => ⟨⟨h₁.1, h₁.2.1.mp h.1⟩, ?_⟩) (fun _ _ h => ⟨fun hall => h.1 (h₁.2.1.mpr hall.2), ?_⟩)
        (wp_dynamicFreeOutBuffer e₁.conn)
      · exact (guards_of_sendInUse h.2).trans h₁.2.2
      · exact (guards_of_sendInUse h.2).trans h₁.2.2
    · exact ⟨fun hall => h₁.1 hall.1, h₁.2⟩
  have hput : ∀ g : Bool × Bool × Bool, g.2.2 = false → (g.1, g.2.1, false) = g ∧ g < (g.1, g.2.1, true) := by
    rintro ⟨a, b, _⟩ rfl
    exact ⟨rfl, by simp⟩
  rw [negotiate_eq]
  have h := wp_guarded (fun g => g.2.2) (fun b g => (g.1, g.2.1, b)) (fun b e => { e with negotiateInUse := b })
    hput (fun _ _ => rfl) hbody (fun _ => hfinish) e
  rwa [onEndIo, finalState_zoom] at h

end Handshake

end Endpoint

/-! ### The record of the calls -/

variable {α : Type} {g : Bool × Bool × Bool}

/-- The guards are at least `g`, and are `g` exactly if the end of no call that was begun fails. Each of the calls then
found them so. -/
def Endpoint.Upheld (hs : Handlers K) (g : Bool × Bool × Bool) (e : Endpoint K) : Prop :=
  g ≤ e.guards ∧ (e.guards = g ↔ ∀ b ∈ e.begun, b.Fits hs) ∧ ((∀ b ∈ e.begun, b.Fits hs) → ∀ b ∈ e.begun, b.guards = g)

/-- A call that was begun keeps the guards, exactly if its end does not fail. -/
lemma Endpoint.Upheld.call {e' : Endpoint K} {b : Begun K} (h : e.Upheld hs g) (hb : b.guards = e.guards)
    (hbegun : e'.begun = e.begun ++ [b]) (hreleased : b.Released hs e'.guards) : e'.Upheld hs g := by
  obtain ⟨hle, hiff, hfound⟩ := h
  obtain ⟨hgrows, hsame⟩ := hreleased
  rw [hb] at hgrows hsame
  have hall : (∀ b ∈ e'.begun, b.Fits hs) ↔ (∀ b ∈ e.begun, b.Fits hs) ∧ b.Fits hs := by
    rw [hbegun]
    simp only [List.mem_append, List.mem_singleton, or_imp, forall_and, forall_eq]
  refine ⟨hle.trans hgrows, ?_, fun hfits => ?_⟩
  · rw [hall, ← hiff, ← hsame]
    refine ⟨fun hg => ?_, fun h => h.2.trans h.1⟩
    have hmiddle : e.guards = g := le_antisymm (hgrows.trans hg.le) hle
    exact ⟨hmiddle, hg.trans hmiddle.symm⟩
  · have hbefore := (hall.mp hfits).1
    rw [hbegun]
    simp only [List.mem_append, List.mem_singleton, or_imp, forall_and, forall_eq]
    exact ⟨hfound hbefore, hb.trans (hiff.mpr hbefore)⟩

lemma keeps_guarded {call : GuardedCall} {body : EndM K α} (hrecord : Frames Endpoint.record body)
    (hbody : ∀ e : Endpoint K, wp body (fun _ e' => Begun.Released hs ⟨call, e.io, e.guards⟩ e'.guards)
      (fun _ e' => Begun.Released hs ⟨call, e.io, e.guards⟩ e'.guards) e) :
    Keeps (Endpoint.Upheld hs g) (begins call >>= fun _ => body) := by
  intro e he
  unfold begins
  rw [wp_update]
  set e₁ : Endpoint K := { e with begun := e.begun ++ [⟨call, e.io, e.guards⟩] } with he₁
  have hend : ∀ e' : Endpoint K, Begun.Released hs ⟨call, e₁.io, e₁.guards⟩ e'.guards ∧ e'.record = e₁.record →
      e'.Upheld hs g := fun e' h => he.call rfl (congrArg Prod.fst h.2) h.1
  exact wp_always hend (wp_and (hbody e₁) (hrecord e₁))

lemma keeps_sendCall (iov : List Iovec) (offs : ℤ) : Keeps (Endpoint.Upheld hs g) (sendCall iov offs : EndM K ℕ) := by
  intro e he
  unfold sendCall begins
  rw [wp_update, wp_zoom]
  have hend : ∀ c' : Conn K, Begun.Released hs ⟨.send iov offs, e.io, e.guards⟩ (c'.send.sendInUse, e.guards.2) →
      Endpoint.Upheld hs g
        (Endpoint.ends { e with begun := e.begun ++ [⟨.send iov offs, e.io, e.guards⟩] } iov offs c') :=
    fun c' h => he.call rfl rfl h
  exact wp_always hend (wp_sendvWithOffset_guard iov offs e)

/-! ### Early data -/

/-- An invariant of the guarded calls and of what the calls for early data do beside them. -/
structure Api.Invariant (hs : Handlers K) (I : Endpoint K → Prop) : Prop where
  send : ∀ iov offs, Keeps I (sendCall iov offs)
  recv : ∀ size, Keeps I (recvCall size)
  negotiate : ∀ fuel, Keeps I (negotiateCall hs fuel)
  expected : ∀ b, Keeps I (onEndConn (setEarlyDataExpected b))
  blocked : ∀ b, Keeps I (onEndIo (setBlocked b))
  data : ∀ e n bs, I e → I { e with dataSent := n, dataReceived := bs }

namespace Api.Invariant

variable {I : Endpoint K → Prop} (h : Api.Invariant hs I)

include h

lemma keeps_dataSent (n : ℕ) : Keeps I (modify fun e => { e with dataSent := n } : EndM K Unit) :=
  .modify fun e he => h.data e n e.dataReceived he

lemma keeps_dataReceived (f : List UInt8 → List UInt8) :
    Keeps I (modify fun e => { e with dataReceived := f e.dataReceived } : EndM K Unit) :=
  .modify fun e he => h.data e e.dataSent _ he

omit h in
/-- Looking at what is left of the limit changes nothing. -/
lemma keeps_onEndConn_of_frames {m : ConnM K α} (hm : Frames id m) : Keeps I (onEndConn m) := by
  intro e he
  unfold onEndConn onEndIo onIoConn
  rw [wp_zoom, wp_zoom]
  have hsame : ∀ c' : Conn K, c' = e.conn → I { e with io := e.io.setConn c' } := by
    rintro _ rfl
    exact he
  exact hm.wp (fun _ => hsame) fun _ => hsame

omit h in
lemma frames_canContinue : Frames id (canContinue : ConnM K Bool) := by
  unfold canContinue
  refine .bind frames_remainingEarlyDataSize.attempt fun r => ?_
  split
  · exact .pure _
  · exact .pure _

lemma sendEarlyData (fuel : ℕ) (data : ℕ → UInt8) (dataLen : ℤ) : Keeps I (sendEarlyData hs fuel data dataLen) := by
  have himpl : Keeps I (sendEarlyDataImpl hs fuel data dataLen) := by
    unfold sendEarlyDataImpl
    refine .checked <| .bind (h.blocked _) fun _ => ?_
    refine .bind (h.keeps_dataSent 0) fun _ => .read fun _ => .checked ?_
    refine .read fun _ => .checked ?_
    refine .bind (keeps_onEndConn_of_frames frames_canContinue) fun _ => .ite (.pure _) ?_
    refine .bind (h.negotiate fuel).attempt fun r => .read fun _ => ?_
    refine .bind (.ofExcept _) fun _ => ?_
    refine .bind (keeps_onEndConn_of_frames frames_remainingEarlyDataSize) fun _ => ?_
    refine .bind (.when (.bind (h.send _ _) fun _ => h.keeps_dataSent _)) fun _ => ?_
    refine .bind (h.blocked _) fun _ => ?_
    split
    · exact .pure _
    · refine .ite (.pure _) (.bind (keeps_onEndConn_of_frames frames_canContinue) fun _ => ?_)
      exact .ite (.bind (h.blocked _) fun _ => .throw _) (.pure _)
  unfold S2nTls.sendEarlyData
  refine .bind (h.expected _) fun _ => .bind himpl.attempt fun _ => ?_
  exact .bind (h.expected _) fun _ => .ofExcept _

lemma recvEarlyDataLoop (fuel : ℕ) (maxDataLen : ℤ) (rounds : ℕ) :
    Keeps I (recvEarlyDataLoop hs fuel maxDataLen rounds) := by
  induction rounds with
  | zero => exact .throw _
  | succ rounds ih =>
    unfold S2nTls.recvEarlyDataLoop
    refine .bind (h.negotiate fuel).attempt fun r => ?_
    split
    · exact .pure _
    · refine .read fun _ => .ite (.throw _) (.read fun _ => .ite ?_ ?_)
      · refine .bind (keeps_onEndConn_of_frames frames_canContinue) fun _ => ?_
        exact .ite (.throw _) (h.blocked _)
      · exact .bind (h.recv _) fun bs => .bind (h.keeps_dataReceived (· ++ bs)) fun _ => ih

lemma recvEarlyData (fuel rounds : ℕ) (maxDataLen : ℤ) : Keeps I (recvEarlyData hs fuel rounds maxDataLen) := by
  have himpl : Keeps I (recvEarlyDataImpl hs fuel rounds maxDataLen) := by
    unfold recvEarlyDataImpl
    refine .bind (h.blocked _) fun _ => .bind (h.keeps_dataReceived fun _ => []) fun _ => ?_
    refine .read fun _ => .checked ?_
    refine .bind (keeps_onEndConn_of_frames frames_canContinue) fun _ => .ite (.pure _) ?_
    exact h.recvEarlyDataLoop fuel maxDataLen rounds
  unfold S2nTls.recvEarlyData
  refine .bind (h.expected _) fun _ => .bind himpl.attempt fun _ => ?_
  exact .bind (h.expected _) fun _ => .ofExcept _

/-- **An invariant of every call of the application.** -/
lemma run {ω : Type} {view : Io K → ω}
    (hother : ∀ change : Io K → Io K, (∀ s, view (change s) = view s) → Keeps I (onEndIo (modify change))) :
    ∀ call : ApiCall K, call.Quiet view → Keeps I (call.run hs)
  | .other change, hquiet => hother change hquiet
  | .send iov offs, _ => .bind (h.send iov offs) fun _ => .pure _
  | .recv size, _ => .bind (h.recv size) fun _ => .pure _
  | .negotiate fuel, _ => h.negotiate fuel
  | .sendEarlyData fuel data dataLen, _ => h.sendEarlyData fuel data dataLen
  | .recvEarlyData fuel rounds maxDataLen, _ => h.recvEarlyData fuel rounds maxDataLen

end Api.Invariant

/-! ### Whole runs -/

lemma keeps_upheld_of_frames {m : EndM K α} (hm : Frames (fun e : Endpoint K => (e.guards, e.record)) m) :
    Keeps (Endpoint.Upheld hs g) m :=
  hm.keeps fun p => g ≤ p.1 ∧ (p.1 = g ↔ ∀ b ∈ p.2.1, b.Fits hs) ∧
    ((∀ b ∈ p.2.1, b.Fits hs) → ∀ b ∈ p.2.1, b.guards = g)

lemma keeps_upheld_onEndIo {f : IoM K α} (hf : Frames (fun s : Io K => s.link.conn.send.sendInUse) f) :
    Keeps (Endpoint.Upheld hs g) (onEndIo f) := by
  refine keeps_upheld_of_frames fun e => ?_
  have hboth := wp_and (frames_guards_onEndIo hf e) (frames_record_onEndIo f e)
  exact wp_always (fun _ h => Prod.ext h.1 h.2) hboth

lemma upheld_invariant (hl : hs.Leave fun c => c.send.sendInUse) : Api.Invariant hs (Endpoint.Upheld hs g) where
  send := keeps_sendCall
  recv size := keeps_guarded (frames_record_recv size) (wp_recv_guard size)
  negotiate fuel := keeps_guarded (frames_record_negotiate fuel) (wp_negotiate_guard hl fuel)
  expected b := by
    have hmodify : Frames (fun c : Conn K => c.send.sendInUse) (setEarlyDataExpected b) := .modify fun _ => rfl
    exact keeps_upheld_onEndIo (frames_onIoConn hmodify)
  blocked _ := keeps_upheld_onEndIo (.modify fun _ => rfl)
  data _ _ _ he := he

def idleHandlers : Handlers Unit where
  handler _ := pure ()
  transcriptUpdate := pure ()
  secretsUpdate := pure ()
  secretsClean := pure ()
  clientAuthType := none

lemma idleHandlers_leave : idleHandlers.Leave fun c => c.send.sendInUse where
  handler _ := .pure ()
  transcriptUpdate := .pure ()
  secretsUpdate := .pure ()
  secretsClean := .pure ()

/-- A server that has accepted early data and waits for its end. The six bytes of a record with early data have been
decrypted, and the PSK allows for `limit` bytes. -/
def earlyDataServer (limit : UInt32) : Endpoint Unit where
  io := { link := { conn := {
    mode := .server
    actualProtocolVersion := tls13
    crypto := { initial := CryptoParameters.new (), secure := CryptoParameters.new () }
    recv := { inStuffer := Stuffer.initWritten (Blob.ofList [1, 2, 3, 4, 5, 6] (by decide)), inStatus := .plaintext }
    earlyData := { state := .accepted, expected := true, psks := [⟨false, limit⟩] }
    handshake := { stateMachine := .tls13, handshakeType := HandshakeType.negotiated ||| HandshakeType.withEarlyData
                   messageNumber := 4 } } } }

end S2nTls
