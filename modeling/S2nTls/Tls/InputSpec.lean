import S2nTls.Stuffer.Written
import S2nTls.Tls.Input

/-!
What reading from the transport does: the bytes that it takes from the transport stand at the end of the stuffer,
in their order, and a call that has to stop keeps those that have arrived.
-/

namespace S2nTls

open Lib Stuffer

variable {K : Type}

/-! ### Room for what arrives -/

variable {t : Stuffer} {bs bs' : List UInt8}

namespace Stuffer

/-- There is room for `n` more bytes, or it can be made. -/
def CanTake (t : Stuffer) (n : ℕ) : Prop :=
  n ≤ t.spaceRemaining ∨ (t.growable = true ∧ t.tainted = false ∧ t.blob.size + max n minGrowth < 2 ^ 32)

variable {malloc : ℕ → Bool}

lemma wp_reserveSpace_of_canTake {n : ℕ} (hmalloc : ∀ k, malloc k = true)
    (h : t.CanTake n) :
    wp (reserveSpace malloc n)
      (fun _ u => (Extends t u ∧ n ≤ u.spaceRemaining) ∧ (t.blob.isNull = false → u.blob.isNull = false))
      noError t := by
  have hok : wp (reserveSpace malloc n) (fun _ u => t.blob.isNull = false → u.blob.isNull = false)
      noError t := by
    unfold reserveSpace
    rw [wp_read]
    split
    · rename_i hlt
      obtain ⟨hgrow, htaint, hsize⟩ := h.resolve_left (Nat.not_le.mpr hlt)
      refine wp_ensured hgrow ?_
      have hmin : 0 < minGrowth := by decide
      have hmax : max (n - t.spaceRemaining) minGrowth ≤ max n minGrowth :=
        max_le_max (Nat.sub_le _ _) le_rfl
      rw [dif_pos (by omega)]
      generalize hsize' : UInt32.ofNatLT _ _ = size
      have hnat : size.toNat = t.blob.size + max (n - t.spaceRemaining) minGrowth := by
        rw [← hsize', UInt32.toNat_ofNatLT]
      unfold resize
      rw [wp_read]
      refine wp_ensured htaint ?_
      refine wp_ensured hgrow ?_
      rw [if_neg (by omega), if_neg (by omega), dif_neg (by omega)]
      refine wp_ensured (hmalloc _) ?_
      refine wp_seq (wp_freeBlob _ t) (fun _ _ _ => ?_) fun _ _ hfail => Bool.noConfusion hfail.2
      rw [wp_set]
      intro _
      simp only [Blob.realloc]
      rw [if_neg (by omega)]
    · exact id
  exact wp_mono (fun _ _ h => ⟨⟨h.2.1, h.2.2.1⟩, h.1⟩) (fun _ _ h => h.1)
    (wp_and hok (wp_reserveSpace malloc n t))

/-- A stuffer that has no memory gets some. -/
lemma wp_resizeIfEmpty {size : UInt32} (hmalloc : ∀ k, malloc k = true) (hpos : size.toNat ≠ 0)
    (hnull : t.blob.isNull = true → t.growable = true ∧ t.tainted = false) :
    wp (resizeIfEmpty malloc size) (fun _ u => Extends t u ∧ u.blob.isNull = false ∧
      (u = t ∨ u.growable = true ∧ u.tainted = false ∧ u.blob.size = size.toNat)) noError t := by
  unfold resizeIfEmpty wp
  simp only [EStateM.run]
  by_cases hn : t.blob.isNull = true
  · obtain ⟨hgrow, htaint⟩ := hnull hn
    have hzero : t.blob.size = 0 := t.blob.null_size hn
    rw [dif_pos hn, if_neg (by rw [htaint]; exact Bool.false_ne_true), if_neg (by rw [hgrow]; exact Bool.false_ne_true),
      if_neg fun h => by rw [hmalloc] at h; exact Bool.noConfusion h.2]
    refine ⟨⟨?_, hzero.trans_le (Nat.zero_le _), rfl, rfl, rfl, rfl⟩, ?_,
      Or.inr ⟨hgrow, htaint, Blob.realloc_size _ _⟩⟩
    · simp only [Blob.realloc, if_neg hpos]
    · simp only [Blob.realloc, if_neg hpos]
  · rw [dif_neg hn]
    exact ⟨Extends.refl t, Bool.eq_false_iff.mpr hn, .inl rfl⟩

/-- `u` is `t` with `bs` after what it held, and perhaps more memory. -/
structure Filled (t : Stuffer) (bs : List UInt8) (u : Stuffer) : Prop where
  unread : u.unread = t.unread ++ bs
  readCursor : u.readCursor = t.readCursor
  writeCursor : u.writeCursor = t.writeCursor + bs.length
  size_le : t.blob.size ≤ u.blob.size
  isNull : t.blob.isNull = false → u.blob.isNull = false
  growable : u.growable = t.growable
  tainted : u.tainted = t.tainted

variable {t u v : Stuffer}

lemma Filled.of_extends (h : Extends t u) (hnull : t.blob.isNull = false → u.blob.isNull = false) :
    Filled t [] u :=
  ⟨by rw [h.unread_eq, List.append_nil], h.readCursor, h.writeCursor, h.size_le, hnull, h.growable, h.tainted⟩

lemma Filled.refl (t : Stuffer) : Filled t [] t := .of_extends (Extends.refl t) id

lemma Filled.trans (h : Filled t bs u) (h' : Filled u bs' v) : Filled t (bs ++ bs') v where
  unread := by rw [h'.unread, h.unread, List.append_assoc]
  readCursor := h'.readCursor.trans h.readCursor
  writeCursor := by rw [h'.writeCursor, h.writeCursor, List.length_append, Nat.add_assoc]
  size_le := h.size_le.trans h'.size_le
  isNull := fun hn => h'.isNull (h.isNull hn)
  growable := h'.growable.trans h.growable
  tainted := h'.tainted.trans h.tainted

lemma Filled.dataAvailable (h : Filled t bs u) : u.dataAvailable = t.dataAvailable + bs.length := by
  rw [← unread_length, h.unread, List.length_append, unread_length]

lemma Filled.le_spaceRemaining {n : ℕ} (h : Filled t bs u) (hn : n + bs.length ≤ t.spaceRemaining) :
    n ≤ u.spaceRemaining := by
  have hsize := h.size_le
  have hwrite := h.writeCursor
  unfold spaceRemaining at hn ⊢
  omega

lemma wp_poke_skipWrite_of_room (malloc : ℕ → Bool) {bs : List UInt8} (h : bs.length ≤ t.spaceRemaining) :
    wp (do poke (← get).writeCursor bs; skipWrite malloc bs.length) (fun _ u => Filled t bs u)
      noError t := by
  rw [wp_read]
  have hun := wp_poke_skipWrite malloc bs t
  have hrest : wp (do poke t.writeCursor bs; skipWrite malloc bs.length)
      (fun _ u => u.readCursor = t.readCursor ∧ u.writeCursor = t.writeCursor + bs.length ∧
        (u.blob.size = t.blob.size ∧ u.blob.isNull = t.blob.isNull) ∧ u.growable = t.growable ∧
        u.tainted = t.tainted) noError t := by
    rw [wp_bind, wp_poke]
    refine wp_mono (fun _ u hu => ?_) (fun _ _ hu => ?_) (wp_skipWrite malloc bs.length _)
    · obtain ⟨t', hroom, hext, rfl, hsame⟩ := hu
      obtain rfl := hsame (.inl h)
      exact ⟨rfl, rfl, ⟨rfl, rfl⟩, rfl, rfl⟩
    · exact absurd h (Nat.not_le.mpr hu.2)
  refine wp_mono (fun _ u hu => ?_) (fun _ _ hu => hu.2) (wp_and hun hrest)
  obtain ⟨hu, hread, hwrite, ⟨hsize, hnull⟩, hgrow, htaint⟩ := hu
  exact ⟨hu, hread, hwrite, hsize.ge, hnull.trans, hgrow, htaint⟩

end Stuffer

/-! ### The stuffers of a connection -/

/-- Reading from the transport into `p` changes nothing else that it looks at. -/
structure Part.Lawful (p : Part K) : Prop where
  get_put : ∀ t c, p.get (p.put t c) = t
  put_get : ∀ c, p.put (p.get c) c = c
  put_put : ∀ t t' c, p.put t (p.put t' c) = p.put t c
  env_put : ∀ t c, (p.put t c).env = c.env
  buffering_put : ∀ t c, (p.put t c).recv.recvBuffering = c.recv.recvBuffering

lemma bufferInPart_lawful : (bufferInPart : Part K).Lawful :=
  ⟨fun _ _ => rfl, fun _ => rfl, fun _ _ _ => rfl, fun _ _ => rfl, fun _ _ => rfl⟩

lemma ioPart_lawful : (ioPart : Part K).Lawful :=
  ⟨fun _ _ => rfl, fun _ => rfl, fun _ _ _ => rfl, fun _ _ => rfl, fun _ _ => rfl⟩

lemma wp_onPart {α : Type} {p : Part K} {f : StufferM α} {Q : α → Link K → Prop} {R : Err → Link K → Prop}
    {l : Link K} : wp (onPart p f) Q R l ↔
      wp f (fun a t => Q a (p.set t l)) (fun e t => R e (p.set t l)) (p.get l.conn) := wp_zoom _ _ _

/-! ### What the transport brings -/

/-- The transport neither fails nor is closed. -/
def Delivers (input : List RecvResult) : Prop := ∀ r ∈ input, r ≠ .failed ∧ r ≠ .closed

/-- All the bytes that the transport brings. -/
def inputBytes (input : List RecvResult) : List UInt8 := input.flatMap RecvResult.bytes

/-- How often the transport makes its reader wait. -/
def blocks (input : List RecvResult) : ℕ := input.count .blocked

lemma inputBytes_leftover (bs : List UInt8) (rest : List RecvResult) :
    inputBytes (leftover bs rest) = bs ++ inputBytes rest := by
  cases bs <;> simp [leftover, inputBytes, RecvResult.bytes]

lemma delivers_leftover {rest : List RecvResult} (h : Delivers rest) (bs : List UInt8) :
    Delivers (leftover bs rest) := by
  cases bs with
  | nil => exact h
  | cons b bs =>
    intro r hr
    rcases List.mem_cons.mp hr with rfl | hr
    · simp
    · exact h r hr

lemma blocks_leftover (bs : List UInt8) (rest : List RecvResult) : blocks (leftover bs rest) = blocks rest := by
  cases bs <;> simp [leftover, blocks]

/-- The link after bytes were taken from the transport into `p`. -/
structure Takes (p : Part K) (l : Link K) (bs : List UInt8) (l' : Link K) : Prop where
  filled : ∃ t, l'.conn = p.put t l.conn ∧ Filled (p.get l.conn) bs t
  bytes : inputBytes l.input = bs ++ inputBytes l'.input
  delivers : Delivers l'.input

variable {p : Part K} {l l' l'' : Link K}

lemma Takes.get (h : Takes p l bs l') (hp : p.Lawful) : Filled (p.get l.conn) bs (p.get l'.conn) := by
  obtain ⟨t, hconn, hfilled⟩ := h.filled
  rw [hconn, hp.get_put]
  exact hfilled

lemma Takes.refl (hp : p.Lawful) (hd : Delivers l.input) : Takes p l [] l :=
  ⟨⟨p.get l.conn, (hp.put_get _).symm, Filled.refl _⟩, rfl, hd⟩

lemma Takes.trans (h : Takes p l bs l') (h' : Takes p l' bs' l'') (hp : p.Lawful) : Takes p l (bs ++ bs') l'' := by
  obtain ⟨t, hconn, hfilled⟩ := h.filled
  obtain ⟨t', hconn', hfilled'⟩ := h'.filled
  rw [hconn, hp.get_put] at hfilled'
  refine ⟨⟨t', ?_, hfilled.trans hfilled'⟩, ?_, h'.delivers⟩
  · rw [hconn', hconn, hp.put_put]
  · rw [h.bytes, h'.bytes, List.append_assoc]

/-- The reader has to wait: the transport made it wait or has nothing more. -/
def Waits (l l' : Link K) : Prop := blocks l'.input < blocks l.input ∨ l'.input = []

/-- **Bytes from the transport** are appended to the stuffer, and at least one of them if it has any. -/
lemma wp_recvStuffer {len : ℕ} (hp : p.Lawful) (hmalloc : ∀ k, l.conn.env.malloc k = true)
    (hroom : (p.get l.conn).CanTake len) (hd : Delivers l.input) (hlen : 0 < len) :
    wp (recvStuffer p len)
      (fun _ l' => ∃ bs, bs ≠ [] ∧ bs.length ≤ len ∧ Takes p l bs l' ∧
        len - bs.length ≤ (p.get l'.conn).spaceRemaining ∧ blocks l'.input = blocks l.input)
      (fun e l' => e = .ioBlocked ∧ Takes p l [] l' ∧ len ≤ (p.get l'.conn).spaceRemaining ∧ Waits l l') l := by
  unfold recvStuffer
  rw [wp_read]
  dsimp only
  rw [wp_bind, wp_attempt, wp_onPart]
  refine wp_sure (fun _ t ht => ?_) (wp_reserveSpace_of_canTake hmalloc hroom)
  obtain ⟨⟨hext, hspace⟩, hnull⟩ := ht
  have htakes : ∀ input, inputBytes input = inputBytes l.input → Delivers input →
      Takes p l [] { p.set t l with input := input } := fun input hbytes hdel =>
    ⟨⟨t, rfl, Filled.of_extends hext hnull⟩, hbytes.symm, hdel⟩
  have hget : ∀ input, p.get (Link.conn { p.set t l with input := input }) = t := fun _ => hp.get_put t l.conn
  dsimp only
  split
  · rename_i hnil
    refine ⟨rfl, htakes l.input rfl hd, ?_, .inr hnil⟩
    rw [show (p.set t l).conn = p.put t l.conn from rfl, hp.get_put]
    exact hspace
  · rename_i rest hinput
    rw [wp_update, wp_throw]
    have hrest : Delivers rest := fun r hr => hd r (hinput ▸ List.mem_cons_of_mem _ hr)
    refine ⟨rfl, htakes rest (by rw [hinput]; rfl) hrest, (hget rest).symm ▸ hspace, .inl ?_⟩
    simp [hinput, blocks]
  · rename_i rest hinput
    exact absurd rfl (hd .failed (by rw [hinput]; exact List.mem_cons_self)).1
  · rename_i rest hinput
    exact absurd rfl (hd .closed (by rw [hinput]; exact List.mem_cons_self)).2
  · rename_i b bs rest hinput
    rw [wp_update, wp_onPart]
    have hrest : Delivers rest := fun r hr => hd r (hinput ▸ List.mem_cons_of_mem _ hr)
    have hgot : ((b :: bs).take len).length ≤ t.spaceRemaining :=
      (List.length_take_le _ _).trans hspace
    rw [hget]
    refine wp_sure (fun _ u hu => ?_) (wp_poke_skipWrite_of_room _ hgot)
    refine ⟨(b :: bs).take len, ?_, List.length_take_le _ _, ⟨⟨u, ?_, ?_⟩, ?_, ?_⟩, ?_, ?_⟩
    · obtain ⟨n, rfl⟩ := Nat.exists_eq_succ_of_ne_zero hlen.ne'
      simp
    · exact hp.put_put u t l.conn
    · simpa using (Filled.of_extends hext hnull).trans hu
    · rw [hinput]
      show inputBytes (.received b bs :: rest) = _ ++ inputBytes (leftover ((b :: bs).drop len) rest)
      rw [inputBytes_leftover, ← List.append_assoc, List.take_append_drop]
      rfl
    · exact delivers_leftover hrest _
    · show len - _ ≤ (p.get (p.put u (p.put t l.conn))).spaceRemaining
      rw [hp.get_put]
      exact hu.le_spaceRemaining (by omega)
    · rw [hinput]
      show blocks (leftover _ rest) = _
      rw [blocks_leftover]
      simp [blocks]

/-- What a call of `s2n_read_in_bytes` that has to wait leaves: some of the bytes, and room for the others. -/
structure Stops (p : Part K) (length : ℕ) (l l' : Link K) : Prop where
  takes : ∃ bs, Takes p l bs l'
  short : (p.get l'.conn).dataAvailable < length
  room : length - (p.get l'.conn).dataAvailable ≤ (p.get l'.conn).spaceRemaining
  waits : Waits l l'

lemma wp_readInBytesLoop (hp : p.Lawful) (length : ℕ) : ∀ (fuel : ℕ) (l : Link K),
    (∀ k, l.conn.env.malloc k = true) → l.conn.recv.recvBuffering = false →
    (p.get l.conn).CanTake (length - (p.get l.conn).dataAvailable) → Delivers l.input →
    length - (p.get l.conn).dataAvailable ≤ fuel →
    wp (readInBytesLoop p length fuel)
      (fun _ l' => ∃ bs, Takes p l bs l' ∧ bs.length = length - (p.get l.conn).dataAvailable ∧
        blocks l'.input = blocks l.input)
      (fun e l' => e = .ioBlocked ∧ Stops p length l l') l
  | 0, l, _, _, _, hd, hfuel => ⟨[], Takes.refl hp hd, (Nat.le_zero.mp hfuel).symm, rfl⟩
  | fuel + 1, l, hmalloc, hbuf, hroom, hd, hfuel => by
    unfold readInBytesLoop
    rw [wp_read]
    dsimp only
    split
    · rename_i hlt
      rw [if_neg (by rw [hbuf]; exact Bool.false_ne_true)]
      refine wp_seq (wp_recvStuffer hp hmalloc hroom hd (by omega)) (fun _ l₁ h₁ => ?_) fun e l₁ h₁ => ?_
      · obtain ⟨bs, hne, hle, htakes, hspace, hblocks⟩ := h₁
        have havail : (p.get l₁.conn).dataAvailable = (p.get l.conn).dataAvailable + bs.length :=
          (htakes.get hp).dataAvailable
        have hpos : 0 < bs.length := List.length_pos_iff.mpr hne
        obtain ⟨t, hconn, -⟩ := htakes.filled
        have hloop := wp_readInBytesLoop hp length fuel l₁ (by rw [hconn, hp.env_put]; exact hmalloc)
          (by rw [hconn, hp.buffering_put]; exact hbuf) (.inl (by omega)) htakes.delivers (by omega)
        refine wp_mono (fun _ l₂ h₂ => ?_) (fun e l₂ h₂ => ?_) hloop
        · obtain ⟨bs', htakes', hlen, hblocks'⟩ := h₂
          refine ⟨bs ++ bs', htakes.trans htakes' hp, ?_, hblocks'.trans hblocks⟩
          rw [List.length_append]
          omega
        · obtain ⟨rfl, ⟨bs', htakes'⟩, hshort, hroom', hwaits⟩ := h₂
          refine ⟨rfl, ⟨⟨bs ++ bs', htakes.trans htakes' hp⟩, hshort, hroom', ?_⟩⟩
          unfold Waits at hwaits ⊢
          rwa [hblocks] at hwaits
      · obtain ⟨rfl, htakes, hspace, hwaits⟩ := h₁
        have havail : (p.get l₁.conn).dataAvailable = (p.get l.conn).dataAvailable :=
          (htakes.get hp).dataAvailable
        exact ⟨rfl, ⟨⟨[], htakes⟩, by omega, by omega, hwaits⟩⟩
    · rename_i hge
      exact ⟨[], Takes.refl hp hd, by simp; omega, rfl⟩

/-- **`s2n_read_in_bytes`** appends as many bytes of the transport as the stuffer lacks. A call that has to wait
keeps those that have arrived. -/
lemma wp_readInBytes (hp : p.Lawful) {length : ℕ} (hmalloc : ∀ k, l.conn.env.malloc k = true)
    (hbuf : l.conn.recv.recvBuffering = false)
    (hroom : (p.get l.conn).CanTake (length - (p.get l.conn).dataAvailable)) (hd : Delivers l.input) :
    wp (readInBytes p length)
      (fun _ l' => ∃ bs, Takes p l bs l' ∧ bs.length = length - (p.get l.conn).dataAvailable ∧
        blocks l'.input = blocks l.input)
      (fun e l' => e = .ioBlocked ∧ Stops p length l l') l :=
  wp_readInBytesLoop hp length length l hmalloc hbuf hroom hd (Nat.sub_le _ _)

/-! ### Where `conn->in` points -/

/-- What `s2n_recv_in_init` leaves: `conn->in` holds the bytes that have arrived, and has room for the others. -/
structure Points (l : Link K) (written total : ℕ) (h : written ≤ l.conn.recv.bufferIn.dataAvailable) (l' : Link K) :
    Prop where
  conn : ∃ i, l'.conn = { l.conn with recv := { l.conn.recv with
    bufferIn := (l.conn.recv.bufferIn.advanceRead written h).taint, inStuffer := i } }
  unread : l'.conn.recv.inStuffer.unread = l.conn.recv.bufferIn.unread.take written
  size : l'.conn.recv.inStuffer.blob.size = total
  input : l'.input = l.input
  memory : l'.memory = l.memory
  moves : l'.moves = l.moves
  window : l'.window = some { memory := l.memory, offset := l.conn.recv.bufferIn.readCursor, size := total }

lemma Blob.sameMemory_self (b : Blob) : b.sameMemory b = true := by simp [Blob.sameMemory]

lemma Part.set_of_sameMemory (h : (p.get l.conn).blob.sameMemory t.blob = true) :
    p.set t l = { l with conn := p.put t l.conn } := by
  simp [Part.set, h]

lemma wp_recvInInit {written total : ℕ} (htotal : total < 2 ^ 32) (hle : written ≤ total)
    (hroom : total - written ≤ l.conn.recv.bufferIn.spaceRemaining)
    (havail : written ≤ l.conn.recv.bufferIn.dataAvailable) (hnull : l.conn.recv.bufferIn.blob.isNull = false) :
    wp (recvInInit written total htotal) (fun _ l' => Points l written total havail l') noError l := by
  unfold recvInInit
  refine wp_ensured hle ?_
  rw [wp_read]
  refine wp_ensured hroom ?_
  have hraw : (rawRead written).run (bufferInPart.get l.conn) = .ok (some l.conn.recv.bufferIn.readCursor)
      (l.conn.recv.bufferIn.advanceRead written havail).taint := by
    have havail' : written ≤ (bufferInPart.get l.conn).dataAvailable := havail
    have hnull' : (bufferInPart.get l.conn).blob.isNull = false := hnull
    simp only [rawRead, EStateM.run, dif_pos havail', hnull', Bool.false_eq_true, if_false]
    rfl
  have hset : bufferInPart.set (l.conn.recv.bufferIn.advanceRead written havail).taint l =
      { l with conn := bufferInPart.put (l.conn.recv.bufferIn.advanceRead written havail).taint l.conn } :=
    Part.set_of_sameMemory (Blob.sameMemory_self _)
  rw [wp_bind, wp_onPart, wp_of_ok hraw, hset]
  dsimp only
  rw [wp_update, wp_read, onLinkConn, wp_zoom, onIn, wp_zoom]
  have hspace : written ≤ (Stuffer.init (((l.conn.recv.bufferIn.advanceRead written havail).taint).blobAt
      l.conn.recv.bufferIn.readCursor total htotal)).spaceRemaining := hle
  refine wp_mono (fun _ i hi => ?_) (fun _ _ h => absurd hspace (Nat.not_le.mpr h.2)) (wp_skipWrite _ written _)
  obtain ⟨i', hroom', -, rfl, hsame⟩ := hi
  obtain rfl := hsame (.inl hspace)
  refine ⟨⟨_, rfl⟩, ?_, rfl, rfl, rfl, rfl, rfl⟩
  refine (unread_advanceWrite hspace).trans ?_
  rw [take_unread havail]
  exact slice_offset _ _ _

end S2nTls
