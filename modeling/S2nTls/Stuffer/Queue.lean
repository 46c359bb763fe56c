import S2nTls.Stuffer.Stuffer

/-!
What the operations of a stuffer do to the queue of bytes that it holds for its reader.
-/

namespace S2nTls.Stuffer

open Lib

variable {n : ℕ} {t : Stuffer}
variable {a b : List UInt8} {R : Err → Stuffer → Prop}

/-! ### Reading -/

@[simp] lemma unread_initWritten (b : Blob) : (Stuffer.initWritten b).unread = b.bytes := rfl

@[simp] lemma unread_taint (t : Stuffer) : t.taint.unread = t.unread := rfl

@[simp] lemma dataAvailable_advanceRead (h : n ≤ t.dataAvailable) :
    (t.advanceRead n h).dataAvailable = t.dataAvailable - n := by
  simp only [dataAvailable, advanceRead]
  omega

@[simp] lemma unread_advanceRead (h : n ≤ t.dataAvailable) :
    (t.advanceRead n h).unread = t.unread.drop n := by
  rw [unread, dataAvailable_advanceRead, unread, drop_slice _ _ h]
  rfl

lemma isNull_eq_false_of_pos (h : 0 < t.dataAvailable) : t.blob.isNull = false := by
  by_contra hn
  have := t.blob.null_size (by simpa using hn)
  have := t.write_le_high
  have := t.high_le_size
  unfold dataAvailable at h
  omega

lemma take_unread (h : n ≤ t.dataAvailable) :
    t.unread.take n = slice t.blob.data t.readCursor n := take_slice _ _ h

section Wp

variable {Q : List UInt8 → Stuffer → Prop}

lemma wp_skipRead {Q : Unit → Stuffer → Prop} :
    wp (skipRead n) Q R t ↔ (∀ h : n ≤ t.dataAvailable, Q () (t.advanceRead n h)) ∧
      (¬ n ≤ t.dataAvailable → R .stufferOutOfData t) := by
  by_cases h : n ≤ t.dataAvailable
  · rw [wp_of_ok (a := ()) (t := t.advanceRead n h) (by simp [skipRead, EStateM.run, h])]
    simp [h]
  · rw [wp_of_error (e := .stufferOutOfData) (t := t) (by simp [skipRead, EStateM.run, h])]
    simp [h]

lemma wp_readBytes_of_le (hnull : t.blob.isNull = false) (h : n ≤ t.dataAvailable) :
    wp (readBytes n) Q R t ↔ Q (t.unread.take n) (t.advanceRead n h) := by
  rw [take_unread h]
  unfold readBytes
  simp only [wp_bind, wp_get, wp_skipRead, wp_ensure, wp_pure, hnull]
  simp [h]

lemma wp_readBytes_of_lt (h : ¬ n ≤ t.dataAvailable) : wp (readBytes n) Q R t ↔ R .stufferOutOfData t := by
  unfold readBytes
  simp only [wp_bind, wp_get, wp_skipRead]
  simp [h]

lemma wp_readBytes_append (hun : t.unread = a ++ b) (hnull : t.blob.isNull = false)
    (hok : ∀ u, u.unread = b → u.blob = t.blob → u.writeCursor = t.writeCursor → Q a u) :
    wp (readBytes a.length) Q R t := by
  have havail := congrArg List.length hun
  rw [unread_length, List.length_append] at havail
  rw [wp_readBytes_of_le hnull (by omega), hun, List.take_left]
  refine hok _ ?_ rfl rfl
  rw [unread_advanceRead, hun, List.drop_left]

/-- A non-empty raw read gives a pointer to the front of the queue, or `NULL` if the queue is too
short. -/
lemma wp_rawRead {Q : Option ℕ → Stuffer → Prop} (hn : 0 < n) :
    wp (rawRead n) Q R t ↔ (∀ h : n ≤ t.dataAvailable, Q (some t.readCursor) (t.advanceRead n h).taint) ∧
      (¬ n ≤ t.dataAvailable → Q none t) := by
  by_cases h : n ≤ t.dataAvailable
  · have hnull := isNull_eq_false_of_pos (hn.trans_le h)
    rw [wp_of_ok (a := some t.readCursor) (t := (t.advanceRead n h).taint)
      (by simp [rawRead, EStateM.run, h, hnull])]
    simp [h]
  · rw [wp_of_ok (a := none) (t := t) (by simp [rawRead, EStateM.run, h])]
    simp [h]

end Wp

/-! ### Room to write -/

/-- `u` is `t` with the same bytes in the same places and perhaps more memory after them. -/
structure Extends (t u : Stuffer) : Prop where
  data : u.blob.data = t.blob.data
  size_le : t.blob.size ≤ u.blob.size
  readCursor : u.readCursor = t.readCursor
  writeCursor : u.writeCursor = t.writeCursor
  growable : u.growable = t.growable
  tainted : u.tainted = t.tainted

lemma Extends.refl (t : Stuffer) : Extends t t := ⟨rfl, le_refl _, rfl, rfl, rfl, rfl⟩

lemma Extends.unread_eq {t u : Stuffer} (h : Extends t u) : u.unread = t.unread := by
  simp only [unread, dataAvailable, h.data, h.readCursor, h.writeCursor]

/-- Writing `n` bytes does not move the memory of `t`. -/
def NoGrowth (t : Stuffer) (n : ℕ) : Prop := n ≤ t.spaceRemaining ∨ t.growable = false

variable (malloc : Allocator)

lemma wp_growableAlloc (size : UInt32) (t : Stuffer) :
    wp (growableAlloc malloc size)
      (fun _ u => u.writeCursor = 0 ∧ u.readCursor = 0 ∧ u.blob.size = size.toNat ∧ u.alloced = true ∧
        u.growable = true ∧ u.tainted = false)
      (fun e u => e = .alloc ∧ malloc size.toNat = false ∧ u = zero) t := by
  unfold growableAlloc wp
  simp only [EStateM.run]
  by_cases h : size.toNat = 0 ∨ malloc size.toNat = true
  · rw [if_pos h]
    exact ⟨rfl, rfl, Blob.realloc_size _ _, rfl, rfl, rfl⟩
  · rw [if_neg h]
    exact ⟨rfl, by simpa using fun hm => h (.inr hm), rfl⟩

lemma wp_freeBlob (t : Stuffer) :
    wp (freeBlob malloc) (fun _ _ => True) (fun e _ => e = .cancelled ∧ malloc.releases = false) t := by
  unfold freeBlob
  rw [wp_read, wp_when]
  refine ⟨fun _ => ?_, fun _ => trivial⟩
  rw [poke, wp_update, wp_ensure]
  exact ⟨fun _ => trivial, fun h => ⟨rfl, by simpa using h⟩⟩

/-- The memory of the stuffer can be given back, or there is none. -/
def CanFree (malloc : Allocator) (t : Stuffer) : Prop :=
  t.alloced = true → t.blob.isNull = false → malloc.releases = true

lemma wp_free (t : Stuffer) :
    wp (free malloc) (fun _ u => u = zero ∧ t.CanFree malloc) (fun e _ => e = .cancelled ∧ ¬ t.CanFree malloc) t := by
  unfold free freeBlob CanFree
  rw [wp_read, wp_bind, wp_when]
  refine ⟨fun halloced => ?_, fun hno => (wp_set _).mpr ⟨rfl, fun h => absurd h hno⟩⟩
  rw [wp_read, wp_when]
  refine ⟨fun hnull => ?_, fun hno => (wp_set _).mpr ⟨rfl, fun _ h => absurd h hno⟩⟩
  rw [poke, wp_update, wp_ensure]
  exact ⟨fun hrel => (wp_set _).mpr ⟨rfl, fun _ _ => hrel⟩, fun hno => ⟨rfl, fun h => hno (h halloced hnull)⟩⟩

/-- A stuffer grows by reallocating its memory; when that fails nothing has changed, if memory can be freed. -/
lemma wp_resize_of_lt {size : UInt32} (t : Stuffer) (hlt : t.blob.size < size.toNat) :
    wp (resize malloc size) (fun _ u => Extends t u ∧ u.blob.size = size.toNat)
      (fun _ u => malloc.releases = true → u = t) t := by
  have hne : ¬ size.toNat = t.blob.size := by omega
  have hpos : ¬ size.toNat = 0 := by omega
  unfold resize
  rw [wp_read]
  refine wp_guard (fun _ => rfl) fun _ => ?_
  refine wp_guard (fun _ => rfl) fun _ => ?_
  rw [if_neg hne, if_neg hpos, dif_neg (by omega)]
  refine wp_guard (fun _ => rfl) fun _ => ?_
  refine wp_seq (wp_freeBlob malloc t) (fun _ _ _ => ?_) fun _ _ hfail hrel =>
    absurd (hrel.symm.trans hfail.2) (by decide)
  rw [wp_set]
  refine ⟨⟨?_, ?_, rfl, rfl, rfl, rfl⟩, ?_⟩
  · simp only [Blob.realloc, if_neg hpos]
  · simp only [Blob.realloc_size]
    omega
  · simp only [Blob.realloc_size]

/-- Making room keeps what the stuffer holds; when it fails nothing has changed, if memory can be freed. -/
lemma wp_reserveSpace (n : ℕ) (t : Stuffer) :
    wp (reserveSpace malloc n)
      (fun _ u => Extends t u ∧ n ≤ u.spaceRemaining ∧ (t.NoGrowth n → u = t))
      (fun _ u => (malloc.releases = true → u = t) ∧ t.spaceRemaining < n) t := by
  unfold reserveSpace
  rw [wp_read]
  split
  · rename_i hlt
    refine wp_guard ⟨fun _ => rfl, hlt⟩ fun hg => ?_
    have hkeep : ¬ t.NoGrowth n := by
      rintro (h | h)
      · omega
      · exact absurd (hg.symm.trans h) (by decide)
    have hgrow : 0 < minGrowth := by decide
    dsimp only
    split
    · rename_i hsize
      refine wp_mono (fun _ u h => ⟨h.1, ?_, fun h => absurd h hkeep⟩) (fun _ _ h => ⟨h, hlt⟩)
        (wp_resize_of_lt malloc t (by rw [UInt32.toNat_ofNatLT]; omega))
      have hw := t.write_le_high
      have hs := t.high_le_size
      simp only [spaceRemaining, h.2, h.1.writeCursor, UInt32.toNat_ofNatLT]
      unfold spaceRemaining at hlt
      omega
    · exact ⟨fun _ => rfl, hlt⟩
  · rename_i hge
    exact ⟨Extends.refl t, by omega, fun _ => rfl⟩

@[simp] lemma unread_advanceWrite (h : n ≤ t.spaceRemaining) :
    (t.advanceWrite n h).unread = t.unread ++ slice t.blob.data t.writeCursor n := by
  have hle := t.read_le_write
  have havail : (t.advanceWrite n h).dataAvailable = t.dataAvailable + n := by
    simp only [dataAvailable, advanceWrite]
    omega
  have hend : t.readCursor + t.dataAvailable = t.writeCursor := by
    unfold dataAvailable
    omega
  rw [unread, havail, slice_add]
  exact congrArg (fun i => t.unread ++ slice t.blob.data i n) hend

/-- Giving `n` bytes of memory to the reader. -/
lemma wp_skipWrite (n : ℕ) (t : Stuffer) :
    wp (skipWrite malloc n)
      (fun _ u => ∃ (t' : Stuffer) (h : n ≤ t'.spaceRemaining), Extends t t' ∧
        u = t'.advanceWrite n h ∧ (t.NoGrowth n → t' = t))
      (fun _ u => (malloc.releases = true → u = t) ∧ t.spaceRemaining < n) t := by
  unfold skipWrite
  refine wp_then (wp_reserveSpace malloc n t) fun _ t' h => ?_
  obtain ⟨hext, hroom, hsame⟩ := h
  rw [wp_read, dif_pos hroom, wp_set]
  exact ⟨t', hroom, hext, rfl, hsame⟩

/-- The memory of the stuffer with `bs` copied to offset `i`. -/
def poked (t : Stuffer) (i : ℕ) (bs : List UInt8) : Stuffer :=
  { t with blob := t.blob.poke i bs, high_le_size := t.high_le_size }

lemma wp_poke {Q : Unit → Stuffer → Prop} (i : ℕ) (bs : List UInt8)
    (t : Stuffer) : wp (poke i bs) Q R t ↔ Q () (t.poked i bs) := by
  rw [poke, wp_modify]
  rfl

lemma unread_poked {t : Stuffer} {c : List UInt8} {i : ℕ} {bs : List UInt8}
    (h : t.unread = a ++ b ++ c) (hi : i = t.readCursor + a.length) (hlen : bs.length = b.length) :
    (t.poked i bs).unread = a ++ bs ++ c := by
  have havail : t.dataAvailable = a.length + b.length + c.length := by
    rw [← unread_length, h, List.length_append, List.length_append]
  have hab : slice t.blob.data t.readCursor (a.length + b.length) = a ++ b := by
    rw [← take_unread (by omega), h, ← List.length_append, List.take_left]
  have hc : slice t.blob.data (t.readCursor + (a.length + b.length)) c.length = c := by
    have hdrop := congrArg (List.drop (a.length + b.length)) h
    rw [unread, drop_slice _ _ (by omega), ← List.length_append, List.drop_left] at hdrop
    rw [← List.length_append]
    convert hdrop using 2
    rw [List.length_append]
    omega
  have ha : slice t.blob.data t.readCursor a.length = a := by
    have := congrArg (List.take a.length) hab
    rwa [take_slice _ _ (by omega), List.take_left] at this
  subst hi
  have hun : (t.poked (t.readCursor + a.length) bs).unread =
      slice (overwrite t.blob.data (t.readCursor + a.length) bs) t.readCursor
        (a.length + bs.length + c.length) := by
    rw [hlen, ← havail]
    rfl
  rw [hun, slice_add, slice_overwrite_append, ha, slice_overwrite_of_disjoint (.inr (by omega)), hlen, hc]

/-- **Writing appends.** When it fails the stuffer is as before, if memory can be freed. -/
lemma wp_writeBytes (bs : List UInt8) (t : Stuffer) :
    wp (writeBytes malloc bs)
      (fun _ u => u.unread = t.unread ++ bs ∧ u.readCursor = t.readCursor ∧
        u.growable = t.growable ∧ u.tainted = t.tainted ∧
        (t.NoGrowth bs.length → u.blob.size = t.blob.size))
      (fun _ u => (malloc.releases = true → u = t) ∧ t.spaceRemaining < bs.length) t := by
  unfold writeBytes
  by_cases hnil : bs.length = 0
  · rw [if_pos hnil, wp_pure]
    obtain rfl := List.length_eq_zero_iff.mp hnil
    simp
  · rw [if_neg hnil]
    refine wp_then (wp_skipWrite malloc _ t) fun _ u h => ?_
    obtain ⟨t', hroom, hext, rfl, hsame⟩ := h
    rw [wp_read, wp_poke]
    have hun : (t'.advanceWrite bs.length hroom).unread =
        t.unread ++ slice t'.blob.data t'.writeCursor bs.length := by
      rw [unread_advanceWrite, hext.unread_eq]
    have hptr : (t'.advanceWrite bs.length hroom).writeCursor - bs.length =
        (t'.advanceWrite bs.length hroom).readCursor + t.unread.length := by
      have := t.read_le_write
      simp only [advanceWrite, unread_length, dataAvailable, hext.readCursor, hext.writeCursor]
      omega
    rw [← List.append_nil (_ ++ _)] at hun
    refine ⟨?_, hext.readCursor, hext.growable, hext.tainted, fun hle => ?_⟩
    · rw [unread_poked hun hptr (slice_length _ _ _).symm, List.append_nil]
    rw [← hsame hle]
    rfl

/-- A raw write gives memory to the reader without filling it, or `NULL`. -/
lemma wp_rawWrite (n : ℕ) (t : Stuffer) :
    wp (rawWrite malloc n)
      (fun p u => p = none ∧ (malloc.releases = true → u = t) ∧ t.spaceRemaining < n ∨
        ∃ (t' : Stuffer) (h : n ≤ t'.spaceRemaining), Extends t t' ∧
          u = (t'.advanceWrite n h).taint ∧ (t.NoGrowth n → t' = t) ∧
          p = if u.blob.isNull then none else some t.writeCursor) R t := by
  unfold rawWrite
  rw [wp_read, wp_bind, wp_attempt]
  refine wp_mono (fun _ u h => ?_) (fun _ u h => ?_) (wp_skipWrite malloc n t)
  · obtain ⟨t', hroom, hext, rfl, hsame⟩ := h
    rw [wp_update, wp_read, wp_pure]
    exact .inr ⟨t', hroom, hext, rfl, hsame, rfl⟩
  · exact .inl ⟨rfl, h⟩

/-! ### Scattered data -/

def Iovec.bytes (v : Iovec) : List UInt8 := slice v.base 0 v.len

/-- The bytes of all entries, one after the other. -/
def iovBytes (iov : List Iovec) : List UInt8 := iov.flatMap Iovec.bytes

lemma iovBytes_cons (v : Iovec) (iov : List Iovec) : iovBytes (v :: iov) = v.bytes ++ iovBytes iov :=
  rfl

@[simp] lemma Iovec.bytes_length (v : Iovec) : v.bytes.length = v.len := slice_length _ _ _

/-- An entry that can be copied. -/
def Iovec.Valid (v : Iovec) : Prop := v.len < 2 ^ 32 ∧ v.isNull = false

lemma poked_nil (t : Stuffer) (i : ℕ) : t.poked i [] = t := by
  simp [poked, Blob.poke]

lemma poked_poked_append (t : Stuffer) (i : ℕ) (a b : List UInt8) :
    (t.poked i a).poked (i + a.length) b = t.poked i (a ++ b) := by
  simp [poked, Blob.poke, overwrite_overwrite_append]

variable (iov : List Iovec)

lemma drop_iovBytes_of_le {v : Iovec} {n : ℕ} (hle : v.len ≤ n) :
    (iovBytes (v :: iov)).drop n = (iovBytes iov).drop (n - v.len) := by
  rw [iovBytes_cons, List.drop_append, List.drop_eq_nil_of_le (by simpa using hle), Iovec.bytes_length,
    List.nil_append]

lemma drop_iovBytes_of_lt {v : Iovec} {n : ℕ} (hlt : n < v.len) :
    (iovBytes (v :: iov)).drop n = slice v.base n (v.len - n) ++ iovBytes iov := by
  have hskip : n ≤ v.bytes.length := by
    rw [Iovec.bytes_length]
    omega
  rw [iovBytes_cons, List.drop_append_of_le_length hskip, Iovec.bytes, drop_slice _ _ hlt.le, Nat.zero_add]

lemma wp_writevLoop (toSkip sizeLeft ptr : ℕ) (t : Stuffer) :
    wp (writevLoop iov toSkip sizeLeft ptr)
      (fun _ u => u = t.poked ptr (((iovBytes iov).drop toSkip).take sizeLeft))
      (fun _ _ => ∃ v ∈ iov, 0 < v.len ∧ ¬ v.Valid) t := by
  induction iov generalizing toSkip sizeLeft ptr t with
  | nil =>
    simp only [writevLoop, wp_pure]
    simp [iovBytes, poked_nil]
  | cons v iov ih =>
    rw [writevLoop]
    by_cases hle : v.len ≤ toSkip
    · -- the entry lies before the requested part
      rw [if_pos hle, drop_iovBytes_of_le iov hle]
      refine wp_mono (fun _ _ h => h) (fun _ _ h => ?_) (ih _ _ _ t)
      obtain ⟨w, hw, hbad⟩ := h
      exact ⟨w, List.mem_cons_of_mem _ hw, hbad⟩
    · rw [if_neg hle]
      refine wp_seq_ensure (fun hlen => ?_) fun hlen => ?_
      swap
      · exact ⟨v, List.mem_cons_self, by omega, fun hv => hlen (by have := hv.1; omega)⟩
      refine wp_seq_ensure (fun hnull => ?_) fun hnull => ?_
      swap
      · exact ⟨v, List.mem_cons_self, by omega, fun hv => hnull hv.2⟩
      rw [drop_iovBytes_of_lt iov (by omega), wp_bind, wp_poke]
      by_cases hdone : sizeLeft - min sizeLeft (v.len - toSkip) = 0
      · -- the entry has all that is still wanted
        rw [if_pos hdone, wp_pure, Nat.min_eq_left (by omega),
          List.take_append_of_le_length (by rw [slice_length]; omega), take_slice _ _ (by omega)]
      · rw [if_neg hdone, Nat.min_eq_right (by omega)]
        refine wp_mono (fun _ u h => ?_) (fun _ _ h => ?_) (ih _ _ _ _)
        · have happ := poked_poked_append t ptr (slice v.base toSkip (v.len - toSkip))
            ((iovBytes iov).take (sizeLeft - (v.len - toSkip)))
          rw [slice_length] at happ
          have htake : (slice v.base toSkip (v.len - toSkip)).take sizeLeft =
              slice v.base toSkip (v.len - toSkip) :=
            List.take_of_length_le (by rw [slice_length]; omega)
          rw [h, List.drop_zero, happ, List.take_append, slice_length, htake]
        · obtain ⟨w, hw, hbad⟩ := h
          exact ⟨w, List.mem_cons_of_mem _ hw, hbad⟩

lemma unread_poked_front {u : Stuffer} {junk bs : List UInt8} (h : u.unread = a ++ junk)
    (hle : bs.length ≤ junk.length) :
    (u.poked (u.readCursor + a.length) bs).unread = a ++ (bs ++ junk.drop bs.length) := by
  have hsplit : u.unread = a ++ junk.take bs.length ++ junk.drop bs.length := by
    rw [h, List.append_assoc, List.take_append_drop]
  rw [unread_poked hsplit rfl (by rw [List.length_take]; omega), List.append_assoc]

/-- What `s2n_stuffer_writev_bytes` appends: `size` bytes, those of the data from `offs` on if there
are so many. -/
lemma wp_writevBytes (offs size : ℕ) (t : Stuffer) :
    wp (writevBytes malloc iov offs size)
      (fun _ u => ∃ bs, u.unread = t.unread ++ bs ∧ bs.length = size ∧
        (offs % 2 ^ 32 + size ≤ (iovBytes iov).length →
          bs = ((iovBytes iov).drop (offs % 2 ^ 32)).take size) ∧
        u.readCursor = t.readCursor ∧ u.growable = t.growable ∧
        (t.NoGrowth size → u.blob.size = t.blob.size))
      (fun _ _ => t.spaceRemaining < size ∨ ∃ v ∈ iov, 0 < v.len ∧ ¬ v.Valid) t := by
  unfold writevBytes
  refine wp_sure_then (wp_rawWrite malloc size t (R := fun _ _ => False)) fun p u h => ?_
  obtain ⟨rfl, -, hlt⟩ | ⟨t', hroom, hext, hu, hsame, rfl⟩ := h
  · have hsize : ¬ size = 0 := by omega
    dsimp only
    rw [if_neg hsize, wp_throw]
    exact .inl hlt
  · have hun : u.unread = t.unread ++ slice t'.blob.data t'.writeCursor size := by
      rw [hu, unread_taint, unread_advanceWrite, hext.unread_eq]
    have hread : u.readCursor = t.readCursor := by rw [hu]; exact hext.readCursor
    have hgrow : u.growable = t.growable := by rw [hu]; exact hext.growable
    have hblob : t.NoGrowth size → u.blob.size = t.blob.size := by
      intro hle
      rw [hu, ← hsame hle]
      rfl
    have hend : t.writeCursor = u.readCursor + t.unread.length := by
      have := t.read_le_write
      rw [hread, unread_length, dataAvailable]
      omega
    generalize hbs : ((iovBytes iov).drop (offs % 2 ^ 32)).take size = bs
    have hlen : bs.length ≤ size := by
      rw [← hbs, List.length_take]
      exact Nat.min_le_left _ _
    have hfull : offs % 2 ^ 32 + size ≤ (iovBytes iov).length → bs.length = size := by
      intro hle
      rw [← hbs, List.length_take, List.length_drop]
      omega
    -- what the loop copies replaces the front of the memory that was handed out
    have hpost : ∀ w, w = u.poked (u.readCursor + t.unread.length) bs →
        ∃ bs', w.unread = t.unread ++ bs' ∧ bs'.length = size ∧
          (offs % 2 ^ 32 + size ≤ (iovBytes iov).length → bs' = bs) ∧
          w.readCursor = t.readCursor ∧ w.growable = t.growable ∧
          (t.NoGrowth size → w.blob.size = t.blob.size) := by
      rintro w rfl
      refine ⟨_, unread_poked_front hun (by rw [slice_length]; exact hlen), ?_, fun hle => ?_, hread,
        hgrow, hblob⟩
      · rw [List.length_append, List.length_drop, slice_length]
        omega
      · rw [List.drop_eq_nil_of_le (by rw [slice_length, hfull hle]), List.append_nil]
    have hloop := wp_writevLoop iov (offs % 2 ^ 32) size
    rw [hbs] at hloop
    split
    · rename_i hnone
      have hsize : size = 0 := by
        by_contra hne
        have hnull := isNull_eq_false_of_pos (t := u) (by
          rw [← unread_length, hun, List.length_append, slice_length]
          omega)
        simp [hnull] at hnone
      have hnil : bs = [] := List.length_eq_zero_iff.mp (by omega)
      rw [if_pos hsize]
      refine wp_mono (fun _ w hw => hpost w ?_) (fun _ _ h => .inr h) (hloop 0 u)
      rw [hw, hnil, poked_nil, poked_nil]
    · rename_i ptr hsome
      have hptr : ptr = u.readCursor + t.unread.length := by
        rw [← hend]
        split at hsome
        · cases hsome
        · exact (Option.some.inj hsome).symm
      refine wp_mono (fun _ w hw => hpost w ?_) (fun _ _ h => .inr h) (hloop ptr u)
      rw [hw, hptr]

lemma wp_poke_skipWrite (bs : List UInt8) (t : Stuffer) :
    wp (do poke t.writeCursor bs; skipWrite malloc bs.length)
      (fun _ u => u.unread = t.unread ++ bs)
      (fun _ u => (malloc.releases = true → u.unread = t.unread) ∧ t.spaceRemaining < bs.length) t := by
  have hun : (t.poked t.writeCursor bs).unread = t.unread := by
    have := t.read_le_write
    exact slice_overwrite_of_disjoint (.inl (by unfold dataAvailable poked; dsimp only; omega))
  rw [wp_bind, wp_poke]
  refine wp_mono (fun _ u h => ?_) (fun _ u h => ?_) (wp_skipWrite malloc bs.length _)
  · obtain ⟨t', hroom, hext, rfl, -⟩ := h
    have hdata : slice t'.blob.data t'.writeCursor bs.length = bs := by
      rw [hext.data, hext.writeCursor]
      exact slice_overwrite _ _ _
    rw [unread_advanceWrite, hext.unread_eq, hun, hdata]
  · exact ⟨fun hrel => h.1 hrel ▸ hun, h.2⟩

lemma wp_wipeN_back {t : Stuffer} (h : t.unread = a ++ b) :
    wp (wipeN b.length) (fun _ u => u.unread = a ∧ u.readCursor = t.readCursor) R t := by
  have havail : t.dataAvailable = a.length + b.length := by
    rw [← unread_length, h, List.length_append]
  have hle := t.read_le_write
  have hwipe : min b.length t.writeCursor = b.length := by
    unfold dataAvailable at havail
    omega
  have hread : min t.readCursor (t.writeCursor - b.length) = t.readCursor := by
    unfold dataAvailable at havail
    omega
  have hrest : t.writeCursor - b.length - t.readCursor = a.length := by
    unfold dataAvailable at havail
    omega
  rw [wipeN, wp_modify]
  simp only [unread, dataAvailable, hwipe, hread, hrest, and_true]
  have htake : slice t.blob.data t.readCursor a.length = a := by
    rw [← take_unread (by omega), h, List.take_left]
  refine Eq.trans (slice_overwrite_of_disjoint (.inl ?_)) htake
  omega

end S2nTls.Stuffer
