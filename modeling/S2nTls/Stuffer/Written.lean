import S2nTls.Stuffer.Reads

/-!
All that was written to a stuffer, read or not: what a reader gets that starts again from the
beginning.
-/

namespace S2nTls.Stuffer

open Lib

variable {t u : Stuffer} {n : ℕ}
variable {bs : List UInt8}

/-- The bytes before the write cursor. -/
def written (t : Stuffer) : List UInt8 := slice t.blob.data 0 t.writeCursor

@[simp] lemma written_length (t : Stuffer) : t.written.length = t.writeCursor := slice_length _ _ _

lemma unread_eq_drop_written (t : Stuffer) : t.unread = t.written.drop t.readCursor := by
  rw [written, drop_slice _ _ t.read_le_write, Nat.zero_add]
  rfl

lemma unread_eq_written (h : t.readCursor = 0) : t.unread = t.written := by
  rw [unread_eq_drop_written, h, List.drop_zero]

/-- `u` has the memory of `t`, whatever is written there. -/
structure SameBuffer (t u : Stuffer) : Prop where
  size : u.blob.size = t.blob.size
  isNull : u.blob.isNull = t.blob.isNull
  alloced : u.alloced = t.alloced
  growable : u.growable = t.growable
  tainted : u.tainted = t.tainted

lemma SameBuffer.refl (t : Stuffer) : SameBuffer t t := ⟨rfl, rfl, rfl, rfl, rfl⟩

lemma isNull_eq_false_of_size (h : 0 < t.blob.size) : t.blob.isNull = false := by
  by_contra hnull
  have := t.blob.null_size (by simpa using hnull)
  omega

variable (malloc : Allocator)

lemma wp_writeBytes_of_room (hroom : bs.length ≤ t.spaceRemaining) :
    wp (writeBytes malloc bs)
      (fun _ u => u.written = t.written ++ bs ∧ u.readCursor = t.readCursor ∧ SameBuffer t u)
      noError t := by
  unfold writeBytes
  by_cases hnil : bs.length = 0
  · rw [if_pos hnil, wp_pure]
    obtain rfl := List.length_eq_zero_iff.mp hnil
    exact ⟨(List.append_nil _).symm, rfl, SameBuffer.refl t⟩
  · rw [if_neg hnil]
    refine wp_seq (wp_skipWrite malloc _ t) (fun _ u h => ?_) fun _ _ h => ?_
    · obtain ⟨t', hroom', -, rfl, hsame⟩ := h
      obtain rfl := hsame (.inl hroom)
      rw [wp_read, wp_poke]
      refine ⟨?_, rfl, ⟨rfl, rfl, rfl, rfl, rfl⟩⟩
      have hcursor : (t'.advanceWrite bs.length hroom').writeCursor = t'.writeCursor + bs.length := rfl
      have hmem : (t'.advanceWrite bs.length hroom').blob.data = t'.blob.data := rfl
      calc slice (overwrite (t'.advanceWrite bs.length hroom').blob.data
              ((t'.advanceWrite bs.length hroom').writeCursor - bs.length) bs) 0
              (t'.advanceWrite bs.length hroom').writeCursor
          = slice (overwrite t'.blob.data t'.writeCursor bs) 0 (t'.writeCursor + bs.length) := by
            rw [hcursor, hmem, Nat.add_sub_cancel]
        _ = slice (overwrite t'.blob.data t'.writeCursor bs) 0 t'.writeCursor ++ bs := by
            rw [slice_add, Nat.zero_add, slice_overwrite]
        _ = t'.written ++ bs := by
            rw [slice_overwrite_of_disjoint (.inl (by omega))]
            rfl
    · omega

lemma wp_copy_of_room {src dst : Stuffer} (hle : n ≤ src.dataAvailable) (hroom : n ≤ dst.spaceRemaining) :
    wp (copy malloc n)
      (fun _ p => p.1 = src.advanceRead n hle ∧ p.2.written = dst.written ++ src.unread.take n ∧
        p.2.readCursor = dst.readCursor ∧ SameBuffer dst p.2)
      noError (src, dst) := by
  have hread : (skipRead n).run src = .ok () (src.advanceRead n hle) := dif_pos hle
  have hlen : (src.unread.take n).length ≤ dst.spaceRemaining := by
    rw [List.length_take, unread_length, Nat.min_eq_left hle]
    exact hroom
  obtain ⟨_, dst', hwrite, hdst⟩ := exists_ok_of_wp (wp_writeBytes_of_room malloc hlen)
  have hrun : (copy malloc n).run (src, dst) = .ok () (src.advanceRead n hle, dst') := by
    rw [take_unread hle] at hwrite
    simp only [EStateM.run] at hread hwrite
    simp only [EStateM.run, copy, hread, hwrite]
  exact (wp_of_ok hrun).mpr ⟨rfl, hdst⟩

lemma wp_resize_of_le (malloc : ℕ → Bool) {size : UInt32} (hpos : 0 < size.toNat)
    (hle : t.writeCursor ≤ size.toNat) (htaint : t.tainted = false) (hgrow : t.growable = true) :
    wp (resize malloc size)
      (fun _ u => u.written = t.written ∧ u.readCursor = t.readCursor ∧ u.blob.size = size.toNat ∧
        u.blob.isNull = false ∧ u.alloced = t.alloced ∧ u.growable = true ∧ u.tainted = false)
      (fun e u => e = .alloc ∧ malloc size.toNat = false ∧ u = t) t := by
  have hread : t.readCursor ≤ size.toNat := t.read_le_write.trans hle
  unfold resize
  rw [wp_read]
  refine wp_ensured htaint ?_
  refine wp_ensured hgrow ?_
  by_cases heq : size.toNat = t.blob.size
  · rw [if_pos heq, wp_pure]
    exact ⟨rfl, rfl, heq.symm, isNull_eq_false_of_size (heq ▸ hpos), rfl, hgrow, htaint⟩
  · rw [if_neg heq, if_neg (by omega)]
    by_cases hlt : size.toNat < t.blob.size
    · rw [dif_pos hlt, wp_set]
      have hcut : slice (overwrite t.blob.data size.toNat (List.replicate (t.blob.size - size.toNat) 0x77)) 0
          t.writeCursor = t.written := slice_overwrite_of_disjoint (.inl (by omega))
      refine ⟨?_, Nat.min_eq_left hread, rfl, isNull_eq_false_of_size hpos, rfl, hgrow, htaint⟩
      simp only [written, Nat.min_eq_left hle]
      exact hcut
    · rw [dif_neg hlt]
      refine wp_seq_ensure (fun _ => ?_) fun h => ⟨rfl, by simpa using h, rfl⟩
      refine wp_seq (wp_freeBlob _ t) (fun _ _ _ => ?_) fun _ _ hfail => nomatch hfail.2
      rw [wp_set]
      have hne : ¬ size.toNat = 0 := by omega
      refine ⟨?_, rfl, Blob.realloc_size _ _, ?_, rfl, hgrow, htaint⟩
      · simp only [written, Blob.realloc, if_neg hne]
      · simp only [Blob.realloc, if_neg hne]

/-! ### Reading keeps what was written -/

/-- The memory of a stuffer and how much of it was written. -/
def writtenView (t : Stuffer) : Blob × ℕ := (t.blob, t.writeCursor)

lemma written_eq_of_view (h : u.writtenView = t.writtenView) : u.written = t.written := by
  obtain ⟨hblob, hcursor⟩ := Prod.mk.inj h
  rw [written, written, hblob, hcursor]

lemma frames_skipRead (n : ℕ) : Frames writtenView (skipRead n) := by
  intro t
  by_cases h : n ≤ t.dataAvailable
  · rw [wp_of_ok (m := skipRead n) (show (skipRead n).run t = _ from dif_pos h)]
    rfl
  · rw [wp_of_error (m := skipRead n) (show (skipRead n).run t = _ from dif_neg h)]

lemma frames_readUint (width : ℕ) : Frames writtenView (readUint width) := by
  have hbytes : Frames writtenView (readBytes width) :=
    .read fun _ => (frames_skipRead width).bind fun _ =>
      .checked <| .pure _
  exact hbytes.bind fun _ => .pure _

lemma frames_rawRead (n : ℕ) : Frames writtenView (rawRead n) := by
  intro t
  by_cases h : n ≤ t.dataAvailable
  · rw [wp_of_ok (m := rawRead n) (show (rawRead n).run t = _ from dif_pos h)]
    rfl
  · rw [wp_of_ok (m := rawRead n) (show (rawRead n).run t = _ from dif_neg h)]

section Wp

variable {rest : List UInt8}

lemma wp_readUint_view {width : ℕ} (hnull : t.blob.isNull = false)
    (h : Parser.uint width t.unread = some (n, rest)) :
    wp (readUint width) (fun a u => (a = n ∧ u.unread = rest) ∧ u.writtenView = t.writtenView)
      noError t := by
  have hread : wp (readUint width) (fun a u => a = n ∧ u.unread = rest) noError t :=
    wp_readUint_of_uint hnull h fun u hu _ => ⟨rfl, hu⟩
  exact wp_mono (fun _ _ h => h) (fun _ _ h => h.1) (wp_and hread (frames_readUint width t))

lemma wp_rawRead_view (hnull : t.blob.isNull = false) (h : Parser.bytes n t.unread = some (bs, rest)) :
    wp (rawRead n) (fun o u => (∃ off, o = some off ∧ slice t.blob.data off n = bs ∧ u.unread = rest) ∧
      u.writtenView = t.writtenView) noError t := by
  have hread : wp (rawRead n) (fun o u => ∃ off, o = some off ∧ slice t.blob.data off n = bs ∧ u.unread = rest)
      noError t := wp_rawRead_of_bytes hnull h fun off u hslice hu _ => ⟨off, rfl, hslice, hu⟩
  exact wp_mono (fun _ _ h => h) (fun _ _ h => h.1) (wp_and hread (frames_rawRead n t))

lemma wp_skipRead_view (h : Parser.bytes n t.unread = some (bs, rest)) :
    wp (skipRead n) (fun _ u => u.unread = rest ∧ u.writtenView = t.writtenView) noError t := by
  obtain ⟨hun, rfl⟩ := Parser.bytes_eq_some.mp h
  have hle : bs.length ≤ t.dataAvailable := by
    rw [← unread_length, hun, List.length_append]
    exact Nat.le_add_right _ _
  refine wp_skipRead.mpr ⟨fun hle => ⟨?_, rfl⟩, fun hnot => hnot hle⟩
  rw [unread_advanceRead, hun, List.drop_left]

end Wp

end S2nTls.Stuffer
