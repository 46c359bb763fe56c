import S2nTls.Stuffer.Queue

/-!
Stuffers over memory of a fixed size, such as the one a record is laid out in. Nothing is read
from them while they are written, so what they hold starts at the beginning of the memory.
-/

namespace S2nTls.Stuffer

open Lib

variable {R : Err → Stuffer → Prop} {bs : List UInt8} {t : Stuffer} {size : ℕ}

/-- The stuffer `t` over `size` bytes of memory holds `bs`. -/
structure Holds (t : Stuffer) (size : ℕ) (bs : List UInt8) : Prop where
  growable : t.growable = false
  size_eq : t.blob.size = size
  readCursor : t.readCursor = 0
  unread : t.unread = bs

namespace Holds

lemma writeCursor_eq (h : Holds t size bs) : t.writeCursor = bs.length := by
  have := congrArg List.length h.unread
  rw [unread_length, dataAvailable, h.readCursor] at this
  exact this

lemma spaceRemaining_eq (h : Holds t size bs) : t.spaceRemaining = size - bs.length := by
  rw [spaceRemaining, h.size_eq, h.writeCursor_eq]

lemma length_le (h : Holds t size bs) : bs.length ≤ size := by
  rw [← h.writeCursor_eq, ← h.size_eq]
  exact t.write_le_high.trans t.high_le_size

/-- What the memory holds at the place of a part of `bs`. -/
lemma slice_eq {a b c : List UInt8} (h : Holds t size (a ++ b ++ c)) :
    slice t.blob.data a.length b.length = b := by
  have hun := h.unread
  rw [Stuffer.unread, dataAvailable, h.readCursor, h.writeCursor_eq, List.length_append, List.length_append,
    Nat.sub_zero, slice_add, slice_add, Nat.zero_add] at hun
  obtain ⟨hab, -⟩ := List.append_inj hun (by simp)
  exact (List.append_inj hab (by simp)).2

lemma init (b : Blob) : Holds (Stuffer.init b) b.size [] := ⟨rfl, rfl, rfl, rfl⟩

variable (h : Holds t size bs)

include h

lemma wiped : Holds t.wiped size [] := by
  refine ⟨h.growable, ?_, rfl, rfl⟩
  rw [← h.size_eq, Stuffer.wiped]
  dsimp only
  split <;> rfl

lemma noGrowth (n : ℕ) : t.NoGrowth n := Or.inr h.growable

lemma writeBytes (malloc : Allocator) (xs : List UInt8) :
    wp (Stuffer.writeBytes malloc xs) (fun _ u => Holds u size (bs ++ xs))
      (fun _ _ => size < bs.length + xs.length) t := by
  refine wp_mono (fun _ u hu => ?_) (fun _ u hu => ?_) (wp_writeBytes malloc xs t)
  · obtain ⟨hun, hread, hgrow, -, hsize⟩ := hu
    refine ⟨hgrow.trans h.growable, ?_, hread.trans h.readCursor, by rw [hun, h.unread]⟩
    rw [hsize (h.noGrowth _), h.size_eq]
  · have hle := h.length_le
    have hspace := h.spaceRemaining_eq
    omega

lemma writevBytes (malloc : Allocator) (iov : List Iovec) (offs n : ℕ) :
    wp (Stuffer.writevBytes malloc iov offs n)
      (fun _ u => ∃ xs, Holds u size (bs ++ xs) ∧ xs.length = n ∧ (offs % 2 ^ 32 + n ≤ (iovBytes iov).length →
          xs = ((iovBytes iov).drop (offs % 2 ^ 32)).take n))
      (fun _ _ => size < bs.length + n ∨ ∃ v ∈ iov, ¬ v.Valid) t := by
  refine wp_mono (fun _ u hu => ?_) (fun _ u hu => ?_) (wp_writevBytes malloc iov offs n t)
  · obtain ⟨xs, hun, hlen, hxs, hread, hgrow, hsize⟩ := hu
    refine ⟨xs, ⟨hgrow.trans h.growable, ?_, hread.trans h.readCursor, by rw [hun, h.unread]⟩, hlen, hxs⟩
    rw [hsize (h.noGrowth _), h.size_eq]
  · have hle := h.length_le
    have hspace := h.spaceRemaining_eq
    exact hu.imp (fun hlt => by omega) fun ⟨v, hv, _, hbad⟩ => ⟨v, hv, hbad⟩

omit h

lemma poked {a b c xs : List UInt8} (h : Holds t size (a ++ b ++ c)) (hlen : xs.length = b.length) :
    Holds (t.poked a.length xs) size (a ++ xs ++ c) :=
  ⟨h.growable, h.size_eq, h.readCursor, unread_poked h.unread (by rw [h.readCursor, Nat.zero_add]) hlen⟩

/-- Memory handed out and not filled holds whatever it held before. -/
lemma rawWrite (h : Holds t size bs) (malloc : Allocator) (n : ℕ) : wp (Stuffer.rawWrite malloc n)
      (fun p u => p = none ∧ (size < bs.length + n ∨ size = 0) ∨
        ∃ junk, p = some bs.length ∧ junk.length = n ∧ Holds u size (bs ++ junk)) R t := by
  refine wp_mono_ok (fun p u hu => ?_) (wp_rawWrite malloc n t)
  obtain ⟨rfl, -, hlt⟩ | ⟨t', hroom, -, rfl, hsame, rfl⟩ := hu
  · have hle := h.length_le
    have hspace := h.spaceRemaining_eq
    exact .inl ⟨rfl, .inl (by omega)⟩
  · obtain rfl := hsame (h.noGrowth _)
    by_cases hnull : t'.blob.isNull = true
    · refine .inl ⟨if_pos hnull, .inr ?_⟩
      rw [← h.size_eq, t'.blob.null_size hnull]
    · refine .inr ⟨slice t'.blob.data t'.writeCursor n, ?_, slice_length _ _ _, h.growable, h.size_eq,
        h.readCursor, ?_⟩
      · rw [← h.writeCursor_eq]
        exact if_neg hnull
      · rw [unread_taint, unread_advanceWrite, h.unread]

end Holds

/-- The memory of `t` starts with `bs`, wherever the write cursor is. -/
structure Contains (t : Stuffer) (size : ℕ) (bs : List UInt8) : Prop where
  growable : t.growable = false
  size_eq : t.blob.size = size
  readCursor : t.readCursor = 0
  bytes : slice t.blob.data 0 bs.length = bs

namespace Contains

lemma of_holds (h : Holds t size bs) : Contains t size bs := by
  refine ⟨h.growable, h.size_eq, h.readCursor, ?_⟩
  have hun := h.unread
  rw [unread, dataAvailable, h.readCursor, h.writeCursor_eq] at hun
  exact hun

variable (h : Contains t size bs)

include h

/-- Once the write cursor is past `bs` the stuffer holds it again. -/
lemma holds (hle : bs.length ≤ t.writeCursor) :
    ∃ junk, junk.length = t.writeCursor - bs.length ∧ Holds t size (bs ++ junk) := by
  refine ⟨slice t.blob.data bs.length (t.writeCursor - bs.length), slice_length _ _ _, h.growable,
    h.size_eq, h.readCursor, ?_⟩
  obtain ⟨k, hk⟩ := Nat.exists_eq_add_of_le hle
  rw [unread, dataAvailable, h.readCursor, Nat.sub_zero, hk, Nat.add_sub_cancel_left, slice_add,
    h.bytes, Nat.zero_add]

lemma skipWrite (malloc : Allocator) (n : ℕ) :
    wp (Stuffer.skipWrite malloc n)
      (fun _ u => Contains u size bs ∧ u.writeCursor = t.writeCursor + n)
      (fun _ _ => size < t.writeCursor + n) t := by
  refine wp_mono (fun _ u hu => ?_) (fun _ u hu => ?_) (wp_skipWrite malloc n t)
  · obtain ⟨t', hroom, -, rfl, hsame⟩ := hu
    obtain rfl := hsame (.inr h.growable)
    exact ⟨⟨h.growable, h.size_eq, h.readCursor, h.bytes⟩, rfl⟩
  · have hlt := hu.2
    have hw := t.write_le_high.trans t.high_le_size
    rw [spaceRemaining, h.size_eq] at hlt
    rw [h.size_eq] at hw
    omega

lemma rewrite :
    wp Stuffer.rewrite (fun _ u => Contains u size bs ∧ u.writeCursor = 0) R t := by
  rw [Stuffer.rewrite, wp_modify]
  exact ⟨⟨h.growable, h.size_eq, rfl, h.bytes⟩, rfl⟩

lemma rawWrite (malloc : Allocator) (n : ℕ) : wp (Stuffer.rawWrite malloc n)
      (fun p u => p = none ∧ (size < t.writeCursor + n ∨ size = 0) ∨
        p = some t.writeCursor ∧ Contains u size bs ∧ u.writeCursor = t.writeCursor + n) R t := by
  refine wp_mono_ok (fun p u hu => ?_) (wp_rawWrite malloc n t)
  obtain ⟨rfl, -, hlt⟩ | ⟨t', hroom, -, rfl, hsame, rfl⟩ := hu
  · have hw := t.write_le_high.trans t.high_le_size
    rw [spaceRemaining, h.size_eq] at hlt
    rw [h.size_eq] at hw
    exact .inl ⟨rfl, .inl (by omega)⟩
  · obtain rfl := hsame (.inr h.growable)
    by_cases hnull : t'.blob.isNull = true
    · refine .inl ⟨if_pos hnull, .inr ?_⟩
      rw [← h.size_eq, t'.blob.null_size hnull]
    · exact .inr ⟨if_neg hnull, ⟨h.growable, h.size_eq, h.readCursor, h.bytes⟩, rfl⟩

end Contains

end S2nTls.Stuffer
