import S2nTls.Stuffer.Queue
import S2nTls.Tls.Send

/-!
Data that is sent from an offset on and comes in several pieces: `s2n_ktls_io.c` leaves the pieces where they are,
`s2n_stuffer_writev_bytes` copies them, and `s2n_sendv_with_offset_total_size` says how much there is.
-/

namespace S2nTls

open Lib Stuffer

/-- Where the offset falls into an entry, fewer than `2 ^ 28` entries are left. -/
def CopyFits : List Iovec → (offs : ℕ) → Prop
  | [], _ => True
  | v :: vs, offs =>
    if 0 < offs ∧ v.len ≤ offs then CopyFits vs (offs - v.len) else offs = 0 ∨ (v :: vs).length < 2 ^ 28

variable {bufs : List Iovec} {offs mem : ℕ}

/-- What the loop leaves has the bytes after the offset. -/
lemma skipBufs_spec (hle : offs ≤ (iovBytes bufs).length) : ∃ rest k, skipBufs bufs offs = .ok (rest, k) ∧
    (iovBytes rest).drop k = (iovBytes bufs).drop offs ∧
    (k = 0 ∧ CopyFits bufs offs ∨
      ∃ v vs, rest = v :: vs ∧ 0 < k ∧ k < v.len ∧ (CopyFits bufs offs ↔ rest.length < 2 ^ 28)) := by
  induction bufs generalizing offs with
  | nil =>
    obtain rfl : offs = 0 := Nat.le_zero.mp hle
    exact ⟨[], 0, rfl, rfl, .inl ⟨rfl, trivial⟩⟩
  | cons v vs ih =>
    rw [skipBufs, CopyFits]
    by_cases hskip : 0 < offs ∧ v.len ≤ offs
    · rw [if_pos hskip, if_pos hskip, drop_iovBytes_of_le vs hskip.2]
      rw [iovBytes_cons, List.length_append, Iovec.bytes_length] at hle
      exact ih (by omega)
    · rw [if_neg hskip, if_neg hskip]
      refine ⟨v :: vs, offs, rfl, rfl, ?_⟩
      rcases Nat.eq_zero_or_pos offs with rfl | hpos
      · exact .inl ⟨rfl, .inl rfl⟩
      · exact .inr ⟨v, vs, rfl, hpos, by omega, or_iff_right (by omega)⟩

lemma allocCopy_of_lt (malloc : ℕ → Bool) (mem : ℕ) {size : ℕ} (hsize : size < 2 ^ 32) :
    allocCopy malloc mem size = .ok () ∨ allocCopy malloc mem size = .error (some .alloc) ∧ ∃ n, malloc n = false := by
  rw [allocCopy, Nat.mod_eq_of_lt hsize, if_neg (lt_irrefl size)]
  split_ifs with hle hzero hno
  · exact .inl rfl
  · omega
  · exact .inr ⟨rfl, size, hno⟩
  · exact .inl rfl

lemma allocCopy_of_ge (hmem : mem < 2 ^ 32) {size : ℕ} (hsize : 2 ^ 32 ≤ size) :
    ∃ e ≠ some .alloc, allocCopy (fun _ => true) mem size = .error e := by
  have hwrap : size % 2 ^ 32 < size := (Nat.mod_lt _ (by decide)).trans_le hsize
  rw [allocCopy, if_neg (by omega), if_neg (by decide : ¬ true = false), if_pos hwrap]
  split_ifs
  · exact ⟨_, by decide, rfl⟩
  · exact ⟨_, by decide, rfl⟩

/-- Unless there is no memory, the entries that are found have the bytes after the offset. -/
def UpdatesBufs (mem : ℕ) (bufs : List Iovec) (offs : ℕ) : Prop :=
  ∀ malloc, updateBufsWithOffset malloc mem bufs offs = .error (some .alloc) ∧ (∃ n, malloc n = false) ∨
    ∃ out, updateBufsWithOffset malloc mem bufs offs = .ok out ∧ iovBytes out = (iovBytes bufs).drop offs

lemma updatesBufs_iff (hle : offs ≤ (iovBytes bufs).length) (hmem : mem < 2 ^ 32) :
    UpdatesBufs mem bufs offs ↔ CopyFits bufs offs := by
  obtain ⟨rest, k, hskip, hdrop, ⟨rfl, hfits⟩ | ⟨v, vs, rfl, hpos, hlt, hfits⟩⟩ := skipBufs_spec hle
  · refine iff_of_true (fun malloc => .inr ⟨rest, ?_, hdrop⟩) hfits
    rw [updateBufsWithOffset, hskip]
    cases rest <;> rfl
  · have hupdate (malloc : ℕ → Bool) : updateBufsWithOffset malloc mem bufs offs = do
        allocCopy malloc mem ((v :: vs).length * iovecSize)
        return { v with base := fun i => v.base (k + i), len := v.len - k } :: vs := by
      rw [updateBufsWithOffset, hskip]
      exact if_neg hpos.ne'
    rw [hfits]
    refine ⟨fun h => ?_, fun hfew malloc => ?_⟩
    · by_contra hmany
      have hsize : 2 ^ 32 ≤ (v :: vs).length * iovecSize := by unfold iovecSize; omega
      obtain ⟨e, hne, he⟩ := allocCopy_of_ge hmem hsize
      have hresult := h fun _ => true
      rw [hupdate, he] at hresult
      obtain ⟨halloc, -⟩ | ⟨out, hout, -⟩ := hresult
      · exact hne (Except.error.inj halloc)
      · cases hout
    · have hsize : (v :: vs).length * iovecSize < 2 ^ 32 := by unfold iovecSize; omega
      rw [hupdate]
      obtain hok | ⟨herror, hno⟩ := allocCopy_of_lt malloc mem hsize
      · rw [hok, ← hdrop, drop_iovBytes_of_lt vs hlt, ← slice_offset]
        exact .inr ⟨_, rfl, rfl⟩
      · rw [herror]
        exact .inl ⟨rfl, hno⟩

/-! ### The size and the copy -/

lemma totalSizeLoop_eq (bufs : List Iovec) (offs total : ℕ) (hfits : total + (iovBytes bufs).length < 2 ^ 64) :
    totalSizeLoop bufs offs total = .ok (offs - (iovBytes bufs).length, total + ((iovBytes bufs).length - offs)) := by
  induction bufs generalizing offs total with
  | nil => simp [totalSizeLoop, iovBytes]
  | cons v vs ih =>
    rw [iovBytes_cons, List.length_append, Iovec.bytes_length] at hfits ⊢
    rw [totalSizeLoop, if_pos (by omega), ih _ _ (by omega)]
    congr 2 <;> omega

lemma sendvTotalSize_eq (hle : offs ≤ (iovBytes bufs).length) (htotal : (iovBytes bufs).length < 2 ^ 31) :
    sendvTotalSize bufs offs = .ok ((iovBytes bufs).length - offs) := by
  rw [sendvTotalSize, if_neg (by omega), Int.toNat_natCast, totalSizeLoop_eq _ _ _ (by omega)]
  refine (if_pos ⟨?_, ?_⟩).trans (congrArg Except.ok (Nat.zero_add _))
  · exact Nat.sub_eq_zero_of_le hle
  · omega

lemma len_le_of_mem {v : Iovec} (hv : v ∈ bufs) : v.len ≤ (iovBytes bufs).length := by
  obtain ⟨before, after, rfl⟩ := List.append_of_mem hv
  simp only [iovBytes, List.flatMap_append, List.flatMap_cons, List.length_append, Iovec.bytes_length]
  omega

/-- **The three ways to take scattered data apart agree** if the memory for a changed copy of the entries is there. -/
theorem iovec_walkers_agree_iff (mem : ℕ) (bufs : List Iovec) (offs : ℕ) (hmem : mem < 2 ^ 32)
    (hdata : ∀ v ∈ bufs, 0 < v.len → v.isNull = false) (htotal : (iovBytes bufs).length < 2 ^ 31)
    (hle : offs ≤ (iovBytes bufs).length) :
    (UpdatesBufs mem bufs offs ∧ sendvTotalSize bufs offs = .ok ((iovBytes bufs).length - offs) ∧
      ∀ malloc (t : Stuffer), ∀ size ≤ (iovBytes bufs).length - offs, wp (writevBytes malloc bufs offs size)
        (fun _ u => u.unread = t.unread ++ ((iovBytes bufs).drop offs).take size)
        (fun _ _ => t.spaceRemaining < size) t) ↔ CopyFits bufs offs := by
  rw [updatesBufs_iff hle hmem]
  refine and_iff_left ⟨sendvTotalSize_eq hle htotal, fun malloc t size hsize => ?_⟩
  have hwritev := wp_writevBytes malloc bufs offs size t
  rw [Nat.mod_eq_of_lt (by omega)] at hwritev
  refine wp_mono (fun _ u hu => ?_) (fun _ _ hu => ?_) hwritev
  · obtain ⟨bs, hun, -, hbs, -⟩ := hu
    rw [hun, hbs (by omega)]
  · refine hu.resolve_right fun ⟨v, hv, hpos, hbad⟩ => hbad ⟨?_, hdata v hv hpos⟩
    exact (len_le_of_mem hv).trans_lt (by omega)

theorem iovec_walkers_agree_iff_two :
    let bufs : List Iovec := [⟨fun _ => 7, 2, false⟩, ⟨fun _ => 0, 0, true⟩]
    CopyFits bufs 1 ∧ sendvTotalSize bufs 1 = .ok 1 := by
  intro bufs
  have hfits : CopyFits bufs 1 := Or.inr (by decide)
  have hagree := iovec_walkers_agree_iff 256 bufs 1 (by decide) (by simp [bufs]) (by decide) (by decide)
  exact ⟨hfits, (hagree.mpr hfits).2.1⟩

/-- **With more entries the memory is too small for the copy.** -/
theorem updateBufsWithOffset_overruns :
    let bufs : List Iovec := List.replicate (2 ^ 28 + 1) ⟨fun _ => 0, 2, false⟩
    (iovBytes bufs).length < 2 ^ 31 ∧ updateBufsWithOffset (fun _ => true) 256 bufs 1 = .error none := by
  have hcopy (n : ℕ) (hout : allocCopy (fun _ => true) 256 ((n + 1) * iovecSize) = .error none) :
      updateBufsWithOffset (fun _ => true) 256 (List.replicate (n + 1) ⟨fun _ => 0, 2, false⟩) 1 = .error none := by
    rw [List.replicate_succ, updateBufsWithOffset, skipBufs, if_neg (by decide)]
    change (allocCopy _ _ (((List.replicate n _).length + 1) * iovecSize) >>= fun _ => _) = _
    rw [List.length_replicate, hout]
    rfl
  refine ⟨?_, hcopy (2 ^ 28) rfl⟩
  rw [iovBytes, List.length_flatMap, List.map_replicate, List.sum_replicate_nat]
  decide

end S2nTls
