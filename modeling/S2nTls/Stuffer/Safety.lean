import S2nTls.Lib.Calls
import S2nTls.Stuffer.Queue

/-!
What all operations of a stuffer keep.

The relations between the cursors are fields of `Stuffer`. Here is what is said about two states: memory at and
beyond the high water mark is as it was when it was allocated or last wiped, the memory of a tainted stuffer stays
where it is, and an operation that fails leaves the cursors and the unread data. The last one does not hold of
`s2n_stuffer_writev_bytes` with an entry that it refuses, and of `s2n_stuffer_erase_and_read` to nowhere: both have
moved a cursor before they fail. A stuffer that is set up again while it is in use loses what it has, and so does one
whose memory is zeroed by `s2n_free` and then cannot be given back.
-/

namespace S2nTls

open Lib

namespace Stuffer

variable {n : ℕ} {size : UInt32}

/-! ### Operations with their pointers -/

def alloc (malloc : Allocator) (size : UInt32) : StufferM Unit := fun _ =>
  if size.toNat = 0 ∨ malloc size.toNat = true then
    .ok () { init (Blob.zero.realloc size) with alloced := true, growable_alloced := fun _ => rfl }
  else .error .alloc zero

/-- `s2n_stuffer_read_bytes` to a pointer that may be `NULL`. -/
def readBytesTo (isNull : Bool) (n : ℕ) : StufferM Unit := do
  ensure (isNull = false) .null
  let _ ← readBytes n

/-- `s2n_stuffer_erase_and_read` to a pointer that may be `NULL`. -/
def eraseAndRead (isNull : Bool) (n : ℕ) : StufferM Unit := do
  let s ← get
  skipRead n
  ensure (n = 0 ∨ s.blob.isNull = false) .null
  -- the cursor has moved when the copy refuses the pointer
  ensure (n = 0 ∨ isNull = false) .null
  poke s.readCursor (List.replicate n 0)

/-- `s2n_stuffer_write_bytes` from a pointer that may be `NULL`. -/
def writeBytesFrom (malloc : Allocator) (isNull : Bool) (bs : List UInt8) : StufferM Unit := do
  ensure (bs.length = 0 ∨ isNull = false) .safety
  writeBytes malloc bs

/-- `s2n_stuffer_raw_read` that fails if the pointer is `NULL`. -/
def rawReadPtr (n : ℕ) : StufferM Unit := do
  match ← rawRead n with
  | none => throw .null
  | some _ => return

/-- `s2n_stuffer_raw_write` that fails if the pointer is `NULL`; the caller writes to the memory that it is given. -/
def rawWritePtr (malloc : Allocator) (n : ℕ) (bs : List UInt8) : StufferM Unit := do
  match ← rawWrite malloc n with
  | none => throw .null
  | some ptr => poke ptr (bs.take n)

/-- `s2n_stuffer_copy` from another stuffer. -/
def copyFrom (malloc : Allocator) (src : Stuffer) (len : ℕ) : StufferM Unit := fun s =>
  match (copy malloc len).run (src, s) with
  | .ok _ p => .ok () p.2
  | .error e p => .error e p.2

/-- `s2n_stuffer_copy` to another stuffer. -/
def copyTo (malloc : Allocator) (dst : Stuffer) (len : ℕ) : StufferM Unit := fun s =>
  match (copy malloc len).run (s, dst) with
  | .ok _ p => .ok () p.1
  | .error e p => .error e p.1

/-- The operations, with all their arguments and the allocator at that time. -/
inductive Op
  | init (b : Blob) | initWritten (b : Blob)
  | alloc (malloc : Allocator) (size : UInt32) | growableAlloc (malloc : Allocator) (size : UInt32)
  | resize (malloc : Allocator) (size : UInt32) | resizeIfEmpty (malloc : Allocator) (size : UInt32)
  | rewrite | reread | rewindRead (n : ℕ) | wipe | wipeN (n : ℕ)
  | skipRead (n : ℕ) | rawRead (n : ℕ) | readBytes (isNull : Bool) (n : ℕ) | eraseAndRead (isNull : Bool) (n : ℕ)
  | skipWrite (malloc : Allocator) (n : ℕ) | rawWrite (malloc : Allocator) (n : ℕ) (bs : List UInt8)
  | writeBytes (malloc : Allocator) (isNull : Bool) (bs : List UInt8)
  | writevBytes (malloc : Allocator) (iov : List Iovec) (offs size : ℕ)
  | copyFrom (malloc : Allocator) (src : Stuffer) (len : ℕ) | copyTo (malloc : Allocator) (dst : Stuffer) (len : ℕ)
  | shift | reserveSpace (malloc : Allocator) (n : ℕ) | free (malloc : Allocator)

def Op.run : Op → StufferM Unit
  | .init b => set (Stuffer.init b)
  | .initWritten b => set (Stuffer.initWritten b)
  | .alloc malloc size => Stuffer.alloc malloc size
  | .growableAlloc malloc size => Stuffer.growableAlloc malloc size
  | .resize malloc size => Stuffer.resize malloc size
  | .resizeIfEmpty malloc size => Stuffer.resizeIfEmpty malloc size
  | .rewrite => Stuffer.rewrite
  | .reread => Stuffer.reread
  | .rewindRead n => Stuffer.rewindRead n
  | .wipe => Stuffer.wipe
  | .wipeN n => Stuffer.wipeN n
  | .skipRead n => Stuffer.skipRead n
  | .rawRead n => rawReadPtr n
  | .readBytes isNull n => readBytesTo isNull n
  | .eraseAndRead isNull n => Stuffer.eraseAndRead isNull n
  | .skipWrite malloc n => Stuffer.skipWrite malloc n
  | .rawWrite malloc n bs => rawWritePtr malloc n bs
  | .writeBytes malloc isNull bs => writeBytesFrom malloc isNull bs
  | .writevBytes malloc iov offs size => Stuffer.writevBytes malloc iov offs size
  | .copyFrom malloc src len => Stuffer.copyFrom malloc src len
  | .copyTo malloc dst len => Stuffer.copyTo malloc dst len
  | .shift => Stuffer.shift
  | .reserveSpace malloc n => Stuffer.reserveSpace malloc n
  | .free malloc => Stuffer.free malloc

/-- The operations that give a stuffer its memory. -/
def Op.setsUp : Op → Bool
  | .init _ | .initWritten _ | .alloc _ _ | .growableAlloc _ _ => true
  | _ => false

/-! ### What is kept -/

variable {s s' t u : Stuffer} {d : ℕ → UInt8}

/-- Memory at and beyond the high water mark is as it is noted in `d`. -/
def Unwritten (d : ℕ → UInt8) (s : Stuffer) : Prop := ∀ i, s.highWaterMark ≤ i → i < s.blob.size → s.blob.data i = d i

/-- The bytes of memory as they were when they were allocated or last wiped. -/
def Op.noted (op : Op) (d : ℕ → UInt8) (s s' : Stuffer) : ℕ → UInt8 := fun i =>
  match op with
  | .wipe => s'.blob.data i
  | _ => if op.setsUp = true ∨ s.blob.size ≤ i then s'.blob.data i else d i

/-- Cursors and unread data are the same. -/
structure SameQueue (s s' : Stuffer) : Prop where
  unread : s'.unread = s.unread
  readCursor : s'.readCursor = s.readCursor
  writeCursor : s'.writeCursor = s.writeCursor

/-- **What an operation guarantees.** -/
structure Op.Safe (op : Op) (d : ℕ → UInt8) (s s' : Stuffer) (r : Except Err Unit) : Prop where
  cursors : s'.readCursor ≤ s'.writeCursor ∧ s'.writeCursor ≤ s'.highWaterMark ∧ s'.highWaterMark ≤ s'.blob.size
  growable : s'.growable = true → s'.alloced = true
  unwritten : Unwritten (op.noted d s s') s'
  pinned : s.tainted = true → op ≠ .wipe → (∀ malloc, op ≠ .free malloc) →
    s'.blob.size = s.blob.size ∧ s'.blob.isNull = s.blob.isNull ∧ s'.tainted = true
  failed : ∀ e, r = .error e → SameQueue s s'

/-- Each operation of a sequence guarantees it. -/
def AlwaysSafe : List Op → (ℕ → UInt8) → Stuffer → Prop
  | [], _, _ => True
  | op :: ops, d, s =>
    op.Safe d s (finalState op.run s) (outcome op.run s) ∧
      AlwaysSafe ops (op.noted d s (finalState op.run s)) (finalState op.run s)

/-- The arguments and the states for which it is guaranteed. An allocator takes back what an operation frees; whether
it grants memory is left open. -/
def Op.Permitted : Op → Stuffer → Prop
  | .init _, s | .initWritten _, s | .alloc _ _, s | .growableAlloc _ _, s => s.tainted = false ∧ s.writeCursor = 0
  | .eraseAndRead isNull _, _ => isNull = false
  | .writevBytes malloc iov _ _, _ => malloc.releases = true ∧ ∀ v ∈ iov, v.Valid
  | .resize malloc _, _ | .skipWrite malloc _, _ | .rawWrite malloc _ _, _ | .writeBytes malloc _ _, _
  | .copyFrom malloc _ _, _ | .reserveSpace malloc _, _ | .free malloc, _ => malloc.releases = true
  | _, _ => True

/-! ### Operations on memory that is there -/

/-- What an operation keeps that neither sets up nor wipes the stuffer. -/
structure Kept (s s' : Stuffer) : Prop where
  memory : ∀ i, s'.highWaterMark ≤ i → i < s'.blob.size → i < s.blob.size →
    s.highWaterMark ≤ i ∧ s'.blob.data i = s.blob.data i
  pinned : s.tainted = true → s'.blob.size = s.blob.size ∧ s'.blob.isNull = s.blob.isNull ∧ s'.tainted = true

lemma Kept.of_eq (hblob : s'.blob = s.blob) (hhigh : s'.highWaterMark = s.highWaterMark)
    (htaint : s.tainted = true → s'.tainted = true) : Kept s s' where
  memory i hi _ _ := ⟨hhigh ▸ hi, by rw [hblob]⟩
  pinned h := ⟨by rw [hblob], by rw [hblob], htaint h⟩

lemma Kept.refl (s : Stuffer) : Kept s s := .of_eq rfl rfl id

lemma SameQueue.refl (s : Stuffer) : SameQueue s s := ⟨rfl, rfl, rfl⟩

lemma kept_self (s : Stuffer) : Kept s s ∧ SameQueue s s := ⟨Kept.refl s, SameQueue.refl s⟩

lemma kept_of_eq (h : u = s) : Kept s u ∧ SameQueue s u := by
  subst h
  exact kept_self u

lemma Kept.poked (h : Kept s t) {i : ℕ} {bs : List UInt8} (hle : i + bs.length ≤ t.highWaterMark) :
    Kept s (t.poked i bs) where
  memory j hj hsize hj' := by
    obtain ⟨hhigh, hdata⟩ := h.memory j hj hsize hj'
    have hj₀ : t.highWaterMark ≤ j := hj
    exact ⟨hhigh, (overwrite_of_le (hle.trans hj₀)).trans hdata⟩
  pinned := h.pinned

/-- An operation that keeps what it has to, and changes nothing for the reader if it fails. -/
def Keeping (m : StufferM Unit) : Prop :=
  ∀ s, wp m (fun _ s' => Kept s s') (fun _ s' => Kept s s' ∧ SameQueue s s') s

lemma keeping_rewrite : Keeping rewrite := fun s => by
  unfold rewrite
  rw [wp_modify]
  exact .of_eq rfl rfl id

lemma keeping_reread : Keeping reread := fun s => by
  unfold reread
  rw [wp_modify]
  exact .of_eq rfl rfl id

lemma keeping_rewindRead (n : ℕ) : Keeping (rewindRead n) := fun s => by
  unfold rewindRead wp
  simp only [EStateM.run]
  by_cases hle : n ≤ s.readCursor
  · rw [if_pos hle]
    exact .of_eq rfl rfl id
  · rw [if_neg hle]
    exact kept_self s

lemma keeping_wipeN (n : ℕ) : Keeping (wipeN n) := fun s => by
  unfold wipeN
  rw [wp_modify]
  have hhigh := s.write_le_high
  have hpoked : Kept s (s.poked (s.writeCursor - min n s.writeCursor) (List.replicate (min n s.writeCursor) 0x77)) :=
    (Kept.refl s).poked (by rw [List.length_replicate]; omega)
  exact ⟨hpoked.memory, hpoked.pinned⟩

lemma keeping_shift : Keeping shift := fun s => by
  unfold shift
  rw [wp_modify]
  have hhigh := s.write_le_high
  have hpoked : Kept s (s.poked 0 s.unread) := (Kept.refl s).poked (by
    rw [unread_length]
    unfold dataAvailable
    omega)
  exact ⟨hpoked.memory, hpoked.pinned⟩

lemma keeping_skipRead (n : ℕ) : Keeping (skipRead n) := fun s => by
  rw [wp_skipRead]
  exact ⟨fun _ => .of_eq rfl rfl id, fun _ => kept_self s⟩

/-- A stuffer without memory has no bytes. -/
lemma eq_zero_of_isNull (hnull : s.blob.isNull = true) (hle : n ≤ s.dataAvailable) : n = 0 := by
  have h₁ := s.blob.null_size hnull
  have h₂ := s.write_le_high
  have h₃ := s.high_le_size
  unfold dataAvailable at hle
  omega

lemma keeping_rawReadPtr (n : ℕ) : Keeping (rawReadPtr n) := fun s => by
  unfold rawReadPtr
  rw [wp_bind]
  unfold rawRead wp
  simp only [EStateM.run]
  by_cases hle : n ≤ s.dataAvailable
  · rw [dif_pos hle]
    have hkept : Kept s (s.advanceRead n hle).taint := .of_eq rfl rfl fun _ => rfl
    by_cases hnull : s.blob.isNull = true
    · obtain rfl := eq_zero_of_isNull hnull hle
      rw [if_pos hnull]
      exact ⟨hkept, rfl, rfl, rfl⟩
    · rw [if_neg hnull]
      exact hkept
  · rw [dif_neg hle]
    exact kept_self s

/-- A cursor that has moved by nothing. -/
lemma sameQueue_advanceRead_zero (h : 0 ≤ s.dataAvailable) : SameQueue s (s.advanceRead 0 h) := ⟨rfl, rfl, rfl⟩

lemma keeping_readBytesTo (isNull : Bool) (n : ℕ) : Keeping (readBytesTo isNull n) := fun s => by
  unfold readBytesTo
  refine wp_guard (kept_self s) fun _ => ?_
  unfold readBytes
  rw [wp_bind, wp_read, wp_bind, wp_skipRead]
  refine ⟨fun hle => ?_, fun _ => kept_self s⟩
  have hkept : Kept s (s.advanceRead n hle) := .of_eq rfl rfl id
  refine wp_seq_ensure (fun _ => hkept) fun hnull => ⟨hkept, ?_⟩
  obtain rfl := eq_zero_of_isNull (by simpa using hnull) hle
  exact sameQueue_advanceRead_zero hle

/-- A copy to a pointer that is not `NULL`. -/
lemma keeping_eraseAndRead (n : ℕ) : Keeping (eraseAndRead false n) := fun s => by
  unfold eraseAndRead
  rw [wp_read, wp_bind, wp_skipRead]
  refine ⟨fun hle => ?_, fun _ => kept_self s⟩
  have hkept : Kept s (s.advanceRead n hle) := .of_eq rfl rfl id
  refine wp_seq_ensure (fun _ => ?_) fun hnull => ⟨hkept, ?_⟩
  · refine wp_ensured (.inr rfl) ?_
    rw [wp_poke]
    refine hkept.poked ?_
    have h₁ := s.write_le_high
    have h₂ := s.read_le_write
    rw [List.length_replicate]
    show s.readCursor + n ≤ s.highWaterMark
    unfold dataAvailable at hle
    omega
  · obtain rfl := eq_zero_of_isNull (by simpa using fun h => hnull (.inr h)) hle
    exact sameQueue_advanceRead_zero hle

/-! ### Operations that may need more memory -/

/-- `n` bytes of memory were given to the reader. Only the memory of a stuffer that is not tainted has become
larger for that. -/
structure Widened (n : ℕ) (s u : Stuffer) : Prop where
  data : u.blob.data = s.blob.data
  readCursor : u.readCursor = s.readCursor
  writeCursor : u.writeCursor = s.writeCursor + n
  high_le : s.highWaterMark ≤ u.highWaterMark
  tainted : s.tainted = true → u.blob = s.blob ∧ u.tainted = true

lemma Widened.kept (h : Widened n s u) : Kept s u where
  memory i hi _ _ := ⟨h.high_le.trans hi, by rw [h.data]⟩
  pinned ht := by
    obtain ⟨hblob, htaint⟩ := h.tainted ht
    exact ⟨by rw [hblob], by rw [hblob], htaint⟩

lemma Widened.kept_poked (h : Widened n s u) {bs : List UInt8} (hle : bs.length ≤ n) :
    Kept s (u.poked s.writeCursor bs) := by
  refine h.kept.poked ?_
  have hhigh := u.write_le_high
  rw [h.writeCursor] at hhigh
  omega

/-- Memory of no bytes that was given to the reader. -/
lemma Widened.sameQueue (h : Widened 0 s u) : SameQueue s u where
  unread := by rw [unread, unread, dataAvailable, dataAvailable, h.data, h.readCursor, h.writeCursor, Nat.add_zero]
  readCursor := h.readCursor
  writeCursor := h.writeCursor

variable {malloc : Allocator} (hrel : malloc.releases = true)

include hrel

lemma wp_freeBlob_of_releases (s : Stuffer) : wp (freeBlob malloc) (fun _ _ => True) noError s :=
  wp_mono (fun _ _ h => h) (fun _ _ h => absurd (hrel.symm.trans h.2) (by decide)) (wp_freeBlob malloc s)

/-- Growing needs a stuffer that is not tainted. -/
lemma wp_resize_widened (hlt : s.blob.size < size.toNat) :
    wp (resize malloc size) (fun _ u => Widened 0 s u ∧ u.blob.size = size.toNat) (fun _ u => u = s) s := by
  unfold resize
  rw [wp_read]
  refine wp_guard rfl fun htaint => ?_
  refine wp_guard rfl fun _ => ?_
  have hpos : ¬ size.toNat = 0 := by omega
  rw [if_neg (by omega), if_neg hpos, dif_neg (by omega)]
  refine wp_guard rfl fun _ => ?_
  refine wp_sure_then (wp_freeBlob_of_releases hrel s) fun _ _ _ => ?_
  rw [wp_set]
  refine ⟨⟨?_, rfl, rfl, le_rfl, fun ht => ?_⟩, Blob.realloc_size _ _⟩
  · simp only [Blob.realloc, if_neg hpos]
  · rw [htaint] at ht
    cases ht

lemma wp_reserveSpace_widened (n : ℕ) (s : Stuffer) :
    wp (reserveSpace malloc n) (fun _ u => Widened 0 s u ∧ n ≤ u.spaceRemaining) (fun _ u => u = s) s := by
  have hhigh := s.write_le_high
  have hle := s.high_le_size
  have hgrow : 0 < minGrowth := by decide
  unfold reserveSpace
  rw [wp_read]
  by_cases hroom : s.spaceRemaining < n
  · rw [if_pos hroom]
    refine wp_guard rfl fun _ => ?_
    dsimp only
    split
    · rename_i hsize
      refine wp_mono_ok (fun _ u hu => ⟨hu.1, ?_⟩)
        (wp_resize_widened hrel (by rw [UInt32.toNat_ofNatLT]; omega))
      rw [spaceRemaining, hu.2, hu.1.writeCursor, UInt32.toNat_ofNatLT]
      unfold spaceRemaining at hroom ⊢
      omega
    · rfl
  · rw [if_neg hroom, wp_pure]
    exact ⟨⟨rfl, rfl, rfl, le_rfl, fun ht => ⟨rfl, ht⟩⟩, Nat.le_of_not_lt hroom⟩

lemma wp_skipWrite_widened (n : ℕ) (s : Stuffer) :
    wp (skipWrite malloc n) (fun _ u => Widened n s u) (fun _ u => u = s) s := by
  unfold skipWrite
  refine wp_then (wp_reserveSpace_widened hrel n s) fun _ t ht => ?_
  rw [wp_read, dif_pos ht.2, wp_set]
  have hcursor : t.writeCursor + n = s.writeCursor + n := congrArg (· + n) ht.1.writeCursor
  exact ⟨ht.1.data, ht.1.readCursor, hcursor, ht.1.high_le.trans (Nat.le_max_right _ _), ht.1.tainted⟩

lemma keeping_reserveSpace (n : ℕ) : Keeping (reserveSpace malloc n) := fun s =>
  wp_mono (fun _ _ h => h.1.kept) (fun _ _ => kept_of_eq) (wp_reserveSpace_widened hrel n s)

lemma keeping_skipWrite (n : ℕ) : Keeping (skipWrite malloc n) := fun s =>
  wp_mono (fun _ _ h => h.kept) (fun _ _ => kept_of_eq) (wp_skipWrite_widened hrel n s)

lemma keeping_writeBytes (bs : List UInt8) : Keeping (writeBytes malloc bs) := fun s => by
  unfold writeBytes
  by_cases hnil : bs.length = 0
  · rw [if_pos hnil]
    exact Kept.refl s
  · rw [if_neg hnil]
    refine wp_seq (wp_skipWrite_widened hrel _ s) (fun _ u hu => ?_) fun _ _ => kept_of_eq
    rw [wp_read, wp_poke, hu.writeCursor, Nat.add_sub_cancel]
    exact hu.kept_poked le_rfl

lemma keeping_writeBytesFrom (isNull : Bool) (bs : List UInt8) :
    Keeping (writeBytesFrom malloc isNull bs) := fun s =>
  wp_seq_ensure (fun _ => keeping_writeBytes hrel bs s) fun _ => kept_self s

/-- A raw write that returns a pointer, or `NULL` with nothing to write. -/
lemma wp_rawWrite_widened (n : ℕ) (s : Stuffer) {R : Err → Stuffer → Prop} :
    wp (rawWrite malloc n) (fun p u => u = s ∧ p = none ∨ Widened n s u ∧ (p = some s.writeCursor ∨ p = none ∧ n = 0))
      R s := by
  unfold rawWrite
  rw [wp_read, wp_bind, wp_attempt]
  refine wp_mono (fun _ u hu => ?_) (fun _ u hu => ?_) (wp_skipWrite_widened hrel n s)
  · dsimp only
    rw [wp_update, wp_read, wp_pure]
    refine .inr ⟨⟨hu.data, hu.readCursor, hu.writeCursor, hu.high_le, fun ht => ⟨(hu.tainted ht).1, rfl⟩⟩, ?_⟩
    by_cases hnull : u.blob.isNull = true
    · refine .inr ⟨if_pos hnull, ?_⟩
      have h₁ := u.blob.null_size hnull
      have h₂ := u.write_le_high
      have h₃ := u.high_le_size
      rw [hu.writeCursor] at h₂
      omega
    · exact .inl (if_neg hnull)
  · dsimp only
    rw [wp_pure]
    exact .inl ⟨hu, rfl⟩

lemma keeping_rawWritePtr (n : ℕ) (bs : List UInt8) : Keeping (rawWritePtr malloc n bs) := fun s => by
  unfold rawWritePtr
  refine wp_sure_then (wp_rawWrite_widened hrel n s (R := fun _ _ => False)) fun p u hu => ?_
  obtain ⟨rfl, rfl⟩ | ⟨hu, rfl | ⟨rfl, rfl⟩⟩ := hu
  · exact kept_self u
  · dsimp only
    rw [wp_poke]
    exact hu.kept_poked (by rw [List.length_take]; omega)
  · exact ⟨hu.kept, hu.sameQueue⟩

lemma keeping_writevBytes {iov : List Iovec} (hvalid : ∀ v ∈ iov, v.Valid) (offs size : ℕ) :
    Keeping (writevBytes malloc iov offs size) := fun s => by
  have hloop : ∀ (ptr : ℕ) (u : Stuffer), wp (writevLoop iov (offs % 2 ^ 32) size ptr)
      (fun _ w => ∃ bs : List UInt8, bs.length ≤ size ∧ w = u.poked ptr bs) noError u := fun ptr u => by
    refine wp_mono (fun _ w hw => ⟨_, ?_, hw⟩) (fun _ _ hbad => ?_) (wp_writevLoop iov (offs % 2 ^ 32) size ptr u)
    · rw [List.length_take]
      omega
    · obtain ⟨v, hv, -, hnot⟩ := hbad
      exact hnot (hvalid v hv)
  unfold writevBytes
  refine wp_sure_then (wp_rawWrite_widened hrel size s (R := fun _ _ => False)) fun p u hu => ?_
  obtain ⟨rfl, rfl⟩ | ⟨hu, rfl | ⟨rfl, rfl⟩⟩ := hu
  · dsimp only
    by_cases hzero : size = 0
    · rw [if_pos hzero]
      refine wp_sure (fun _ w hw => ?_) (hloop 0 u)
      obtain ⟨bs, hlen, rfl⟩ := hw
      exact (Kept.refl u).poked (by omega)
    · rw [if_neg hzero]
      exact kept_self u
  · refine wp_sure (fun _ w hw => ?_) (hloop s.writeCursor u)
    obtain ⟨bs, hlen, rfl⟩ := hw
    exact hu.kept_poked hlen
  · dsimp only
    rw [if_pos rfl]
    refine wp_sure (fun _ w hw => ?_) (hloop 0 u)
    obtain ⟨bs, hlen, rfl⟩ := hw
    exact hu.kept.poked (by omega)

lemma keeping_copyFrom (src : Stuffer) (len : ℕ) : Keeping (copyFrom malloc src len) := fun s => by
  have hwrite := keeping_writeBytes hrel (slice src.blob.data src.readCursor len) s
  unfold wp at hwrite
  unfold copyFrom copy wp
  simp only [EStateM.run] at hwrite ⊢
  cases hsrc : skipRead len src with
  | error e t => exact kept_self s
  | ok x t =>
    dsimp only
    revert hwrite
    cases writeBytes malloc (slice src.blob.data src.readCursor len) s with
    | error e u => exact fun h => h
    | ok x u => exact fun h => h

lemma keeping_resize (size : UInt32) : Keeping (resize malloc size) := fun s => by
  by_cases hgrow : s.blob.size < size.toNat
  · exact wp_mono (fun _ _ h => h.1.kept) (fun _ _ => kept_of_eq) (wp_resize_widened hrel hgrow)
  · unfold resize
    rw [wp_read]
    refine wp_guard (kept_self s) fun htaint => ?_
    refine wp_guard (kept_self s) fun _ => ?_
    have hnot : s.tainted ≠ true := by rw [htaint]; decide
    by_cases hsame : size.toNat = s.blob.size
    · rw [if_pos hsame]
      exact Kept.refl s
    · rw [if_neg hsame]
      by_cases hzero : size.toNat = 0
      · -- no memory is left
        rw [if_pos hzero, wp_bind, wp_set]
        refine wp_sure_then (wp_freeBlob_of_releases hrel _) fun _ _ _ => ?_
        rw [wp_set]
        exact ⟨fun i _ hi _ => absurd hi (Nat.not_lt_zero i), fun h => absurd h hnot⟩
      · rw [if_neg hzero, dif_pos (by omega), wp_set]
        refine ⟨fun i hhigh hi _ => ?_, fun h => absurd h hnot⟩
        have hi' : i < size.toNat := hi
        have hhigh' : min s.highWaterMark size.toNat ≤ i := hhigh
        exact ⟨by omega, overwrite_of_lt hi'⟩

omit hrel

lemma keeping_copyTo (dst : Stuffer) (len : ℕ) : Keeping (copyTo malloc dst len) := fun s => by
  have hread := keeping_skipRead len s
  unfold wp at hread
  unfold copyTo copy wp
  simp only [EStateM.run] at hread ⊢
  revert hread
  cases skipRead len s with
  | error e t => exact fun _ => kept_self s
  | ok x t =>
    intro hread
    dsimp only
    cases writeBytes malloc (slice s.blob.data s.readCursor len) dst with
    | error e u => exact kept_self s
    | ok x u => exact hread

lemma keeping_resizeIfEmpty (size : UInt32) : Keeping (resizeIfEmpty malloc size) := fun s => by
  unfold resizeIfEmpty wp
  simp only [EStateM.run]
  by_cases hnull : s.blob.isNull = true
  · rw [dif_pos hnull]
    by_cases htaint : s.tainted = true
    · rw [if_pos htaint]
      exact kept_self s
    · rw [if_neg htaint]
      by_cases hgrowable : (!s.growable) = true
      · rw [if_pos hgrowable]
        exact kept_self s
      rw [if_neg hgrowable]
      by_cases hdenied : size.toNat ≠ 0 ∧ malloc size.toNat = false
      · rw [if_pos hdenied]
        exact kept_self s
      rw [if_neg hdenied]
      -- there was no memory
      refine ⟨fun i _ _ hi => ?_, fun h => absurd h htaint⟩
      rw [s.blob.null_size hnull] at hi
      exact absurd hi (Nat.not_lt_zero i)
  · rw [dif_neg hnull]
    exact Kept.refl s

/-! ### Sequences of operations -/

lemma Op.noted_of_ne_wipe {op : Op} (hwipe : op ≠ .wipe) (i : ℕ) :
    op.noted d s s' i = if op.setsUp = true ∨ s.blob.size ≤ i then s'.blob.data i else d i := by
  cases op with
  | wipe => exact absurd rfl hwipe
  | _ => rfl

lemma Kept.unwritten {op : Op} (h : Kept s s') (hd : Unwritten d s) (hwipe : op ≠ .wipe) :
    Unwritten (op.noted d s s') s' := fun i hhigh hsize => by
  rw [Op.noted_of_ne_wipe hwipe]
  split
  · rfl
  · rename_i hold
    have hi : i < s.blob.size := Nat.lt_of_not_le fun hle => hold (.inr hle)
    obtain ⟨hi', hdata⟩ := h.memory i hhigh hsize hi
    rw [hdata, hd i hi' hi]

lemma Op.safe_of_keeping (op : Op) (hwipe : op ≠ .wipe) (hkeep : Keeping op.run) (hd : Unwritten d s) :
    op.Safe d s (finalState op.run s) (outcome op.run s) := by
  have h := hkeep s
  unfold wp at h
  unfold finalState outcome
  cases hrun : op.run.run s with
  | ok a t =>
    rw [hrun] at h
    exact ⟨⟨t.read_le_write, t.write_le_high, t.high_le_size⟩, t.growable_alloced, h.unwritten hd hwipe,
      fun ht _ _ => h.pinned ht, fun _ hno => nomatch hno⟩
  | error e t =>
    rw [hrun] at h
    exact ⟨⟨t.read_le_write, t.write_le_high, t.high_le_size⟩, t.growable_alloced, h.1.unwritten hd hwipe,
      fun ht _ _ => h.1.pinned ht, fun _ _ => h.2⟩

lemma Op.noted_of_setsUp {op : Op} (h : op.setsUp = true) : op.noted d s s' = s'.blob.data := by
  have hwipe : op ≠ .wipe := by
    rintro rfl
    cases h
  funext i
  rw [Op.noted_of_ne_wipe hwipe, if_pos (.inl h)]

lemma Op.safe_of_setsUp (op : Op) (h : op.setsUp = true) (htaint : s.tainted = false)
    (hfail : ∀ e, outcome op.run s = .error e → SameQueue s (finalState op.run s)) :
    op.Safe d s (finalState op.run s) (outcome op.run s) where
  cursors := ⟨(finalState op.run s).read_le_write, (finalState op.run s).write_le_high,
    (finalState op.run s).high_le_size⟩
  growable := (finalState op.run s).growable_alloced
  unwritten := by
    rw [Op.noted_of_setsUp h]
    exact fun _ _ _ => rfl
  pinned ht := by
    rw [htaint] at ht
    cases ht
  failed := hfail

/-- Nothing is unread in a stuffer that nothing was written to, and in one that is zeroed. -/
lemma sameQueue_zero (h : s.writeCursor = 0) : SameQueue s zero := by
  have hread : s.readCursor = 0 := Nat.eq_zero_of_le_zero (h ▸ s.read_le_write)
  have havail : s.dataAvailable = 0 := by rw [dataAvailable, h, Nat.zero_sub]
  exact ⟨by rw [unread_eq_nil.2 havail]; rfl, hread.symm, h.symm⟩

lemma Op.safe_free {malloc : Allocator} (hrel : malloc.releases = true) :
    (Op.free malloc).Safe d s (finalState (Op.free malloc).run s) (outcome (Op.free malloc).run s) := by
  have hfree : wp (Stuffer.free malloc) (fun _ u => u = zero) noError s :=
    wp_mono (fun _ _ h => h.1) (fun _ _ h => h.2 fun _ _ => hrel) (wp_free malloc s)
  obtain ⟨_, u, hrun, rfl⟩ := exists_ok_of_wp hfree
  have hrun : (Op.free malloc).run.run s = .ok () zero := hrun
  unfold finalState outcome
  rw [hrun]
  exact ⟨⟨le_rfl, le_rfl, le_rfl⟩, (nomatch ·), fun i _ hi => absurd hi (Nat.not_lt_zero i),
    fun _ _ hno => absurd rfl (hno malloc), fun _ hno => nomatch hno⟩

/-- **Each operation is safe** with the arguments and in the states that are permitted. -/
lemma Op.safe (op : Op) (hd : Unwritten d s) (hp : op.Permitted s) :
    op.Safe d s (finalState op.run s) (outcome op.run s) := by
  cases op with
  | init b | initWritten b => exact Op.safe_of_setsUp _ rfl hp.1 fun _ hno => nomatch hno
  | alloc malloc size | growableAlloc malloc size =>
    refine Op.safe_of_setsUp _ rfl hp.1 fun e he => ?_
    unfold outcome finalState at *
    simp only [Op.run, Stuffer.alloc, Stuffer.growableAlloc, EStateM.run] at he ⊢
    by_cases hgrant : size.toNat = 0 ∨ malloc size.toNat = true
    · rw [if_pos hgrant] at he
      cases he
    · rw [if_neg hgrant]
      exact sameQueue_zero hp.2
  | wipe =>
    exact ⟨⟨le_rfl, le_rfl, Nat.zero_le _⟩, (finalState Stuffer.wipe s).growable_alloced, fun _ _ _ => rfl,
      fun _ hno => absurd rfl hno, fun _ hno => nomatch hno⟩
  | free malloc => exact Op.safe_free hp
  | resize malloc size => exact Op.safe_of_keeping _ nofun (keeping_resize hp size) hd
  | resizeIfEmpty malloc size => exact Op.safe_of_keeping _ nofun (keeping_resizeIfEmpty size) hd
  | rewrite => exact Op.safe_of_keeping _ nofun keeping_rewrite hd
  | reread => exact Op.safe_of_keeping _ nofun keeping_reread hd
  | rewindRead n => exact Op.safe_of_keeping _ nofun (keeping_rewindRead n) hd
  | wipeN n => exact Op.safe_of_keeping _ nofun (keeping_wipeN n) hd
  | skipRead n => exact Op.safe_of_keeping _ nofun (keeping_skipRead n) hd
  | rawRead n => exact Op.safe_of_keeping _ nofun (keeping_rawReadPtr n) hd
  | readBytes isNull n => exact Op.safe_of_keeping _ nofun (keeping_readBytesTo isNull n) hd
  | eraseAndRead isNull n =>
    obtain rfl : isNull = false := hp
    exact Op.safe_of_keeping _ nofun (keeping_eraseAndRead n) hd
  | skipWrite malloc n => exact Op.safe_of_keeping _ nofun (keeping_skipWrite hp n) hd
  | rawWrite malloc n bs => exact Op.safe_of_keeping _ nofun (keeping_rawWritePtr hp n bs) hd
  | writeBytes malloc isNull bs => exact Op.safe_of_keeping _ nofun (keeping_writeBytesFrom hp isNull bs) hd
  | writevBytes malloc iov offs size => exact Op.safe_of_keeping _ nofun (keeping_writevBytes hp.1 hp.2 offs size) hd
  | copyFrom malloc src len => exact Op.safe_of_keeping _ nofun (keeping_copyFrom hp src len) hd
  | copyTo malloc dst len => exact Op.safe_of_keeping _ nofun (keeping_copyTo dst len) hd
  | shift => exact Op.safe_of_keeping _ nofun keeping_shift hd
  | reserveSpace malloc n => exact Op.safe_of_keeping _ nofun (keeping_reserveSpace hp n) hd

/-- **Stuffer safety.** In every sequence of operations, from every stuffer, each of which is permitted where it is
made, all of them are safe. -/
theorem stuffer_always_safe (ops : List Op) (s : Stuffer) (d : ℕ → UInt8) (hd : Unwritten d s)
    (hops : AllMeet Op.run Op.Permitted ops s) : AlwaysSafe ops d s := by
  induction ops generalizing s d with
  | nil => trivial
  | cons op ops ih =>
    have hsafe := Op.safe op hd hops.1
    exact ⟨hsafe, ih _ _ hsafe.unwritten hops.2⟩

/-- Two bytes are written to a new stuffer, one is taken out by pointer, and the stuffer is asked to grow. -/
def sampleOps : List Op :=
  [.growableAlloc .ample 4, .writeBytes .ample false [1, 2], .rawRead 1,
    .resize .ample 64, .wipe]

theorem stuffer_always_safe_sample : AlwaysSafe sampleOps (fun _ => 0) zero :=
  stuffer_always_safe sampleOps zero (fun _ => 0) (fun i _ hi => absurd hi (Nat.not_lt_zero i))
    ⟨⟨rfl, rfl⟩, rfl, trivial, rfl, trivial, trivial⟩

/-- A new stuffer is given two entries, of which the second is `NULL`. -/
def nullEntryOps : List Op :=
  [.growableAlloc .ample 4,
    .writevBytes .ample [⟨fun _ => 7, 1, false⟩, ⟨fun _ => 0, 1, true⟩] 0 2]

/-- `s2n_stuffer_writev_bytes` fails for its second entry, with the bytes of both already there for the reader. -/
theorem writev_null_entry_not_safe : ¬ AlwaysSafe nullEntryOps (fun _ => 0) zero := by
  rintro ⟨-, hsafe, -⟩
  have hfails : outcome (Op.run (.writevBytes .ample [⟨fun _ => 7, 1, false⟩, ⟨fun _ => 0, 1, true⟩] 0 2))
      (finalState (Op.run (.growableAlloc .ample 4)) zero) = .error .null := by
    decide +kernel
  exact absurd (hsafe.failed _ hfails).writeCursor (by decide +kernel)

end Stuffer

end S2nTls
