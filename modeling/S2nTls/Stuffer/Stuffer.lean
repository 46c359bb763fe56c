import S2nTls.Lib.Bytes
import S2nTls.Lib.Memory
import S2nTls.Lib.Wp
import S2nTls.Utils.Error

/-!
The stuffer (`stuffer/s2n_stuffer.c`): a block of memory with a read and a write cursor.

A `Stuffer` carries the relations that `s2n_stuffer_validate` lists as fields, so that every
operation below has to establish them. Operations are programs on the stuffer; one that fails
leaves it as the C function does when it returns. What a stuffer holds for its reader is
`Stuffer.unread`; the lemmas describe each operation by what it does to that queue of bytes.

The allocator is outside the library. It may refuse memory, and it may fail to take memory back.
-/

namespace S2nTls

open Lib

/-- The callbacks of `s2n_mem_set_callbacks`: which sizes are granted, and whether memory can be freed. -/
structure Allocator where
  grants : ℕ → Bool
  releases : Bool := true

/-- An allocator that never fails. -/
def Allocator.ample : Allocator where
  grants _ := true

instance : CoeFun Allocator fun _ => ℕ → Bool := ⟨Allocator.grants⟩

instance : Coe (ℕ → Bool) Allocator := ⟨fun grants => { grants }⟩

/-! ### Blobs -/

/-- A block of memory, `struct s2n_blob`. Memory at and above `size` does not belong to it. -/
structure Blob where
  data : ℕ → UInt8
  size : ℕ
  /-- Whether the data pointer is `NULL`. -/
  isNull : Bool
  null_size : isNull = true → size = 0
  size_lt : size < 2 ^ 32

def Blob.zero : Blob := ⟨fun _ => 0, 0, true, fun _ => rfl, by decide⟩

/-- The bytes of a list as a blob. -/
def Blob.ofList (bs : List UInt8) (h : bs.length < 2 ^ 32) : Blob :=
  ⟨fun i => bs.getD i 0, bs.length, false, by simp, h⟩

def Blob.bytes (b : Blob) : List UInt8 := slice b.data 0 b.size

lemma Blob.bytes_ofList (bs : List UInt8) (h : bs.length < 2 ^ 32) : (Blob.ofList bs h).bytes = bs := by
  refine List.ext_getElem (by simp [Blob.bytes, Blob.ofList, slice]) fun i hi hi' => ?_
  simp [Blob.bytes, Blob.ofList, slice, hi']

/-- What `s2n_realloc` leaves when the allocator grants `size` bytes: the old bytes keep their
places, and `s2n_free` is what it calls for none. -/
def Blob.realloc (b : Blob) (size : UInt32) : Blob :=
  if size.toNat = 0 then Blob.zero else ⟨b.data, size.toNat, false, by simp, size.toNat_lt⟩

/-- The memory of a blob after `bs` was copied to offset `i`. -/
def Blob.poke (b : Blob) (i : ℕ) (bs : List UInt8) : Blob := { b with data := overwrite b.data i bs }

@[simp] lemma Blob.realloc_size (b : Blob) (size : UInt32) : (b.realloc size).size = size.toNat := by
  unfold Blob.realloc
  split
  · simp_all [Blob.zero]
  · rfl

/-! ### Stuffers -/

structure Stuffer where
  blob : Blob
  readCursor : ℕ
  writeCursor : ℕ
  highWaterMark : ℕ
  alloced : Bool
  growable : Bool
  tainted : Bool
  read_le_write : readCursor ≤ writeCursor
  write_le_high : writeCursor ≤ highWaterMark
  high_le_size : highWaterMark ≤ blob.size
  growable_alloced : growable = true → alloced = true

abbrev StufferM := EStateM Err Stuffer

namespace Stuffer

def dataAvailable (s : Stuffer) : ℕ := s.writeCursor - s.readCursor
def spaceRemaining (s : Stuffer) : ℕ := s.blob.size - s.writeCursor
def isWiped (s : Stuffer) : Bool := s.highWaterMark == 0
def isFreed (s : Stuffer) : Bool := s.blob.isNull
def isConsumed (s : Stuffer) : Bool := s.readCursor == s.writeCursor && !s.tainted

/-- What the stuffer holds for its reader. -/
def unread (s : Stuffer) : List UInt8 := slice s.blob.data s.readCursor s.dataAvailable

@[simp] lemma unread_length (s : Stuffer) : s.unread.length = s.dataAvailable := by simp [unread]

lemma unread_eq_nil {s : Stuffer} : s.unread = [] ↔ s.dataAvailable = 0 := by
  rw [← List.length_eq_zero_iff, unread_length]

/-! ### Setting up and releasing -/

def zero : Stuffer :=
  ⟨Blob.zero, 0, 0, 0, false, false, false, by simp, by simp, by simp, by simp⟩

def init (b : Blob) : Stuffer :=
  ⟨b, 0, 0, 0, false, false, false, by simp, by simp, by simp, by simp⟩

/-- `s2n_stuffer_init_written`: a stuffer of exactly `in->size` bytes has the space that its
`s2n_stuffer_skip_write` asks for. -/
def initWritten (b : Blob) : Stuffer :=
  ⟨b, 0, b.size, b.size, false, false, false, by simp, by simp, by simp, by simp⟩

def growableAlloc (malloc : Allocator) (size : UInt32) : StufferM Unit := fun _ =>
  if size.toNat = 0 ∨ malloc size.toNat = true then
    .ok () ⟨Blob.zero.realloc size, 0, 0, 0, true, true, false, by simp, by simp, by simp, by simp⟩
  else .error .alloc zero

/-- Copy `bs` into the memory of the stuffer, through a pointer to offset `i`. -/
def poke (i : ℕ) (bs : List UInt8) : StufferM Unit := modify fun s =>
  { s with blob := s.blob.poke i bs, high_le_size := s.high_le_size }

/-- `s2n_free` up to the callback: memory is zeroed before it is given back. -/
def freeBlob (malloc : Allocator) : StufferM Unit := do
  let s ← get
  when (s.blob.isNull = false) do
    poke 0 (List.replicate s.blob.size 0)
    ensure (malloc.releases = true) .cancelled

def free (malloc : Allocator) : StufferM Unit := do
  when ((← get).alloced = true) (freeBlob malloc)
  set zero

def rewrite : StufferM Unit := modify fun s =>
  { s with
    readCursor := 0, writeCursor := 0
    read_le_write := le_refl _, write_le_high := Nat.zero_le _ }

def reread : StufferM Unit := modify fun s =>
  { s with readCursor := 0, read_le_write := Nat.zero_le _ }

/-- `s2n_stuffer_wipe`. -/
def wiped (s : Stuffer) : Stuffer :=
  { s with
    blob := if s.isWiped then s.blob
      else s.blob.poke 0 (List.replicate s.highWaterMark 0x77)
    readCursor := 0, writeCursor := 0, highWaterMark := 0, tainted := false
    read_le_write := le_refl _, write_le_high := le_refl _, high_le_size := Nat.zero_le _ }

def wipe : StufferM Unit := modify wiped

def wipeN (size : ℕ) : StufferM Unit := modify fun s =>
  let wipeSize := min size s.writeCursor
  { s with
    blob := s.blob.poke (s.writeCursor - wipeSize) (List.replicate wipeSize 0x77)
    readCursor := min s.readCursor (s.writeCursor - wipeSize)
    writeCursor := s.writeCursor - wipeSize
    read_le_write := Nat.min_le_right _ _
    write_le_high := by have := s.write_le_high; omega
    high_le_size := s.high_le_size }

/-! ### Reading -/

/-- The stuffer after its reader has taken `n` bytes. -/
def advanceRead (s : Stuffer) (n : ℕ) (h : n ≤ s.dataAvailable) : Stuffer :=
  { s with
    readCursor := s.readCursor + n
    read_le_write := by have := s.read_le_write; unfold dataAvailable at h; omega }

def skipRead (n : ℕ) : StufferM Unit := fun s =>
  if h : n ≤ s.dataAvailable then .ok () (s.advanceRead n h) else .error .stufferOutOfData s

def rewindRead (size : ℕ) : StufferM Unit := fun s =>
  if size ≤ s.readCursor then
    .ok () { s with
      readCursor := s.readCursor - size
      read_le_write := by have := s.read_le_write; omega }
  else .error .stufferOutOfData s

def taint (s : Stuffer) : Stuffer := { s with tainted := true }

/-- `s2n_stuffer_raw_read`: the offset of the bytes read, `none` for `NULL`. -/
def rawRead (n : ℕ) : StufferM (Option ℕ) := fun s =>
  if h : n ≤ s.dataAvailable then
    .ok (if s.blob.isNull then none else some s.readCursor) (s.advanceRead n h).taint
  else .ok none s

def readBytes (n : ℕ) : StufferM (List UInt8) := do
  let s ← get
  skipRead n
  ensure (s.blob.isNull = false) .null
  return slice s.blob.data s.readCursor n

def eraseAndReadBytes (n : ℕ) : StufferM (List UInt8) := do
  let s ← get
  let bs ← readBytes n
  modify fun t => { t with blob := t.blob.poke s.readCursor (List.replicate n 0) }
  return bs

/-- `s2n_stuffer_read_uint8`, `_uint16` and `_uint24`: a number of `width` bytes in network
order. -/
def readUint (width : ℕ) : StufferM ℕ := do return beNat (← readBytes width)

/-! ### Writing -/

def resize (malloc : Allocator) (size : UInt32) : StufferM Unit := do
  let s ← get
  ensure (s.tainted = false) .resizeTaintedStuffer
  ensure (s.growable = true) .resizeStaticStuffer
  if size.toNat = s.blob.size then
    return
  else if size.toNat = 0 then
    set s.wiped
    freeBlob malloc
    set { s.wiped with
      blob := Blob.zero
      read_le_write := le_refl _, write_le_high := le_refl _, high_le_size := le_refl _ }
  else if hs : size.toNat < s.blob.size then
    set { s with
      blob := { s.blob.poke size.toNat (List.replicate (s.blob.size - size.toNat) 0x77) with
        size := size.toNat, size_lt := size.toNat_lt
        null_size := fun hn => by have := s.blob.null_size hn; omega }
      readCursor := min s.readCursor size.toNat
      writeCursor := min s.writeCursor size.toNat
      highWaterMark := min s.highWaterMark size.toNat
      read_le_write := by have := s.read_le_write; omega
      write_le_high := by have := s.write_le_high; omega
      high_le_size := Nat.min_le_right _ _ }
  else do
    ensure (malloc size.toNat = true) .alloc
    -- the old memory goes back once its bytes are copied
    freeBlob malloc
    set { s with
      blob := s.blob.realloc size
      high_le_size := by have := s.high_le_size; rw [Blob.realloc_size]; omega }

def resizeIfEmpty (malloc : Allocator) (size : UInt32) : StufferM Unit := fun s =>
  if hn : s.blob.isNull = true then
    if s.tainted then .error .resizeTaintedStuffer s
    else if !s.growable then .error .resizeStaticStuffer s
    else if size.toNat ≠ 0 ∧ malloc size.toNat = false then .error .alloc s
    else .ok () { s with
      blob := s.blob.realloc size
      high_le_size := by
        have h₁ := s.blob.null_size hn; have h₂ := s.high_le_size; rw [Blob.realloc_size]; omega }
  else .ok () s

/-- `S2N_MIN_STUFFER_GROWTH_IN_BYTES`. -/
def minGrowth : ℕ := 1024

def reserveSpace (malloc : Allocator) (n : ℕ) : StufferM Unit := do
  let s ← get
  if s.spaceRemaining < n then
    ensure (s.growable = true) .stufferIsFull
    let newSize := s.blob.size + max (n - s.spaceRemaining) minGrowth
    if h : newSize < 2 ^ 32 then resize malloc (.ofNatLT newSize h) else throw .integerOverflow
  else return

/-- The stuffer after `n` bytes of its free space were given to the reader. -/
def advanceWrite (s : Stuffer) (n : ℕ) (h : n ≤ s.spaceRemaining) : Stuffer :=
  { s with
    writeCursor := s.writeCursor + n
    highWaterMark := max (s.writeCursor + n) s.highWaterMark
    read_le_write := by have := s.read_le_write; omega
    write_le_high := Nat.le_max_left _ _
    high_le_size := by
      have h₁ := s.high_le_size; have h₂ := s.write_le_high; unfold spaceRemaining at h; omega }

/-- `s2n_stuffer_skip_write`. There is room once `s2n_stuffer_reserve_space` has succeeded
(`wp_reserveSpace`). -/
def skipWrite (malloc : Allocator) (n : ℕ) : StufferM Unit := do
  reserveSpace malloc n
  let s ← get
  if h : n ≤ s.spaceRemaining then set (s.advanceWrite n h) else throw .safety

/-- `s2n_stuffer_raw_write`: the offset of the bytes to write, `none` for `NULL`. -/
def rawWrite (malloc : Allocator) (n : ℕ) : StufferM (Option ℕ) := do
  let s ← get
  match ← attempt (skipWrite malloc n) with
  | .error _ => return none
  | .ok () =>
    modify taint
    return if (← get).blob.isNull then none else some s.writeCursor

def writeBytes (malloc : Allocator) (bs : List UInt8) : StufferM Unit := do
  if bs.length = 0 then
    return
  else
    skipWrite malloc bs.length
    let s ← get
    poke (s.writeCursor - bs.length) bs

/-- `s2n_stuffer_copy`, from the first stuffer to the second. A copy that fails gives back what it
has read. -/
def copy (malloc : Allocator) (len : ℕ) : EStateM Err (Stuffer × Stuffer) Unit := fun s =>
  match (skipRead len).run s.1 with
  | .error e _ => .error e s
  | .ok _ src =>
    match (writeBytes malloc (slice s.1.blob.data s.1.readCursor len)).run s.2 with
    | .error e dst => .error e (s.1, dst)
    | .ok _ dst => .ok () (src, dst)

/-- `s2n_stuffer_write_network_order`. -/
def writeUint (malloc : Allocator) (width n : ℕ) : StufferM Unit :=
  writeBytes malloc (beBytes width n)

/-- `struct iovec`: a block of the caller's memory. -/
structure Iovec where
  base : ℕ → UInt8
  len : ℕ
  isNull : Bool := false

/-- The loop of `s2n_stuffer_writev_bytes`: `toSkip` bytes of the entries are still to be passed
over, `sizeLeft` bytes are still to be copied, to offset `ptr`. -/
def writevLoop : List Iovec → (toSkip sizeLeft ptr : ℕ) → StufferM Unit
  | [], _, _, _ => return
  | v :: vs, toSkip, sizeLeft, ptr =>
    if v.len ≤ toSkip then writevLoop vs (toSkip - v.len) sizeLeft ptr
    else do
      ensure (v.len - toSkip < 2 ^ 32) .safety
      let toTake := min sizeLeft (v.len - toSkip)
      ensure (v.isNull = false) .null
      poke ptr (slice v.base toSkip toTake)
      if sizeLeft - toTake = 0 then return
      else writevLoop vs 0 (sizeLeft - toTake) (ptr + toTake)

/-- `s2n_stuffer_writev_bytes`. Its parameter `offs` is a `uint32_t`. -/
def writevBytes (malloc : Allocator) (iov : List Iovec) (offs size : ℕ) : StufferM Unit := do
  match ← rawWrite malloc size with
  | none => if size = 0 then writevLoop iov (offs % 2 ^ 32) size 0 else throw .null
  | some ptr => writevLoop iov (offs % 2 ^ 32) size ptr

/-- `s2n_stuffer_shift`: the unread bytes are copied to the front of the same memory. -/
def shift : StufferM Unit := modify fun s =>
  { s with
    blob := s.blob.poke 0 s.unread
    readCursor := 0, writeCursor := s.dataAvailable
    read_le_write := Nat.zero_le _
    write_le_high := by have := s.write_le_high; unfold dataAvailable; omega
    high_le_size := s.high_le_size }

end Stuffer

end S2nTls
