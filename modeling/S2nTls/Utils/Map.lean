import Mathlib.Algebra.Order.Ring.Nat
import S2nTls.Lib.Wp
import S2nTls.Utils.Error

/-!
The hash table of `utils/s2n_map.c`.

A key is put at the first free place from its own one on, around the end of the table. The table is made
larger before a key is put into it if more than half of it is in use. The size of the memory for it is passed
on as 32 bits: of a table that would need 4 GiB or more, only a part is there, and the places behind are outside
of any memory.
-/

namespace S2nTls

open Lib

/-- `struct s2n_map_entry`, with the bytes of its blobs. A place with an empty key is free. -/
structure MapEntry where
  key : List UInt8
  value : List UInt8
  deriving DecidableEq

def mapEntrySize : ℕ := 48

structure S2nMap where
  capacity : ℕ
  size : ℕ
  immutable : Bool
  table : ℕ → MapEntry
  /-- The bytes of memory behind `table`. -/
  allocated : ℕ

/-- How a call fails: with an error, by an access outside of the table, or not at all. -/
inductive MapFail
  | err (e : Err) | outOfBounds | endless
  deriving DecidableEq

abbrev MapM := EStateM MapFail S2nMap

/-- `size++` of a `uint32_t`. -/
def sizeSucc (size : ℕ) : ℕ := (size + 1) % 2 ^ 32

/-- `size--` of a `uint32_t`. -/
def sizePred (size : ℕ) : ℕ := (size + (2 ^ 32 - 1)) % 2 ^ 32

def tableEntry (slot : ℕ) : MapM MapEntry := do
  let m ← get
  ensure ((slot + 1) * mapEntrySize ≤ m.allocated) .outOfBounds
  return m.table slot

def setTableEntry (slot : ℕ) (entry : MapEntry) : MapM Unit := do
  ensure ((slot + 1) * mapEntrySize ≤ (← get).allocated) .outOfBounds
  modify fun m => { m with table := Function.update m.table slot entry }

section Hash

variable (hash : List UInt8 → UInt32)

def mapSlot (key : List UInt8) : MapM ℕ := do
  let m ← get
  ensure (m.capacity ≠ 0) (.err .safety)
  return (hash key).toNat % m.capacity

/-- The loop of `s2n_map_add` and `s2n_map_put`: the place where the key is, or a free one. The loop changes
nothing but the place, so it does not end if it has not ended after a round. -/
def probeLoop (key : List UInt8) : (fuel slot : ℕ) → MapM (ℕ × Bool)
  | 0, _ => throw .endless
  | fuel + 1, slot => do
    let entry ← tableEntry slot
    if entry.key = [] then return (slot, false)
    else if key ≠ entry.key then probeLoop key fuel ((slot + 1) % (← get).capacity)
    else return (slot, true)

/-- The key and the value are copied to a place that is free. -/
def storeEntry (slot : ℕ) (key value : List UInt8) : MapM Unit := do
  let entry ← tableEntry slot
  ensure (entry.key = [] ∧ key ≠ []) (.err .safety)
  setTableEntry slot { entry with key := key }
  ensure (entry.value = [] ∧ value ≠ []) (.err .safety)
  setTableEntry slot ⟨key, value⟩
  modify fun m => { m with size := sizeSucc m.size }

/-- The table is made larger if more than half of it is in use. -/
def growIfFull (embiggen : ℕ → MapM Unit) : MapM Unit := do
  let m ← get
  when (m.capacity < m.size * 2 % 2 ^ 32) (embiggen (m.capacity * 2 % 2 ^ 32))

/-- `s2n_map_add`, with the function that makes the table larger. -/
def mapAddWith (embiggen : ℕ → MapM Unit) (key value : List UInt8) : MapM Unit := do
  ensure ((← get).immutable = false) (.err .mapImmutable)
  growIfFull embiggen
  let slot ← mapSlot hash key
  let (slot, duplicate) ← probeLoop key (← get).capacity slot
  ensure (duplicate = false) (.err .mapDuplicate)
  storeEntry slot key value

/-- The loop of `s2n_map_embiggen`: what is in the table goes to `tmp`. -/
def rehash (add : List UInt8 → List UInt8 → MapM Unit) : (left slot : ℕ) → S2nMap → MapM S2nMap
  | 0, _, tmp => return tmp
  | left + 1, slot, tmp => do
    let entry ← tableEntry slot
    if entry.key = [] then rehash add left (slot + 1) tmp
    else
      let tmp ← execLocal (add entry.key entry.value) tmp
      setTableEntry slot ⟨[], []⟩
      rehash add left (slot + 1) tmp

/-- A table without keys. The size of its memory is a `uint32_t`. -/
def emptyTable (capacity : ℕ) : S2nMap where
  capacity := capacity
  size := 0
  immutable := false
  table _ := ⟨[], []⟩
  allocated := capacity * mapEntrySize % 2 ^ 32

/-- `s2n_map_embiggen`. It calls `s2n_map_add`, which may call it again; `depth` bounds these calls. -/
def mapEmbiggen : (depth capacity : ℕ) → MapM Unit
  | 0, _ => throw .endless
  | depth + 1, capacity => do
    let m ← get
    ensure (m.immutable = false) (.err .mapImmutable)
    let tmp ← rehash (mapAddWith hash (mapEmbiggen depth)) m.capacity 0 (emptyTable capacity)
    set { tmp with immutable := false }

def mapNewWithInitialCapacity (depth capacity : ℕ) : EStateM MapFail Unit S2nMap := do
  ensure (capacity ≠ 0) (.err .mapInvalidMapSize)
  execLocal (mapEmbiggen hash depth capacity) (emptyTable 0)

def mapAdd (depth : ℕ) (key value : List UInt8) : MapM Unit := mapAddWith hash (mapEmbiggen hash depth) key value

/-- `s2n_map_put`. A key that is there is written again, with the new value. -/
def mapPut (depth : ℕ) (key value : List UInt8) : MapM Unit := do
  ensure ((← get).immutable = false) (.err .mapImmutable)
  growIfFull (mapEmbiggen hash depth)
  let slot ← mapSlot hash key
  let (slot, duplicate) ← probeLoop key (← get).capacity slot
  when (duplicate = true) do
    setTableEntry slot ⟨[], []⟩
    modify fun m => { m with size := sizePred m.size }
  storeEntry slot key value

def mapComplete : MapM Unit := modify ({ · with immutable := true })

def mapUnlock : MapM Unit := modify ({ · with immutable := false })

/-- The loop of `s2n_map_lookup`, which ends after a round. -/
def lookupLoop (key : List UInt8) (initialSlot : ℕ) : (fuel slot : ℕ) → MapM (Option (List UInt8))
  | 0, _ => throw .endless
  | fuel + 1, slot => do
    let entry ← tableEntry slot
    if entry.key = [] then return none
    else if key ≠ entry.key then
      let m ← get
      if (slot + 1) % m.capacity = initialSlot then return none
      else lookupLoop key initialSlot fuel ((slot + 1) % m.capacity)
    else return some entry.value

def mapLookup (key : List UInt8) : MapM (Option (List UInt8)) := do
  ensure ((← get).immutable = true) (.err .mapMutable)
  let slot ← mapSlot hash key
  lookupLoop key slot (← get).capacity slot

end Hash

/-! ### Iterators -/

/-- `struct s2n_map_iterator`, of a map that it is used with. -/
structure MapIterator where
  currentIndex : ℕ := 0
  consumed : Bool := false

/-- The loop of `s2n_map_iterator_advance`. -/
def advanceLoop (it : MapIterator) : (left index : ℕ) → MapM MapIterator
  | 0, index => return ⟨index, true⟩
  | left + 1, index => do
    let entry ← tableEntry index
    if entry.key ≠ [] then return { it with currentIndex := index }
    else advanceLoop it left (index + 1)

def mapIteratorAdvance (it : MapIterator) : MapM MapIterator := do
  ensure (it.consumed = false) (.err .arrayIndexOob)
  advanceLoop it ((← get).capacity - (it.currentIndex + 1)) (it.currentIndex + 1)

/-- `s2n_map_iterator_init`. It leaves `consumed` as it is. -/
def mapIteratorInit (it : MapIterator) : MapM MapIterator := do
  ensure ((← get).immutable = true) (.err .mapMutable)
  let entry ← tableEntry 0
  if entry.key = [] then mapIteratorAdvance { it with currentIndex := 0 }
  else return { it with currentIndex := 0 }

def mapIteratorNext (it : MapIterator) : MapM (List UInt8 × MapIterator) := do
  let m ← get
  ensure (m.immutable = true) (.err .mapMutable)
  ensure (it.consumed = false) (.err .arrayIndexOob)
  ensure (it.currentIndex < m.capacity) (.err .arrayIndexOob)
  let entry ← tableEntry it.currentIndex
  let it ← mapIteratorAdvance it
  return (entry.value, it)

/-- What a user reads who calls `s2n_map_iterator_next` while there is a next value, at most `fuel` times. -/
def readValues : (fuel : ℕ) → MapIterator → MapM (List (List UInt8) × MapIterator)
  | 0, it => return ([], it)
  | fuel + 1, it => do
    if it.consumed = true then return ([], it)
    else
      let (value, it) ← mapIteratorNext it
      let (values, it) ← readValues fuel it
      return (value :: values, it)

end S2nTls
