import Mathlib.Data.Finmap
import Mathlib.Tactic.Linarith
import S2nTls.Lib.Calls
import S2nTls.Lib.Probe
import S2nTls.Utils.Map

/-!
The hash table is a finite map.

A table represents a mapping if a key of the mapping is at exactly one place of the table, with its value, and
the search for it from its own place on gets there. Every call keeps that, as long as the table has the memory
for all of its places. There is always a free place when a key is searched to be written: the table is at most
half full then, or has just been made larger.
-/

namespace S2nTls

open Lib

variable {Q : Unit → S2nMap → Prop}

abbrev Mapping := Finmap fun _ : List UInt8 => List UInt8

variable {hash : List UInt8 → UInt32} {m : S2nMap} {f : Mapping} {key value : List UInt8}
  {R : MapFail → S2nMap → Prop} {i : ℕ}

/-! ### Places and their memory -/

def S2nMap.keyAt (m : S2nMap) (i : ℕ) : Option (List UInt8) :=
  if (m.table i).key = [] then none else some (m.table i).key

lemma S2nMap.keyAt_eq_none {i : ℕ} : m.keyAt i = none ↔ (m.table i).key = [] := by
  unfold keyAt
  split <;> simp_all

lemma S2nMap.keyAt_eq_some {i : ℕ} {k : List UInt8} : m.keyAt i = some k ↔ (m.table i).key = k ∧ k ≠ [] := by
  unfold keyAt
  split
  · rename_i hfree
    simp only [reduceCtorEq, false_iff, not_and, not_not]
    exact fun hk => hk ▸ hfree
  · rename_i hused
    rw [Option.some.injEq]
    exact ⟨fun hk => ⟨hk, hk ▸ hused⟩, fun hk => hk.1⟩

/-- There is memory for every place. -/
def S2nMap.Backed (m : S2nMap) : Prop := m.allocated = m.capacity * mapEntrySize

/-- The keys do not matter for that. -/
lemma S2nMap.Backed.of_eq {m' : S2nMap} (h : m.Backed) (hcapacity : m'.capacity = m.capacity)
    (hallocated : m'.allocated = m.allocated) : m'.Backed := by
  unfold Backed
  rw [hcapacity, hallocated, h]

section Memory

variable (h : m.Backed)

include h

lemma S2nMap.Backed.le_allocated (hi : i < m.capacity) : (i + 1) * mapEntrySize ≤ m.allocated := by
  rw [h]
  exact Nat.mul_le_mul_right _ hi

lemma wp_tableEntry (hi : i < m.capacity) {Q : MapEntry → S2nMap → Prop} :
    wp (tableEntry i) Q R m ↔ Q (m.table i) m := by
  have hle := h.le_allocated hi
  unfold tableEntry
  rw [wp_read, wp_bind, wp_ensure]
  exact ⟨fun hQ => hQ.1 hle, fun hQ => ⟨fun _ => hQ, fun hnot => absurd hle hnot⟩⟩

lemma wp_setTableEntry (hi : i < m.capacity) (entry : MapEntry) :
    wp (setTableEntry i entry) Q R m ↔ Q () { m with table := Function.update m.table i entry } := by
  have hle := h.le_allocated hi
  unfold setTableEntry
  rw [wp_read, wp_bind, wp_ensure]
  exact ⟨fun hQ => hQ.1 hle, fun hQ => ⟨fun _ => hQ, fun hnot => absurd hle hnot⟩⟩

/-- The loop of `s2n_map_add` and `s2n_map_put` is the search of linear probing. -/
lemma wp_probeLoop {Q : ℕ × Bool → S2nMap → Prop} (fuel : ℕ) : ∀ slot < m.capacity,
    wp (probeLoop key fuel slot) Q R m ↔ match probe m.capacity m.keyAt key fuel slot with
      | .found i => Q (i, true) m
      | .free i => Q (i, false) m
      | .exhausted => R .endless m := by
  induction fuel with
  | zero => exact fun _ _ => Iff.rfl
  | succ fuel ih =>
    intro slot hslot
    unfold probeLoop probe
    rw [wp_bind, wp_tableEntry h hslot]
    by_cases hfree : (m.table slot).key = []
    · rw [if_pos hfree, wp_pure, S2nMap.keyAt_eq_none.mpr hfree]
    · rw [if_neg hfree, S2nMap.keyAt_eq_some.mpr ⟨rfl, hfree⟩]
      by_cases hkey : key = (m.table slot).key
      · rw [if_neg (not_not.mpr hkey), wp_pure]
        simp only [← hkey, ↓reduceIte]
      · rw [if_pos hkey, wp_read, ih _ (Nat.mod_lt _ (by omega))]
        simp only [Ne.symm hkey, ↓reduceIte]

end Memory

/-! ### The mapping of a table -/

/-- **A table represents a mapping.** -/
structure S2nMap.Represents (hash : List UInt8 → UInt32) (m : S2nMap) (f : Mapping) : Prop where
  capacity_pos : 0 < m.capacity
  backed : m.Backed
  allocated_lt : m.allocated < 2 ^ 32
  placed : WellPlaced m.capacity m.keyAt fun k => (hash k).toNat
  value_eq_nil : ∀ i, (m.table i).value = [] ↔ (m.table i).key = []
  lookup : ∀ k v, f.lookup k = some v ↔ k ≠ [] ∧ ∃ i < m.capacity, m.table i = ⟨k, v⟩
  size : m.size = f.keys.card

lemma keys_insert (f : Mapping) (key value : List UInt8) : (f.insert key value).keys = insert key f.keys := by
  ext k
  rw [Finmap.mem_keys, Finmap.mem_insert, Finset.mem_insert, Finmap.mem_keys]

namespace S2nMap.Represents

variable (h : m.Represents hash f)

include h

lemma capacity_lt : m.capacity < 2 ^ 32 := by
  have hlt := h.allocated_lt
  rw [h.backed, mapEntrySize] at hlt
  omega

lemma mem_iff {k : List UInt8} : k ∈ f ↔ ∃ i < m.capacity, m.keyAt i = some k := by
  rw [Finmap.mem_iff]
  constructor
  · rintro ⟨v, hv⟩
    obtain ⟨hk, i, hi, hentry⟩ := (h.lookup k v).mp hv
    exact ⟨i, hi, keyAt_eq_some.mpr ⟨by rw [hentry], hk⟩⟩
  · rintro ⟨i, hi, hkey⟩
    obtain ⟨rfl, hk⟩ := keyAt_eq_some.mp hkey
    exact ⟨_, (h.lookup _ _).mpr ⟨hk, i, hi, rfl⟩⟩

/-- A table that is not full has a free place. -/
lemma exists_free (hsize : m.size < m.capacity) : ∃ i < m.capacity, m.keyAt i = none := by
  by_contra hnone
  have hused : ∀ i < m.capacity, m.keyAt i = some (m.table i).key := fun i hi =>
    keyAt_eq_some.mpr ⟨rfl, fun hkey => hnone ⟨i, hi, keyAt_eq_none.mpr hkey⟩⟩
  have hle : (Finset.range m.capacity).card ≤ f.keys.card := by
    refine Finset.card_le_card_of_injOn (fun i => (m.table i).key) (fun i hi => ?_) fun i hi j hj hkey => ?_
    · have hi' : i < m.capacity := by simpa using hi
      exact Finmap.mem_keys.mpr (h.mem_iff.mpr ⟨i, hi', hused i hi'⟩)
    · have hi' : i < m.capacity := by simpa using hi
      have hj' : j < m.capacity := by simpa using hj
      have hsame : (m.table i).key = (m.table j).key := hkey
      exact h.placed.unique hi' hj' (hused i hi') (hsame ▸ hused j hj')
  rw [Finset.card_range, ← h.size] at hle
  omega

/-- How the search for a key ends in a table that is not full. -/
lemma probe_cases (hsize : m.size < m.capacity) (key : List UInt8) :
    (∃ i < m.capacity, probe m.capacity m.keyAt key m.capacity ((hash key).toNat % m.capacity) = .found i ∧
      m.keyAt i = some key ∧ key ∈ f) ∨
    ∃ i < m.capacity, probe m.capacity m.keyAt key m.capacity ((hash key).toNat % m.capacity) = .free i ∧
      m.keyAt i = none ∧ key ∉ f := by
  have hend := reaches_of_probe m.capacity m.keyAt key m.capacity (hash key).toNat
  cases hprobe : probe m.capacity m.keyAt key m.capacity ((hash key).toNat % m.capacity) with
  | found i =>
    rw [hprobe] at hend
    have hi := lt_of_reaches hend.1 h.capacity_pos
    exact .inl ⟨i, hi, rfl, hend.2, h.mem_iff.mpr ⟨i, hi, hend.2⟩⟩
  | free i =>
    rw [hprobe] at hend
    refine .inr ⟨i, lt_of_reaches hend.1 h.capacity_pos, rfl, hend.2, fun hmem => ?_⟩
    obtain ⟨j, hj, hkey⟩ := h.mem_iff.mp hmem
    rw [h.placed.probe_eq_found hj hkey] at hprobe
    cases hprobe
  | exhausted =>
    obtain ⟨i, hi, hfree⟩ := h.exists_free hsize
    exact absurd hprobe (probe_ne_exhausted _ hi hfree)

end S2nMap.Represents

/-! ### Writing an entry -/

section Write

lemma S2nMap.keyAt_update (m : S2nMap) (i : ℕ) (entry : MapEntry) (hkey : entry.key ≠ []) :
    S2nMap.keyAt { m with table := Function.update m.table i entry } = Function.update m.keyAt i (some entry.key) := by
  funext j
  by_cases hj : j = i
  · subst hj
    simp [keyAt, hkey]
  · simp [keyAt, hj]

variable (h : m.Represents hash f)

include h

/-- What a table represents after an entry was written at a place where no other key is. -/
lemma S2nMap.Represents.lookup_update (hi : i < m.capacity) (hkey : key ≠ [])
    (hothers : ∀ j < m.capacity, m.keyAt j = some key → j = i) (hat : ∀ k, m.keyAt i = some k → k = key)
    (k v : List UInt8) : (f.insert key value).lookup k = some v ↔
      k ≠ [] ∧ ∃ j < m.capacity, Function.update m.table i ⟨key, value⟩ j = ⟨k, v⟩ := by
  by_cases hk : k = key
  · subst hk
    rw [Finmap.lookup_insert, Option.some.injEq]
    constructor
    · rintro rfl
      exact ⟨hkey, i, hi, Function.update_self ..⟩
    · rintro ⟨-, j, hj, hentry⟩
      by_cases hji : j = i
      · subst hji
        rw [Function.update_self] at hentry
        exact congrArg MapEntry.value hentry
      · rw [Function.update_of_ne hji] at hentry
        exact absurd (hothers j hj (keyAt_eq_some.mpr ⟨by rw [hentry], hkey⟩)) hji
  · rw [Finmap.lookup_insert_of_ne _ hk, h.lookup]
    refine and_congr_right fun hne => exists_congr fun j => and_congr_right fun _ => ?_
    by_cases hji : j = i
    · subst hji
      rw [Function.update_self]
      refine ⟨fun hentry => absurd (hat k (keyAt_eq_some.mpr ⟨by rw [hentry], hne⟩)) hk, fun hentry => ?_⟩
      exact absurd (congrArg MapEntry.key hentry).symm hk
    · rw [Function.update_of_ne hji]

lemma S2nMap.Represents.value_update (hkey : key ≠ []) (hvalue : value ≠ []) (i j : ℕ) :
    (Function.update m.table i ⟨key, value⟩ j).value = [] ↔ (Function.update m.table i ⟨key, value⟩ j).key = [] := by
  by_cases hj : j = i
  · subst hj
    simp [hkey, hvalue]
  · rw [Function.update_of_ne hj]
    exact h.value_eq_nil j

lemma S2nMap.Represents.insert (hkey : key ≠ []) (hvalue : value ≠ [])
    (hi : i < m.capacity) (hnot : key ∉ f) (hfree : m.keyAt i = none)
    (hprobe : probe m.capacity m.keyAt key m.capacity ((hash key).toNat % m.capacity) = .free i) :
    S2nMap.Represents hash { m with table := Function.update m.table i ⟨key, value⟩, size := m.size + 1 }
      (f.insert key value) where
  capacity_pos := h.capacity_pos
  backed := h.backed
  allocated_lt := h.allocated_lt
  placed := by
    have hplaced := h.placed.insert hprobe
    rwa [← keyAt_update m i ⟨key, value⟩ hkey] at hplaced
  value_eq_nil := h.value_update hkey hvalue i
  lookup := h.lookup_update hi hkey (fun j hj hat => absurd (h.mem_iff.mpr ⟨j, hj, hat⟩) hnot)
    fun k hat => by
      rw [hfree] at hat
      cases hat
  size := by
    rw [keys_insert, Finset.card_insert_of_notMem (fun hmem => hnot (Finmap.mem_keys.mp hmem)), ← h.size]

lemma S2nMap.Represents.overwrite (hkey : key ≠ []) (hvalue : value ≠ [])
    (hi : i < m.capacity) (hat : m.keyAt i = some key) :
    S2nMap.Represents hash { m with table := Function.update m.table i ⟨key, value⟩ } (f.insert key value) where
  capacity_pos := h.capacity_pos
  backed := h.backed
  allocated_lt := h.allocated_lt
  placed := by
    have hsame : S2nMap.keyAt { m with table := Function.update m.table i ⟨key, value⟩ } = m.keyAt := by
      rw [keyAt_update m i ⟨key, value⟩ hkey, ← hat, Function.update_eq_self]
    rw [hsame]
    exact h.placed
  value_eq_nil := h.value_update hkey hvalue i
  lookup := h.lookup_update hi hkey (fun j hj hj' => h.placed.unique hj hi hj' hat)
    fun k hk => Option.some.inj (hk.symm.trans hat)
  size := by
    rw [keys_insert, Finset.insert_eq_of_mem (Finmap.mem_keys.mpr (h.mem_iff.mpr ⟨i, hi, hat⟩)), h.size]
omit h

lemma wp_storeEntry (hbacked : m.Backed) (hi : i < m.capacity) (hentry : m.table i = ⟨[], []⟩) (hkey : key ≠ [])
    (hvalue : value ≠ [])
    (hQ : Q () { m with table := Function.update m.table i ⟨key, value⟩, size := sizeSucc m.size }) :
    wp (storeEntry i key value) Q R m := by
  unfold storeEntry
  rw [wp_bind, wp_tableEntry hbacked hi, hentry]
  refine wp_ensured ⟨rfl, hkey⟩ ?_
  rw [wp_bind, wp_setTableEntry hbacked hi]
  refine wp_ensured ⟨rfl, hvalue⟩ ?_
  rw [wp_bind, wp_setTableEntry (m := { m with table := Function.update m.table i ⟨key, []⟩ }) hbacked hi, wp_modify]
  simpa only [Function.update_idem] using hQ

end Write

/-! ### Adding and putting -/

section Add

variable {capacity : ℕ}

/-- The mapping and the capacity after a key was written. -/
structure S2nMap.Writes (hash : List UInt8 → UInt32) (m m' : S2nMap) (f : Mapping) : Prop where
  represents : m'.Represents hash f
  capacity : m'.capacity = m.capacity
  immutable : m'.immutable = m.immutable
  size_le : m'.size ≤ m.size + 1

lemma wp_mapSlot (hpos : 0 < m.capacity) {Q : ℕ → S2nMap → Prop} :
    wp (mapSlot hash key) Q R m ↔ Q ((hash key).toNat % m.capacity) m := by
  unfold mapSlot
  rw [wp_read, wp_bind, wp_ensure]
  exact ⟨fun hQ => hQ.1 hpos.ne', fun hQ => ⟨fun _ => hQ, fun hnot => absurd hpos.ne' hnot⟩⟩

/-- A table to which a key may be added. -/
structure S2nMap.HasRoom (hash : List UInt8 → UInt32) (m : S2nMap) (f : Mapping) : Prop where
  represents : m.Represents hash f
  immutable : m.immutable = false
  size_le : m.size * 2 ≤ m.capacity

lemma S2nMap.HasRoom.size_lt (h : m.HasRoom hash f) : m.size < m.capacity := by
  have hpos := h.represents.capacity_pos
  have hle := h.size_le
  omega

/-- A free place has no value. -/
lemma S2nMap.Represents.table_eq (h : m.Represents hash f) {i : ℕ} (hfree : m.keyAt i = none) :
    m.table i = ⟨[], []⟩ := by
  have hk := S2nMap.keyAt_eq_none.mp hfree
  have hv := (h.value_eq_nil i).mpr hk
  cases hti : m.table i with
  | mk k v =>
    rw [hti] at hk hv
    rw [show k = [] from hk, show v = [] from hv]

/-- The place for a key in a table with room: where it is, or a free one. -/
lemma S2nMap.HasRoom.wp_probed {k : ℕ × Bool → MapM Unit} (h : m.HasRoom hash f)
    (hfound : ∀ i < m.capacity, m.keyAt i = some key → key ∈ f → wp (k (i, true)) Q R m)
    (hfree : ∀ i < m.capacity, probe m.capacity m.keyAt key m.capacity ((hash key).toNat % m.capacity) = .free i →
      m.keyAt i = none → key ∉ f → wp (k (i, false)) Q R m) :
    wp (do let slot ← mapSlot hash key; k (← probeLoop key (← get).capacity slot)) Q R m := by
  have hpos := h.represents.capacity_pos
  rw [wp_bind, wp_mapSlot hpos, wp_read, wp_bind, wp_probeLoop h.represents.backed _ _ (Nat.mod_lt _ hpos)]
  rcases h.represents.probe_cases h.size_lt key with ⟨i, hi, hprobe, hat, hmem⟩ | ⟨i, hi, hprobe, hnone, hnot⟩
  · rw [hprobe]
    exact hfound i hi hat hmem
  · rw [hprobe]
    exact hfree i hi hprobe hnone hnot

/-- **A key is added** once there is room for it. -/
lemma wp_mapAddWith {embiggen : ℕ → MapM Unit} {P : S2nMap → Prop} (himmutable : m.immutable = false) (hkey : key ≠ [])
    (hvalue : value ≠ []) (hgrow : wp (growIfFull embiggen) (fun _ m' => m'.HasRoom hash f ∧ P m') noError m) :
    wp (mapAddWith hash embiggen key value)
      (fun _ m' => key ∉ f ∧ ∃ m₁, P m₁ ∧ m₁.HasRoom hash f ∧ m₁.Writes hash m' (f.insert key value))
      (fun e m' => e = .err .mapDuplicate ∧ key ∈ f ∧ P m' ∧ m'.HasRoom hash f) m := by
  unfold mapAddWith
  refine wp_ensured himmutable ?_
  refine wp_sure_then hgrow fun _ m' hm' => ?_
  obtain ⟨hroom, hP⟩ := hm'
  have h := hroom.represents
  have hcap := h.capacity_lt
  have hlt := hroom.size_lt
  refine hroom.wp_probed (fun i _ _ hmem => ?_) fun i hi hprobe hfree hnot => ?_
  · exact wp_seq_ensure (fun hfalse => Bool.noConfusion hfalse) fun _ => ⟨rfl, hmem, hP, hroom⟩
  · refine wp_ensured rfl ?_
    refine wp_storeEntry h.backed hi (h.table_eq hfree) hkey hvalue ?_
    rw [sizeSucc, Nat.mod_eq_of_lt (by omega)]
    exact ⟨hnot, m', hP, hroom, h.insert hkey hvalue hi hnot hfree hprobe, rfl, rfl, le_rfl⟩

/-- With room in the table it is not made larger. -/
lemma wp_growIfFull_of_room (h : m.HasRoom hash f) (embiggen : ℕ → MapM Unit)
    (hQ : Q () m) : wp (growIfFull embiggen) Q R m := by
  have hle := h.size_le
  unfold growIfFull
  rw [wp_read, wp_when]
  exact ⟨fun hfull => absurd (lt_of_lt_of_le hfull (Nat.mod_le _ _)) (by omega), fun _ => hQ⟩

/-- What has been moved when the first `slot` places of `m₀` have been looked at. -/
structure Moved (hash : List UInt8 → UInt32) (m₀ m tmp : S2nMap) (g : Mapping) (slot : ℕ) : Prop where
  capacity : m.capacity = m₀.capacity
  allocated : m.allocated = m₀.allocated
  table : ∀ j, slot ≤ j → m.table j = m₀.table j
  represents : tmp.Represents hash g
  immutable : tmp.immutable = false
  size_le : tmp.size ≤ slot
  lookup : ∀ k v, g.lookup k = some v ↔ k ≠ [] ∧ ∃ j < slot, m₀.table j = ⟨k, v⟩

variable {m₀ : S2nMap}

/-- **The loop of `s2n_map_embiggen`.** No call in it makes a table larger. -/
lemma wp_rehash (h₀ : m₀.Represents hash f) (hcap : m₀.capacity * 2 ≤ capacity)
    (embiggen : ℕ → MapM Unit) (left : ℕ) : ∀ (slot : ℕ) (tmp m : S2nMap) (g : Mapping),
    slot + left = m₀.capacity → tmp.capacity = capacity → Moved hash m₀ m tmp g slot →
    wp (rehash (mapAddWith hash embiggen) left slot tmp)
      (fun tmp' _ => tmp'.Represents hash f ∧ tmp'.capacity = capacity ∧ tmp'.size = m₀.size) noError m := by
  induction left with
  | zero =>
    intro slot tmp m g hslot htmp hm
    unfold rehash
    have heq : g = f := by
      refine Finmap.ext_lookup fun k => Option.ext fun v => ?_
      rw [hm.lookup, h₀.lookup, show slot = m₀.capacity by omega]
    subst heq
    exact ⟨hm.represents, htmp, hm.represents.size.trans h₀.size.symm⟩
  | succ left ih =>
    intro slot tmp m g hslot htmp hm
    have hi : slot < m.capacity := by
      rw [hm.capacity]
      omega
    have hbacked : m.Backed := h₀.backed.of_eq hm.capacity hm.allocated
    unfold rehash
    rw [wp_bind, wp_tableEntry hbacked hi, hm.table slot le_rfl]
    by_cases hfree : (m₀.table slot).key = []
    · rw [if_pos hfree]
      refine ih (slot + 1) tmp m g (by omega) htmp
        ⟨hm.capacity, hm.allocated, fun j hj => hm.table j (by omega), hm.represents, hm.immutable,
          Nat.le_succ_of_le hm.size_le, fun k v => ?_⟩
      rw [hm.lookup]
      refine and_congr_right fun hk => ⟨fun ⟨j, hj, hentry⟩ => ⟨j, Nat.lt_succ_of_lt hj, hentry⟩, ?_⟩
      rintro ⟨j, hj, hentry⟩
      refine ⟨j, lt_of_le_of_ne (Nat.le_of_lt_succ hj) ?_, hentry⟩
      rintro rfl
      rw [hentry] at hfree
      exact hk hfree
    · rw [if_neg hfree]
      have hslot' : slot < m₀.capacity := hm.capacity ▸ hi
      have hvalue : (m₀.table slot).value ≠ [] := fun hv => hfree ((h₀.value_eq_nil slot).mp hv)
      -- the key is at no place before
      have hnew : (m₀.table slot).key ∉ g := by
        intro hmem
        obtain ⟨v, hv⟩ := Finmap.mem_iff.mp hmem
        obtain ⟨hk, j, hj, hentry⟩ := (hm.lookup _ v).mp hv
        have hkey : m₀.keyAt j = some (m₀.table slot).key := S2nMap.keyAt_eq_some.mpr ⟨by rw [hentry], hk⟩
        exact absurd (h₀.placed.unique (by omega) hslot' hkey (S2nMap.keyAt_eq_some.mpr ⟨rfl, hk⟩)) (by omega)
      have hroom : tmp.HasRoom hash g := ⟨hm.represents, hm.immutable, by
        have := hm.size_le
        omega⟩
      rw [wp_bind, wp_execLocal]
      refine wp_mono (fun _ tmp' htmp' => ?_) (fun e _ he => absurd he.2.1 hnew)
        (wp_mapAddWith hm.immutable hfree hvalue (wp_growIfFull_of_room hroom embiggen
          (Q := fun _ m' => m'.HasRoom hash g ∧ m' = tmp) ⟨hroom, rfl⟩))
      obtain ⟨-, _, rfl, -, hwrites⟩ := htmp'
      rw [wp_bind, wp_setTableEntry hbacked hi]
      refine ih (slot + 1) tmp' _ _ (by omega) (hwrites.capacity.trans htmp)
        ⟨hm.capacity, hm.allocated, fun j hj => ?_, hwrites.represents, hwrites.immutable.trans hm.immutable,
          hwrites.size_le.trans (Nat.succ_le_succ hm.size_le), fun k v => ?_⟩
      · rw [← hm.table j (by omega)]
        exact Function.update_of_ne (by omega) _ _
      · by_cases hk : k = (m₀.table slot).key
        · subst hk
          rw [Finmap.lookup_insert, Option.some.injEq]
          refine ⟨fun hv => ⟨hfree, slot, Nat.lt_succ_self slot, by rw [← hv]⟩, ?_⟩
          rintro ⟨-, j, hj, hentry⟩
          have hkey : m₀.keyAt j = some (m₀.table slot).key := S2nMap.keyAt_eq_some.mpr ⟨by rw [hentry], hfree⟩
          have hj' := h₀.placed.unique (by omega) hslot' hkey (S2nMap.keyAt_eq_some.mpr ⟨rfl, hfree⟩)
          rw [← hj', hentry]
        · rw [Finmap.lookup_insert_of_ne _ hk, hm.lookup]
          refine and_congr_right fun _ => ⟨fun ⟨j, hj, hentry⟩ => ⟨j, Nat.lt_succ_of_lt hj, hentry⟩, ?_⟩
          rintro ⟨j, hj, hentry⟩
          refine ⟨j, lt_of_le_of_ne (Nat.le_of_lt_succ hj) ?_, hentry⟩
          rintro rfl
          exact hk (by rw [hentry])

lemma represents_emptyTable (hpos : 0 < capacity) (hfits : capacity * mapEntrySize < 2 ^ 32) :
    (emptyTable capacity).Represents hash ∅ where
  capacity_pos := hpos
  backed := Nat.mod_eq_of_lt hfits
  allocated_lt := Nat.mod_lt _ (by decide)
  placed := WellPlaced.empty fun _ => rfl
  value_eq_nil _ := Iff.rfl
  lookup k v := by
    refine ⟨fun h => (nomatch h), ?_⟩
    rintro ⟨hk, i, -, hentry⟩
    exact absurd (congrArg MapEntry.key hentry).symm hk
  size := rfl

lemma S2nMap.Represents.setImmutable (h : m.Represents hash f) (b : Bool) :
    S2nMap.Represents hash { m with immutable := b } f :=
  ⟨h.capacity_pos, h.backed, h.allocated_lt, h.placed, h.value_eq_nil, h.lookup, h.size⟩

/-- **Making the table larger keeps the mapping.** -/
lemma wp_mapEmbiggen (h : m.Represents hash f) (himmutable : m.immutable = false)
    (hcap : m.capacity * 2 ≤ capacity) (hfits : capacity * mapEntrySize < 2 ^ 32) (depth : ℕ) :
    wp (mapEmbiggen hash (depth + 1) capacity)
      (fun _ m' => m'.Represents hash f ∧ m'.immutable = false ∧ m'.capacity = capacity ∧ m'.size = m.size)
      noError m := by
  have hpos : 0 < capacity := by
    have := h.capacity_pos
    omega
  unfold mapEmbiggen
  refine wp_ensured himmutable ?_
  have hmoved : Moved hash m m (emptyTable capacity) ∅ 0 :=
    ⟨rfl, rfl, fun _ _ => rfl, represents_emptyTable hpos hfits, rfl, le_rfl, fun k v => by
      refine ⟨fun h => (nomatch h), ?_⟩
      rintro ⟨-, j, hj, -⟩
      exact absurd hj (Nat.not_lt_zero j)⟩
  refine wp_sure_then (wp_rehash h hcap _ m.capacity 0 (emptyTable capacity) m ∅ (Nat.zero_add _) rfl hmoved)
    fun tmp _ htmp => ?_
  exact ⟨htmp.1.setImmutable false, rfl, htmp.2⟩

/-- A table does not have more keys than places. -/
lemma S2nMap.Represents.size_le (h : m.Represents hash f) : m.size ≤ m.capacity := by
  rw [h.size, ← Finset.card_range m.capacity]
  refine Finset.card_le_card_of_surjOn (fun i => (m.table i).key) fun k hk => ?_
  obtain ⟨i, hi, hkey⟩ := h.mem_iff.mp (Finmap.mem_keys.mp hk)
  exact ⟨i, by simpa using hi, (S2nMap.keyAt_eq_some.mp hkey).1⟩

/-- The memory for a larger table fits into 32 bits if it is needed. -/
def S2nMap.GrowthFits (m : S2nMap) : Prop := m.capacity < m.size * 2 → m.capacity * 2 * mapEntrySize < 2 ^ 32

/-- **There is room after the growth.** -/
lemma wp_growIfFull (h : m.Represents hash f) (himmutable : m.immutable = false) (hfits : m.GrowthFits) (depth : ℕ) :
    wp (growIfFull (mapEmbiggen hash (depth + 1)))
      (fun _ m' => m'.HasRoom hash f ∧ (m'.capacity = m.capacity ∨ m'.capacity = m.capacity * 2)) noError m := by
  have hle := h.size_le
  have hlt := h.allocated_lt
  rw [h.backed, mapEntrySize] at hlt
  unfold growIfFull
  rw [wp_read, wp_when, Nat.mod_eq_of_lt (by omega : m.size * 2 < 2 ^ 32),
    Nat.mod_eq_of_lt (by omega : m.capacity * 2 < 2 ^ 32)]
  refine ⟨fun hfull => ?_, fun hroom => ⟨⟨h, himmutable, by omega⟩, .inl rfl⟩⟩
  refine wp_mono_ok (fun _ m' hm' => ?_) (wp_mapEmbiggen h himmutable le_rfl (hfits hfull) depth)
  obtain ⟨hrep, himm, hcap, hsize⟩ := hm'
  exact ⟨⟨hrep, himm, by omega⟩, .inr hcap⟩

end Add

end S2nTls
