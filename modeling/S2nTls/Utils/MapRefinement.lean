import S2nTls.Lib.Bytes
import S2nTls.Utils.MapSpec

/-!
Calls of the hash table against those of a finite map.

Each call on a table that represents a mapping has the outcome that the mapping gives it, and leaves a table that
represents the mapping after the call. This needs the memory for the table to be there when it is made larger.
With more than 2^25 keys it is not, as its size does not fit into 32 bits.
-/

namespace S2nTls

open Lib

variable {hash : List UInt8 → UInt32} {m : S2nMap} {f : Mapping} {key value : List UInt8}

/-! ### The calls -/

/-- **A key is put** into a table. -/
lemma wp_mapPut (h : m.Represents hash f) (himmutable : m.immutable = false) (hkey : key ≠ []) (hvalue : value ≠ [])
    (hfits : m.GrowthFits) (depth : ℕ) :
    wp (mapPut hash (depth + 1) key value)
      (fun _ m' => m'.Represents hash (f.insert key value) ∧ m'.immutable = false) noError m := by
  unfold mapPut
  rw [wp_read]
  refine wp_ensured himmutable ?_
  refine wp_sure_then (wp_growIfFull h himmutable hfits depth) fun _ m' hm' => ?_
  obtain ⟨hroom, -⟩ := hm'
  have h := hroom.represents
  have hcap := h.capacity_lt
  have hlt := hroom.size_lt
  refine hroom.wp_probed (fun i hi hat hmem => ?_) fun i hi hprobe hfree hnot => ?_
  · dsimp only
    rw [wp_bind]
    refine wp_taken rfl ?_
    rw [wp_bind, wp_setTableEntry h.backed hi, wp_modify]
    let m₁ : S2nMap := { m' with
      table := Function.update m'.table i ⟨[], []⟩
      size := sizePred m'.size }
    refine wp_storeEntry (m := m₁) (h.backed.of_eq rfl rfl) hi (Function.update_self i _ m'.table) hkey hvalue ?_
    have hsize : 0 < m'.size := by
      rw [h.size]
      exact Finset.card_pos.mpr ⟨key, Finmap.mem_keys.mpr hmem⟩
    have hback : sizeSucc (sizePred m'.size) = m'.size := by
      unfold sizeSucc sizePred
      omega
    dsimp only [m₁]
    rw [hback, Function.update_idem]
    exact ⟨h.overwrite hkey hvalue hi hat, hroom.immutable⟩
  · dsimp only
    rw [wp_bind, wp_when]
    refine ⟨fun hfalse => Bool.noConfusion hfalse, fun _ => ?_⟩
    refine wp_storeEntry h.backed hi (h.table_eq hfree) hkey hvalue ?_
    rw [sizeSucc, Nat.mod_eq_of_lt (by omega)]
    exact ⟨h.insert hkey hvalue hi hnot hfree hprobe, hroom.immutable⟩

/-- A round through the table ends where it began, and not before. -/
lemma add_mod_eq_iff {c start n : ℕ} (hstart : start < c) (hpos : 0 < n) (hn : n ≤ c) :
    (start + n) % c = start ↔ n = c := by
  constructor
  · intro heq
    by_contra hne
    by_cases hlt : start + n < c
    · rw [Nat.mod_eq_of_lt hlt] at heq
      omega
    · rw [Nat.mod_eq_sub_mod (by omega), Nat.mod_eq_of_lt (by omega)] at heq
      omega
  · rintro rfl
    rw [Nat.add_mod_right, Nat.mod_eq_of_lt hstart]

section LookupLoop

variable {Q : Option (List UInt8) → S2nMap → Prop} {R : MapFail → S2nMap → Prop} {start slot : ℕ} (h : m.Backed)

include h

/-- One iteration of the loop of `s2n_map_lookup`. -/
lemma wp_lookupLoop_succ (fuel : ℕ) (hslot : slot < m.capacity) :
    wp (lookupLoop key start (fuel + 1) slot) Q R m ↔ match m.keyAt slot with
      | none => Q none m
      | some k => if k = key then Q (some (m.table slot).value) m
        else if (slot + 1) % m.capacity = start then Q none m
        else wp (lookupLoop key start fuel ((slot + 1) % m.capacity)) Q R m := by
  rw [lookupLoop, wp_bind, wp_tableEntry h hslot]
  by_cases hfree : (m.table slot).key = []
  · rw [if_pos hfree, wp_pure, S2nMap.keyAt_eq_none.mpr hfree]
  · rw [if_neg hfree, S2nMap.keyAt_eq_some.mpr ⟨rfl, hfree⟩]
    by_cases hkey : key = (m.table slot).key
    · rw [if_neg (not_not.mpr hkey), wp_pure]
      simp only [← hkey, ↓reduceIte]
    · rw [if_pos hkey, wp_read]
      simp only [Ne.symm hkey, ↓reduceIte]
      split
      · rw [wp_pure]
      · rfl

/-- The loop is the search of linear probing, for one round. -/
lemma wp_lookupLoop (key : List UInt8) (hstart : start < m.capacity) (fuel : ℕ) :
    ∀ slot, fuel + 1 ≤ m.capacity → slot = (start + (m.capacity - (fuel + 1))) % m.capacity →
    (wp (lookupLoop key start (fuel + 1) slot) Q R m ↔ match probe m.capacity m.keyAt key (fuel + 1) slot with
      | .found i => Q (some (m.table i).value) m
      | .free _ => Q none m
      | .exhausted => Q none m) := by
  induction fuel with
  | zero =>
    intro slot hle hslot
    have hround : (slot + 1) % m.capacity = start := by
      rw [hslot, Nat.mod_add_mod, Nat.add_assoc, show m.capacity - (0 + 1) + 1 = m.capacity by omega]
      exact (add_mod_eq_iff hstart (by omega) le_rfl).mpr rfl
    rw [wp_lookupLoop_succ h _ (hslot ▸ Nat.mod_lt _ (by omega)), probe]
    cases m.keyAt slot with
    | none => exact Iff.rfl
    | some k => by_cases hk : k = key <;> simp only [hk, hround, ↓reduceIte, probe]
  | succ fuel ih =>
    intro slot hle hslot
    have hnext : (slot + 1) % m.capacity = (start + (m.capacity - (fuel + 1))) % m.capacity := by
      rw [hslot, Nat.mod_add_mod, Nat.add_assoc,
        show m.capacity - (fuel + 1 + 1) + 1 = m.capacity - (fuel + 1) by omega]
    have hnot : (slot + 1) % m.capacity ≠ start := by
      rw [hnext]
      exact fun heq => absurd ((add_mod_eq_iff hstart (by omega) (by omega)).mp heq) (by omega)
    rw [wp_lookupLoop_succ h _ (hslot ▸ Nat.mod_lt _ (by omega)), probe]
    cases m.keyAt slot with
    | none => exact Iff.rfl
    | some k => by_cases hk : k = key <;> simp only [hk, hnot, ↓reduceIte, ih _ (by omega) hnext]

end LookupLoop

/-- **A key is looked up.** -/
lemma wp_mapLookup (h : m.Represents hash f) (himmutable : m.immutable = true) :
    wp (mapLookup hash key) (fun v m' => v = f.lookup key ∧ m' = m) noError m := by
  have hpos := h.capacity_pos
  have hstart : (hash key).toNat % m.capacity < m.capacity := Nat.mod_lt _ hpos
  unfold mapLookup
  rw [wp_read]
  refine wp_ensured himmutable ?_
  obtain ⟨n, hn⟩ : ∃ n, m.capacity = n + 1 := ⟨m.capacity - 1, by omega⟩
  have hslot : (hash key).toNat % m.capacity =
      ((hash key).toNat % m.capacity + (m.capacity - (n + 1))) % m.capacity := by
    rw [← hn, Nat.sub_self, Nat.add_zero, Nat.mod_mod]
  rw [wp_bind, wp_mapSlot hpos, wp_read, hn, ← hn]
  have hloop := wp_lookupLoop h.backed key hstart (Q := fun v m' => v = f.lookup key ∧ m' = m)
    (R := fun _ _ => False) n _ (by omega) hslot
  rw [← hn] at hloop
  rw [hloop]
  have hend := reaches_of_probe m.capacity m.keyAt key m.capacity (hash key).toNat
  -- a key of the mapping would have been found
  have hnone : (∀ i, probe m.capacity m.keyAt key m.capacity ((hash key).toNat % m.capacity) ≠ .found i) →
      f.lookup key = none := by
    intro hne
    rw [Finmap.lookup_eq_none]
    intro hmem
    obtain ⟨i, hi, hat⟩ := h.mem_iff.mp hmem
    exact hne i (h.placed.probe_eq_found hi hat)
  cases hprobe : probe m.capacity m.keyAt key m.capacity ((hash key).toNat % m.capacity) with
  | found i =>
    rw [hprobe] at hend
    obtain ⟨hkey, hne⟩ := S2nMap.keyAt_eq_some.mp hend.2
    refine ⟨((h.lookup key _).mpr ⟨hne, i, lt_of_reaches hend.1 hpos, ?_⟩).symm, rfl⟩
    rw [← hkey]
  | free i => exact ⟨(hnone fun j => by rw [hprobe]; exact fun hc => nomatch hc).symm, rfl⟩
  | exhausted => exact ⟨(hnone fun j => by rw [hprobe]; exact fun hc => nomatch hc).symm, rfl⟩

/-! ### Reading all values -/

section Iterate

/-- The places from `i` on that are in use. -/
def S2nMap.usedFrom (m : S2nMap) (i : ℕ) : List ℕ :=
  (List.range' i (m.capacity - i)).filter fun j => (m.table j).key ≠ []

lemma S2nMap.usedFrom_of_lt {i : ℕ} (hi : i < m.capacity) :
    m.usedFrom i = if (m.table i).key = [] then m.usedFrom (i + 1) else i :: m.usedFrom (i + 1) := by
  unfold usedFrom
  rw [show m.capacity - i = (m.capacity - (i + 1)) + 1 by omega, List.range'_succ, List.filter_cons]
  by_cases hkey : (m.table i).key = [] <;> simp [hkey]

lemma S2nMap.usedFrom_capacity : m.usedFrom m.capacity = [] := by simp [usedFrom]

lemma S2nMap.mem_usedFrom {j : ℕ} : j ∈ m.usedFrom 0 ↔ j < m.capacity ∧ (m.table j).key ≠ [] := by
  simp [usedFrom, List.mem_range'_1]

/-- An iterator is at the first of the places in `l`, which are the rest of those in use. -/
def MapIterator.At (it : MapIterator) (m : S2nMap) (l : List ℕ) : Prop :=
  match l with
  | [] => it.consumed = true
  | j :: rest => it.consumed = false ∧ it.currentIndex = j ∧ j < m.capacity ∧ rest = m.usedFrom (j + 1)

variable {it : MapIterator}

lemma wp_advanceLoop (h : m.Backed) (hit : it.consumed = false) (left : ℕ) : ∀ index, index + left = m.capacity →
    wp (advanceLoop it left index) (fun it' m' => m' = m ∧ it'.At m (m.usedFrom index)) noError m := by
  induction left with
  | zero =>
    intro index hindex
    obtain rfl : index = m.capacity := hindex
    unfold advanceLoop
    rw [wp_pure, S2nMap.usedFrom_capacity]
    exact ⟨rfl, rfl⟩
  | succ left ih =>
    intro index hindex
    have hi : index < m.capacity := by omega
    unfold advanceLoop
    rw [wp_bind, wp_tableEntry h hi, S2nMap.usedFrom_of_lt hi]
    by_cases hkey : (m.table index).key = []
    · rw [if_neg (not_not.mpr hkey), if_pos hkey]
      exact ih (index + 1) (by omega)
    · rw [if_pos hkey, if_neg hkey, wp_pure]
      exact ⟨rfl, hit, rfl, hi, rfl⟩

lemma wp_mapIteratorAdvance (h : m.Backed) (it : MapIterator) (hit : it.consumed = false)
    (hi : it.currentIndex < m.capacity) :
    wp (mapIteratorAdvance it) (fun it' m' => m' = m ∧ it'.At m (m.usedFrom (it.currentIndex + 1)))
      noError m := by
  unfold mapIteratorAdvance
  refine wp_ensured hit ?_
  rw [wp_read]
  exact wp_advanceLoop h hit _ _ (by omega)

variable (h : m.Represents hash f)

include h

lemma wp_mapIteratorInit (himmutable : m.immutable = true) (hit : it.consumed = false) :
    wp (mapIteratorInit it) (fun it' m' => m' = m ∧ it'.At m (m.usedFrom 0)) noError m := by
  have hpos := h.capacity_pos
  unfold mapIteratorInit
  rw [wp_read]
  refine wp_ensured himmutable ?_
  rw [wp_bind, wp_tableEntry h.backed hpos, S2nMap.usedFrom_of_lt hpos]
  by_cases hkey : (m.table 0).key = []
  · rw [if_pos hkey, if_pos hkey]
    exact wp_mapIteratorAdvance h.backed { it with currentIndex := 0 } hit hpos
  · rw [if_neg hkey, if_neg hkey, wp_pure]
    exact ⟨rfl, hit, rfl, hpos, rfl⟩

/-- **All values are read**, each once, in the order of the places. -/
lemma wp_readValues (himmutable : m.immutable = true) (fuel : ℕ) :
    ∀ (it : MapIterator) (l : List ℕ), l.length ≤ fuel → it.At m l → wp (readValues fuel it)
        (fun r m' => m' = m ∧ r.1 = l.map (fun j => (m.table j).value) ∧ r.2.consumed = true) noError m := by
  induction fuel with
  | zero =>
    intro it l hl hit
    obtain rfl := List.eq_nil_of_length_eq_zero (Nat.le_zero.mp hl)
    exact ⟨rfl, rfl, hit⟩
  | succ fuel ih =>
    intro it l hl hit
    unfold readValues
    cases l with
    | nil =>
      have hconsumed : it.consumed = true := hit
      rw [if_pos hconsumed, wp_pure]
      exact ⟨rfl, rfl, hconsumed⟩
    | cons j rest =>
      obtain ⟨hconsumed, hindex, hj, hrest⟩ := hit
      rw [if_neg (by rw [hconsumed]; exact Bool.false_ne_true), wp_bind]
      unfold mapIteratorNext
      rw [wp_read]
      refine wp_ensured himmutable ?_
      refine wp_ensured hconsumed ?_
      refine wp_ensured (hindex ▸ hj) ?_
      rw [wp_bind, wp_tableEntry h.backed (hindex ▸ hj)]
      refine wp_sure_then (wp_mapIteratorAdvance h.backed it hconsumed (hindex ▸ hj)) fun it' m' hit' => ?_
      obtain ⟨rfl, hat⟩ := hit'
      rw [wp_pure]
      refine wp_sure_then (ih it' rest (Nat.le_of_succ_le_succ hl) (by rw [hrest, ← hindex]; exact hat))
        fun r m'' hr => ?_
      rw [wp_pure, List.map_cons, hindex]
      exact ⟨hr.1, by rw [hr.2.1], hr.2.2⟩

lemma S2nMap.Represents.keys_usedFrom :
    ∃ keys : List (List UInt8), keys.Nodup ∧ (∀ k, k ∈ keys ↔ k ∈ f) ∧
      (m.usedFrom 0).map (fun j => some (m.table j).value) = keys.map f.lookup := by
  refine ⟨(m.usedFrom 0).map fun j => (m.table j).key, ?_, fun k => ?_, ?_⟩
  · refine List.Nodup.map_on (fun i hi j hj hkey => ?_) (List.Nodup.filter _ List.nodup_range')
    obtain ⟨hi, hki⟩ := S2nMap.mem_usedFrom.mp hi
    obtain ⟨hj, hkj⟩ := S2nMap.mem_usedFrom.mp hj
    exact h.placed.unique hi hj (S2nMap.keyAt_eq_some.mpr ⟨hkey, hkj⟩) (S2nMap.keyAt_eq_some.mpr ⟨rfl, hkj⟩)
  · rw [h.mem_iff, List.mem_map]
    refine exists_congr fun j => ?_
    rw [S2nMap.mem_usedFrom, S2nMap.keyAt_eq_some]
    constructor
    · rintro ⟨⟨hj, hne⟩, rfl⟩
      exact ⟨hj, rfl, hne⟩
    · rintro ⟨hj, rfl, hne⟩
      exact ⟨⟨hj, hne⟩, rfl⟩
  · rw [List.map_map]
    refine List.map_congr_left fun j hj => ?_
    obtain ⟨hj, hne⟩ := S2nMap.mem_usedFrom.mp hj
    exact ((h.lookup _ _).mpr ⟨hne, j, hj, rfl⟩).symm

end Iterate

/-! ### Sequences of calls -/

section Calls

abbrev NonEmpty := { bytes : List UInt8 // bytes ≠ [] }

inductive MapCall
  | add (key value : NonEmpty) | put (key value : NonEmpty) | complete | unlock | lookup (key : NonEmpty)

variable (hash) in
/-- What a call does; `lookup` returns what it finds. -/
def MapCall.run (depth : ℕ) : MapCall → MapM (Option (List UInt8))
  | .add key value => do
    mapAdd hash depth key value
    return none
  | .put key value => do
    mapPut hash depth key value
    return none
  | .complete => do
    mapComplete
    return none
  | .unlock => do
    mapUnlock
    return none
  | .lookup key => mapLookup hash key

/-- A finite map that may be locked against writing; only then it may be read. -/
structure LockedMapping where
  mapping : Mapping := ∅
  immutable : Bool := false

def MapCall.spec (call : MapCall) : EStateM MapFail LockedMapping (Option (List UInt8)) := fun s =>
  match call with
  | .add key value =>
    if s.immutable = true then .error (.err .mapImmutable) s
    else if key.1 ∈ s.mapping then .error (.err .mapDuplicate) s
    else .ok none { s with mapping := s.mapping.insert key.1 value.1 }
  | .put key value =>
    if s.immutable = true then .error (.err .mapImmutable) s
    else .ok none { s with mapping := s.mapping.insert key.1 value.1 }
  | .complete => .ok none { s with immutable := true }
  | .unlock => .ok none { s with immutable := false }
  | .lookup key => if s.immutable = true then .ok (s.mapping.lookup key.1) s else .error (.err .mapMutable) s

/-- A table stands for a finite map. -/
structure S2nMap.StandsFor (hash : List UInt8 → UInt32) (m : S2nMap) (s : LockedMapping) : Prop where
  represents : m.Represents hash s.mapping
  immutable : m.immutable = s.immutable

/-- A call that writes finds the memory for a larger table if it needs one. -/
def MapCall.Fits : MapCall → S2nMap → Prop
  | .add .., m => m.immutable = false → m.GrowthFits
  | .put .., m => m.immutable = false → m.GrowthFits
  | _, _ => True

variable {s : LockedMapping}

/-- **Each call does what it does to the finite map.** -/
lemma MapCall.refines (depth : ℕ) (call : MapCall) (m : S2nMap) (s : LockedMapping) (h : m.StandsFor hash s)
    (hfits : call.Fits m) :
    outcome (call.run hash (depth + 1)) m = outcome call.spec s ∧
      (finalState (call.run hash (depth + 1)) m).StandsFor hash (finalState call.spec s) := by
  refine outcome_of_wp (P := fun m' => S2nMap.StandsFor hash m' (finalState call.spec s)) ?_
  obtain ⟨f, locked⟩ := s
  obtain ⟨hrep, himm⟩ := h
  unfold MapCall.run
  cases call with
  | add key value =>
    cases locked with
    | true =>
      unfold mapAdd mapAddWith
      rw [wp_bind, wp_read]
      exact wp_seq_ensure (fun hfalse => absurd (hfalse.symm.trans himm) Bool.false_ne_true) fun _ => ⟨rfl, hrep, himm⟩
    | false =>
      refine wp_seq (wp_mapAddWith himm key.2 value.2 (wp_growIfFull hrep himm (hfits himm) depth))
        (fun _ m' hm' => ?_) fun e m' he => ?_
      · obtain ⟨hnot, m₁, -, hroom, hwrites⟩ := hm'
        have hspec : MapCall.spec (.add key value) ⟨f, false⟩ = .ok none ⟨f.insert key.1 value.1, false⟩ := if_neg hnot
        rw [wp_pure]
        unfold outcome finalState
        rw [EStateM.run, hspec]
        exact ⟨rfl, hwrites.represents, hwrites.immutable.trans hroom.immutable⟩
      · obtain ⟨rfl, hmem, -, hroom⟩ := he
        have hspec : MapCall.spec (.add key value) ⟨f, false⟩ = .error (.err .mapDuplicate) ⟨f, false⟩ := if_pos hmem
        unfold outcome finalState
        rw [EStateM.run, hspec]
        exact ⟨rfl, hroom.represents, hroom.immutable⟩
  | put key value =>
    cases locked with
    | true =>
      unfold mapPut
      rw [wp_bind, wp_read]
      exact wp_seq_ensure (fun hfalse => absurd (hfalse.symm.trans himm) Bool.false_ne_true) fun _ => ⟨rfl, hrep, himm⟩
    | false =>
      refine wp_sure_then (wp_mapPut hrep himm key.2 value.2 (hfits himm) depth) fun _ m' hm' => ?_
      exact ⟨rfl, hm'.1, hm'.2⟩
  | complete => exact ⟨rfl, hrep.setImmutable true, rfl⟩
  | unlock => exact ⟨rfl, hrep.setImmutable false, rfl⟩
  | lookup key =>
    cases locked with
    | true =>
      refine wp_sure (fun v m' hv => ?_) (wp_mapLookup hrep himm)
      obtain ⟨rfl, rfl⟩ := hv
      exact ⟨rfl, hrep, himm⟩
    | false =>
      unfold mapLookup
      rw [wp_read]
      exact wp_seq_ensure (fun htrue => absurd (himm.symm.trans htrue) Bool.false_ne_true) fun _ => ⟨rfl, hrep, himm⟩

lemma exists_mapNew (hash : List UInt8 → UInt32) (depth : ℕ) {capacity : ℕ} (hpos : 0 < capacity)
    (hfits : capacity * mapEntrySize < 2 ^ 32) :
    ∃ m, (mapNewWithInitialCapacity hash (depth + 1) capacity).run () = .ok m () ∧ m.StandsFor hash {} ∧
      m.capacity = capacity :=
  ⟨emptyTable capacity, by
    unfold mapNewWithInitialCapacity ensure
    rw [if_pos hpos.ne']
    rfl, ⟨represents_emptyTable hpos hfits, rfl⟩, rfl⟩

/-- The values of a map, as a user reads them. -/
def readAll (fuel : ℕ) : MapM (List (List UInt8) × MapIterator) := do
  let it ← mapIteratorInit {}
  readValues fuel it

/-- **The table is a finite map.** In every run in which the memory for a larger table fits into 32 bits whenever
a key is written that needs one, all calls have the outcomes of a finite map, the size is the number of keys, growing
keeps the mapping, and a locked table is read completely. -/
theorem map_refines_finmap (hash : List UInt8 → UInt32) (depth : ℕ) {capacity : ℕ} (hpos : 0 < capacity)
    (hmemory : capacity * mapEntrySize < 2 ^ 32) (calls : List MapCall) :
    ∃ m, (mapNewWithInitialCapacity hash (depth + 1) capacity).run () = .ok m () ∧
      (AllMeet (MapCall.run hash (depth + 1)) MapCall.Fits calls m →
        ∀ m' s, (runCalls (MapCall.run hash (depth + 1)) calls m).2 = m' → (runCalls MapCall.spec calls {}).2 = s →
          (runCalls (MapCall.run hash (depth + 1)) calls m).1 = (runCalls MapCall.spec calls {}).1 ∧
          m'.size = s.mapping.keys.card ∧
          (m'.immutable = false → m'.capacity * 2 * mapEntrySize < 2 ^ 32 →
            ∃ m'', (mapEmbiggen hash (depth + 1) (m'.capacity * 2)).run m' = .ok () m'' ∧
              m''.Represents hash s.mapping ∧ m''.capacity = m'.capacity * 2) ∧
          (m'.immutable = true → ∃ (values : List (List UInt8)) (it : MapIterator) (keys : List (List UInt8)),
            (readAll m'.capacity).run m' = .ok (values, it) m' ∧
            it.consumed = true ∧ keys.Nodup ∧ (∀ k, k ∈ keys ↔ k ∈ s.mapping) ∧
            values.map some = keys.map s.mapping.lookup)) := by
  obtain ⟨m, hnew, hm, -⟩ := exists_mapNew hash depth hpos hmemory
  refine ⟨m, hnew, fun hmeet m' s hm' hs => ?_⟩
  obtain ⟨hout, hlast⟩ := runCalls_refines (fun call m s h hfits => call.refines depth m s h hfits) calls m {} hm hmeet
  rw [hm', hs] at hlast
  have hrep := hlast.represents
  refine ⟨hout, hrep.size, fun himm hfits => ?_, fun himm => ?_⟩
  · obtain ⟨_, m'', hrun, h⟩ := exists_ok_of_wp (wp_mapEmbiggen hrep himm le_rfl hfits depth)
    exact ⟨m'', hrun, h.1, h.2.2.1⟩
  · have hlen : (m'.usedFrom 0).length ≤ m'.capacity := by
      refine (List.length_filter_le _ _).trans ?_
      rw [List.length_range', Nat.sub_zero]
    have hread : wp (readAll m'.capacity)
        (fun r m'' => m'' = m' ∧ r.1 = (m'.usedFrom 0).map (fun j => (m'.table j).value) ∧ r.2.consumed = true)
        (fun _ _ => False) m' := by
      refine wp_sure_then (wp_mapIteratorInit hrep himm rfl) fun it m'' hit => ?_
      obtain ⟨rfl, hat⟩ := hit
      exact wp_readValues hrep himm _ it _ hlen hat
    obtain ⟨⟨values, it⟩, m'', hrun, rfl, hvalues, hconsumed⟩ := exists_ok_of_wp hread
    obtain ⟨keys, hnodup, hmem, hkeys⟩ := hrep.keys_usedFrom
    refine ⟨values, it, keys, hrun, hconsumed, hnodup, hmem, ?_⟩
    rw [show values = _ from hvalues, List.map_map, ← hkeys]
    rfl

/-- Two keys with the same hash in a table that had one place. -/
theorem map_refines_finmap_two_keys :
    ∃ (m : S2nMap) (calls : List MapCall), (mapNewWithInitialCapacity (fun _ => 0) 1 1).run () = .ok m () ∧
      (runCalls (MapCall.run (fun _ => 0) 1) calls m).1 =
        [.ok none, .ok none, .error (.err .mapDuplicate), .ok none, .ok none, .ok (some [9]), .ok none] ∧
      (runCalls (MapCall.run (fun _ => 0) 1) calls m).1 = (runCalls MapCall.spec calls {}).1 := by
  let calls : List MapCall := [.add ⟨[1], by decide⟩ ⟨[7], by decide⟩, .add ⟨[2], by decide⟩ ⟨[8], by decide⟩,
    .add ⟨[1], by decide⟩ ⟨[8], by decide⟩, .put ⟨[1], by decide⟩ ⟨[9], by decide⟩, .complete,
    .lookup ⟨[1], by decide⟩, .lookup ⟨[3], by decide⟩]
  obtain ⟨m, hnew, h⟩ := map_refines_finmap (fun _ => 0) 0 Nat.one_pos (by decide) calls
  obtain rfl : emptyTable 1 = m := by
    cases hnew
    rfl
  refine ⟨_, calls, hnew, by decide +kernel, (h ?_ _ _ rfl rfl).1⟩
  refine ⟨?_, ?_, ?_, ?_, trivial, trivial, trivial, trivial⟩ <;> exact fun _ _ => by decide +kernel

end Calls

/-! ### A table without memory -/

/-- A key is added to a new table whose memory does not reach to the place of the key. -/
lemma wp_mapAddWith_outOfBounds {tmp : S2nMap} (himmutable : tmp.immutable = false) (hsize : tmp.size = 0)
    (hpos : 0 < tmp.capacity) (hout : tmp.allocated < ((hash key).toNat % tmp.capacity + 1) * mapEntrySize)
    (embiggen : ℕ → MapM Unit) :
    wp (mapAddWith hash embiggen key value) (fun _ _ => False) (fun e _ => e = .outOfBounds) tmp := by
  unfold mapAddWith growIfFull
  rw [wp_read]
  refine wp_ensured himmutable ?_
  rw [wp_bind, wp_read, wp_when, hsize]
  refine ⟨fun hfull => absurd hfull (Nat.not_lt_zero _), fun _ => ?_⟩
  rw [wp_bind, wp_mapSlot hpos, wp_read]
  obtain ⟨n, hn⟩ : ∃ n, tmp.capacity = n + 1 := ⟨tmp.capacity - 1, by omega⟩
  rw [hn] at hout ⊢
  unfold probeLoop tableEntry
  rw [wp_bind, wp_bind, wp_read]
  exact wp_seq_ensure (fun hle => absurd hle (not_le.mpr hout)) fun _ => rfl

/-- The first key that is moved ends the loop of `s2n_map_embiggen`. -/
lemma wp_rehash_outOfBounds (h : m.Backed) {tmp : S2nMap} (himmutable : tmp.immutable = false) (hsize : tmp.size = 0)
    (hpos : 0 < tmp.capacity)
    (hout : ∀ key, tmp.allocated < ((hash key).toNat % tmp.capacity + 1) * mapEntrySize) (embiggen : ℕ → MapM Unit)
    (left : ℕ) : ∀ slot, slot + left = m.capacity → (∃ j, slot ≤ j ∧ j < m.capacity ∧ (m.table j).key ≠ []) →
      wp (rehash (mapAddWith hash embiggen) left slot tmp) (fun _ _ => False) (fun e _ => e = .outOfBounds) m := by
  induction left with
  | zero =>
    rintro slot hslot ⟨j, hle, hlt, -⟩
    omega
  | succ left ih =>
    rintro slot hslot ⟨j, hle, hlt, hkey⟩
    unfold rehash
    rw [wp_bind, wp_tableEntry h (by omega)]
    by_cases hfree : (m.table slot).key = []
    · rw [if_pos hfree]
      refine ih (slot + 1) (by omega) ⟨j, lt_of_le_of_ne hle ?_, hlt, hkey⟩
      rintro rfl
      exact hkey hfree
    · rw [if_neg hfree, wp_bind, wp_execLocal]
      exact wp_mono_ok (fun _ _ => False.elim)
        (wp_mapAddWith_outOfBounds himmutable hsize hpos (hout _) embiggen)

def numberedKey (n : ℕ) : NonEmpty := ⟨beBytes 4 n, List.ne_nil_of_length_eq_add_one (beBytes_length 4 n)⟩

lemma numberedKey_inj {i j : ℕ} (hi : i < 2 ^ 32) (hj : j < 2 ^ 32) (h : (numberedKey i).1 = (numberedKey j).1) :
    i = j := by
  have hnat := congrArg beNat h
  unfold numberedKey at hnat
  rw [beNat_beBytes, beNat_beBytes] at hnat
  omega

/-- The first `n` of these keys are added. -/
def addNumbered (n : ℕ) : List MapCall := (List.range n).map fun i => .add (numberedKey i) ⟨[1], List.cons_ne_nil _ _⟩

/-- Keys are added until the table is half full; it is never made larger. -/
lemma exists_filled (depth : ℕ) (hm : m.StandsFor hash {}) (n : ℕ) (hn : ∀ i < n, i * 2 ≤ m.capacity) :
    ∃ f m', (runCalls (MapCall.run hash (depth + 1)) (addNumbered n) m).2 = m' ∧ m'.Represents hash f ∧
      m'.immutable = false ∧ m'.capacity = m.capacity ∧ m'.size = n ∧ ∀ k ∈ f, ∃ i < n, k = (numberedKey i).1 := by
  induction n with
  | zero => exact ⟨∅, m, rfl, hm.represents, hm.immutable, rfl, hm.represents.size, fun k hk => by cases hk⟩
  | succ n ih =>
    obtain ⟨f, m', hrun, hrep, himm, hcap, hsize, hkeys⟩ := ih fun i hi => hn i (by omega)
    have hle := hn n (Nat.lt_succ_self n)
    have hlt := hrep.capacity_lt
    have hroom : m'.HasRoom hash f := ⟨hrep, himm, by omega⟩
    have hnot : (numberedKey n).1 ∉ f := by
      intro hmem
      obtain ⟨i, hi, heq⟩ := hkeys _ hmem
      have := numberedKey_inj (by omega) (by omega) heq
      omega
    have hadd := wp_mapAddWith himm (numberedKey n).2 (List.cons_ne_nil (1 : UInt8) [])
      (wp_growIfFull_of_room hroom (mapEmbiggen hash (depth + 1))
        (Q := fun _ m₁ => m₁.HasRoom hash f ∧ m₁ = m') (R := fun _ _ => False) ⟨hroom, rfl⟩)
    have hcall : wp (MapCall.run hash (depth + 1) (.add (numberedKey n) ⟨[1], List.cons_ne_nil _ _⟩))
        (fun _ m₂ => m'.Writes hash m₂ (f.insert (numberedKey n).1 [1]))
        (fun _ m₂ => m'.Writes hash m₂ (f.insert (numberedKey n).1 [1])) m' := by
      refine wp_seq hadd (fun _ m₂ hm₂ => ?_) fun _ _ he => absurd he.2.1 hnot
      obtain ⟨-, _, rfl, -, hwrites⟩ := hm₂
      exact hwrites
    have hwrites := finalState_of_wp hcall
    refine ⟨_, _, ?_, hwrites.represents, hwrites.immutable.trans himm, hwrites.capacity.trans hcap, ?_, fun k hk => ?_⟩
    · unfold addNumbered at hrun ⊢
      rw [List.range_succ, List.map_append, runCalls_append, hrun]
      rfl
    · rw [hwrites.represents.size, keys_insert,
        Finset.card_insert_of_notMem (fun hmem => hnot (Finmap.mem_keys.mp hmem)), ← hrep.size, hsize]
    · rcases Finmap.mem_insert.mp hk with rfl | hk
      · exact ⟨n, Nat.lt_succ_self n, rfl⟩
      · obtain ⟨i, hi, rfl⟩ := hkeys k hk
        exact ⟨i, Nat.lt_succ_of_lt hi, rfl⟩

/-- A finite map has no memory to miss. -/
lemma MapCall.spec_ne_outOfBounds (call : MapCall) (s : LockedMapping) : outcome call.spec s ≠ .error .outOfBounds := by
  unfold outcome EStateM.run MapCall.spec
  cases call with
  | add key value => dsimp only; split_ifs <;> simp
  | put key value => dsimp only; split_ifs <;> simp
  | complete => exact fun h => nomatch h
  | unlock => exact fun h => nomatch h
  | lookup key => dsimp only; split_ifs <;> simp

/-- **A table of more than 4 GiB.** All keys have the last place of a table of 2^27 places. With 2^25 + 1 keys in a
table of 2^26 places, the next key is added to a table for which 2 GiB are allocated instead of 6 GiB. -/
theorem map_grows_past_its_memory :
    ∃ (hash : List UInt8 → UInt32) (m : S2nMap) (calls : List MapCall), 2 ^ 26 * mapEntrySize < 2 ^ 32 ∧
      (mapNewWithInitialCapacity hash 1 (2 ^ 26)).run () = .ok m () ∧
      (runCalls (MapCall.run hash 1) calls m).1.getLast? = some (.error .outOfBounds) ∧
      (runCalls (MapCall.run hash 1) calls m).1 ≠ (runCalls MapCall.spec calls {}).1 := by
  let hash : List UInt8 → UInt32 := fun _ => 134217727
  have hpos : 0 < 2 ^ 26 := by decide
  have hmemory : 2 ^ 26 * mapEntrySize < 2 ^ 32 := by decide
  obtain ⟨m, hnew, hm, hcapacity⟩ := exists_mapNew hash 0 hpos hmemory
  obtain ⟨f, m', hrun, hrep, himm, hcap, hsize, -⟩ := exists_filled 0 hm (2 ^ 25 + 1) (fun i hi => by omega)
  have hcap' : m'.capacity = 2 ^ 26 := hcap.trans hcapacity
  -- some key is in the table
  have hused : ∃ j, 0 ≤ j ∧ j < m'.capacity ∧ (m'.table j).key ≠ [] := by
    have hcard : 0 < f.keys.card := by
      rw [← hrep.size, hsize]
      exact Nat.succ_pos _
    obtain ⟨k, hk⟩ := Finset.card_pos.mp hcard
    obtain ⟨j, hj, hkey⟩ := hrep.mem_iff.mp (Finmap.mem_keys.mp hk)
    obtain ⟨rfl, hne⟩ := S2nMap.keyAt_eq_some.mp hkey
    exact ⟨j, Nat.zero_le j, hj, hne⟩
  have hout : ∀ key, (emptyTable (2 ^ 26 * 2 % 2 ^ 32)).allocated <
      ((hash key).toNat % (emptyTable (2 ^ 26 * 2 % 2 ^ 32)).capacity + 1) * mapEntrySize := by
    intro _
    show 2 ^ 26 * 2 % 2 ^ 32 * mapEntrySize % 2 ^ 32 <
      ((134217727 : UInt32).toNat % (2 ^ 26 * 2 % 2 ^ 32) + 1) * mapEntrySize
    decide
  have hlast : outcome (MapCall.run hash 1 (.add (numberedKey (2 ^ 25 + 1)) ⟨[1], List.cons_ne_nil _ _⟩)) m' =
      .error .outOfBounds := by
    refine (outcome_of_wp (P := fun _ => True) ?_).1
    unfold MapCall.run mapAdd mapAddWith growIfFull
    rw [wp_bind, wp_read]
    refine wp_ensured himm ?_
    rw [wp_bind, wp_read, wp_when, hcap', hsize]
    refine ⟨fun _ => ?_, fun hnot => absurd (by decide) hnot⟩
    unfold mapEmbiggen
    rw [wp_read]
    refine wp_ensured himm ?_
    refine wp_seq (wp_rehash_outOfBounds hrep.backed rfl rfl (by decide) hout _ _ 0 (Nat.zero_add _) hused)
      (fun _ _ => False.elim) fun e _ he => ?_
    rw [he]
    exact ⟨rfl, trivial⟩
  refine ⟨hash, m, addNumbered (2 ^ 25 + 1) ++ [.add (numberedKey (2 ^ 25 + 1)) ⟨[1], List.cons_ne_nil _ _⟩],
    hmemory, hnew, ?_, fun heq => ?_⟩
  · rw [runCalls_append, hrun]
    show ((runCalls (MapCall.run hash 1) (addNumbered (2 ^ 25 + 1)) m).1 ++ [outcome _ m']).getLast? = _
    rw [List.getLast?_concat, hlast]
  · have hends := congrArg List.getLast? heq
    rw [runCalls_append, runCalls_append, hrun] at hends
    change ((runCalls (MapCall.run hash 1) (addNumbered (2 ^ 25 + 1)) m).1 ++ [outcome _ m']).getLast? =
      ((runCalls MapCall.spec (addNumbered (2 ^ 25 + 1)) {}).1 ++ [outcome _ _]).getLast? at hends
    rw [List.getLast?_concat, List.getLast?_concat, hlast] at hends
    exact MapCall.spec_ne_outOfBounds _ _ (Option.some.inj hends).symm

end S2nTls
