import Mathlib.Data.Finset.Card
import Mathlib.Data.Nat.ModEq

/-!
Linear probing.

A table has `c` places, and `keyAt i` is the key at place `i` if there is one. A key is searched from its own
place on, one place after the other and around the end, until it is found or a place is free. Such a search
finds every key of the table if the table is `WellPlaced`: on the way from the place where a key belongs to
the place where it is, all places are taken by other keys. To put a new key at the free place where the search
for it has ended keeps this.
-/

namespace S2nTls.Lib

variable {κ : Type*} {c : ℕ} {keyAt : ℕ → Option κ} {start : κ → ℕ} {k : κ} {i : ℕ}

/-- Another key is at place `i`. -/
def Taken (keyAt : ℕ → Option κ) (k : κ) (i : ℕ) : Prop := ∃ k', keyAt i = some k' ∧ k' ≠ k

/-- The search for `k` that begins at `slot` comes to `i` in less than `n` steps. -/
def Reaches (c : ℕ) (keyAt : ℕ → Option κ) (k : κ) (slot n i : ℕ) : Prop :=
  ∃ j < n, (slot + j) % c = i ∧ ∀ j' < j, Taken keyAt k ((slot + j') % c)

lemma lt_of_reaches {slot n : ℕ} (h : Reaches c keyAt k slot n i) (hc : 0 < c) : i < c := by
  obtain ⟨j, -, rfl, -⟩ := h
  exact Nat.mod_lt _ hc

lemma exists_add_mod_eq (slot : ℕ) (hi : i < c) : ∃ j < c, (slot % c + j) % c = i := by
  have hc : 0 < c := lt_of_le_of_lt (Nat.zero_le i) hi
  have hslot : slot % c < c := Nat.mod_lt _ hc
  by_cases h : slot % c ≤ i
  · exact ⟨i - slot % c, by omega, by rw [Nat.add_sub_cancel' h, Nat.mod_eq_of_lt hi]⟩
  · refine ⟨i + c - slot % c, by omega, ?_⟩
    rw [Nat.add_sub_cancel' (by omega), Nat.add_mod_right, Nat.mod_eq_of_lt hi]

/-- A way that does not use place `i` is there after a key has come to place `i`. -/
lemma Reaches.update {k' : κ} {i' n slot : ℕ} (h : Reaches c keyAt k' slot n i') (hfree : keyAt i = none) (k : κ) :
    Reaches c (Function.update keyAt i (some k)) k' slot n i' := by
  obtain ⟨j, hj, hi', htaken⟩ := h
  refine ⟨j, hj, hi', fun j' hj' => ?_⟩
  obtain ⟨k₀, hk₀, hne⟩ := htaken j' hj'
  have hother : (slot + j') % c ≠ i := by
    intro heq
    rw [heq, hfree] at hk₀
    cases hk₀
  exact ⟨k₀, by rw [Function.update_of_ne hother, hk₀], hne⟩

/-- Every key of the table is where a search finds it. -/
def WellPlaced (c : ℕ) (keyAt : ℕ → Option κ) (start : κ → ℕ) : Prop :=
  ∀ i < c, ∀ k, keyAt i = some k → Reaches c keyAt k (start k % c) c i

lemma WellPlaced.empty (h : ∀ i, keyAt i = none) : WellPlaced c keyAt start := fun i _ k hk => by
  rw [h i] at hk
  cases hk

/-! ### The search -/

variable [DecidableEq κ]

/-- How the search for a key ends. -/
inductive Probed
  | found (i : ℕ) | free (i : ℕ) | exhausted
  deriving DecidableEq

/-- The search for `k` from a place on, for at most `fuel` places. -/
def probe (c : ℕ) (keyAt : ℕ → Option κ) (k : κ) : (fuel slot : ℕ) → Probed
  | 0, _ => .exhausted
  | fuel + 1, slot =>
    match keyAt slot with
    | none => .free slot
    | some k' => if k' = k then .found slot else probe c keyAt k fuel ((slot + 1) % c)

lemma probe_succ_of_taken {fuel slot : ℕ} (h : Taken keyAt k slot) :
    probe c keyAt k (fuel + 1) slot = probe c keyAt k fuel ((slot + 1) % c) := by
  obtain ⟨k', hk', hne⟩ := h
  rw [probe, hk']
  exact if_neg hne

/-- **A search that reaches a place ends as that place says**, if it ends there. -/
lemma probe_of_reaches {n slot : ℕ} {r : Probed} (h : Reaches c keyAt k (slot % c) n i)
    (hr : ∀ fuel, probe c keyAt k (fuel + 1) i = r) : probe c keyAt k n (slot % c) = r := by
  obtain ⟨j, hj, hi, htaken⟩ := h
  -- by the number of places on the way
  induction j generalizing n slot with
  | zero =>
    obtain ⟨n, rfl⟩ := Nat.exists_eq_add_of_lt hj
    rw [Nat.add_zero, Nat.mod_mod] at hi
    rw [hi]
    exact hr _
  | succ j ih =>
    obtain ⟨n, rfl⟩ : ∃ m, n = m + 1 := ⟨n - 1, by omega⟩
    have hfirst : Taken keyAt k (slot % c) := by
      have := htaken 0 (Nat.succ_pos j)
      rwa [Nat.add_zero, Nat.mod_mod] at this
    rw [probe_succ_of_taken hfirst, Nat.mod_add_mod]
    refine @ih _ (slot + 1) (by omega) ?_ fun j' hj' => ?_
    · rw [← hi, Nat.mod_add_mod, Nat.mod_add_mod, Nat.add_assoc, Nat.add_comm 1 j]
    · have := htaken (j' + 1) (by omega)
      rwa [Nat.mod_add_mod, Nat.add_comm j' 1, ← Nat.add_assoc, ← Nat.mod_add_mod] at this

lemma reaches_of_probe (c : ℕ) (keyAt : ℕ → Option κ) (k : κ) (n slot : ℕ) :
    match probe c keyAt k n (slot % c) with
    | .found i => Reaches c keyAt k (slot % c) n i ∧ keyAt i = some k
    | .free i => Reaches c keyAt k (slot % c) n i ∧ keyAt i = none
    | .exhausted => ∀ j < n, Taken keyAt k ((slot % c + j) % c) := by
  induction n generalizing slot with
  | zero => exact fun j hj => absurd hj (Nat.not_lt_zero j)
  | succ n ih =>
    have hhere : Reaches c keyAt k (slot % c) (n + 1) (slot % c) :=
      ⟨0, Nat.succ_pos n, Nat.mod_mod _ _, fun j' hj' => absurd hj' (Nat.not_lt_zero j')⟩
    cases hkey : keyAt (slot % c) with
    | none =>
      simp only [probe, hkey]
      exact ⟨hhere, trivial⟩
    | some k' =>
      by_cases hk : k' = k
      · simp only [probe, hkey, if_pos hk]
        exact ⟨hhere, congrArg some hk⟩
      · have htaken : Taken keyAt k (slot % c) := ⟨k', hkey, hk⟩
        have hstep : ∀ j, ((slot + 1) % c + j) % c = (slot % c + (j + 1)) % c := fun j => by
          rw [Nat.mod_add_mod, Nat.mod_add_mod, Nat.add_assoc, Nat.add_comm 1 j]
        -- the steps after the first are those of the rest of the search
        have hlater : ∀ j', (∀ j, j + 1 = j' → Taken keyAt k (((slot + 1) % c + j) % c)) →
            Taken keyAt k ((slot % c + j') % c) := fun j' hj' => by
          cases j' with
          | zero => rwa [Nat.add_zero, Nat.mod_mod]
          | succ j => exact hstep j ▸ hj' j rfl
        have hmore : ∀ i, Reaches c keyAt k ((slot + 1) % c) n i → Reaches c keyAt k (slot % c) (n + 1) i := by
          rintro i ⟨j, hj, hi, hall⟩
          exact ⟨j + 1, Nat.succ_lt_succ hj, (hstep j).symm.trans hi, fun j' hj' =>
            hlater j' fun j₀ hj₀ => hall j₀ (by omega)⟩
        have hrest := ih (slot + 1)
        rw [probe_succ_of_taken htaken, Nat.mod_add_mod]
        cases hprobe : probe c keyAt k n ((slot + 1) % c) with
        | found i =>
          rw [hprobe] at hrest
          exact ⟨hmore i hrest.1, hrest.2⟩
        | free i =>
          rw [hprobe] at hrest
          exact ⟨hmore i hrest.1, hrest.2⟩
        | exhausted =>
          rw [hprobe] at hrest
          exact fun j hj => hlater j fun j₀ hj₀ => hrest j₀ (by omega)

/-- **A search ends** if there is a free place. -/
lemma probe_ne_exhausted (slot : ℕ) (hi : i < c) (hfree : keyAt i = none) :
    probe c keyAt k c (slot % c) ≠ .exhausted := by
  intro hprobe
  have hall := reaches_of_probe c keyAt k c slot
  rw [hprobe] at hall
  obtain ⟨j, hj, rfl⟩ := exists_add_mod_eq slot hi
  obtain ⟨k', hk', -⟩ := hall j hj
  rw [hfree] at hk'
  cases hk'

namespace WellPlaced

variable (h : WellPlaced c keyAt start)

include h

/-- **Keys of the table are found.** -/
lemma probe_eq_found (hi : i < c) (hk : keyAt i = some k) :
    probe c keyAt k c (start k % c) = .found i := by
  refine probe_of_reaches (h i hi k hk) fun fuel => ?_
  rw [probe, hk]
  exact if_pos rfl

lemma unique {i' : ℕ} (hi : i < c) (hi' : i' < c) (hk : keyAt i = some k)
    (hk' : keyAt i' = some k) : i = i' :=
  Probed.found.inj ((h.probe_eq_found hi hk).symm.trans (h.probe_eq_found hi' hk'))

/-- **A key is put where the search for it has ended.** -/
lemma insert (hprobe : probe c keyAt k c (start k % c) = .free i) :
    WellPlaced c (Function.update keyAt i (some k)) start := by
  have hend := reaches_of_probe c keyAt k c (start k)
  rw [hprobe] at hend
  obtain ⟨hreach, hfree⟩ := hend
  intro i' hi' k' hk'
  by_cases heq : i' = i
  · subst heq
    rw [Function.update_self] at hk'
    obtain rfl := Option.some.inj hk'
    exact hreach.update hfree _
  · rw [Function.update_of_ne heq] at hk'
    exact (h i' hi' k' hk').update hfree _

end WellPlaced

end S2nTls.Lib
