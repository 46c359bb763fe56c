import Mathlib.Data.List.Basic

/-!
Memory as a function of the address.

A block of memory is a function from addresses to cells; what lies at the `n` addresses from `i`
on is the list `slice m i n`, and `overwrite m i bs` is the memory after `bs` was copied to
address `i`. The lemmas say how the two interact: a copy is read back, and it leaves every
disjoint range alone.
-/

namespace S2nTls.Lib

variable {α : Type}
variable {i n k : ℕ}

/-- The `n` cells from address `i` on. -/
def slice (m : ℕ → α) (i n : ℕ) : List α := (List.range n).map fun k => m (i + k)

/-- The memory `m` after the cells `bs` were copied to address `i`. -/
def overwrite (m : ℕ → α) (i : ℕ) (bs : List α) : ℕ → α := fun k =>
  if k < i then m k else (bs[k - i]?).getD (m k)

variable (m : ℕ → α)

@[simp] lemma slice_length (i n : ℕ) : (slice m i n).length = n := by simp [slice]

@[simp] lemma slice_zero (i : ℕ) : slice m i 0 = [] := rfl

lemma slice_ext {m m' : ℕ → α} {i' : ℕ} (h : ∀ k < n, m (i + k) = m' (i' + k)) : slice m i n = slice m' i' n := by
  simp only [slice]
  exact List.map_congr_left fun k hk => h k (List.mem_range.mp hk)

lemma slice_add (i a b : ℕ) : slice m i (a + b) = slice m i a ++ slice m (i + a) b := by
  simp [slice, List.range_add, Nat.add_assoc]

/-- Memory seen through a pointer to address `j`. -/
lemma slice_offset (j n : ℕ) : slice (fun i => m (j + i)) 0 n = slice m j n :=
  slice_ext fun k _ => congrArg (fun i => m (j + i)) (Nat.zero_add k)

lemma take_slice (i : ℕ) {a : ℕ} (h : a ≤ n) : (slice m i n).take a = slice m i a := by
  obtain ⟨b, rfl⟩ := Nat.exists_eq_add_of_le h
  rw [slice_add]
  exact List.take_left' (slice_length m i a)

lemma drop_slice (i : ℕ) {a : ℕ} (h : a ≤ n) : (slice m i n).drop a = slice m (i + a) (n - a) := by
  obtain ⟨b, rfl⟩ := Nat.exists_eq_add_of_le h
  rw [slice_add, Nat.add_sub_cancel_left]
  exact List.drop_left' (slice_length m i a)

variable {bs : List α}

lemma overwrite_of_mem {m : ℕ → α} (h : k < bs.length) : overwrite m i bs (i + k) = bs[k] := by
  have h' : ¬ i + k < i := by omega
  simp [overwrite, h, h']

lemma overwrite_of_lt {m : ℕ → α} (h : k < i) : overwrite m i bs k = m k := by
  simp [overwrite, h]

lemma overwrite_of_le {m : ℕ → α} (h : i + bs.length ≤ k) : overwrite m i bs k = m k := by
  have h₁ : ¬ k < i := by omega
  have h₂ : bs[k - i]? = none := List.getElem?_eq_none (by omega)
  simp [overwrite, h₁, h₂]

lemma slice_overwrite (i : ℕ) (bs : List α) :
    slice (overwrite m i bs) i bs.length = bs := by
  refine List.ext_getElem (by simp) fun k hk hk' => ?_
  simp [slice, overwrite_of_mem hk']

lemma slice_overwrite_of_disjoint {m : ℕ → α} {j : ℕ}
    (h : j + n ≤ i ∨ i + bs.length ≤ j) : slice (overwrite m i bs) j n = slice m j n := by
  refine slice_ext fun k hk => ?_
  rcases h with h | h
  · exact overwrite_of_lt (by omega)
  · exact overwrite_of_le (by omega)

lemma slice_overwrite_append (i n : ℕ) (bs : List α) :
    slice (overwrite m (i + n) bs) i (n + bs.length) = slice m i n ++ bs := by
  rw [slice_add, slice_overwrite, slice_overwrite_of_disjoint (.inl (Nat.le_refl _))]

@[simp] lemma overwrite_nil (i : ℕ) : overwrite m i [] = m := by
  funext k
  simp [overwrite]

lemma overwrite_overwrite_append (i : ℕ) (a b : List α) :
    overwrite (overwrite m i a) (i + a.length) b = overwrite m i (a ++ b) := by
  funext k
  by_cases h₁ : k < i
  · rw [overwrite_of_lt (by omega), overwrite_of_lt h₁, overwrite_of_lt h₁]
  · obtain ⟨j, rfl⟩ := Nat.exists_eq_add_of_le (Nat.le_of_not_lt h₁)
    by_cases h₂ : j < a.length
    · rw [overwrite_of_lt (by omega), overwrite_of_mem h₂,
        overwrite_of_mem (by rw [List.length_append]; omega), List.getElem_append_left h₂]
    · obtain ⟨l, rfl⟩ := Nat.exists_eq_add_of_le (Nat.le_of_not_lt h₂)
      by_cases h₃ : l < b.length
      · rw [← Nat.add_assoc, overwrite_of_mem h₃, Nat.add_assoc,
          overwrite_of_mem (by rw [List.length_append]; omega),
          List.getElem_append_right (by omega)]
        simp
      · rw [overwrite_of_le (by omega), overwrite_of_le (by omega),
          overwrite_of_le (by rw [List.length_append]; omega)]

lemma overwrite_overwrite_of_length {m : ℕ → α} {a b : List α} (h : a.length = b.length) :
    overwrite (overwrite m i a) i b = overwrite m i b := by
  funext k
  by_cases h₁ : k < i
  · rw [overwrite_of_lt h₁, overwrite_of_lt h₁, overwrite_of_lt h₁]
  · obtain ⟨j, rfl⟩ := Nat.exists_eq_add_of_le (Nat.le_of_not_lt h₁)
    by_cases h₂ : j < b.length
    · rw [overwrite_of_mem h₂, overwrite_of_mem h₂]
    · rw [overwrite_of_le (by omega), overwrite_of_le (by omega), overwrite_of_le (by omega)]

lemma slice_overwrite_part (i : ℕ) (a b c : List α) :
    slice (overwrite m i (a ++ b ++ c)) (i + a.length) b.length = b := by
  have h := slice_overwrite m i (a ++ b ++ c)
  rw [List.length_append, List.length_append, slice_add, slice_add] at h
  obtain ⟨hab, -⟩ := List.append_inj h (by simp)
  exact (List.append_inj hab (by simp)).2

lemma overwrite_congr {m m' : ℕ → α} (bs : List α) (h : m k = m' k) : overwrite m i bs k = overwrite m' i bs k := by
  simp only [overwrite, h]

end S2nTls.Lib
