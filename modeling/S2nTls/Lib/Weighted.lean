import Mathlib.Algebra.Order.BigOperators.Group.List
import Mathlib.Algebra.Order.Field.Basic

/-!
A choice by weights: the weights are divided by their total and added up, and the first element whose sum is greater
than the draw is taken.
-/

namespace S2nTls.Lib

section Weighted

variable {α K : Type} [Field K] [LinearOrder K]

/-- The walk over the elements; `acc` is what has been added up so far. -/
def pickWeighted (weight : α → K) (total draw : K) : (acc : K) → List α → Option α
  | _, [] => none
  | acc, x :: xs =>
    let sum := weight x / total + acc
    if draw < sum then some x else pickWeighted weight total draw sum xs

variable {weight : α → K} {total draw acc : K} {xs : List α} {x : α}

lemma mem_of_pickWeighted (h : pickWeighted weight total draw acc xs = some x) : x ∈ xs := by
  induction xs generalizing acc with
  | nil => cases h
  | cons y xs ih =>
    unfold pickWeighted at h
    dsimp only at h
    split at h
    · obtain rfl := Option.some.inj h
      exact List.mem_cons_self
    · exact List.mem_cons_of_mem _ (ih h)

/-- Weights of zero take nothing. -/
lemma pickWeighted_eq_none_of_zero (hzero : ∀ y ∈ xs, weight y = 0) (hacc : acc ≤ draw) :
    pickWeighted weight total draw acc xs = none := by
  induction xs with
  | nil => rfl
  | cons y xs ih =>
    unfold pickWeighted
    dsimp only
    rw [hzero y List.mem_cons_self, zero_div, zero_add, if_neg (not_lt.mpr hacc)]
    exact ih fun z hz => hzero z (List.mem_cons_of_mem _ hz)

lemma exists_pickWeighted (hacc : acc ≤ draw) (hlt : draw < (xs.map weight).sum / total + acc) :
    ∃ x, pickWeighted weight total draw acc xs = some x := by
  induction xs generalizing acc with
  | nil =>
    rw [List.map_nil, List.sum_nil, zero_div, zero_add] at hlt
    exact absurd hlt (not_lt.mpr hacc)
  | cons y xs ih =>
    unfold pickWeighted
    dsimp only
    by_cases htaken : draw < weight y / total + acc
    · rw [if_pos htaken]
      exact ⟨y, rfl⟩
    · rw [if_neg htaken]
      refine ih (not_lt.mp htaken) ?_
      rw [List.map_cons, List.sum_cons, add_div] at hlt
      rw [← add_assoc, add_comm _ (weight y / total)]
      exact hlt

/-- **A draw below one takes something if and only if there is some weight.** -/
theorem exists_pickWeighted_iff [IsStrictOrderedRing K] (hnonneg : ∀ y ∈ xs, 0 ≤ weight y) (hdraw : 0 ≤ draw)
    (hlt : draw < 1) :
    (∃ x, pickWeighted weight (xs.map weight).sum draw 0 xs = some x) ↔ ∃ y ∈ xs, weight y ≠ 0 := by
  constructor
  · rintro ⟨x, hx⟩
    by_contra hzero
    push Not at hzero
    rw [pickWeighted_eq_none_of_zero hzero hdraw] at hx
    cases hx
  · rintro ⟨y, hy, hne⟩
    have hle : weight y ≤ (xs.map weight).sum :=
      List.single_le_sum (by simpa using hnonneg) _ (List.mem_map_of_mem hy)
    have hpos : 0 < (xs.map weight).sum := lt_of_lt_of_le (lt_of_le_of_ne (hnonneg y hy) hne.symm) hle
    refine exists_pickWeighted hdraw ?_
    rw [div_self hpos.ne', add_zero]
    exact hlt

end Weighted

end S2nTls.Lib
