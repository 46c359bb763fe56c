import Mathlib.Order.Basic
import Mathlib.Tactic.Common

/-!
Bisection.

`compareAt i` says how place `i` compares with what is looked for. The loop keeps the bounds of the part in which it
may still be; if places to the left of it are less and those to the right are greater, it is found.
-/

namespace S2nTls.Lib

/-- Look for a place in `[low, top)` that compares equal, in at most `fuel` steps. -/
def bisect (compareAt : ℕ → Ordering) : (fuel low top : ℕ) → Option ℕ
  | 0, _, _ => none
  | fuel + 1, low, top =>
    if low < top then
      let mid := low + (top - 1 - low) / 2
      match compareAt mid with
      | .eq => some mid
      | .gt => bisect compareAt fuel low mid
      | .lt => bisect compareAt fuel (mid + 1) top
    else none

variable {compareAt : ℕ → Ordering} {fuel low top i : ℕ}

lemma bisect_eq_some (h : bisect compareAt fuel low top = some i) : compareAt i = .eq ∧ i < top := by
  induction fuel generalizing low top with
  | zero => cases h
  | succ fuel ih =>
    unfold bisect at h
    split at h
    · dsimp only at h
      split at h
      · rename_i heq
        obtain rfl := Option.some.inj h
        exact ⟨heq, by omega⟩
      · obtain ⟨heq, hlt⟩ := ih h
        exact ⟨heq, by omega⟩
      · exact ih h
    · cases h

lemma bisect_of_sorted (hi : compareAt i = .eq) (hless : ∀ j < i, compareAt j = .lt)
    (hgreater : ∀ j, i < j → j < top → compareAt j = .gt) (hlow : low ≤ i) (htop : i < top)
    (hfuel : top - low ≤ fuel) : bisect compareAt fuel low top = some i := by
  induction fuel generalizing low top with
  | zero => omega
  | succ fuel ih =>
    unfold bisect
    rw [if_pos (by omega : low < top)]
    dsimp only
    obtain hlt | heq | hgt := Nat.lt_trichotomy (low + (top - 1 - low) / 2) i
    · rw [hless _ hlt]
      exact ih hgreater (by omega) htop (by omega)
    · rw [heq, hi]
    · rw [hgreater _ hgt (by omega)]
      exact ih (fun j hj hj' => hgreater j hj (by omega)) hlow hgt (by omega)

/-! ### Sorted lists -/

section Sorted

variable {α : Type*} {key : α → ℕ} {xs : List α} {k : ℕ} {x : α}

/-- How a place of a list compares with a number. -/
def compareKeyAt (key : α → ℕ) (xs : List α) (k i : ℕ) : Ordering :=
  match xs[i]? with
  | none => .gt
  | some x => compare (key x) k

/-- The element with a number, by bisection. -/
def bisectByKey (key : α → ℕ) (xs : List α) (k : ℕ) : Option α :=
  (bisect (compareKeyAt key xs k) xs.length 0 xs.length).bind (xs[·]?)

/-- **Bisection finds what is there.** -/
lemma bisectByKey_eq_some_iff (hsorted : xs.Pairwise fun x y => key x < key y) :
    bisectByKey key xs k = some x ↔ x ∈ xs ∧ key x = k := by
  constructor
  · intro h
    obtain ⟨i, hi, hx⟩ := Option.bind_eq_some_iff.mp h
    have heq := (bisect_eq_some hi).1
    rw [compareKeyAt, hx] at heq
    exact ⟨List.mem_of_getElem? hx, Nat.compare_eq_eq.mp heq⟩
  · rintro ⟨hmem, rfl⟩
    obtain ⟨i, hi, rfl⟩ := List.getElem_of_mem hmem
    have hlt := List.pairwise_iff_getElem.mp hsorted
    have hfound : bisect (compareKeyAt key xs (key xs[i])) xs.length 0 xs.length = some i := by
      refine bisect_of_sorted ?_ (fun j hj => ?_) (fun j hij hj => ?_) (Nat.zero_le i) hi
        (Nat.le_of_eq (Nat.sub_zero _))
      · rw [compareKeyAt, List.getElem?_eq_getElem hi]
        exact Nat.compare_eq_eq.mpr rfl
      · rw [compareKeyAt, List.getElem?_eq_getElem (Nat.lt_trans hj hi)]
        exact Nat.compare_eq_lt.mpr (hlt j i (Nat.lt_trans hj hi) hi hj)
      · rw [compareKeyAt, List.getElem?_eq_getElem hj]
        exact Nat.compare_eq_gt.mpr (hlt i j hi hj hij)
    rw [bisectByKey, hfound, Option.bind_some, List.getElem?_eq_getElem hi]

end Sorted

end S2nTls.Lib
