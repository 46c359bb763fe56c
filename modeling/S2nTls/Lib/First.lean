import Mathlib.Data.List.Basic

/-!
The first element of a list with a property.
-/

namespace S2nTls.Lib

variable {α : Type*} {P Q : α → Prop} {xs : List α} {x : α}

/-- `x` is the first element of `xs` with `P`. -/
def IsFirst (P : α → Prop) (xs : List α) (x : α) : Prop :=
  ∃ before after, xs = before ++ x :: after ∧ P x ∧ ∀ y ∈ before, ¬ P y

open Classical in
lemma find?_eq_some_iff_isFirst : xs.find? (fun y => decide (P y)) = some x ↔ IsFirst P xs x := by
  rw [List.find?_eq_some_iff_append]
  constructor
  · rintro ⟨hx, before, after, rfl, hbefore⟩
    exact ⟨before, after, rfl, by simpa using hx, by simpa using hbefore⟩
  · rintro ⟨before, after, rfl, hx, hbefore⟩
    exact ⟨by simpa using hx, before, after, rfl, by simpa using hbefore⟩

open Classical in
lemma find?_eq_none_iff_forall : xs.find? (fun y => decide (P y)) = none ↔ ∀ y ∈ xs, ¬ P y := by simp

/-- A search for less finds the same if what the other search finds is good enough. -/
lemma find?_eq_find?_iff {p q : α → Bool} (hpq : ∀ x, p x = true → q x = true) :
    xs.find? p = xs.find? q ↔ ∀ x, xs.find? q = some x → p x = true := by
  constructor
  · intro h x hx
    rw [← h] at hx
    exact List.find?_some hx
  · intro h
    cases hq : xs.find? q with
    | none =>
      rw [List.find?_eq_none] at hq ⊢
      exact fun x hx hp => hq x hx (hpq x hp)
    | some x =>
      obtain ⟨-, before, after, rfl, hbefore⟩ := List.find?_eq_some_iff_append.mp hq
      refine List.find?_eq_some_iff_append.mpr ⟨h x hq, before, after, rfl, fun y hy => ?_⟩
      exact Bool.not_eq_true' _ |>.mpr (by simpa using mt (hpq y) (by simpa using hbefore y hy))

lemma IsFirst.mem (h : IsFirst P xs x) : x ∈ xs := by
  obtain ⟨before, after, rfl, -, -⟩ := h
  exact List.mem_append_right _ List.mem_cons_self

lemma IsFirst.holds (h : IsFirst P xs x) : P x := by
  obtain ⟨-, -, -, hx, -⟩ := h
  exact hx

end S2nTls.Lib
