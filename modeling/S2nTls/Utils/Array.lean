import Mathlib.Algebra.Order.Ring.Nat
import Mathlib.Data.List.InsertIdx
import S2nTls.Lib.Wp
import S2nTls.Utils.Error

/-!
Growable arrays (`utils/s2n_array.c`). The elements are the first `len` of those for which there is
memory; an element that is removed lets the ones behind it move down by one place.
-/

namespace S2nTls

open Lib

/-- `struct s2n_array`, with what `s2n_array_validate` checks. -/
structure S2nArray (α : Type) where
  elements : List α
  elementSize : ℕ
  capacity : ℕ
  elementSize_pos : 0 < elementSize
  length_le : elements.length ≤ capacity
  memory_lt : elementSize * capacity < 2 ^ 32

namespace S2nArray

variable {α : Type}

def initialArraySize : ℕ := 16

def numElements : EStateM Err (S2nArray α) ℕ := do return (← get).elements.length

/-- `s2n_array_enlarge`, to a capacity that is not less than the one there is. -/
def enlarge (malloc : ℕ → Bool) (capacity : ℕ) : EStateM Err (S2nArray α) Unit := fun a =>
  if hlt : a.elementSize * capacity < 2 ^ 32 then
    if hle : a.elements.length ≤ capacity then
      if malloc (a.elementSize * capacity) then
        .ok () { a with capacity := capacity, length_le := hle, memory_lt := hlt }
      else .error .alloc a
    else .error .safety a
  else .error .integerOverflow a

def grow (malloc : ℕ → Bool) : EStateM Err (S2nArray α) Unit := do
  let a ← get
  when (a.elements.length ≥ a.capacity) do enlarge malloc (max (a.capacity * 2) initialArraySize)

/-- The element is put where it belongs once there is room. -/
def place (idx : ℕ) (x : α) : EStateM Err (S2nArray α) Unit := fun a =>
  if h : a.elements.length < a.capacity then
    .ok () { a with
      elements := a.elements.insertIdx idx x
      length_le := Nat.le_trans List.length_insertIdx_le_succ h }
  else .error .safety a

def insertAndCopy (malloc : ℕ → Bool) (idx : ℕ) (x : α) : EStateM Err (S2nArray α) Unit := do
  ensure (idx ≤ (← get).elements.length) .arrayIndexOob
  grow malloc
  place idx x

def remove (idx : ℕ) : EStateM Err (S2nArray α) Unit := do
  ensure (idx < (← get).elements.length) .arrayIndexOob
  modify fun a => { a with
    elements := a.elements.eraseIdx idx
    length_le := Nat.le_trans (List.length_eraseIdx_le _ _) a.length_le }

/-! ### Removing several elements -/

/-- The places of the elements with `p`, if the first has place `i`. -/
def indicesOf (p : α → Bool) : ℕ → List α → List ℕ
  | _, [] => []
  | i, x :: xs => if p x then i :: indicesOf p (i + 1) xs else indicesOf p (i + 1) xs

/-- Remove the elements that had the places `indices`, when `j` elements before them are gone. -/
def removeIndices : ℕ → List ℕ → EStateM Err (S2nArray α) Unit
  | _, [] => return
  | j, i :: indices => do
    remove (i - j)
    removeIndices (j + 1) indices

lemma wp_remove {pre suf : List α} {x : α} {a : S2nArray α} {Q : Unit → S2nArray α → Prop}
    {R : Err → S2nArray α → Prop} (h : a.elements = pre ++ x :: suf)
    (hQ : ∀ b : S2nArray α, b.elements = pre ++ suf → b.elementSize = a.elementSize →
      b.capacity = a.capacity → Q () b) : wp (remove pre.length) Q R a := by
  unfold remove
  rw [wp_read]
  refine wp_seq_ensure (fun _ => ?_) fun hlt => ?_
  · rw [wp_modify]
    refine hQ _ ?_ rfl rfl
    show a.elements.eraseIdx pre.length = pre ++ suf
    rw [h, List.eraseIdx_append_of_length_le (Nat.le_refl _), Nat.sub_self, List.eraseIdx_cons_zero]
  · refine absurd ?_ hlt
    rw [h, List.length_append, List.length_cons]
    omega

/-- **Sweeping.** Removing the collected places one by one leaves the other elements, in order. -/
lemma wp_removeIndices (p : α → Bool) (suf pre : List α) (j : ℕ) {a : S2nArray α}
    (h : a.elements = pre ++ suf) :
    wp (removeIndices j (indicesOf p (pre.length + j) suf))
      (fun _ b => b.elements = pre ++ suf.filter (fun x => !p x) ∧ b.elementSize = a.elementSize ∧
        b.capacity = a.capacity) noError a := by
  induction suf generalizing pre j a with
  | nil => exact ⟨h, rfl, rfl⟩
  | cons x suf ih =>
    cases hp : p x with
    | true =>
      rw [indicesOf, if_pos hp, removeIndices, wp_bind, Nat.add_sub_cancel,
        List.filter_cons_of_neg (by simp [hp])]
      refine wp_remove h fun b hb hsize hcap => ?_
      refine wp_mono_ok (fun _ b' hb' => ?_) (ih pre (j + 1) hb)
      exact ⟨hb'.1, hb'.2.1.trans hsize, hb'.2.2.trans hcap⟩
    | false =>
      have hlen : (pre ++ [x]).length + j = pre.length + j + 1 := by
        rw [List.length_append, List.length_singleton]
        omega
      rw [indicesOf, if_neg (by simp [hp]), List.filter_cons_of_pos (by simp [hp]), ← hlen]
      have h' : a.elements = (pre ++ [x]) ++ suf := by simpa using h
      refine wp_mono_ok (fun _ b hb => ?_) (ih (pre ++ [x]) j h')
      exact ⟨by simpa using hb.1, hb.2⟩

variable (malloc : ℕ → Bool)

lemma frames_enlarge (capacity : ℕ) :
    Frames (fun a : S2nArray α => a.elements) (enlarge malloc capacity) := by
  intro a
  simp only [wp, enlarge, EStateM.run]
  split_ifs <;> rfl

lemma wp_place (idx : ℕ) (x : α) (a : S2nArray α) :
    wp (place idx x) (fun _ b => b.elements = a.elements.insertIdx idx x)
      (fun _ b => b.elements = a.elements) a := by
  simp only [wp, place, EStateM.run]
  split_ifs <;> rfl

lemma wp_insertAndCopy_end (x : α) (a : S2nArray α) :
    wp (insertAndCopy malloc a.elements.length x)
      (fun _ b => b.elements = a.elements ++ [x]) (fun _ b => b.elements = a.elements) a := by
  unfold insertAndCopy
  rw [wp_read]
  refine wp_ensured (Nat.le_refl _) ?_
  have hgrow : Frames (fun a : S2nArray α => a.elements) (grow malloc) :=
    .read fun b => .when (frames_enlarge malloc _)
  refine wp_then (hgrow a) fun _ b hb => ?_
  have hb : b.elements = a.elements := hb
  refine wp_mono (fun _ b' hb' => ?_) (fun _ b' hb' => hb'.trans hb) (wp_place _ x b)
  rw [hb', hb, List.insertIdx_length_self]

end S2nArray

end S2nTls
