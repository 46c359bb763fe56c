import Mathlib.Data.List.Basic

/-!
Frames in a stream.

A frame is a header of a fixed length and a body whose length the header tells. `Splits s fs rest`
says that the stream `s` consists of the frames `fs` and a rest that is not a whole frame yet. A
reader that is given the stream in pieces goes on from its rest: what it makes of the pieces does
not depend on where the stream was cut (`Splits.append`, `Splits.unique`).
-/

namespace S2nTls.Lib

variable {α : Type}

/-- How the frames of a stream are delimited. -/
structure Framing (α : Type) where
  headerLength : ℕ
  headerLength_pos : 0 < headerLength
  /-- The length of the body, as a function of the header. -/
  bodyLength : List α → ℕ

namespace Framing

variable (f : Framing α)

/-- The length of the frame that `s` begins with, if `s` holds its header. -/
def frameLength (s : List α) : ℕ := f.headerLength + f.bodyLength (s.take f.headerLength)

/-- `s` begins with a whole frame. -/
def Complete (s : List α) : Prop := f.headerLength ≤ s.length ∧ f.frameLength s ≤ s.length

def IsFrame (s : List α) : Prop := f.headerLength ≤ s.length ∧ s.length = f.frameLength s

/-- **Splitting.** `s` consists of the frames `fs` and an unfinished one. -/
structure Splits (s : List α) (fs : List (List α)) (rest : List α) : Prop where
  eq : s = fs.flatten ++ rest
  frames : ∀ b ∈ fs, f.IsFrame b
  rest : ¬ f.Complete rest

variable {f} {s t : List α}

lemma not_complete_nil : ¬ f.Complete [] := fun h =>
  absurd h.1 (Nat.not_le.mpr f.headerLength_pos)

lemma frameLength_append (h : f.headerLength ≤ s.length) (t : List α) :
    f.frameLength (s ++ t) = f.frameLength s := by
  unfold frameLength
  rw [List.take_append_of_le_length h]

lemma Complete.append (h : f.Complete s) (t : List α) : f.Complete (s ++ t) := by
  refine ⟨?_, ?_⟩
  · rw [List.length_append]
    exact Nat.le_add_right_of_le h.1
  · rw [frameLength_append h.1, List.length_append]
    exact Nat.le_add_right_of_le h.2

lemma IsFrame.complete (h : f.IsFrame s) : f.Complete s := ⟨h.1, Nat.le_of_eq h.2.symm⟩

lemma IsFrame.frameLength_eq (h : f.IsFrame s) : f.frameLength s = s.length := h.2.symm

lemma Splits.refl (h : ¬ f.Complete s) : f.Splits s [] s := ⟨rfl, by simp, h⟩

lemma IsFrame.eq_of_append {b c : List α} (hb : f.IsFrame b) (hc : f.IsFrame c)
    (h : b ++ s = c ++ t) : b = c ∧ s = t := by
  refine List.append_inj h ?_
  rw [← hb.frameLength_eq, ← hc.frameLength_eq, ← frameLength_append hb.1 s, h, frameLength_append hc.1 t]

/-- A frame that was not there before takes some of what came. -/
lemma IsFrame.rest_length_lt {b r t : List α} (hb : f.IsFrame b) (hs : ¬ f.Complete s)
    (h : s ++ t = b ++ r) : r.length < t.length := by
  by_contra hle
  have hlen := congrArg List.length h
  rw [List.length_append, List.length_append] at hlen
  obtain ⟨u, rfl⟩ : b <+: s := List.prefix_of_prefix_length_le (h ▸ List.prefix_append b r)
    (List.prefix_append s t) (by omega)
  exact hs (hb.complete.append u)

variable {fs gs : List (List α)}

lemma exists_eq_append_of_flatten {r : List α}
    (hf : ∀ b ∈ fs, f.IsFrame b) (hg : ∀ b ∈ gs, f.IsFrame b) (h : gs.flatten = fs.flatten ++ r) :
    ∃ hs, gs = fs ++ hs ∧ r = hs.flatten := by
  induction fs generalizing gs with
  | nil => exact ⟨gs, rfl, h.symm⟩
  | cons b fs ih =>
    have hb := hf b List.mem_cons_self
    cases gs with
    | nil =>
      have hnil : b = [] := by
        have h' : b ++ (fs.flatten ++ r) = [] := by simpa using h.symm
        exact (List.append_eq_nil_iff.mp h').1
      exact absurd (hnil ▸ hb.complete) f.not_complete_nil
    | cons c gs =>
      have heq : b ++ (fs.flatten ++ r) = c ++ gs.flatten := by simpa using h.symm
      obtain ⟨rfl, htail⟩ := hb.eq_of_append (hg c List.mem_cons_self) heq
      obtain ⟨hs, rfl, hr⟩ := ih (fun x hx => hf x (List.mem_cons_of_mem _ hx))
        (fun x hx => hg x (List.mem_cons_of_mem _ hx)) htail.symm
      exact ⟨hs, rfl, hr⟩

/-- A stream splits in one way only. -/
lemma Splits.unique {r r' : List α} (h : f.Splits s fs r)
    (h' : f.Splits s gs r') : fs = gs ∧ r = r' := by
  induction fs generalizing gs s with
  | nil =>
    cases gs with
    | nil => exact ⟨rfl, by simpa using h.eq.symm.trans h'.eq⟩
    | cons c gs =>
      have hs : r = c ++ (gs.flatten ++ r') := by
        simpa using h.eq.symm.trans h'.eq
      exact absurd (hs ▸ ((h'.frames c List.mem_cons_self).complete.append _)) h.rest
  | cons b fs ih =>
    cases gs with
    | nil =>
      have hs : b ++ (fs.flatten ++ r) = r' := by simpa using h.eq.symm.trans h'.eq
      exact absurd (hs ▸ ((h.frames b List.mem_cons_self).complete.append _)) h'.rest
    | cons c gs =>
      have hs : b ++ (fs.flatten ++ r) = c ++ (gs.flatten ++ r') := by
        simpa using h.eq.symm.trans h'.eq
      obtain ⟨rfl, htail⟩ := (h.frames b List.mem_cons_self).eq_of_append
        (h'.frames c List.mem_cons_self) hs
      obtain ⟨rfl, rfl⟩ := ih ⟨rfl, fun x hx => h.frames x (List.mem_cons_of_mem _ hx), h.rest⟩
        ⟨htail, fun x hx => h'.frames x (List.mem_cons_of_mem _ hx), h'.rest⟩
      exact ⟨rfl, rfl⟩

end Framing

end S2nTls.Lib
