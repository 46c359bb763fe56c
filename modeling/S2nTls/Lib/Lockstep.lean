import S2nTls.Lib.Wp

/-!
Two runs side by side.

`Lockstep I V m n` says that from states that `I` relates, `m` and `n` end in the same way: both
return, with values that `V` relates, or both throw the same error, and `I` relates the states in
which they end. With a relation that ignores a secret it says that nobody can tell from the
results, nor from what the relation shows of the state, which secret a program worked on.
-/

namespace S2nTls.Lib

section Lockstep

variable {ε σ τ α β : Type} {I : σ → σ → Prop} {V : α → α → Prop}

/-- The two ways a run ends, seen from outside. -/
def SameEnd (I : σ → σ → Prop) (V : α → α → Prop) :
    EStateM.Result ε σ α → EStateM.Result ε σ α → Prop
  | .ok a s, .ok b t => V a b ∧ I s t
  | .error e s, .error f t => e = f ∧ I s t
  | _, _ => False

/-- **Lockstep.** From related states `m` and `n` end in the same way. -/
def Lockstep (I : σ → σ → Prop) (V : α → α → Prop) (m n : EStateM ε σ α) : Prop :=
  ∀ s t, I s t → SameEnd I V (m.run s) (n.run t)

lemma Lockstep.refl (m : EStateM ε σ α) : Lockstep Eq Eq m m := by
  rintro s _ rfl
  cases m.run s <;> exact ⟨rfl, rfl⟩

lemma Lockstep.pure {a b : α} (h : V a b) :
    Lockstep I V (pure a : EStateM ε σ α) (Pure.pure b) := fun _ _ hI => ⟨h, hI⟩

lemma Lockstep.throw (e : ε) :
    Lockstep I V (throw e : EStateM ε σ α) (MonadExcept.throw e) := fun _ _ hI => ⟨rfl, hI⟩

lemma Lockstep.get : Lockstep I I (get : EStateM ε σ σ) get := fun _ _ hI => ⟨hI, hI⟩

lemma Lockstep.modify {f g : σ → σ} (h : ∀ s t, I s t → I (f s) (g t)) :
    Lockstep I Eq (modify f : EStateM ε σ PUnit) (modify g) := fun s t hI => ⟨rfl, h s t hI⟩

lemma Lockstep.ensure {c d : Prop} {_ : Decidable c} {_ : Decidable d} (h : c = d) (e : ε) :
    Lockstep I Eq (ensure c e : EStateM ε σ Unit) (ensure d e) := by
  subst h
  intro s t hI
  unfold S2nTls.Lib.ensure
  by_cases hc : c
  · simpa [hc] using (Lockstep.pure rfl : Lockstep I Eq (Pure.pure () : EStateM ε σ Unit) _) s t hI
  · simpa [hc] using (Lockstep.throw e : Lockstep I Eq (MonadExcept.throw e : EStateM ε σ Unit) _) s t hI

lemma Lockstep.bind {U : β → β → Prop} {m n : EStateM ε σ β} {f g : β → EStateM ε σ α}
    (hm : Lockstep I U m n) (hf : ∀ a b, U a b → Lockstep I V (f a) (g b)) :
    Lockstep I V (m >>= f) (n >>= g) := by
  intro s t hI
  have h := hm s t hI
  rw [EStateM.run_bind, EStateM.run_bind]
  cases hms : m.run s with
  | ok a s' =>
    cases hnt : n.run t with
    | ok b t' =>
      rw [hms, hnt] at h
      exact hf a b h.1 s' t' h.2
    | error f t' => simp [hms, hnt, SameEnd] at h
  | error e s' =>
    cases hnt : n.run t with
    | ok b t' => simp [hms, hnt, SameEnd] at h
    | error f t' =>
      rw [hms, hnt] at h
      exact h

/-- A call that returns nothing, and what follows it. -/
lemma Lockstep.seq {m n : EStateM ε σ Unit} {f g : Unit → EStateM ε σ α}
    (hm : Lockstep I Eq m n) (hf : Lockstep I V (f ()) (g ())) :
    Lockstep I V (m >>= f) (n >>= g) := hm.bind fun _ _ _ => hf

lemma Lockstep.ite {c d : Prop} {_ : Decidable c} {_ : Decidable d} (h : c = d)
    {m n m' n' : EStateM ε σ α} (hm : Lockstep I V m n) (hm' : Lockstep I V m' n') :
    Lockstep I V (if c then m else m') (if d then n else n') := by
  subst h
  by_cases hc : c
  · simpa [hc] using hm
  · simpa [hc] using hm'

lemma Lockstep.attempt {m n : EStateM ε σ α} (h : Lockstep I Eq m n) :
    Lockstep I Eq (attempt m) (attempt n) := by
  intro s t hI
  have h := h s t hI
  simp only [EStateM.run] at h
  simp only [EStateM.run, S2nTls.Lib.attempt]
  cases hms : m s <;> cases hnt : n t <;> simp_all [SameEnd]

lemma Lockstep.ofExcept (x : Except ε α) :
    Lockstep I Eq (MonadExcept.ofExcept x : EStateM ε σ α) (MonadExcept.ofExcept x) := by
  cases x with
  | ok a => exact Lockstep.pure rfl
  | error e => exact Lockstep.throw e

/-- Work on a component: the relation shows how the components are related, and holds again when
related components are put back. -/
lemma Lockstep.zoom {J : τ → τ → Prop} {get : σ → τ} {set : τ → σ → σ}
    (hget : ∀ s t, I s t → J (get s) (get t))
    (hset : ∀ s t x y, I s t → J x y → I (set x s) (set y t)) {m n : EStateM ε τ α}
    (h : Lockstep J V m n) : Lockstep I V (zoom get set m) (zoom get set n) := by
  intro s t hI
  have h := h _ _ (hget s t hI)
  simp only [EStateM.run] at h
  simp only [EStateM.run, S2nTls.Lib.zoom]
  cases hms : m (get s) <;> cases hnt : n (get t) <;> simp_all [SameEnd]

end Lockstep

end S2nTls.Lib
