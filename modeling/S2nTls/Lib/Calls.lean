import S2nTls.Lib.Wp

/-!
Sequences of calls.

Each call of an interface returns a value or an error and leaves a state; the next one begins in that state,
also after an error. An interface refines another one if from related states the same call has the same outcome
and ends in related states; then whole sequences of calls have the same outcomes.
-/

namespace S2nTls.Lib

variable {ε σ τ α κ : Type}

/-- What a call returns. -/
def outcome (m : EStateM ε σ α) (s : σ) : Except ε α :=
  match m.run s with
  | .ok a _ => .ok a
  | .error e _ => .error e

variable {m : EStateM ε σ α} {s : σ}

lemma outcome_of_wp {r : Except ε α} {P : σ → Prop}
    (h : wp m (fun a t => r = .ok a ∧ P t) (fun e t => r = .error e ∧ P t) s) :
    outcome m s = r ∧ P (finalState m s) := by
  unfold wp at h
  unfold outcome finalState
  cases hrun : m.run s with
  | ok a t =>
    rw [hrun] at h
    exact ⟨h.1.symm, h.2⟩
  | error e t =>
    rw [hrun] at h
    exact ⟨h.1.symm, h.2⟩

lemma wp_outcome (m : EStateM ε σ α) (s : σ) :
    wp m (fun a t => outcome m s = .ok a ∧ finalState m s = t) (fun e t => outcome m s = .error e ∧ finalState m s = t)
      s := by
  unfold wp outcome finalState
  cases m.run s <;> exact ⟨rfl, rfl⟩

lemma outcome_zoom (get : σ → τ) (set : τ → σ → σ) (m : EStateM ε τ α) (s : σ) :
    outcome (zoom get set m) s = outcome m (get s) := by
  unfold outcome zoom
  simp only [EStateM.run]
  cases m (get s) <;> rfl

lemma finalState_zoom (get : σ → τ) (set : τ → σ → σ) (m : EStateM ε τ α) (s : σ) :
    finalState (zoom get set m) s = set (finalState m (get s)) s := by
  unfold finalState zoom
  simp only [EStateM.run]
  cases m (get s) <;> rfl

/-- A call returns `a` under the condition `A`, and fails otherwise. -/
def Gives (o : Except ε α) (A : Prop) (a : α) : Prop := (A → o = .ok a) ∧ (¬ A → ∃ e, o = .error e)

lemma gives_of_wp {A : Prop} {a : α} (h : wp m (fun b _ => b = a ∧ A) (fun _ _ => ¬ A) s) :
    Gives (outcome m s) A a := by
  unfold wp at h
  unfold Gives outcome
  cases hrun : m.run s with
  | ok b t =>
    rw [hrun] at h
    exact ⟨fun _ => congrArg _ h.1, fun hA => absurd h.2 hA⟩
  | error e t =>
    rw [hrun] at h
    exact ⟨fun hA => absurd hA h, fun _ => ⟨e, rfl⟩⟩

lemma Gives.iff {o : Except ε α} {A B : Prop} {a b : α} (h : Gives o A a) :
    Gives o B b ↔ (A ↔ B) ∧ (A → a = b) := by
  by_cases hA : A <;> by_cases hB : B
  · simp [Gives, hA, hB, h.1 hA]
  · simp [Gives, hA, hB, h.1 hA]
  · obtain ⟨e, he⟩ := h.2 hA
    simp [Gives, hA, hB, he]
  · obtain ⟨e, he⟩ := h.2 hA
    simp [Gives, hA, hB, he]

/-- `m` from `s` ends as `n` does from `t`, in states that `I` relates. -/
def EndsAs (I : σ → τ → Prop) (m : EStateM ε σ α) (n : EStateM ε τ α) (s : σ) (t : τ) : Prop :=
  wp m (fun a s' => wp n (fun b t' => a = b ∧ I s' t') (fun _ _ => False) t)
    (fun e s' => wp n (fun _ _ => False) (fun f t' => e = f ∧ I s' t') t) s

variable {I : σ → τ → Prop} {P : κ → σ → Prop}

lemma EndsAs.outcome_eq {n : EStateM ε τ α} {t : τ}
    (h : EndsAs I m n s t) : outcome m s = outcome n t ∧ I (finalState m s) (finalState n t) := by
  unfold EndsAs wp at h
  unfold outcome finalState
  cases hm : m.run s <;> cases hn : n.run t <;> rw [hm, hn] at h
  · exact ⟨congrArg _ h.1, h.2⟩
  · exact h.elim
  · exact h.elim
  · exact ⟨congrArg _ h.1, h.2⟩

lemma EndsAs.bind {n : EStateM ε τ α} {t : τ} (h : EndsAs I m n s t)
    {β : Type} {f : α → EStateM ε σ β} {g : α → EStateM ε τ β}
    (hnext : ∀ a s' t', I s' t' → EndsAs I (f a) (g a) s' t') :
    EndsAs I (m >>= f) (n >>= g) s t := by
  refine wp_seq h (fun a s' h => ?_) fun e s' h => wp_seq h (fun _ _ => False.elim) fun _ _ h => h
  obtain ⟨_, t', hrun, rfl, hI⟩ := exists_ok_of_wp h
  simpa only [EndsAs, wp, EStateM.run_bind, hrun] using hnext a s' t' hI

/-- The outcomes of a sequence of calls, and the state after them. -/
def runCalls (step : κ → EStateM ε σ α) : List κ → σ → List (Except ε α) × σ
  | [], s => ([], s)
  | call :: calls, s =>
    let rest := runCalls step calls (finalState (step call) s)
    (outcome (step call) s :: rest.1, rest.2)

/-- Each call meets a condition in the state in which it is made. -/
def AllMeet (step : κ → EStateM ε σ α) (P : κ → σ → Prop) : List κ → σ → Prop
  | [], _ => True
  | call :: calls, s => P call s ∧ AllMeet step P calls (finalState (step call) s)

lemma allMeet_true {step : κ → EStateM ε σ α} : ∀ (calls : List κ) (s : σ), AllMeet step (fun _ _ => True) calls s
  | [], _ => trivial
  | _ :: calls, _ => ⟨trivial, allMeet_true calls _⟩

instance AllMeet.decidable (step : κ → EStateM ε σ α) (P : κ → σ → Prop) [∀ call s, Decidable (P call s)] :
    ∀ (calls : List κ) (s : σ), Decidable (AllMeet step P calls s)
  | [], _ => isTrue trivial
  | call :: calls, s =>
    have := AllMeet.decidable step P calls (finalState (step call) s)
    inferInstanceAs (Decidable (P call s ∧ AllMeet step P calls (finalState (step call) s)))

section

variable {step : κ → EStateM ε σ α} {spec : κ → EStateM ε τ α}

/-- **Refinement of a sequence of calls**, from that of each call. -/
theorem runCalls_refines (hstep : ∀ call s t, I s t → P call s →
      outcome (step call) s = outcome (spec call) t ∧ I (finalState (step call) s) (finalState (spec call) t)) :
    ∀ (calls : List κ) (s : σ) (t : τ), I s t → AllMeet step P calls s →
      (runCalls step calls s).1 = (runCalls spec calls t).1 ∧ I (runCalls step calls s).2 (runCalls spec calls t).2
  | [], _, _, hI, _ => ⟨rfl, hI⟩
  | call :: calls, s, t, hI, hP => by
    obtain ⟨hout, hnext⟩ := hstep call s t hI hP.1
    obtain ⟨houts, hlast⟩ := runCalls_refines hstep calls _ _ hnext hP.2
    exact ⟨congrArg₂ List.cons hout houts, hlast⟩

/-- **An invariant of a sequence of calls**, from that of each call. -/
theorem runCalls_invariant {J : σ → Prop} (hstep : ∀ call s, J s → P call s → J (finalState (step call) s)) :
    ∀ (calls : List κ) (s : σ), J s → AllMeet step P calls s → J (runCalls step calls s).2
  | [], _, hJ, _ => hJ
  | call :: calls, s, hJ, hP => runCalls_invariant hstep calls _ (hstep call s hJ hP.1) hP.2

lemma runCalls_keeps {J : σ → Prop} :
    ∀ (calls : List κ) (s : σ), (∀ call ∈ calls, Keeps J (step call)) → J s → J (runCalls step calls s).2
  | [], _, _, hJ => hJ
  | call :: calls, _, hkeeps, hJ =>
    runCalls_keeps calls _ (fun call' hcall' => hkeeps call' (List.mem_cons_of_mem _ hcall'))
      ((hkeeps call List.mem_cons_self).finalState hJ)

lemma runCalls_append (calls calls' : List κ) (s : σ) :
    runCalls step (calls ++ calls') s =
      ((runCalls step calls s).1 ++ (runCalls step calls' (runCalls step calls s).2).1,
        (runCalls step calls' (runCalls step calls s).2).2) := by
  induction calls generalizing s with
  | nil => rfl
  | cons call calls ih => simp only [List.cons_append, runCalls, ih]

end

/-! ### Calls up to the first error -/

section FirstError

variable {step : κ → EStateM ε σ PUnit} {spec : κ → EStateM ε τ PUnit}

lemma outcome_forM_cons (call : κ) (calls : List κ) (s : σ) :
    outcome (forM (call :: calls) step) s = match outcome (step call) s with
      | .ok _ => outcome (forM calls step) (finalState (step call) s)
      | .error e => .error e := by
  unfold outcome finalState
  rw [List.forM_cons, EStateM.run_bind]
  cases (step call).run s <;> rfl

lemma finalState_forM_cons (call : κ) (calls : List κ) (s : σ) :
    finalState (forM (call :: calls) step) s = match outcome (step call) s with
      | .ok _ => finalState (forM calls step) (finalState (step call) s)
      | .error _ => finalState (step call) s := by
  unfold outcome finalState
  rw [List.forM_cons, EStateM.run_bind]
  cases (step call).run s <;> rfl

/-- **Refinement of a sequence of calls that ends with its first error**, from that of each call. -/
theorem forM_refines (hstep : ∀ call s t, I s t → P call s →
      outcome (step call) s = outcome (spec call) t ∧ I (finalState (step call) s) (finalState (spec call) t)) :
    ∀ (calls : List κ) (s : σ) (t : τ), I s t → AllMeet step P calls s →
      outcome (forM calls step) s = outcome (forM calls spec) t ∧
        I (finalState (forM calls step) s) (finalState (forM calls spec) t)
  | [], _, _, hI, _ => ⟨rfl, hI⟩
  | call :: calls, s, t, hI, hP => by
    obtain ⟨hout, hnext⟩ := hstep call s t hI hP.1
    rw [outcome_forM_cons, outcome_forM_cons, finalState_forM_cons, finalState_forM_cons, ← hout]
    cases outcome (step call) s with
    | ok _ => exact forM_refines hstep calls _ _ hnext hP.2
    | error e => exact ⟨rfl, hnext⟩

end FirstError

end S2nTls.Lib
