import Mathlib.Data.List.Basic

/-!
Threads of forked processes.

The threads of a process share a memory and each has its own. A thread runs a program of atomic actions, one
at a time, in any interleaving with the others. A fork makes a process of its own of a copy of the shared memory
and of the one thread that forked, which goes on there where it was.
-/

namespace S2nTls.Lib

/-- The program of a thread. An action is given the number of its thread, a value from outside, the memory that
the threads share and that of the thread; it is `none` while the thread has to wait. -/
inductive Prog (ε σ τ : Type)
  | done
  | step (act : ℕ → ε → σ → τ → Option (σ × τ)) (next : τ → Prog ε σ τ)

structure Thread (ε σ τ : Type) where
  mem : τ
  prog : Prog ε σ τ

structure Process (ε σ τ : Type) where
  shared : σ
  threads : ℕ → Option (Thread ε σ τ)

/-- What the threads of a system can call, the memory of a new thread, and the shared memory with which the
child of the given number starts, `none` if the child never gets as far as returning from the fork. -/
structure System (ε σ τ κ : Type) where
  body : κ → Prog ε σ τ
  fresh : τ
  child : ℕ → σ → Option σ

/-- What can happen next: in the process `p`, a thread `t` is created, enters a call, does its next action, or
forks. -/
inductive Event (ε κ : Type)
  | spawn (p t : ℕ)
  | call (p t : ℕ) (c : κ)
  | act (p t : ℕ) (e : ε)
  | fork (p t : ℕ)

variable {ε σ τ κ : Type}

/-- The process with this memory and this thread in place of its own. -/
def Process.set (pr : Process ε σ τ) (s : σ) (t : ℕ) (th : Thread ε σ τ) : Process ε σ τ :=
  { shared := s, threads := Function.update pr.threads t (some th) }

/-- What becomes of a process when one of its threads is created, enters a call or acts; `none` if that cannot
happen now. -/
def System.local (S : System ε σ τ κ) (pr : Process ε σ τ) (t : ℕ) : Event ε κ → Option (Process ε σ τ)
  | .spawn _ _ =>
    match pr.threads t with
    | some _ => none
    | none => some (pr.set pr.shared t { mem := S.fresh, prog := .done })
  | .call _ _ c =>
    match pr.threads t with
    | some { mem := m, prog := .done } => some (pr.set pr.shared t { mem := m, prog := S.body c })
    | _ => none
  | .act _ _ e =>
    match pr.threads t with
    | some { mem := m, prog := .step act next } =>
      (act t e pr.shared m).map fun r => pr.set r.1 t { mem := r.2, prog := next r.2 }
    | _ => none
  | .fork _ _ => none

/-- The process that a fork makes. -/
def System.forked (S : System ε σ τ κ) (n : ℕ) (pr : Process ε σ τ) (t : ℕ) : Option (Process ε σ τ) :=
  match pr.threads t, S.child n pr.shared with
  | some th, some s => some { shared := s, threads := Function.update (fun _ => none) t (some th) }
  | _, _ => none

/-- The process and the thread of an event. -/
def Event.process : Event ε κ → ℕ
  | .spawn p _ | .call p _ _ | .act p _ _ | .fork p _ => p

def Event.thread : Event ε κ → ℕ
  | .spawn _ t | .call _ t _ | .act _ t _ | .fork _ t => t

/-- **One event.** The number of a process is its place in the list. An event that cannot happen changes
nothing. -/
def System.step (S : System ε σ τ κ) (w : List (Process ε σ τ)) (e : Event ε κ) : List (Process ε σ τ) :=
  match w[e.process]? with
  | none => w
  | some pr =>
    match e with
    | .fork _ t => w ++ (S.forked w.length pr t).toList
    | e => w.set e.process ((S.local pr e.thread e).getD pr)

def System.run (S : System ε σ τ κ) (w : List (Process ε σ τ)) (es : List (Event ε κ)) : List (Process ε σ τ) :=
  es.foldl S.step w

/-- Each event of the run is one of which `ok` holds when it happens. -/
def System.runsWhen (S : System ε σ τ κ) (ok : List (Process ε σ τ) → Event ε κ → Bool) :
    List (Process ε σ τ) → List (Event ε κ) → Bool
  | _, [] => true
  | w, e :: es => ok w e && S.runsWhen ok (S.step w e) es

/-! ### What an event does -/

section Events

variable {S : System ε σ τ κ} {pr pr' : Process ε σ τ} {t u n : ℕ} {s : σ} {th th' : Thread ε σ τ}

lemma Process.set_threads (h : (pr.set s t th).threads u = some th') :
    u = t ∧ th = th' ∨ u ≠ t ∧ pr.threads u = some th' := by
  by_cases hut : u = t
  · subst hut
    exact .inl ⟨rfl, by simpa [Process.set] using h⟩
  · exact .inr ⟨hut, by simpa [Process.set, Function.update_of_ne hut] using h⟩

/-- A thread has been created, has entered a call, or has done its next action. -/
lemma System.local_eq_some {e : Event ε κ} (h : S.local pr t e = some pr') :
    pr.threads t = none ∧ pr' = pr.set pr.shared t ⟨S.fresh, .done⟩ ∨
    (∃ m c, pr.threads t = some ⟨m, .done⟩ ∧ pr' = pr.set pr.shared t ⟨m, S.body c⟩) ∨
    ∃ p u v m act next s' m', e = .act p u v ∧ pr.threads t = some ⟨m, .step act next⟩ ∧
      act t v pr.shared m = some (s', m') ∧ pr' = pr.set s' t ⟨m', next m'⟩ := by
  cases e with
  | spawn _ _ =>
    simp only [System.local] at h
    split at h <;> cases h
    exact .inl ⟨‹_›, rfl⟩
  | call _ _ c =>
    simp only [System.local] at h
    split at h <;> cases h
    exact .inr (.inl ⟨_, c, ‹_›, rfl⟩)
  | act p u v =>
    simp only [System.local] at h
    split at h
    · obtain ⟨⟨s', m'⟩, hact, rfl⟩ := Option.map_eq_some_iff.mp h
      exact .inr (.inr ⟨p, u, v, _, _, _, s', m', rfl, ‹_›, hact, rfl⟩)
    · cases h
  | fork _ _ => cases h

/-- The one thread of a child is that which forked. -/
lemma System.forked_eq_some (h : S.forked n pr t = some pr') : ∃ th, pr.threads t = some th ∧
    S.child n pr.shared = some pr'.shared ∧ ∀ u th', pr'.threads u = some th' ↔ u = t ∧ th' = th := by
  unfold System.forked at h
  split at h
  · rename_i th s' hth hs'
    cases h
    refine ⟨th, hth, hs', fun u th' => ?_⟩
    by_cases hut : u = t
    · subst hut
      simp [eq_comm]
    · simp [hut]
  · cases h

end Events

/-! ### Runs -/

variable {w : List (Process ε σ τ)}

/-- What holds of every process stays so if the event keeps it in the process where it happens, and a fork makes
it hold of the child. -/
lemma System.step_all (S : System ε σ τ κ) {I : ℕ → Process ε σ τ → Prop} {e : Event ε κ}
    (h : ∀ p pr, w[p]? = some pr → I p pr)
    (hlocal : ∀ pr pr', w[e.process]? = some pr → S.local pr e.thread e = some pr' → I e.process pr')
    (hfork : ∀ p t pr pr', e = .fork p t → w[p]? = some pr → S.forked w.length pr t = some pr' → I w.length pr') :
    ∀ p pr, (S.step w e)[p]? = some pr → I p pr := by
  unfold System.step
  split
  · exact h
  · rename_i pr hpr
    have hset : ∀ q pr', (w.set e.process ((S.local pr e.thread e).getD pr))[q]? = some pr' → I q pr' := by
      intro q pr' hq
      rw [List.getElem?_set] at hq
      split at hq
      · rename_i heq
        split at hq
        · cases hq
          cases hl : S.local pr e.thread e with
          | none => exact heq ▸ h _ pr hpr
          | some pr₁ => exact heq ▸ hlocal pr pr₁ hpr hl
        · cases hq
      · exact h q pr' hq
    cases e with
    | fork p t =>
      intro q pr' hq
      by_cases hlt : q < w.length
      · rw [List.getElem?_append_left hlt] at hq
        exact h q pr' hq
      · rw [List.getElem?_append_right (Nat.le_of_not_lt hlt)] at hq
        cases hf : S.forked w.length pr t with
        | none => simp [hf] at hq
        | some pr₁ =>
          have hq' : q = w.length := by
            have := (List.getElem?_eq_some_iff.mp hq).1
            simp only [hf, Option.toList_some, List.length_singleton] at this
            omega
          subst hq'
          have heq : pr₁ = pr' := by simpa [hf] using hq
          exact heq ▸ hfork p t pr pr₁ rfl hpr hf
    | spawn p t => exact hset
    | call p t c => exact hset
    | act p t v => exact hset

/-- **An invariant of all processes**, each under its number: an event that is allowed keeps it in the process where it
happens, and a fork makes it hold of the child. -/
theorem System.run_all (S : System ε σ τ κ) {ok : List (Process ε σ τ) → Event ε κ → Bool}
    {I : ℕ → Process ε σ τ → Prop}
    (hlocal : ∀ w e pr pr', ok w e = true → w[e.process]? = some pr → I e.process pr →
      S.local pr e.thread e = some pr' → I e.process pr')
    (hfork : ∀ w p t pr pr', ok w (.fork p t) = true → w[p]? = some pr → I p pr →
      S.forked w.length pr t = some pr' → I w.length pr') :
    ∀ (es : List (Event ε κ)) {w : List (Process ε σ τ)}, (∀ (p : ℕ) pr, w[p]? = some pr → I p pr) →
      S.runsWhen ok w es = true → ∀ (p : ℕ) pr, (S.run w es)[p]? = some pr → I p pr
  | [], _, h, _ => h
  | e :: es, w, h, hok => by
    obtain ⟨hnow, hlater⟩ := Bool.and_eq_true_iff.mp hok
    refine S.run_all hlocal hfork es (S.step_all h (fun pr pr' hpr => ?_) fun p t pr pr' he hpr => ?_) hlater
    · exact hlocal w e pr pr' hnow hpr (h _ pr hpr)
    · exact hfork w p t pr pr' (he ▸ hnow) hpr (h p pr hpr)

end S2nTls.Lib
