import Mathlib.Control.Monad.Basic
import Mathlib.Tactic.Common

/-!
Weakest preconditions for programs that keep their state when they fail.

`EStateM ε σ` is the monad of C-like code: a call returns a value or an error code, and in both
cases leaves the state as it was at the moment it returned. `wp m Q R s` says how the run of `m`
from `s` ends: in `Q` with the value it returns, or in `R` with the error it throws. The rules
below are equivalences, so that rewriting with them computes the condition of a whole function
from those of the calls it makes.
-/

namespace S2nTls.Lib

section Programs

variable {ε σ τ α : Type}

/-- Go on if `c` holds, fail with `e` otherwise. -/
def ensure (c : Prop) [Decidable c] (e : ε) : EStateM ε σ Unit :=
  if c then pure () else throw e

/-- Run `m` if `c` holds. -/
def when (c : Prop) [Decidable c] (m : EStateM ε σ Unit) : EStateM ε σ Unit :=
  if c then m else pure ()

/-- Run `m` and hand its result, value or error, to the caller; the state is that in which `m`
ended. -/
def attempt (m : EStateM ε σ α) : EStateM ε σ (Except ε α) := fun s =>
  match m.run s with
  | .ok a s' => .ok (.ok a) s'
  | .error e s' => .ok (.error e) s'

/-- Run `m`; any error it throws becomes `e`. -/
def failWith (e : ε) (m : EStateM ε σ α) : EStateM ε σ α := fun s =>
  match m.run s with
  | .ok a s' => .ok a s'
  | .error _ s' => .error e s'

/-- Run `m` on the component of the state that `get` reads and `set` replaces. -/
def zoom (get : σ → τ) (set : τ → σ → σ) (m : EStateM ε τ α) : EStateM ε σ α := fun s =>
  match m.run (get s) with
  | .ok a t => .ok a (set t s)
  | .error e t => .error e (set t s)

/-- Run `m` on a local value `t`: the value it returns and the final `t`, or its error. -/
def onLocal (m : EStateM ε τ α) (t : τ) : EStateM ε σ (α × τ) := fun s =>
  match m.run t with
  | .ok a t' => .ok (a, t') s
  | .error e _ => .error e s

/-- Run `m` on a local value `t`: the final `t`, or its error. -/
def execLocal (m : EStateM ε τ Unit) (t : τ) : EStateM ε σ τ := fun s =>
  match m.run t with
  | .ok () t' => .ok t' s
  | .error e _ => .error e s

end Programs

variable {c : Prop}

section Wp

variable {ε σ τ α β : Type} {Q : α → σ → Prop} {R : ε → σ → Prop} {s : σ}

/-- **Weakest precondition.** The run of `m` from `s` returns in `Q` or throws in `R`. -/
def wp (m : EStateM ε σ α) (Q : α → σ → Prop) (R : ε → σ → Prop) (s : σ) : Prop :=
  match m.run s with
  | .ok a s' => Q a s'
  | .error e s' => R e s'

abbrev noError : ε → σ → Prop := fun _ _ => False

abbrev anyError : ε → σ → Prop := fun _ _ => True

variable {m : EStateM ε σ α} {x : EStateM ε σ β} {f : β → EStateM ε σ α} {t : τ}

lemma wp_of_ok {a : α} {t : σ} (h : m.run s = .ok a t) :
    wp m Q R s ↔ Q a t := by simp [wp, h]

lemma wp_of_error {e : ε} {t : σ} (h : m.run s = .error e t) :
    wp m Q R s ↔ R e t := by simp [wp, h]

@[simp] lemma wp_pure (a : α) : wp (pure a : EStateM ε σ α) Q R s ↔ Q a s := by simp [wp]

@[simp] lemma wp_throw (e : ε) : wp (throw e : EStateM ε σ α) Q R s ↔ R e s := Iff.rfl

@[simp] lemma wp_get {Q : σ → σ → Prop} : wp (get : EStateM ε σ σ) Q R s ↔ Q s s := by simp [wp]

@[simp] lemma wp_set {Q : PUnit → σ → Prop} (t : σ) :
    wp (set t : EStateM ε σ PUnit) Q R s ↔ Q ⟨⟩ t := by simp [wp]

@[simp] lemma wp_modify {Q : PUnit → σ → Prop} (f : σ → σ) :
    wp (modify f : EStateM ε σ PUnit) Q R s ↔ Q ⟨⟩ (f s) := by simp [wp]

@[simp] lemma wp_bind (m : EStateM ε σ β) (f : β → EStateM ε σ α) :
    wp (m >>= f) Q R s ↔ wp m (fun b t => wp (f b) Q R t) R s := by
  unfold wp
  rw [EStateM.run_bind]
  cases m.run s <;> rfl

/-- The program reads its state and goes on. -/
lemma wp_read (f : σ → EStateM ε σ α) : wp (get >>= f) Q R s ↔ wp (f s) Q R s := by rw [wp_bind, wp_get]

lemma wp_update (g : σ → σ) (f : PUnit → EStateM ε σ α) : wp (modify g >>= f) Q R s ↔ wp (f ⟨⟩) Q R (g s) := by
  rw [wp_bind, wp_modify]

@[simp] lemma wp_ite (c : Prop) [Decidable c] (m n : EStateM ε σ α) :
    wp (if c then m else n) Q R s ↔ (c → wp m Q R s) ∧ (¬ c → wp n Q R s) := by
  by_cases h : c <;> simp [h]

@[simp] lemma wp_ensure {Q : Unit → σ → Prop} (c : Prop) [Decidable c] (e : ε) :
    wp (ensure c e) Q R s ↔ (c → Q () s) ∧ (¬ c → R e s) := by
  simp [ensure]

lemma wp_ensure_ok {Q : Unit → σ → Prop} (c : Prop) [Decidable c] (e : ε) :
    wp (ensure c e) Q (fun _ _ => False) s ↔ c ∧ Q () s := by
  by_cases h : c <;> simp [h]

@[simp] lemma wp_when {Q : Unit → σ → Prop} (c : Prop) [Decidable c] (m : EStateM ε σ Unit) :
    wp (when c m) Q R s ↔ (c → wp m Q R s) ∧ (¬ c → Q () s) := by
  simp [when]

@[simp] lemma wp_attempt {Q : Except ε α → σ → Prop} (m : EStateM ε σ α) :
    wp (attempt m) Q R s ↔ wp m (fun a => Q (.ok a)) (fun e => Q (.error e)) s := by
  unfold wp attempt
  simp only [EStateM.run]
  cases m s <;> rfl

@[simp] lemma wp_failWith (e : ε) (m : EStateM ε σ α) :
    wp (failWith e m) Q R s ↔ wp m Q (fun _ => R e) s := by
  unfold wp failWith
  simp only [EStateM.run]
  cases m s <;> rfl

lemma exists_ok_of_bind {x : Except ε α} {f : α → Except ε β} {b : β} (h : x >>= f = .ok b) :
    ∃ a, x = .ok a ∧ f a = .ok b := by
  cases x with
  | ok a => exact ⟨a, rfl, h⟩
  | error e => cases h

@[simp] lemma wp_ofExcept (x : Except ε α) :
    wp (MonadExcept.ofExcept x : EStateM ε σ α) Q R s ↔
      (∀ a, x = .ok a → Q a s) ∧ ∀ e, x = .error e → R e s := by
  cases x <;> simp [MonadExcept.ofExcept]

@[simp] lemma wp_zoom (get : σ → τ) (set : τ → σ → σ) (m : EStateM ε τ α) :
    wp (zoom get set m) Q R s ↔ wp m (fun a t => Q a (set t s)) (fun e t => R e (set t s)) (get s) := by
  unfold wp zoom
  simp only [EStateM.run]
  cases m (get s) <;> rfl

@[simp] lemma wp_onLocal {Q : α × τ → σ → Prop} (m : EStateM ε τ α) (t : τ) :
    wp (onLocal m t) Q R s ↔ wp m (fun a t' => Q (a, t') s) (fun e _ => R e s) t := by
  unfold wp onLocal
  simp only [EStateM.run]
  cases m t <;> rfl

@[simp] lemma wp_execLocal {Q : τ → σ → Prop} (m : EStateM ε τ Unit) (t : τ) :
    wp (execLocal m t) Q R s ↔ wp m (fun _ t' => Q t' s) (fun e _ => R e s) t := by
  unfold wp execLocal
  simp only [EStateM.run]
  cases m t <;> rfl

/-- The state in which `m` ends, with a value or an error. -/
def finalState (m : EStateM ε σ α) (s : σ) : σ :=
  match m.run s with
  | .ok _ t => t
  | .error _ t => t

variable {P : σ → Prop} {Q' : α → σ → Prop} {R' : ε → σ → Prop} {B : β → σ → Prop}

lemma finalState_of_wp (h : wp m (fun _ => P) (fun _ => P) s) :
    P (finalState m s) := by
  unfold wp at h
  unfold finalState
  cases hm : m.run s with
  | ok a t => simpa [hm] using h
  | error e t => simpa [hm] using h

variable (hQ : ∀ a t, Q a t → Q' a t)

include hQ

lemma wp_mono (hR : ∀ e t, R e t → R' e t)
    (h : wp m Q R s) : wp m Q' R' s := by
  unfold wp at h ⊢
  cases hm : m.run s with
  | ok a t => exact hQ a t (by simpa [hm] using h)
  | error e t => exact hR e t (by simpa [hm] using h)

lemma wp_mono_ok (h : wp m Q R s) :
    wp m Q' R s := wp_mono hQ (fun _ _ h => h) h

/-- A program that cannot fail. -/
lemma wp_sure (h : wp m Q (fun _ _ => False) s) :
    wp m Q' R s := wp_mono hQ (fun _ _ => False.elim) h

omit hQ

/-- What holds however a run ends. -/
lemma wp_always {P P' : σ → Prop} (hP : ∀ t, P t → P' t) (h : wp m (fun _ => P) (fun _ => P) s) :
    wp m (fun _ => P') (fun _ => P') s := wp_mono (fun _ => hP) (fun _ => hP) h

lemma exists_ok_of_wp (h : wp m Q (fun _ _ => False) s) :
    ∃ a t, m.run s = .ok a t ∧ Q a t := by
  unfold wp at h
  cases hm : m.run s with
  | ok a t => exact ⟨a, t, rfl, by simpa [hm] using h⟩
  | error e t => simp [hm] at h

/-- Whether a run returns a value. -/
def succeeds (m : EStateM ε σ α) (s : σ) : Bool :=
  match m.run s with
  | .ok _ _ => true
  | .error _ _ => false

lemma succeeds_iff_wp : succeeds m s = true ↔ wp m (fun _ _ => True) (fun _ _ => False) s := by
  unfold succeeds wp
  cases m.run s with
  | ok a t => exact iff_of_true rfl trivial
  | error e t => exact iff_of_false Bool.false_ne_true id

lemma run_of_succeeds {m : EStateM ε σ Unit} (hok : succeeds m s = true) : m.run s = .ok () (finalState m s) := by
  unfold succeeds at hok
  unfold finalState
  cases hrun : m.run s with
  | ok a t => rfl
  | error e t =>
    rw [hrun] at hok
    cases hok

lemma finalState_of_succeeds (hok : succeeds m s = true) (h : wp m (fun _ => P) R s) : P (finalState m s) := by
  unfold succeeds at hok
  unfold wp at h
  unfold finalState
  cases hrun : m.run s with
  | ok a t =>
    rw [hrun] at h
    exact h
  | error e t =>
    rw [hrun] at hok
    cases hok

lemma finalState_of_fails (hno : ¬ succeeds m s = true) (h : wp m Q (fun _ => P) s) : P (finalState m s) := by
  unfold succeeds at hno
  unfold wp at h
  unfold finalState
  cases hrun : m.run s with
  | ok a t =>
    rw [hrun] at hno
    exact absurd rfl hno
  | error e t =>
    rw [hrun] at h
    exact h

lemma exists_ok_of_succeeds (hok : succeeds m s = true) : ∃ a t, m.run s = .ok a t := by
  unfold succeeds at hok
  cases hrun : m.run s with
  | ok a t => exact ⟨a, t, rfl⟩
  | error e t =>
    rw [hrun] at hok
    cases hok

lemma wp_iff_run :
    wp m Q R s ↔ (∀ a t, m.run s = .ok a t → Q a t) ∧ ∀ e t, m.run s = .error e t → R e t := by
  unfold wp
  cases hrun : m.run s with
  | ok a t =>
    refine ⟨fun h => ⟨fun a' t' heq => ?_, fun _ _ heq => nomatch heq⟩, fun h => h.1 a t rfl⟩
    obtain ⟨rfl, rfl⟩ := EStateM.Result.ok.inj heq
    exact h
  | error e t =>
    refine ⟨fun h => ⟨fun _ _ heq => (nomatch heq), fun e' t' heq => ?_⟩, fun h => h.2 e t rfl⟩
    obtain ⟨rfl, rfl⟩ := EStateM.Result.error.inj heq
    exact h

lemma wp_and (h : wp m Q R s) (h' : wp m Q' R' s) :
    wp m (fun a t => Q a t ∧ Q' a t) (fun e t => R e t ∧ R' e t) s := by
  unfold wp at *
  split <;> simp_all

lemma wp_seq (h : wp x B R' s) (hf : ∀ b t, B b t → wp (f b) Q R t) (hR : ∀ e t, R' e t → R e t) :
    wp (x >>= f) Q R s := by
  rw [wp_bind]
  exact wp_mono hf hR h

/-- An error of the first program is one of the whole. -/
lemma wp_then (h : wp x B R s) (hf : ∀ b t, B b t → wp (f b) Q R t) : wp (x >>= f) Q R s :=
  wp_seq h hf fun _ _ h => h

lemma wp_sure_then (h : wp x B (fun _ _ => False) s) (hf : ∀ b t, B b t → wp (f b) Q R t) : wp (x >>= f) Q R s :=
  wp_seq h hf fun _ _ => False.elim

/-! Where nothing is said about errors. -/

lemma wp_try (hQ : ∀ a t, Q a t → Q' a t) (h : wp m Q R s) : wp m Q' (fun _ _ => True) s :=
  wp_mono hQ (fun _ _ _ => trivial) h

lemma wp_tried (h : wp x B R s) (hf : ∀ b t, B b t → wp (f b) Q (fun _ _ => True) t) :
    wp (x >>= f) Q (fun _ _ => True) s :=
  wp_seq h hf fun _ _ _ => trivial

variable {m : EStateM ε τ Unit}

/-- A call on a local value does not touch the state. -/
lemma wp_execLocal_of_forall {Q : τ → σ → Prop}
    (hQ : ∀ t', Q t' s) (hR : ∀ e, R e s) : wp (execLocal m t) Q R s := by
  rw [wp_execLocal]
  unfold wp
  cases m.run t with
  | ok _ t' => exact hQ t'
  | error e _ => exact hR e

lemma wp_seq_execLocal {f : τ → EStateM ε σ α}
    (hf : ∀ t', wp (f t') Q R s) (hR : ∀ e, R e s) : wp (execLocal m t >>= f) Q R s := by
  rw [wp_bind]
  exact wp_execLocal_of_forall hf hR

lemma wp_seq_execLocal_of {f : τ → EStateM ε σ α} {P : τ → Prop}
    {F : Prop} (h : wp m (fun _ => P) (fun _ _ => F) t) (hf : ∀ t', P t' → wp (f t') Q R s)
    (hR : ∀ e, F → R e s) : wp (execLocal m t >>= f) Q R s := by
  rw [wp_bind, wp_execLocal]
  exact wp_mono (fun _ t' ht' => hf t' ht') (fun e _ hF => hR e hF) h

lemma wp_seq_ofExcept {x : Except ε β} (hok : ∀ b, x = .ok b → wp (f b) Q R s)
    (herr : ∀ e, x = .error e → R e s) : wp (MonadExcept.ofExcept x >>= f) Q R s := by
  rw [wp_bind, wp_ofExcept]
  exact ⟨hok, herr⟩

lemma wp_seq_onLocal {m : EStateM ε τ β} {f : β × τ → EStateM ε σ α}
    (hf : ∀ p, wp (f p) Q R s) (hR : ∀ e, R e s) : wp (onLocal m t >>= f) Q R s := by
  rw [wp_bind, wp_onLocal]
  unfold wp
  cases m.run t with
  | ok b t' => exact hf (b, t')
  | error e _ => exact hR e

lemma wp_seq_ensure [Decidable c] {e : ε} {f : Unit → EStateM ε σ α}
    (hf : c → wp (f ()) Q R s) (hR : ¬ c → R e s) : wp (ensure c e >>= f) Q R s := by
  rw [wp_bind, wp_ensure]
  exact ⟨hf, hR⟩

/-- A check whose failure is allowed for. -/
lemma wp_guard {_ : Decidable c} {e : ε} {f : Unit → EStateM ε σ α} (hR : R e s) (hf : c → wp (f ()) Q R s) :
    wp (ensure c e >>= f) Q R s := wp_seq_ensure hf fun _ => hR

lemma wp_taken {_ : Decidable c} {m : EStateM ε σ Unit} {Q : Unit → σ → Prop} (hc : c) (hm : wp m Q R s) :
    wp (when c m) Q R s := (wp_when c m).mpr ⟨fun _ => hm, fun hnot => absurd hc hnot⟩

lemma wp_skipped {_ : Decidable c} {m : EStateM ε σ Unit} {Q : Unit → σ → Prop} (hc : ¬ c) (hQ : Q () s) :
    wp (when c m) Q R s := (wp_when c m).mpr ⟨fun h => absurd h hc, fun _ => hQ⟩

lemma wp_checked {_ : Decidable c} {e : ε} {f : Unit → EStateM ε σ α}
    (hf : c → wp (f ()) Q (fun _ _ => True) s) : wp (ensure c e >>= f) Q (fun _ _ => True) s :=
  wp_guard trivial hf

lemma wp_ensured {_ : Decidable c} (hc : c) {e : ε} {f : Unit → EStateM ε σ α} (hf : wp (f ()) Q R s) :
    wp (ensure c e >>= f) Q R s := wp_seq_ensure (fun _ => hf) fun hnot => absurd hc hnot

end Wp

variable {ε σ τ ω α β : Type} {I : σ → Prop} {view : σ → ω}
variable {m n : EStateM ε σ α} {x : EStateM ε σ β} {f : β → EStateM ε σ α} {_ : Decidable c}

/-! ### What a program leaves alone -/

section Frame

/-- **Frame.** Whatever `m` does, and however it ends, `view` of the state is the same. -/
def Frames (view : σ → ω) (m : EStateM ε σ α) : Prop :=
  ∀ s, wp m (fun _ t => view t = view s) (fun _ t => view t = view s) s

variable {R : ε → σ → Prop} {Q : α → σ → Prop}

/-- A program that leaves `view` alone ends in whatever holds of all states that look the same. -/
lemma Frames.wp (h : Frames view m) {s : σ}
    (hQ : ∀ a t, view t = view s → Q a t) (hR : ∀ e t, view t = view s → R e t) :
    wp m Q R s := wp_mono hQ hR (h s)

/-- A call that leaves `view` alone, and what follows it. -/
lemma Frames.seq (h : Frames view x) {s : σ} {v : ω}
    (hs : view s = v)
    (hf : ∀ b t, view t = v → S2nTls.Lib.wp (f b) Q R t) (hR : ∀ e t, view t = v → R e t) :
    S2nTls.Lib.wp (x >>= f) Q R s := by
  subst hs
  exact wp_seq (h s) hf hR

/-- A condition on `view` may be checked before the call. -/
lemma Frames.wp_iff (h : Frames view m) {s : σ} (P : ω → Prop) :
    S2nTls.Lib.wp m (fun _ t => P (view t)) (fun _ _ => False) s ↔
      S2nTls.Lib.wp m (fun _ _ => True) (fun _ _ => False) s ∧ P (view s) := by
  have hs := h s
  unfold S2nTls.Lib.wp at hs ⊢
  cases hm : m.run s <;> simp_all

lemma Frames.map {ω' : Type} (h : Frames view m) (g : ω → ω') :
    Frames (fun s => g (view s)) m := fun s =>
  wp_always (fun _ ht => congrArg g ht) (h s)

lemma Frames.pure (a : α) : Frames view (pure a : EStateM ε σ α) := fun s => by simp

lemma Frames.throw (e : ε) : Frames view (throw e : EStateM ε σ α) := fun s => by simp

lemma Frames.ensure (c : Prop) [Decidable c] (e : ε) :
    Frames view (ensure c e : EStateM ε σ Unit) := fun s => by simp

lemma Frames.ofExcept (x : Except ε α) :
    Frames view (MonadExcept.ofExcept x : EStateM ε σ α) := by
  cases x with
  | ok a => exact Frames.pure a
  | error e => exact Frames.throw e

lemma Frames.modify {f : σ → σ} (h : ∀ s, view (f s) = view s) :
    Frames view (modify f : EStateM ε σ PUnit) := fun s => by simp [h]

lemma Frames.bind (hx : Frames view x) (hf : ∀ b, Frames view (f b)) : Frames view (x >>= f) := by
  intro s
  rw [wp_bind]
  refine hx.wp (fun b t ht => ?_) fun _ _ ht => ht
  exact (hf b).wp (fun _ _ hu => hu.trans ht) fun _ _ hu => hu.trans ht

lemma Frames.read {f : σ → EStateM ε σ α} (hf : ∀ s, Frames view (f s)) : Frames view (get >>= f) :=
  .bind (fun s => by simp) hf

lemma Frames.checked {e : ε} {f : Unit → EStateM ε σ α} (hf : Frames view (f ())) :
    Frames view (S2nTls.Lib.ensure c e >>= f) := (Frames.ensure c e).bind fun _ => hf

lemma Frames.get_bind {f : σ → EStateM ε σ α}
    (hf : ∀ s, S2nTls.Lib.wp (f s) (fun _ t => view t = view s) (fun _ t => view t = view s) s) :
    Frames view (MonadState.get >>= f) := by
  intro s
  rw [wp_read]
  exact hf s

lemma Frames.ite (hm : Frames view m) (hn : Frames view n) : Frames view (if c then m else n) := by
  split
  · exact hm
  · exact hn

lemma Frames.when {m : EStateM ε σ Unit} (hm : Frames view m) :
    Frames view (when c m) := Frames.ite hm (Frames.pure ())

lemma Frames.attempt (hm : Frames view m) : Frames view (attempt m) := by
  intro s
  rw [wp_attempt]
  exact hm s

lemma Frames.runLocal (m : EStateM ε τ α) (t : τ) :
    Frames view (onLocal m t : EStateM ε σ (α × τ)) := by
  intro s
  unfold S2nTls.Lib.wp onLocal
  simp only [EStateM.run]
  cases m t <;> rfl

lemma Frames.execLocal (m : EStateM ε τ Unit) (t : τ) :
    Frames view (execLocal m t : EStateM ε σ τ) := by
  intro s
  unfold S2nTls.Lib.wp S2nTls.Lib.execLocal
  simp only [EStateM.run]
  cases m t <;> rfl

/-- Work on a component that `view` does not show. -/
lemma Frames.zoom {get : σ → τ} {set : τ → σ → σ} (h : ∀ t s, view (set t s) = view s)
    (m : EStateM ε τ α) : Frames view (zoom get set m) := by
  intro s
  unfold S2nTls.Lib.wp S2nTls.Lib.zoom
  simp only [EStateM.run]
  cases m (get s) <;> exact h _ _

end Frame

/-- **Invariant.** However `m` ends, `I` holds afterwards if it held before. -/
def Keeps (I : σ → Prop) (m : EStateM ε σ α) : Prop :=
  ∀ s, I s → wp m (fun _ => I) (fun _ => I) s

lemma Keeps.finalState (h : Keeps I m) {s : σ} (hs : I s) :
    I (finalState m s) := finalState_of_wp (h s hs)

lemma Frames.keeps (h : Frames view m) (J : ω → Prop) :
    Keeps (fun s => J (view s)) m := fun s hs =>
  h.wp (fun _ _ ht => by rw [ht]; exact hs) fun _ _ ht => by rw [ht]; exact hs

lemma Keeps.pure (a : α) : Keeps I (pure a : EStateM ε σ α) := fun s hs => by simpa using hs

lemma Keeps.throw (e : ε) : Keeps I (throw e : EStateM ε σ α) := fun s hs => by simpa using hs

lemma Keeps.ensure (c : Prop) [Decidable c] (e : ε) :
    Keeps I (ensure c e : EStateM ε σ Unit) := fun s hs => by simp [hs]

lemma Keeps.modify {f : σ → σ} (h : ∀ s, I s → I (f s)) :
    Keeps I (modify f : EStateM ε σ PUnit) := fun s hs => by simpa using h s hs

lemma Keeps.bind (hx : Keeps I x) (hf : ∀ b, Keeps I (f b)) : Keeps I (x >>= f) := fun s hs =>
  wp_then (hx s hs) fun b t ht => hf b t ht

lemma Keeps.read {f : σ → EStateM ε σ α} (hf : ∀ s, Keeps I (f s)) : Keeps I (get >>= f) :=
  .bind (fun s hs => by simpa using hs) hf

lemma Keeps.checked {e : ε} {f : Unit → EStateM ε σ α} (hf : Keeps I (f ())) :
    Keeps I (S2nTls.Lib.ensure c e >>= f) := (Keeps.ensure c e).bind fun _ => hf

lemma Keeps.ite (hm : Keeps I m) (hn : Keeps I n) : Keeps I (if c then m else n) := by
  split
  · exact hm
  · exact hn

lemma Keeps.when {m : EStateM ε σ Unit} (hm : Keeps I m) :
    Keeps I (when c m) := Keeps.ite hm (Keeps.pure ())

lemma Keeps.attempt (hm : Keeps I m) : Keeps I (attempt m) := fun s hs => by
  rw [wp_attempt]
  exact hm s hs

lemma Keeps.ofExcept (x : Except ε α) : Keeps I (MonadExcept.ofExcept x : EStateM ε σ α) := by
  cases x with
  | ok a => exact Keeps.pure a
  | error e => exact Keeps.throw e

lemma Keeps.runLocal {τ : Type} (m : EStateM ε τ α) (t : τ) :
    Keeps I (onLocal m t : EStateM ε σ (α × τ)) := by
  have hframes : Frames (fun s : σ => s) (onLocal m t) := Frames.runLocal m t
  exact hframes.keeps I

/-- If `m` succeeds, `I` holds afterwards if it held before. -/
def Maintains (I : σ → Prop) (m : EStateM ε σ α) : Prop :=
  ∀ s, I s → wp m (fun _ => I) (fun _ _ => True) s

lemma Keeps.maintains (h : Keeps I m) : Maintains I m := fun s hs =>
  wp_try (fun _ _ ht => ht) (h s hs)

lemma Maintains.bind (hx : Maintains I x) (hf : ∀ b, Maintains I (f b)) : Maintains I (x >>= f) := fun s hs =>
  wp_then (hx s hs) fun b t ht => hf b t ht

lemma Maintains.read {f : σ → EStateM ε σ α} (hf : ∀ s, Maintains I (f s)) : Maintains I (get >>= f) :=
  .bind (fun s hs => by simpa using hs) hf

lemma Maintains.ite (hm : Maintains I m) (hn : Maintains I n) : Maintains I (if c then m else n) := by
  split
  · exact hm
  · exact hn

/-! ### Which errors a program throws -/

section Throws

variable {P : ε → Prop}

/-- Every error that `m` throws is one of `P`. -/
def Throws (P : ε → Prop) (m : EStateM ε σ α) : Prop :=
  ∀ s, wp m (fun _ _ => True) (fun e _ => P e) s

lemma Throws.pure (a : α) : Throws P (pure a : EStateM ε σ α) := fun s => by simp

lemma Throws.throw {e : ε} (h : P e) : Throws P (throw e : EStateM ε σ α) := fun s => by simpa using h

lemma Throws.modify (f : σ → σ) : Throws P (modify f : EStateM ε σ PUnit) := fun s => by simp

lemma Throws.ensure [Decidable c] {e : ε} (h : P e) :
    Throws P (ensure c e : EStateM ε σ Unit) := fun s => by simp [h]

lemma Throws.bind (hx : Throws P x) (hf : ∀ b, Throws P (f b)) : Throws P (x >>= f) := fun s =>
  wp_then (hx s) fun b t _ => hf b t

lemma Throws.read {f : σ → EStateM ε σ α} (hf : ∀ s, Throws P (f s)) : Throws P (get >>= f) :=
  .bind (fun s => by simp) hf

lemma Throws.ite (hm : Throws P m) (hn : Throws P n) : Throws P (if c then m else n) := by
  split
  · exact hm
  · exact hn

lemma Throws.when {m : EStateM ε σ Unit} (hm : Throws P m) :
    Throws P (when c m) := Throws.ite hm (Throws.pure ())

lemma Throws.zoom {get : σ → τ} {set : τ → σ → σ} {m : EStateM ε τ α} (h : Throws P m) :
    Throws P (zoom get set m) := by
  intro s
  rw [wp_zoom]
  exact h (get s)

end Throws

section Returns

variable {P : α → Prop}

/-- Whatever value `m` returns is one with `P`. -/
def Returns (P : α → Prop) (m : EStateM ε σ α) : Prop := ∀ s, wp m (fun a _ => P a) (fun _ _ => True) s

lemma Returns.pure {a : α} (h : P a) : Returns P (pure a : EStateM ε σ α) := fun s => by simpa using h

lemma Returns.seq {Q : β → Prop} (hx : Returns Q x)
    (hf : ∀ b, Q b → Returns P (f b)) : Returns P (x >>= f) := fun s =>
  wp_then (hx s) fun b t hb => hf b hb t

lemma Returns.bind (hf : ∀ b, Returns P (f b)) : Returns P (x >>= f) := by
  intro s
  rw [wp_bind]
  exact wp_try (fun b t _ => hf b t)
    (show wp x (fun _ _ => True) (fun _ _ => True) s by unfold wp; split <;> trivial)

end Returns

/-! ### Invariants that some errors break -/

section KeepsIf

variable {E P : ε → Prop}

/-- The program fails, with an error of `P`. -/
def Fails (P : ε → Prop) (m : EStateM ε σ α) : Prop := ∀ s, wp m (fun _ _ => False) (fun e _ => P e) s

lemma Fails.throw {e : ε} (h : P e) : Fails P (throw e : EStateM ε σ α) := fun s => by simpa using h

lemma Fails.bind (hx : Throws P x) (hf : ∀ b, Fails P (f b)) :
    Fails P (x >>= f) := fun s => wp_then (hx s) fun b t _ => hf b t

lemma Fails.read {f : σ → EStateM ε σ α} (hf : ∀ s, Fails P (f s)) : Fails P (get >>= f) :=
  .bind (fun s => by simp) hf

lemma Fails.before {m : EStateM ε σ β} (hm : Fails P m) (f : β → EStateM ε σ α) : Fails P (m >>= f) := fun s =>
  wp_then (hm s) fun _ _ h => h.elim

lemma Fails.ite (hm : Fails P m) (hn : Fails P n) : Fails P (if c then m else n) := by
  split
  · exact hm
  · exact hn

lemma Throws.any (m : EStateM ε σ α) : Throws (fun _ => True) m := fun _ =>
  wp_iff_run.mpr ⟨fun _ _ _ => trivial, fun _ _ _ => trivial⟩

lemma Throws.attempt (m : EStateM ε σ α) : Throws P (attempt m) := by
  intro s
  rw [wp_attempt]
  exact wp_iff_run.mpr ⟨fun _ _ _ => trivial, fun _ _ _ => trivial⟩

/-- **Invariant up to errors.** If `m` succeeds, or fails with an error of `E`, then `I` holds afterwards if it held
before. -/
def KeepsIf (E : ε → Prop) (I : σ → Prop) (m : EStateM ε σ α) : Prop :=
  ∀ s, I s → wp m (fun _ => I) (fun e t => E e → I t) s

lemma Keeps.keepsIf (h : Keeps I m) : KeepsIf E I m := fun s hs =>
  wp_mono (fun _ _ ht => ht) (fun _ _ ht _ => ht) (h s hs)

lemma KeepsIf.keeps (h : KeepsIf E I m) (hE : ∀ e, E e) : Keeps I m := fun s hs =>
  wp_mono (fun _ _ ht => ht) (fun e _ ht => ht (hE e)) (h s hs)

lemma Frames.keepsIf (h : Frames view m) (hI : ∀ s t, view t = view s → I s → I t) :
    KeepsIf E I m := fun s hs =>
  h.wp (fun _ t ht => hI s t ht hs) fun _ t ht _ => hI s t ht hs

lemma KeepsIf.pure (a : α) : KeepsIf E I (pure a : EStateM ε σ α) := (Keeps.pure a).keepsIf

lemma KeepsIf.throw (e : ε) : KeepsIf E I (throw e : EStateM ε σ α) := (Keeps.throw e).keepsIf

lemma KeepsIf.ensure (c : Prop) [Decidable c] (e : ε) : KeepsIf E I (ensure c e : EStateM ε σ Unit) :=
  (Keeps.ensure c e).keepsIf

lemma KeepsIf.bind (hx : KeepsIf E I x) (hf : ∀ b, KeepsIf E I (f b)) : KeepsIf E I (x >>= f) := fun s hs =>
  wp_then (hx s hs) fun b t ht => hf b t ht

lemma KeepsIf.read {f : σ → EStateM ε σ α} (hf : ∀ s, KeepsIf E I (f s)) : KeepsIf E I (get >>= f) :=
  .bind (fun s hs => by simpa using hs) hf

lemma KeepsIf.checked {e : ε} {f : Unit → EStateM ε σ α} (hf : KeepsIf E I (f ())) :
    KeepsIf E I (S2nTls.Lib.ensure c e >>= f) := (KeepsIf.ensure c e).bind fun _ => hf

lemma KeepsIf.ite (hm : KeepsIf E I m) (hn : KeepsIf E I n) : KeepsIf E I (if c then m else n) := by
  split
  · exact hm
  · exact hn

lemma KeepsIf.when {m : EStateM ε σ Unit} (hm : KeepsIf E I m) :
    KeepsIf E I (when c m) := KeepsIf.ite hm (KeepsIf.pure ())

lemma KeepsIf.attempt_bind {m : EStateM ε σ β} {f : Except ε β → EStateM ε σ α} (hm : KeepsIf E I m)
    (hok : ∀ b, KeepsIf E I (f (.ok b))) (herror : ∀ e, E e → KeepsIf E I (f (.error e)))
    (hbroken : ∀ e, ¬ E e → Fails (fun e' => ¬ E e') (f (.error e))) : KeepsIf E I (attempt m >>= f) := by
  intro s hs
  rw [wp_bind, wp_attempt]
  refine wp_mono (fun b t ht => hok b t ht) (fun e t ht => ?_) (hm s hs)
  by_cases he : E e
  · exact herror e he t (ht he)
  · exact wp_mono (fun _ _ hf => hf.elim) (fun e' _ hno he' => absurd he' hno) (hbroken e he t)

lemma KeepsIf.zoom {get : σ → τ} {set : τ → σ → σ} {J : τ → Prop} {m : EStateM ε τ α} (hm : KeepsIf E J m)
    (hget : ∀ s, I s → J (get s)) (hset : ∀ s t, I s → J t → I (set t s)) : KeepsIf E I (zoom get set m) := by
  intro s hs
  rw [wp_zoom]
  exact wp_mono (fun _ t ht => hset s t hs ht) (fun _ t ht he => hset s t hs (ht he)) (hm (get s) (hget s hs))

end KeepsIf

end S2nTls.Lib
