import Mathlib.Logic.Relation

/-!
Invariants of runs. A run is a chain of steps of a relation; what every step preserves holds at
its end if it holds at its start.
-/

namespace S2nTls.Lib

open Relation

variable {σ : Type*} {step : σ → σ → Prop} {P : σ → Prop} {s t : σ}

/-- **Invariant rule.** -/
theorem invariant_of_step (h : ∀ s t, P s → step s t → P t) (hrun : ReflTransGen step s t)
    (hs : P s) : P t := by
  induction hrun with
  | refl => exact hs
  | tail _ hlast ih => exact h _ _ ih hlast

end S2nTls.Lib
