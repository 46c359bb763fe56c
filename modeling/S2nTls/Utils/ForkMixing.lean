import S2nTls.Utils.Random

/-!
No process generates from a state into which nothing was mixed since its creation.

That does not rest on the detection of forks: each request first mixes fresh entropy into its generator. Only a thread
that is forked after it has drawn that entropy, and before the last block of the request, takes it along.
-/

namespace S2nTls.Random

open S2nTls.Lib

/-! ### From where the blocks of a thread come -/

/-- In the process `p`, all blocks that the thread generates from here come from entropy of the process in which it is
by then: it may find itself in another one whenever it is not generating. -/
def Mixes : ℕ → Program → RandState → Prop
  | _, .done, m => m.generating = false
  | p, .step act next, m => ∀ q t fails s s' m', (m.generating = true → q = p) → s.pid = q →
      act t fails s m = some (s', m') →
      s'.pid = q ∧ (∀ d ∈ s'.outputs, d ∈ s.outputs ∨ d.reseededIn = q) ∧ Mixes q (next m') m'

/-- So it is from here in every process, for a thread that is not generating. -/
def MixesFirst (prog : Program) : Prop := ∀ p m, m.generating = false → Mixes p prog m

section Rules

variable {p : ℕ} {w : Which} {m : RandState} {next : Program}

/-- A thread that is not generating may be forked. -/
lemma Mixes.fork {prog : Program} (h : Mixes p prog m) (hm : m.generating = false) (n : ℕ) : Mixes n prog m := by
  cases prog with
  | done => exact hm
  | step act next =>
    exact fun q t fails s s' m' _ => h q t fails s s' m' fun hgen => absurd hgen (Bool.eq_false_iff.1 hm)

structure Quiet (s : Shared) (s' : Shared) (m' : RandState) : Prop where
  pid : s'.pid = s.pid
  outputs : s'.outputs = s.outputs
  generating : m'.generating = false

lemma MixesFirst.step {act : ℕ → Bool → Shared → RandState → Option (Shared × RandState)} {next : RandState → Program}
    (hact : ∀ t fails s m s' m', m.generating = false → act t fails s m = some (s', m') → Quiet s s' m')
    (hnext : ∀ m, MixesFirst (next m)) : MixesFirst (.step act next) := by
  intro p m hm q t fails s s' m' _ hpid heq
  have hquiet := hact t fails s m s' m' hm heq
  refine ⟨hquiet.pid.trans hpid, fun d hd => .inl (hquiet.outputs ▸ hd), hnext m' q m' hquiet.generating⟩

lemma MixesFirst.plain {act : Shared → RandState → Shared × RandState} {next : RandState → Program}
    (hact : ∀ s m, m.generating = false → Quiet s (act s m).1 (act s m).2) (hnext : ∀ m, MixesFirst (next m)) :
    MixesFirst (plain act next) := by
  refine .step (fun t fails s m s' m' hm heq => ?_) hnext
  have hquiet := hact s m hm
  rw [Option.some.inj heq] at hquiet
  exact hquiet

lemma MixesFirst.done : MixesFirst .done := fun _ _ hm => hm

lemma MixesFirst.guarded {act : ℕ → Shared → RandState → Option (Shared × RandState)}
    (hact : ∀ t s m s' m', m.generating = false → act t s m = some (s', m') → Quiet s s' m')
    (hnext : MixesFirst next) : MixesFirst (guarded act next) := by
  refine .step (fun t fails s m s' m' hm heq => ?_) fun m => ?_
  · split at heq
    · cases heq
      exact ⟨rfl, rfl, rfl⟩
    · exact hact t s { m with ok := true } s' m' hm heq
  · split
    · exact hnext
    · exact .done

lemma MixesFirst.assign {f : Shared → RandState → RandState}
    (hf : ∀ s m, m.generating = false → (f s m).generating = false) (hnext : MixesFirst next) :
    MixesFirst (Random.guarded (fun _ s m => some (s, f s m)) next) := by
  refine .guarded (fun t s m s' m' hm heq => ?_) hnext
  cases heq
  exact ⟨rfl, rfl, hf s m hm⟩

lemma MixesFirst.attempt {act : Shared → Shared} {failed : Program} (hpid : ∀ s, (act s).pid = s.pid)
    (hout : ∀ s, (act s).outputs = s.outputs) (hnext : MixesFirst next) (hfailed : MixesFirst failed) :
    MixesFirst (attempt act next failed) := by
  refine .step (fun t fails s m s' m' hm heq => ?_) fun m => ?_
  · cases fails <;> cases heq
    · exact ⟨hpid s, hout s, hm⟩
    · exact ⟨rfl, rfl, hm⟩
  · split
    · exact hnext
    · exact hfailed

variable (hnext : MixesFirst next)
include hnext

lemma MixesFirst.unlock : MixesFirst (unlock next) := by
  refine .guarded (fun t s m s' m' hm heq => ?_) hnext
  split at heq <;> cases heq <;> exact ⟨rfl, rfl, hm⟩

lemma MixesFirst.rdlock : MixesFirst (rdlock next) := by
  refine .guarded (fun t s m s' m' hm heq => ?_) hnext
  split at heq <;> cases heq
  exact ⟨rfl, rfl, hm⟩

lemma MixesFirst.wrlock : MixesFirst (wrlock next) := by
  refine .guarded (fun t s m s' m' hm heq => ?_) hnext
  split at heq <;> cases heq
  exact ⟨rfl, rfl, hm⟩

lemma MixesFirst.pthreadOnce : MixesFirst (pthreadOnce next) := by
  have hfinish : MixesFirst (finishOnce next) := .plain (fun _ _ hm => ⟨rfl, rfl, hm⟩) fun _ => hnext
  have hdisable : MixesFirst (disableForkDetection next) :=
    .plain (fun _ _ hm => ⟨rfl, rfl, hm⟩) fun _ => hfinish
  refine .step (fun t fails s m s' m' hm heq => ?_) fun m => ?_
  · split at heq <;> cases heq <;> exact ⟨rfl, rfl, hm⟩
  · split
    · refine .attempt (fun _ => rfl) (fun _ => rfl) (.attempt (fun _ => rfl) (fun _ => rfl)
        (.attempt (fun _ => rfl) (fun _ => rfl) ?_ hdisable) hdisable) hfinish
      exact .plain (fun _ _ hm => ⟨rfl, rfl, hm⟩) fun _ => .plain (fun _ _ hm => ⟨rfl, rfl, hm⟩)
        fun _ => .plain (fun _ _ hm => ⟨rfl, rfl, hm⟩) fun _ => hfinish
    · exact hnext

lemma MixesFirst.countFork : MixesFirst (countFork next) := by
  refine .wrlock (.plain (fun _ _ hm => ⟨rfl, rfl, hm⟩) fun _ => ?_)
  refine .plain (fun _ _ hm => ⟨rfl, rfl, hm⟩) fun m => ?_
  split
  · refine .plain (fun _ _ hm => ⟨rfl, rfl, hm⟩) fun _ => .plain (fun _ _ hm => ⟨rfl, rfl, hm⟩)
      fun _ => .plain (fun _ _ hm => ⟨rfl, rfl, hm⟩) fun _ => .unlock hnext
  · exact .unlock hnext

lemma MixesFirst.getForkGenerationNumber : MixesFirst (getForkGenerationNumber next) := by
  refine .pthreadOnce (.assign (fun _ _ hm => hm) (.rdlock ?_))
  refine .plain (fun _ _ hm => ⟨rfl, rfl, hm⟩) fun _ => .plain (fun _ _ hm => ⟨rfl, rfl, hm⟩)
    fun m => .unlock ?_
  split
  · exact .countFork hnext
  · exact hnext

lemma MixesFirst.ensureInitializedDrbgs : MixesFirst (ensureInitializedDrbgs next) := by
  refine .plain (fun _ _ hm => ⟨rfl, rfl, hm⟩) fun m => ?_
  split
  · exact hnext
  · unfold initAndCache initDrbgs
    refine .assign (fun _ _ hm => hm) (.assign (fun _ _ hm => hm) ?_)
    refine .plain (fun _ _ hm => ⟨rfl, rfl, hm⟩) fun _ => .getForkGenerationNumber ?_
    exact .plain (fun _ _ hm => ⟨rfl, rfl, hm⟩) fun _ => hnext

lemma MixesFirst.ensureUniqueness : MixesFirst (ensureUniqueness next) := by
  refine .getForkGenerationNumber (.plain (fun _ _ hm => ⟨rfl, rfl, hm⟩) fun m => ?_)
  split
  · refine .assign (fun _ _ hm => hm) (.assign (fun _ _ hm => hm) ?_)
    exact .plain (fun _ _ hm => ⟨rfl, rfl, hm⟩) fun _ => .ensureInitializedDrbgs hnext
  · exact hnext

/-! ### Generating -/

omit hnext in
lemma mixes_withDrbg {act : Drbg → Shared → RandState → Shared × RandState}
    (h : ∀ q s d, (m.generating = true → q = p) → s.pid = q → m.drbg w = some d → ∀ s' m',
      act d s { m with ok := true } = (s', m') →
      s'.pid = q ∧ (∀ o ∈ s'.outputs, o ∈ s.outputs ∨ o.reseededIn = q) ∧ m'.ok = true ∧ Mixes q next m') :
    Mixes p (withDrbg w act next) m := by
  intro q t fails s s' m' hq hpid heq
  dsimp only at heq
  split at heq
  · cases heq
    exact ⟨hpid, fun d hd => .inl hd, rfl⟩
  · split at heq
    · cases heq
      exact ⟨hpid, fun d hd => .inl hd, rfl⟩
    · rename_i d hd
      obtain ⟨hpid', hout, hok, hnext⟩ := h q s d hq hpid (by cases w <;> exact hd) s' m' (Option.some.inj heq)
      refine ⟨hpid', hout, ?_⟩
      dsimp only
      rw [if_pos hok]
      exact hnext

/-- While the thread is generating it stays in its process. -/
lemma mixes_drbgBits {n : ℕ} (hn : 0 < n) (hm : m.generating = true)
    (hmixed : ∀ d, m.drbg w = some d → d.reseededIn = p) : Mixes p (drbgBits w n next) m := by
  induction n generalizing m with
  | zero => exact absurd hn (Nat.lt_irrefl 0)
  | succ n ih =>
    refine mixes_withDrbg fun q s d hq hpid hd s' m' heq => ?_
    obtain rfl := hq hm
    cases heq
    refine ⟨hpid, fun o ho => ?_, rfl, ?_⟩
    · rcases List.mem_cons.1 ho with rfl | ho
      · exact .inr (hmixed o hd)
      · exact .inl ho
    · by_cases hn : 0 < n
      · exact ih hn (decide_eq_true hn) fun d' hd' => hmixed d' (by cases w <;> exact hd')
      · obtain rfl : n = 0 := Nat.eq_zero_of_not_pos hn
        exact hnext q _ rfl

lemma mixesFirst_drbgGenerate {size : ℕ} (hsize : 0 < size) : MixesFirst (drbgGenerate w size next) := by
  have hblocks : 0 < (size + drbgBlockSize - 1) / drbgBlockSize :=
    Nat.div_pos (by unfold drbgBlockSize; omega) (by decide)
  have hupdate : MixesFirst (guarded (fun _ s m => some (s, m)) next) := .assign (fun _ _ hm => hm) hnext
  intro p m hm
  unfold drbgGenerate drbgMix
  refine mixes_withDrbg fun q s d _ hpid _ s' m' heq => ?_
  cases heq
  refine ⟨hpid, fun o ho => .inl ho, rfl, ?_⟩
  -- the entropy is of this process, and it is mixed in before the first block
  refine mixes_withDrbg fun r s₁ d₁ hr hpid₁ _ s₂ m₂ heq => ?_
  obtain rfl := hr rfl
  cases heq
  refine ⟨hpid₁, fun o ho => .inl ho, by cases w <;> rfl, ?_⟩
  refine mixes_drbgBits hupdate hblocks (by cases w <;> rfl) fun d' hd' => ?_
  cases w <;> cases hd' <;> exact hpid

end Rules

lemma pos_of_mem_slices : ∀ {fuel remaining n : ℕ}, n ∈ slices fuel remaining → 0 < n
  | fuel + 1, remaining, n, h => by
    unfold slices at h
    split at h
    · cases h
    · rcases List.mem_cons.1 h with rfl | h
      · exact Nat.lt_min.2 ⟨Nat.pos_of_ne_zero ‹_›, by decide⟩
      · exact pos_of_mem_slices h

lemma mixesFirst_getCustomRandomData (r : Request) : MixesFirst (getCustomRandomData r) := by
  have hslices : ∀ sizes : List ℕ, (∀ n ∈ sizes, 0 < n) → MixesFirst (sizes.foldr (drbgGenerate r.which) .done) := by
    intro sizes hpos
    induction sizes with
    | nil => exact .done
    | cons n sizes ih =>
      have hpos' := List.forall_mem_cons.1 hpos
      exact mixesFirst_drbgGenerate (ih hpos'.2) hpos'.1
  exact .ensureInitializedDrbgs (.ensureUniqueness (hslices _ fun _ => pos_of_mem_slices))

/-! ### Process trees -/

/-- The process under its number: its blocks so far, and those that its threads will generate. -/
structure Unshared (p : ℕ) (pr : Process Bool Shared RandState) : Prop where
  pid : pr.shared.pid = p
  outputs : ∀ d ∈ pr.shared.outputs, d.reseededIn = p
  threads : ∀ t th, pr.threads t = some th → Mixes p th.prog th.mem

/-- No fork is made by a thread between the drawing of entropy and the last block for it. -/
def outsideWindow (w : List (Process Bool Shared RandState)) : Event Bool Request → Bool
  | .fork p t => w[p]?.all fun pr => (pr.threads t).all fun th => !th.mem.generating
  | _ => true

section Runs

variable {platform : Platform} {p t : ℕ} {pr pr' : Process Bool Shared RandState}

lemma Unshared.set {s : Shared} {th : Thread Bool Shared RandState} (h : Unshared p pr) (hpid : s.pid = p)
    (hout : ∀ d ∈ s.outputs, d ∈ pr.shared.outputs ∨ d.reseededIn = p) (hth : Mixes p th.prog th.mem) :
    Unshared p (pr.set s t th) := by
  refine ⟨hpid, fun d hd => (hout d hd).elim (h.outputs d) id, fun u th' hu => ?_⟩
  rcases Process.set_threads hu with ⟨rfl, rfl⟩ | ⟨-, hu⟩
  · exact hth
  · exact h.threads u th' hu

lemma Unshared.local {e : Event Bool Request} (h : Unshared p pr) (hl : (system platform).local pr t e = some pr') :
    Unshared p pr' := by
  rcases System.local_eq_some hl with ⟨-, rfl⟩ | ⟨m, r, hm, rfl⟩ | ⟨_, _, fails, m, act, next, s', m', -, hm, hact, rfl⟩
  · exact h.set h.pid (fun _ => .inl) rfl
  · exact h.set h.pid (fun _ => .inl) (mixesFirst_getCustomRandomData r p m (h.threads t _ hm))
  · obtain ⟨hpid, hout, hnext⟩ := h.threads t _ hm p t fails pr.shared s' m' (fun _ => rfl) h.pid hact
    exact h.set hpid hout hnext

lemma Unshared.forked {n : ℕ} (h : Unshared p pr) (hok : ((pr.threads t).all fun th => !th.mem.generating) = true)
    (hf : (system platform).forked n pr t = some pr') : Unshared n pr' := by
  obtain ⟨th, hth, hs', hthreads⟩ := System.forked_eq_some hf
  rw [hth, Option.all_some, Bool.not_eq_true'] at hok
  have hchild : pr'.shared.pid = n ∧ pr'.shared.outputs = [] := by
    change childOf platform n pr.shared = some pr'.shared at hs'
    unfold childOf at hs'
    split at hs'
    · cases hs'
    · rw [← Option.some.inj hs']
      exact ⟨rfl, rfl⟩
  refine ⟨hchild.1, fun d hd => absurd (hchild.2 ▸ hd) List.not_mem_nil, fun u th' hu => ?_⟩
  obtain ⟨rfl, rfl⟩ := (hthreads u th').1 hu
  exact (h.threads u th' hth).fork hok n

end Runs

/-- **No random state is inherited.** In every run of a process tree, with forks by any thread at any moment but between
the drawing of entropy in `s2n_drbg_mix` and the last block of `s2n_drbg_bits` in that thread itself: each block that is
generated in a process comes from a generator into which entropy has been mixed that was drawn in that process. -/
theorem random_state_not_inherited (platform : Platform) (es : List (Event Bool Request))
    (hforks : (system platform).runsWhen outsideWindow [firstProcess] es = true) (p : ℕ)
    (pr : Process Bool Shared RandState) (hpr : ((system platform).run [firstProcess] es)[p]? = some pr) :
    ∀ d ∈ pr.shared.outputs, d.reseededIn = p := by
  have hfirst : ∀ (p : ℕ) pr, [firstProcess][p]? = some pr → Unshared p pr := by
    intro p pr hpr
    obtain ⟨rfl, rfl⟩ : p = 0 ∧ firstProcess = pr := by
      cases p <;> simp_all
    exact ⟨rfl, fun d hd => (nomatch hd), fun t th hth => nomatch hth⟩
  refine ((system platform).run_all (fun _ _ _ _ _ _ h => h.local) (fun w p t pr pr' hok hpr h => ?_) es hfirst hforks
    p pr hpr).outputs
  rw [outsideWindow, hpr] at hok
  exact h.forked hok

/-- A thread is forked after `n` actions of its call, and goes on in both processes. -/
def forkInCall (n : ℕ) : List (Event Bool Request) :=
  [.spawn 0 0, .call 0 0 { which := .publicData, size := 16 }] ++ List.replicate n (.act 0 0 false) ++
  [.fork 0 0] ++ List.replicate 4 (.act 1 0 false) ++ [.act 0 0 false]

/-- Linux with its usual C library. -/
def linux : Platform := { handler := true, restarts := true }

/-- Forked before the entropy is drawn: the generator was seeded in the parent, and the entropy is of the child. -/
theorem random_state_not_inherited_sample : ∃ pr,
    ((system linux).run [firstProcess] (forkInCall 25))[1]? = some pr ∧
      pr.shared.outputs = [{ seededIn := 0, reseededIn := 1 }] ∧ ∀ d ∈ pr.shared.outputs, d.reseededIn = 1 := by
  have hrun : (((system linux).run [firstProcess] (forkInCall 25))[1]?).any
      (fun pr => pr.shared.outputs == [{ seededIn := 0, reseededIn := 1 }]) = true := by decide +kernel
  obtain ⟨hsome, hout⟩ := (Option.any_eq_true_iff_get _ _).mp hrun
  exact ⟨_, (Option.some_get hsome).symm, beq_iff_eq.mp hout,
    random_state_not_inherited linux (forkInCall 25) (by decide +kernel) 1 _ (Option.some_get hsome).symm⟩

/-- Forked (from a signal handler, say) after the entropy has been mixed in: both processes generate the block from the
same state. -/
theorem fork_inside_call_shares_state : ∃ parent child,
    ((system linux).run [firstProcess] (forkInCall 27))[0]? = some parent ∧
    ((system linux).run [firstProcess] (forkInCall 27))[1]? = some child ∧
    parent.shared.outputs = [{ seededIn := 0, reseededIn := 0 }] ∧
    child.shared.outputs = [{ seededIn := 0, reseededIn := 0 }] := by
  have hparent : (((system linux).run [firstProcess] (forkInCall 27))[0]?).any
      (fun pr => pr.shared.outputs == [{ seededIn := 0, reseededIn := 0 }]) = true := by decide +kernel
  have hchild : (((system linux).run [firstProcess] (forkInCall 27))[1]?).any
      (fun pr => pr.shared.outputs == [{ seededIn := 0, reseededIn := 0 }]) = true := by decide +kernel
  obtain ⟨hsome, hout⟩ := (Option.any_eq_true_iff_get _ _).mp hparent
  obtain ⟨hsome', hout'⟩ := (Option.any_eq_true_iff_get _ _).mp hchild
  exact ⟨_, _, (Option.some_get hsome).symm, (Option.some_get hsome').symm, beq_iff_eq.mp hout, beq_iff_eq.mp hout'⟩

end S2nTls.Random
