import Mathlib.Logic.Relation
import S2nTls.Utils.Random

/-!
Threads that ask for the number of forks do not deadlock, as long as nobody holds the lock when a process forks and the
detection is not just being set up.

A thread that holds the lock never waits, and it gives the lock up after finitely many actions of its own; so does the
thread that sets up the detection. If all of them are threads of the process, they can give way one after the other, and
then a call that had to wait can be carried to its end. A child inherits the lock as it is but not the threads that hold
it.
-/

namespace S2nTls.Random

open S2nTls.Lib

/-- Threads that call `s2n_get_fork_generation_number`. -/
def forkSystem (platform : Platform) : System Bool Shared RandState Unit where
  body _ := getForkGenerationNumber .done
  fresh := {}
  child := childOf platform

/-! ### What a thread does with the lock -/

structure Shared.LockInv (s : Shared) : Prop where
  exclusive : s.writer.isSome = true → s.readers = []
  nodup : s.readers.Nodup

/-- The thread holds the lock or is in the initializer: others may have to wait for it. -/
def Shared.Blocks (s : Shared) (t : ℕ) : Prop := s.HeldBy t ∨ s.once = .running t

inductive Phase
  | outside
  | initialising
  | locked

/-- The shared memory agrees with where the thread `t` is. In a child, `pthread_once` may have forgotten a thread that
is in the initializer. -/
structure Phase.At (phase : Phase) (s : Shared) (t : ℕ) : Prop where
  locked : s.HeldBy t ↔ phase = .locked
  initialising : s.once = .running t → phase = .initialising

lemma Phase.At.not_blocks {s : Shared} {t : ℕ} (h : Phase.outside.At s t) : ¬ s.Blocks t := by
  rintro (hheld | hrunning)
  · exact nomatch h.locked.1 hheld
  · exact nomatch h.initialising hrunning

/-- What an action of one thread leaves alone: who else holds the lock, and who else is in the initializer. -/
structure LeavesOthers (t : ℕ) (s s' : Shared) : Prop where
  heldBy : ∀ u, u ≠ t → (s'.HeldBy u ↔ s.HeldBy u)
  running : ∀ u, u ≠ t → s'.once = .running u → s.once = .running u

lemma LeavesOthers.blocks {t u : ℕ} {s s' : Shared} (h : LeavesOthers t s s') (hu : u ≠ t) (hb : s'.Blocks u) :
    s.Blocks u :=
  hb.imp (h.heldBy u hu).1 (h.running u hu)

/-- One action of the thread `t`: only outside does it wait, and for others, and it leaves them alone. -/
def LockStep (t : ℕ) (s : Shared) (phase : Phase) (after : RandState → Phase → Prop) :
    Option (Shared × RandState) → Prop
  | none => phase = .outside ∧ ∃ u, s.Blocks u
  | some (s', m') => s'.LockInv ∧ LeavesOthers t s s' ∧ ∃ phase' : Phase, phase'.At s' t ∧ after m' phase'

/-- All actions from here: it returns without the lock, if unlocking is not made to fail. -/
def Locks (t : ℕ) : Program → Phase → Prop
  | .done, phase => phase = .outside
  | .step act next, phase => ∀ fails s m, s.LockInv → phase.At s t → (fails = true → phase ≠ .locked) →
      LockStep t s phase (fun m' => Locks t (next m')) (act t fails s m)

section Rules

variable {t : ℕ} {next : Program} {phase : Phase}

/-- An action that leaves the lock and `pthread_once` as they are. -/
lemma Locks.same {act : ℕ → Bool → Shared → RandState → Option (Shared × RandState)} {next : RandState → Program}
    (h : ∀ fails s m, ∃ s' m', act t fails s m = some (s', m') ∧ s'.readers = s.readers ∧ s'.writer = s.writer ∧
      s'.once = s.once ∧ Locks t (next m') phase) : Locks t (.step act next) phase := by
  intro fails s m hinv hphase _
  obtain ⟨s', m', hact, hr, hw, ho, hnext⟩ := h fails s m
  have hsame : ∀ u, s'.HeldBy u ↔ s.HeldBy u := fun u => by rw [Shared.HeldBy, hr, hw, Shared.HeldBy]
  rw [hact]
  refine ⟨⟨?_, hr ▸ hinv.nodup⟩, ⟨fun u _ => hsame u, fun u _ => (ho ▸ ·)⟩, phase, ⟨?_, ?_⟩, hnext⟩
  · rw [hr, hw]
    exact hinv.exclusive
  · exact (hsame t).trans hphase.locked
  · rw [ho]
    exact hphase.initialising

lemma Locks.plain {act : Shared → RandState → Shared × RandState} {next : RandState → Program}
    (h : ∀ s m, (act s m).1.readers = s.readers ∧ (act s m).1.writer = s.writer ∧ (act s m).1.once = s.once)
    (hnext : ∀ m, Locks t (next m) phase) : Locks t (plain act next) phase :=
  .same fun _ s m => ⟨(act s m).1, (act s m).2, rfl, (h s m).1, (h s m).2.1, (h s m).2.2, hnext _⟩

lemma Locks.attempt {act : Shared → Shared} {failed : Program}
    (h : ∀ s, (act s).readers = s.readers ∧ (act s).writer = s.writer ∧ (act s).once = s.once)
    (hnext : Locks t next phase) (hfailed : Locks t failed phase) : Locks t (attempt act next failed) phase := by
  refine .same fun fails s m => ?_
  cases fails with
  | true => exact ⟨_, _, rfl, rfl, rfl, rfl, hfailed⟩
  | false => exact ⟨_, _, rfl, (h s).1, (h s).2.1, (h s).2.2, hnext⟩

lemma Locks.guarded {act : ℕ → Shared → RandState → Option (Shared × RandState)}
    (h : ∀ s (m : RandState), s.LockInv → phase.At s t → LockStep t s phase
      (fun m' => Locks t (if m'.ok then next else .done)) (act t s { m with ok := true }))
    (hphase : phase ≠ .initialising) : Locks t (guarded act next) phase := by
  intro fails s m hinv hat hfails
  cases fails with
  | true =>
    refine ⟨hinv, ⟨fun _ _ => Iff.rfl, fun _ _ => id⟩, phase, hat, ?_⟩
    cases phase with
    | outside => rfl
    | initialising => exact absurd rfl hphase
    | locked => exact absurd rfl (hfails rfl)
  | false => exact h s m hinv hat

/-- The thread takes or gives up the lock. -/
lemma LockStep.change {s s' : Shared} {m : RandState} {after : RandState → Phase → Prop} (phase' : Phase)
    (hinv : s'.LockInv) (honce : s'.once = s.once) (hrunning : s.once ≠ .running t)
    (hothers : ∀ u, u ≠ t → (s'.HeldBy u ↔ s.HeldBy u))
    (hheld : s'.HeldBy t ↔ phase' = .locked) (hafter : after m phase') :
    LockStep t s phase after (some (s', m)) :=
  ⟨hinv, ⟨hothers, fun _ _ => (honce ▸ ·)⟩, phase', ⟨hheld, fun h => absurd (honce ▸ h) hrunning⟩, hafter⟩

lemma Locks.rdlock (hnext : Locks t next .locked) : Locks t (rdlock next) .outside := by
  refine .guarded (fun s m hinv hat => ?_) (nomatch ·)
  have hfree := hat.not_blocks
  split
  · rename_i hw
    obtain ⟨u, hu⟩ := Option.isSome_iff_exists.mp hw
    exact ⟨rfl, u, .inl (.inr hu)⟩
  · rename_i hw
    have hmem : t ∉ s.readers := fun h => hfree (.inl (.inl h))
    refine .change .locked ⟨fun h => absurd h hw, List.nodup_cons.mpr ⟨hmem, hinv.nodup⟩⟩ rfl
      (fun h => hfree (.inr h)) (fun u hu => ?_) (iff_of_true (.inl List.mem_cons_self) rfl) hnext
    simp [Shared.HeldBy, hu]

lemma Locks.wrlock (hnext : Locks t next .locked) : Locks t (wrlock next) .outside := by
  refine .guarded (fun s m hinv hat => ?_) (nomatch ·)
  split
  · rename_i hbusy
    refine ⟨rfl, ?_⟩
    rcases Bool.or_eq_true_iff.mp hbusy with hw | hr
    · obtain ⟨u, hu⟩ := Option.isSome_iff_exists.mp hw
      exact ⟨u, .inl (.inr hu)⟩
    · obtain ⟨u, hu⟩ := List.exists_mem_of_ne_nil s.readers (by simpa using hr)
      exact ⟨u, .inl (.inl hu)⟩
  · rename_i hfree
    have hr : s.readers = [] := by simp_all
    have hw : s.writer = none := by simp_all
    refine .change .locked ⟨fun _ => hr, hinv.nodup⟩ rfl (fun h => hat.not_blocks (.inr h))
      (fun u hu => ?_) (iff_of_true (.inr rfl) rfl) hnext
    simp [Shared.HeldBy, hr, hw, hu.symm]

variable (hnext : Locks t next .outside)

include hnext

lemma Locks.unlock : Locks t (unlock next) .locked := by
  refine .guarded (fun s m hinv hat => ?_) (nomatch ·)
  have hrunning : s.once ≠ .running t := fun h => nomatch hat.initialising h
  split
  · rename_i hw
    have hr : s.readers = [] := hinv.exclusive (by rw [hw]; rfl)
    refine .change .outside ⟨fun h => (nomatch h), hinv.nodup⟩ rfl hrunning (fun u hu => ?_)
      (iff_of_false ?_ (nomatch ·)) hnext
    · simp [Shared.HeldBy, hw, hu.symm]
    · simp [Shared.HeldBy, hr]
  · rename_i hw
    refine .change .outside ⟨fun h => by rw [hinv.exclusive h]; rfl, hinv.nodup.erase t⟩ rfl hrunning
      (fun u hu => ?_) (iff_of_false ?_ (nomatch ·)) hnext
    · simp [Shared.HeldBy, List.mem_erase_of_ne hu]
    · simp [Shared.HeldBy, hw, hinv.nodup.not_mem_erase]

lemma Locks.countFork : Locks t (countFork next) .outside := by
  refine .wrlock (.plain (fun _ _ => ⟨rfl, rfl, rfl⟩) fun _ => ?_)
  refine .plain (fun _ _ => ⟨rfl, rfl, rfl⟩) fun m => ?_
  split
  · refine .plain (fun _ _ => ⟨rfl, rfl, rfl⟩) fun _ => .plain (fun _ _ => ⟨rfl, rfl, rfl⟩) fun _ => ?_
    exact .plain (fun _ _ => ⟨rfl, rfl, rfl⟩) fun _ => .unlock hnext
  · exact .unlock hnext

/-- The initializer never waits, and its end lets the others in. -/
lemma Locks.initialiseForkDetectionMethods : Locks t (initialiseForkDetectionMethods next) .initialising := by
  have hfinish : Locks t (finishOnce next) .initialising := by
    intro fails s m hinv hat _
    refine ⟨⟨hinv.exclusive, hinv.nodup⟩, ⟨fun _ _ => Iff.rfl, fun _ _ h => nomatch h⟩, .outside,
      ⟨?_, fun h => nomatch h⟩,
      hnext⟩
    exact iff_of_false (fun h => nomatch hat.locked.1 h) (nomatch ·)
  have hdisable : Locks t (disableForkDetection next) .initialising :=
    .plain (fun _ _ => ⟨rfl, rfl, rfl⟩) fun _ => hfinish
  refine .attempt (fun _ => ⟨rfl, rfl, rfl⟩) (.attempt (fun _ => ⟨rfl, rfl, rfl⟩)
    (.attempt (fun _ => ⟨rfl, rfl, rfl⟩) ?_ hdisable) hdisable) hfinish
  refine .plain (fun _ _ => ⟨rfl, rfl, rfl⟩) fun _ => .plain (fun _ _ => ⟨rfl, rfl, rfl⟩) fun _ => ?_
  exact .plain (fun _ _ => ⟨rfl, rfl, rfl⟩) fun _ => hfinish

lemma Locks.pthreadOnce : Locks t (pthreadOnce next) .outside := by
  intro fails s m hinv hat _
  dsimp only
  split
  · refine ⟨⟨hinv.exclusive, hinv.nodup⟩, ⟨fun _ _ => Iff.rfl, fun u hu h => ?_⟩, .initialising, ⟨?_, fun _ => rfl⟩,
      .initialiseForkDetectionMethods hnext⟩
    · exact absurd (Once.running.inj h).symm hu
    · exact iff_of_false (fun h => hat.not_blocks (.inl h)) (nomatch ·)
  · rename_i u hu
    exact ⟨rfl, u, .inr hu⟩
  · exact ⟨hinv, ⟨fun _ _ => Iff.rfl, fun _ _ => id⟩, .outside, hat, hnext⟩

/-- **A call** waits only for others, and returns without the lock. -/
lemma Locks.getForkGenerationNumber : Locks t (getForkGenerationNumber next) .outside := by
  refine .pthreadOnce (.guarded (fun s m hinv hat => ?_) (nomatch ·))
  refine ⟨hinv, ⟨fun _ _ => Iff.rfl, fun _ _ => id⟩, .outside, hat, ?_⟩
  dsimp only
  split
  · refine .rdlock (.plain (fun _ _ => ⟨rfl, rfl, rfl⟩) fun _ => ?_)
    refine .plain (fun _ _ => ⟨rfl, rfl, rfl⟩) fun m => .unlock ?_
    split
    · exact .countFork hnext
    · exact hnext
  · rfl

end Rules

/-! ### The threads of a process -/

/-- The thread keeps to the rules from where it is. -/
def Follows (s : Shared) (t : ℕ) (prog : Program) : Prop := ∃ phase : Phase, phase.At s t ∧ Locks t prog phase

/-- All for whom others may wait are threads of the process, and each thread keeps to the rules. -/
structure Disciplined (pr : Process Bool Shared RandState) : Prop where
  lock : pr.shared.LockInv
  follows : ∀ t th, pr.threads t = some th → Follows pr.shared t th.prog
  present : ∀ t, pr.shared.Blocks t → (pr.threads t).isSome = true

section Runs

variable {platform : Platform} {pr pr' : Process Bool Shared RandState} {t : ℕ}

lemma Disciplined.set {s : Shared} {th : Thread Bool Shared RandState} (h : Disciplined pr) (hlock : s.LockInv)
    (hothers : LeavesOthers t pr.shared s) (hth : Follows s t th.prog) : Disciplined (pr.set s t th) := by
  refine ⟨hlock, fun u th' hu => ?_, fun u hu => ?_⟩
  · rcases Process.set_threads hu with ⟨rfl, rfl⟩ | ⟨hut, hu⟩
    · exact hth
    · obtain ⟨phase, hat, hlocks⟩ := h.follows u th' hu
      exact ⟨phase, ⟨(hothers.heldBy u hut).trans hat.locked,
        fun hr => hat.initialising (hothers.running u hut hr)⟩, hlocks⟩
  · by_cases hut : u = t
    · simp [Process.set, hut]
    · simpa [Process.set, Function.update_of_ne hut] using h.present u (hothers.blocks hut hu)

def Acts (platform : Platform) (pr pr' : Process Bool Shared RandState) : Prop :=
  ∃ t, (forkSystem platform).local pr t (.act 0 t false) = some pr'

/-- The threads of the process act, and nothing else happens. -/
structure Onward (platform : Platform) (pr pr' : Process Bool Shared RandState) : Prop where
  steps : Relation.ReflTransGen (Acts platform) pr pr'
  disciplined : Disciplined pr'
  present : ∀ u, (pr.threads u).isSome = true → (pr'.threads u).isSome = true

lemma Onward.trans {pr'' : Process Bool Shared RandState} (h : Onward platform pr pr') (h' : Onward platform pr' pr'') :
    Onward platform pr pr'' :=
  ⟨h.steps.trans h'.steps, h'.disciplined, fun u hu => h'.present u (h.present u hu)⟩

lemma Disciplined.stay (h : Disciplined pr) : Onward platform pr pr := ⟨.refl, h, fun _ hu => hu⟩

section

variable (platform)

/-- An action of a thread for which others may wait, or while there is none. -/
lemma Disciplined.act {m : RandState} {act : ℕ → Bool → Shared → RandState → Option (Shared × RandState)}
    {next : RandState → Program} (h : Disciplined pr) (hth : pr.threads t = some ⟨m, .step act next⟩)
    (hfree : pr.shared.Blocks t ∨ ∀ u, ¬ pr.shared.Blocks u) :
    ∃ pr' m', Onward platform pr pr' ∧ pr'.threads t = some ⟨m', next m'⟩ ∧
      ∀ u, u ≠ t → pr'.shared.Blocks u → pr.shared.Blocks u := by
  obtain ⟨phase, hat, hlocks⟩ := h.follows t _ hth
  have hstep := hlocks false pr.shared m h.lock hat (nomatch ·)
  cases hact : act t false pr.shared m with
  | none =>
    rw [hact] at hstep
    obtain ⟨rfl, u, hu⟩ := hstep
    exact absurd hu ((hfree.resolve_left hat.not_blocks) u)
  | some r =>
    rw [hact] at hstep
    obtain ⟨hlock, hothers, hnext⟩ := hstep
    refine ⟨pr.set r.1 t ⟨r.2, next r.2⟩, r.2, ⟨.single ⟨t, ?_⟩, h.set hlock hothers hnext, fun u hu => ?_⟩, ?_,
      fun u hu => hothers.blocks hu⟩
    · simp [System.local, hth, hact]
    · by_cases hut : u = t
      · simp [Process.set, hut]
      · simpa [Process.set, Function.update_of_ne hut] using hu
    · simp [Process.set]

lemma exists_released (prog : Program) : ∀ {pr m}, Disciplined pr → pr.threads t = some ⟨m, prog⟩ →
    ∃ pr', Onward platform pr pr' ∧ ¬ pr'.shared.Blocks t ∧ ∀ u, pr'.shared.Blocks u → pr.shared.Blocks u := by
  induction prog with
  | done =>
    intro pr m h hth
    obtain ⟨phase, hat, rfl⟩ := h.follows t _ hth
    exact ⟨_, h.stay, hat.not_blocks, fun _ hu => hu⟩
  | step act next ih =>
    intro pr m h hth
    by_cases hblocks : pr.shared.Blocks t
    · obtain ⟨pr₁, m', hon, hth', hothers⟩ := h.act platform hth (.inl hblocks)
      obtain ⟨pr', hon', hnot, hfewer⟩ := ih m' hon.disciplined hth'
      refine ⟨pr', hon.trans hon', hnot, fun u hu => ?_⟩
      have hne : u ≠ t := fun heq => hnot (heq ▸ hu)
      exact hothers u hne (hfewer u hu)
    · exact ⟨pr, h.stay, hblocks, fun _ hu => hu⟩

lemma exists_free (us : List ℕ) : ∀ {pr}, Disciplined pr → (∀ u, pr.shared.Blocks u → u ∈ us) →
    ∃ pr', Onward platform pr pr' ∧ ∀ u, ¬ pr'.shared.Blocks u := by
  induction us with
  | nil => exact fun h hall => ⟨_, h.stay, fun u hu => by cases hall u hu⟩
  | cons t us ih =>
    intro pr h hall
    by_cases hblocks : pr.shared.Blocks t
    · obtain ⟨th, hth⟩ := Option.isSome_iff_exists.mp (h.present t hblocks)
      obtain ⟨pr₁, hon, hnot, hfewer⟩ := exists_released platform th.prog h hth
      obtain ⟨pr', hon', hfree⟩ := ih hon.disciplined fun u hu =>
        (List.mem_cons.mp (hall u (hfewer u hu))).resolve_left fun heq => hnot (heq ▸ hu)
      exact ⟨pr', hon.trans hon', hfree⟩
    · exact ih h fun u hu => (List.mem_cons.mp (hall u hu)).resolve_left fun heq => hblocks (heq ▸ hu)

def Returned (pr : Process Bool Shared RandState) (t : ℕ) : Prop := ∃ m, pr.threads t = some ⟨m, .done⟩

/-- While it need not wait for another thread, a call comes to its end. -/
lemma exists_returned (prog : Program) : ∀ {pr m}, Disciplined pr → pr.threads t = some ⟨m, prog⟩ →
    (∀ u, u ≠ t → ¬ pr.shared.Blocks u) → ∃ pr', Onward platform pr pr' ∧ Returned pr' t := by
  induction prog with
  | done => exact fun h hth _ => ⟨_, h.stay, _, hth⟩
  | step act next ih =>
    intro pr m h hth hothers
    have hfree : pr.shared.Blocks t ∨ ∀ u, ¬ pr.shared.Blocks u := by
      by_cases hblocks : pr.shared.Blocks t
      · exact .inl hblocks
      · exact .inr fun u hu => hothers u (fun heq => hblocks (heq ▸ hu)) hu
    obtain ⟨pr₁, m', hon, hth', hfewer⟩ := h.act platform hth hfree
    obtain ⟨pr', hon', hret⟩ := ih m' hon.disciplined hth' fun u hu hblocks => hothers u hu (hfewer u hu hblocks)
    exact ⟨pr', hon.trans hon', hret⟩

/-- The thread that runs the initializer. -/
def Once.initialiser : Once → List ℕ
  | .running u => [u]
  | _ => []

/-- **Every call can be carried to its end.** -/
lemma Disciplined.returns (h : Disciplined pr) (ht : (pr.threads t).isSome = true) :
    ∃ pr', Onward platform pr pr' ∧ Returned pr' t := by
  obtain ⟨pr₁, hon, hfree⟩ := exists_free platform (pr.shared.writer.toList ++ pr.shared.readers ++
    pr.shared.once.initialiser) h fun u hu => by
      rcases hu with (hr | hw) | ho
      · simp [hr]
      · simp [hw]
      · simp [Once.initialiser, ho]
  obtain ⟨th, hth⟩ := Option.isSome_iff_exists.mp (hon.present t ht)
  obtain ⟨pr', hon', hret⟩ := exists_returned platform th.prog hon.disciplined hth fun u _ => hfree u
  exact ⟨pr', hon.trans hon', hret⟩

end

lemma Disciplined.local {e : Event Bool Unit} (h : Disciplined pr)
    (hfails : ∀ p u, e = .act p u true → ¬ pr.shared.HeldBy t)
    (hl : (forkSystem platform).local pr t e = some pr') : Disciplined pr' := by
  have hsame : LeavesOthers t pr.shared pr.shared := ⟨fun _ _ => Iff.rfl, fun _ _ => id⟩
  rcases System.local_eq_some hl with ⟨hnone, rfl⟩ | ⟨m, _, hm, rfl⟩ |
    ⟨p, u, fails, m, act, next, s', m', he, hm, hact, rfl⟩
  · have hfree : ¬ pr.shared.Blocks t := fun hb => by simpa [hnone] using h.present t hb
    exact h.set h.lock hsame ⟨.outside, ⟨iff_of_false (fun hh => hfree (.inl hh)) (nomatch ·),
      fun hr => absurd (.inr hr) hfree⟩, rfl⟩
  · obtain ⟨phase, hat, rfl⟩ := h.follows t _ hm
    exact h.set h.lock hsame ⟨_, hat, .getForkGenerationNumber rfl⟩
  · obtain ⟨phase, hat, hlocks⟩ := h.follows t _ hm
    have hstep := hlocks fails pr.shared m h.lock hat fun hf hlocked =>
      hfails p u (by rw [he, hf]) (hat.locked.2 hlocked)
    rw [hact] at hstep
    exact h.set hstep.1 hstep.2.1 hstep.2.2

/-- Nobody holds the lock, the handler has its address, and no other thread is in an initializer that the child would
wait for. -/
def Shared.forkable (platform : Platform) (s : Shared) (t : ℕ) : Bool :=
  s.writer.isNone && s.readers.isEmpty && (!(platform.handler && s.registered) || s.addressed) &&
    (platform.restarts || match s.once with
      | .running u => u = t
      | _ => true)

lemma not_heldBy_of_forkable {s : Shared} (h : s.forkable platform t = true) (u : ℕ) : ¬ s.HeldBy u := by
  simp_all [Shared.forkable, Shared.HeldBy]

lemma exists_childOf (n : ℕ) {s : Shared} (h : s.forkable platform t = true) : ∃ s', childOf platform n s = some s' ∧
    s'.readers = [] ∧ s'.writer = none ∧ ∀ u, s'.once = .running u → u = t ∧ s.once = .running u := by
  simp only [Shared.forkable, Bool.and_eq_true, Option.isNone_iff_eq_none, List.isEmpty_iff, Bool.or_eq_true,
    Bool.not_eq_true'] at h
  obtain ⟨⟨⟨hw, hr⟩, haddressed⟩, honce⟩ := h
  have hreturns : (platform.handler && s.registered && !s.handlerReturns) = false := by
    rcases haddressed with hnot | haddressed
    · rw [hnot, Bool.false_and]
    · simp [Shared.handlerReturns, hw, hr, haddressed]
  rw [childOf, hreturns]
  refine ⟨_, rfl, hr, hw, fun u hu => ?_⟩
  change s.once.inChild platform.restarts = .running u at hu
  cases hs : s.once with
  | unused => rw [hs] at hu; cases hu
  | finished => rw [hs] at hu; cases hu
  | running v =>
    cases hrestarts : platform.restarts with
    | true => simp [hs, hrestarts, Once.inChild] at hu
    | false =>
      rw [hs, hrestarts] at hu honce
      obtain rfl : v = u := Once.running.inj hu
      exact ⟨by simpa using honce, rfl⟩

/-- The child of a process that forks at such a moment. -/
lemma Disciplined.forked {n : ℕ} (h : Disciplined pr) (hfork : pr.shared.forkable platform t = true)
    (hf : (forkSystem platform).forked n pr t = some pr') : Disciplined pr' := by
  obtain ⟨th, hth, hs', hthreads⟩ := System.forked_eq_some hf
  obtain ⟨s', hchild, hr, hw, honce⟩ := exists_childOf n hfork
  obtain rfl : s' = pr'.shared := Option.some.inj (hchild.symm.trans hs')
  have hfree : ∀ u, ¬ pr'.shared.HeldBy u := fun u => by simp [Shared.HeldBy, hr, hw]
  refine ⟨⟨fun _ => hr, hr ▸ List.nodup_nil⟩, fun u th' hu => ?_, fun u hu => ?_⟩
  · obtain ⟨rfl, rfl⟩ := (hthreads u th').1 hu
    obtain ⟨phase, hat, hlocks⟩ := h.follows u _ hth
    have hnot : phase ≠ .locked := fun heq => not_heldBy_of_forkable hfork u (hat.locked.2 heq)
    exact ⟨phase, ⟨iff_of_false (hfree u) hnot, fun ho => hat.initialising (honce u ho).2⟩, hlocks⟩
  · obtain rfl := (honce u (hu.resolve_left (hfree u))).1
    rw [(hthreads u th).2 ⟨rfl, rfl⟩]
    rfl

instance (s : Shared) (t : ℕ) : Decidable (s.HeldBy t) := inferInstanceAs (Decidable (_ ∨ _))

/-- A process forks only at such a moment, and a thread that gives up the lock is not refused. -/
def undisturbed (platform : Platform) (w : List (Process Bool Shared RandState)) : Event Bool Unit → Bool
  | .fork p t => w[p]?.all fun pr => pr.shared.forkable platform t
  | .act p t fails => w[p]?.all fun pr => !(fails && decide (pr.shared.HeldBy t))
  | _ => true

end Runs

/-- **No deadlock.** In every run in which a process forks only while nobody holds the lock and the detection is not
just being set up, every thread of every process can be carried to the end of its call, and a fork at such a moment
never hangs in the handler. -/
theorem fork_detection_never_hangs (platform : Platform) (es : List (Event Bool Unit))
    (h : (forkSystem platform).runsWhen (undisturbed platform) [firstProcess] es = true) (p : ℕ)
    (pr : Process Bool Shared RandState) (hpr : ((forkSystem platform).run [firstProcess] es)[p]? = some pr) (t : ℕ)
    (ht : (pr.threads t).isSome = true) :
    (∃ pr', Relation.ReflTransGen (Acts platform) pr pr' ∧ Returned pr' t) ∧
      ∀ n, pr.shared.forkable platform t = true → ((forkSystem platform).forked n pr t).isSome = true := by
  have hfirst : ∀ (p : ℕ) pr, [firstProcess][p]? = some pr → Disciplined pr := by
    intro p pr hpr
    obtain ⟨-, rfl⟩ : p = 0 ∧ firstProcess = pr := by
      cases p <;> simp_all
    refine ⟨⟨fun _ => rfl, List.nodup_nil⟩, fun t th hth => (nomatch hth), fun t ht => ?_⟩
    rcases ht with (ht | ht) | ht <;> cases ht
  have hdisc : Disciplined pr := by
    refine (forkSystem platform).run_all (I := fun _ => Disciplined) (fun w e pr pr' hok hpr h => ?_)
      (fun w p t pr pr' hok hpr h => ?_) es hfirst h p pr hpr
    · refine h.local fun p u he => ?_
      subst he
      rw [undisturbed, show w[p]? = some pr from hpr] at hok
      have hnot : ¬ pr.shared.HeldBy u := by simpa using hok
      exact hnot
    · rw [undisturbed, hpr] at hok
      exact h.forked hok
  obtain ⟨pr', hon, hret⟩ := hdisc.returns platform ht
  refine ⟨⟨pr', hon.steps, hret⟩, fun n hfork => ?_⟩
  obtain ⟨th, hth⟩ := Option.isSome_iff_exists.mp ht
  obtain ⟨s', hchild, -⟩ := exists_childOf n hfork
  simp [System.forked, forkSystem, hth, hchild]

/-- A thread asks for the number, forks, and asks again in the child. -/
def childCalls : List (Event Bool Unit) :=
  [.spawn 0 0, .call 0 0 ()] ++ List.replicate 13 (.act 0 0 false) ++ [.fork 0 0, .call 1 0 ()]

theorem fork_detection_returns_in_child :
    ∃ pr pr', ((forkSystem ⟨true, false⟩).run [firstProcess] childCalls)[1]? = some pr ∧
      Relation.ReflTransGen (Acts ⟨true, false⟩) pr pr' ∧ Returned pr' 0 := by
  obtain ⟨⟨pr', hsteps, hret⟩, -⟩ := fork_detection_never_hangs ⟨true, false⟩ childCalls (by decide) 1 _ rfl 0 rfl
  exact ⟨_, pr', rfl, hsteps, hret⟩

/-- The thread 0 does `n` actions of its call. -/
def callsBefore (n : ℕ) : List (Event Bool Unit) :=
  [.spawn 0 0, .spawn 0 1, .call 0 0 ()] ++ List.replicate n (.act 0 0 false)

/-- A thread has taken the lock to read the number when another one forks: the handler waits in the child for a
thread that is not there. Or it has registered the handler and not yet set the address: the handler aborts. -/
theorem fork_under_lock_hangs :
    (∃ pr, ((forkSystem ⟨true, true⟩).run [firstProcess] (callsBefore 10))[0]? = some pr ∧ pr.shared.HeldBy 0 ∧
      Returned pr 1 ∧ (forkSystem ⟨true, true⟩).forked 1 pr 1 = none) ∧
    ∃ pr, ((forkSystem ⟨true, true⟩).run [firstProcess] (callsBefore 4))[0]? = some pr ∧ (∀ u, ¬ pr.shared.HeldBy u) ∧
      Returned pr 1 ∧ (forkSystem ⟨true, true⟩).forked 1 pr 1 = none :=
  ⟨⟨_, rfl, .inl List.mem_cons_self, ⟨_, rfl⟩, rfl⟩, _, rfl, fun _ h => h.elim (nomatch ·) (nomatch ·), ⟨_, rfl⟩, rfl⟩

end S2nTls.Random
