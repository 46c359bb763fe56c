import S2nTls.Lib.Threads

/-!
The random generators of a thread and the detection of forks.

Each thread has two deterministic generators of its own. A call first makes sure that they are seeded and that the
process has not been forked since: a byte of a page that the kernel zeroes in a child (or that a handler zeroes
there) tells that the process is a child that has not noticed it yet, and a number that all threads share counts
the forks that have been noticed. A thread whose copy of that number is not the current one seeds its generators
again.

Outside the unit tests, where both the detection and the mixing of entropy can be switched off, and outside FIPS
mode, where the generators of the libcrypto are used.
-/

namespace S2nTls.Random

open S2nTls.Lib

/-- The byte on the page that is zeroed in a child: `S2N_FORK_EVENT` and `S2N_NO_FORK_EVENT`. -/
inductive Sentinel
  | forkEvent
  | noForkEvent
  deriving DecidableEq, Repr

/-- A generator that has been instantiated. The numbers are not in the source: they say in which process its first
seed was drawn, and in which one the entropy that was last mixed into it. -/
structure Drbg where
  seededIn : ℕ
  reseededIn : ℕ
  deriving DecidableEq, Repr

/-- `fork_detection_once`: the initializer has not been called, or the thread of the given number is in it, or it has
returned. -/
inductive Once
  | unused
  | running (t : ℕ)
  | finished
  deriving DecidableEq, Repr

/-- What the threads of a process share: `fgn_state`, where `addressed` tells whether `zero_on_fork_addr` is set and
`zeroOnFork` is the byte there, with its lock, held by the threads of the given numbers; and whether `pthread_atfork`
has been called. The rest is not in the source: the number of the process, and from which generator each block of output
of this process came. -/
structure Shared where
  once : Once := .unused
  registered : Bool := false
  isForkDetectionEnabled : Bool := false
  currentForkGenerationNumber : UInt64 := 0
  addressed : Bool := false
  zeroOnFork : Sentinel := .noForkEvent
  readers : List ℕ := []
  writer : Option ℕ := none
  pid : ℕ := 0
  outputs : List Drbg := []

def Shared.HeldBy (s : Shared) (t : ℕ) : Prop := t ∈ s.readers ∨ s.writer = some t

/-- `s2n_per_thread_rand_state`, and the local variables of a call: whether the thread is in the initializer of the
detection, the number that `s2n_get_fork_generation_number` returns, whether it saw a fork event, and whether the last
operation succeeded. Not in the source: in which process the last entropy was drawn, and that a block is still to be
generated for which it was drawn. -/
structure RandState where
  cachedForkGenerationNumber : UInt64 := 0
  publicDrbg : Option Drbg := none
  privateDrbg : Option Drbg := none
  drbgsInitialized : Bool := false
  initialises : Bool := false
  returned : UInt64 := 0
  sawFork : Bool := false
  ok : Bool := true
  drawnIn : ℕ := 0
  generating : Bool := false

/-- A program of a thread. The value from outside tells whether an operation that can fail does. -/
abbrev Program := Prog Bool Shared RandState

/-- An action that cannot fail. -/
def plain (act : Shared → RandState → Shared × RandState) (next : RandState → Program) : Program :=
  .step (fun _ _ s m => some (act s m)) next

def RandState.failed (m : RandState) : RandState := { m with ok := false, generating := false }

/-- `RESULT_GUARD`: an operation that may fail, and then the call fails. -/
def guarded (act : ℕ → Shared → RandState → Option (Shared × RandState)) (next : Program) : Program :=
  .step (fun t fails s m => if fails then some (s, m.failed) else act t s { m with ok := true })
    fun m => if m.ok then next else .done

/-! ### The lock -/

/-- `pthread_rwlock_rdlock`: waits while a thread holds the lock for writing. -/
def rdlock : Program → Program :=
  guarded fun t s m => if s.writer.isSome then none else some ({ s with readers := t :: s.readers }, m)

/-- `pthread_rwlock_wrlock`: waits while any thread holds the lock. -/
def wrlock : Program → Program :=
  guarded fun t s m =>
    if s.writer.isSome || !s.readers.isEmpty then none else some ({ s with writer := some t }, m)

def unlock : Program → Program :=
  guarded fun t s m =>
    if s.writer = some t then some ({ s with writer := none }, m)
    else some ({ s with readers := s.readers.erase t }, m)

/-! ### The detection of forks -/

/-- An operation of the initializer. -/
def attempt (act : Shared → Shared) (next failed : Program) : Program :=
  .step (fun _ fails s m => some (if fails then (s, { m with ok := false }) else (act s, { m with ok := true })))
    fun m => if m.ok then next else failed

def finishOnce (next : Program) : Program := plain (fun s m => ({ s with once := .finished }, m)) fun _ => next

/-- The end of `s2n_initialise_fork_detection_methods` if the detection cannot be set up. -/
def disableForkDetection (next : Program) : Program :=
  plain (fun s m => ({ s with addressed := false, isForkDetectionEnabled := false }, m)) fun _ => finishOnce next

/-- `s2n_initialise_fork_detection_methods_try`. The page that has been mapped is zero. -/
def initialiseForkDetectionMethodsTry (next : Program) : Program :=
  attempt id (attempt (fun s => { s with registered := true })
    (plain (fun s m => ({ s with addressed := true, zeroOnFork := .forkEvent }, m)) fun _ =>
      plain (fun s m => ({ s with zeroOnFork := .noForkEvent }, m)) fun _ =>
      plain (fun s m => ({ s with isForkDetectionEnabled := true }, m)) fun _ => finishOnce next)
    (disableForkDetection next)) (disableForkDetection next)

/-- `s2n_initialise_fork_detection_methods`, which maps a page first. -/
def initialiseForkDetectionMethods (next : Program) : Program :=
  attempt id (initialiseForkDetectionMethodsTry next) (finishOnce next)

/-- `pthread_once`: the first thread calls the initializer, and the others wait for it. -/
def pthreadOnce (next : Program) : Program :=
  .step (fun t _ s m =>
      match s.once with
      | .unused => some ({ s with once := .running t }, { m with initialises := true })
      | .running _ => none
      | .finished => some (s, { m with initialises := false }))
    fun m => if m.initialises then initialiseForkDetectionMethods next else next

/-- The second half, under the write lock. -/
def countFork (next : Program) : Program :=
  wrlock <|
    plain (fun s m => (s, { m with returned := s.currentForkGenerationNumber })) fun _ =>
    plain (fun s m => (s, { m with sawFork := s.zeroOnFork = .forkEvent })) fun m =>
    if m.sawFork then
      plain (fun s m => ({ s with zeroOnFork := .noForkEvent }, m)) fun _ =>
      plain (fun s m => ({ s with currentForkGenerationNumber := s.currentForkGenerationNumber + 1 }, m)) fun _ =>
      plain (fun s m => (s, { m with returned := s.currentForkGenerationNumber })) fun _ =>
      unlock next
    else unlock next

def getForkGenerationNumber (next : Program) : Program :=
  pthreadOnce <|
    guarded (fun _ s m => some (s, { m with ok := s.isForkDetectionEnabled })) <|
    rdlock <|
    plain (fun s m => (s, { m with returned := s.currentForkGenerationNumber })) fun _ =>
    plain (fun s m => (s, { m with sawFork := s.zeroOnFork = .forkEvent })) fun m =>
    unlock (if m.sawFork then countFork next else next)

/-! ### The generators -/

/-- `s2n_init_drbgs`. A thread whose generators are not both seeded stays uninitialized. -/
def initDrbgs (next : RandState → Program) : Program :=
  guarded (fun _ s m => some (s, { m with publicDrbg := some { seededIn := s.pid, reseededIn := s.pid } })) <|
    guarded (fun _ s m => some (s, { m with privateDrbg := some { seededIn := s.pid, reseededIn := s.pid } })) <|
    plain (fun s m => (s, { m with drbgsInitialized := true })) next

/-- The body of `s2n_ensure_initialized_drbgs` for generators that are not initialized. -/
def initAndCache (next : Program) : Program :=
  initDrbgs fun _ =>
    getForkGenerationNumber <|
    plain (fun s m => (s, { m with cachedForkGenerationNumber := m.returned })) fun _ => next

def ensureInitializedDrbgs (next : Program) : Program :=
  plain (fun s m => (s, m)) fun m => if m.drbgsInitialized then next else initAndCache next

def randCleanupThread (next : Program) : Program :=
  guarded (fun _ s m => some (s, { m with privateDrbg := none })) <|
    guarded (fun _ s m => some (s, { m with publicDrbg := none })) <|
    plain (fun s m => (s, { m with drbgsInitialized := false })) fun _ => next

def ensureUniqueness (next : Program) : Program :=
  getForkGenerationNumber <|
    plain (fun s m => (s, m)) fun m =>
    if m.returned ≠ m.cachedForkGenerationNumber then randCleanupThread (ensureInitializedDrbgs next) else next

inductive Which
  | publicData
  | privateData
  deriving DecidableEq, Repr

def RandState.drbg (m : RandState) : Which → Option Drbg
  | .publicData => m.publicDrbg
  | .privateData => m.privateDrbg

def RandState.setDrbg (m : RandState) (d : Drbg) : Which → RandState
  | .publicData => { m with publicDrbg := some d }
  | .privateData => { m with privateDrbg := some d }

/-- What is done with the generator of a call, if it has one. -/
def withDrbg (w : Which) (act : Drbg → Shared → RandState → Shared × RandState) : Program → Program :=
  guarded fun _ s m =>
    match m.drbg w with
    | none => some (s, m.failed)
    | some d => some (act d s m)

/-- `s2n_drbg_mix`: fresh entropy is drawn, and then mixed into the generator. -/
def drbgMix (w : Which) (next : Program) : Program :=
  withDrbg w (fun _ s m => (s, { m with drawnIn := s.pid, generating := true })) <|
    withDrbg w (fun d s m => (s, m.setDrbg { d with reseededIn := m.drawnIn } w)) next

/-- `s2n_drbg_bits`, block by block. -/
def drbgBits (w : Which) : ℕ → Program → Program
  | 0, next => next
  | n + 1, next =>
    withDrbg w (fun d s m => ({ s with outputs := d :: s.outputs }, { m with generating := decide (0 < n) }))
      (drbgBits w n next)

def drbgBlockSize : ℕ := 16
def drbgGenerateLimit : ℕ := 8192

def drbgGenerate (w : Which) (size : ℕ) (next : Program) : Program :=
  drbgMix w (drbgBits w ((size + drbgBlockSize - 1) / drbgBlockSize) (guarded (fun _ s m => some (s, m)) next))

/-- The sizes of the slices in which a request is filled. -/
def slices : (fuel remaining : ℕ) → List ℕ
  | 0, _ => []
  | fuel + 1, remaining =>
    if remaining = 0 then []
    else min remaining drbgGenerateLimit :: slices fuel (remaining - min remaining drbgGenerateLimit)

structure Request where
  which : Which
  size : ℕ

/-- `s2n_get_custom_random_data`: `s2n_get_public_random_data` and `s2n_get_private_random_data`. -/
def getCustomRandomData (r : Request) : Program :=
  ensureInitializedDrbgs (ensureUniqueness ((slices r.size r.size).foldr (drbgGenerate r.which) .done))

/-! ### Processes -/

/-- What differs from system to system: whether there is `pthread_atfork`, and whether `pthread_once` calls the
initializer again in a child whose parent was inside it. -/
structure Platform where
  handler : Bool
  restarts : Bool
  deriving DecidableEq, Repr

/-- `fork_detection_once` in a child. -/
def Once.inChild (restarts : Bool) : Once → Once
  | .running t => if restarts then .unused else .running t
  | once => once

/-- Whether the handler `s2n_pthread_atfork_on_fork` returns: it waits for ever if a thread of the parent held the lock,
and aborts if the address is not set. -/
def Shared.handlerReturns (s : Shared) : Bool := s.writer.isNone && s.readers.isEmpty && s.addressed

/-- The memory of a child. The byte is zeroed there, by the kernel or by the handler. -/
def childOf (platform : Platform) (n : ℕ) (s : Shared) : Option Shared :=
  if platform.handler && s.registered && !s.handlerReturns then none
  else some { s with
    once := s.once.inChild platform.restarts
    zeroOnFork := if s.addressed then .forkEvent else s.zeroOnFork
    pid := n
    outputs := [] }

def system (platform : Platform) : System Bool Shared RandState Request where
  body := getCustomRandomData
  fresh := {}
  child := childOf platform

/-- The first process, before any of its threads has asked for random data. -/
def firstProcess : Process Bool Shared RandState := { shared := {}, threads := fun _ => none }

end S2nTls.Random
