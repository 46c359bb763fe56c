import S2nTls.Tls.RsaKeyExchange

/-!
The runs of a server that waits for a ClientKeyExchange message.

The application calls `s2n_negotiate`, which calls the handler of the message until it is no longer
blocked, and may perform and apply the operation of the private key in between.
-/

namespace S2nTls

open Lib Stuffer

variable {K : Type}

/-! ### Runs -/

/-- A call that concerns the key exchange: the handler of the message, or a use of the operation. -/
inductive KexCall
  | clientKeyRecv
  | pkey (call : PkeyCall)
  deriving DecidableEq, Repr

/-- The result of a call and the connection after it. -/
def callResult (m : KexM K Unit) (c : KexConn K) : Except Err Unit × KexConn K :=
  match m.run c with
  | .ok _ c' => (.ok (), c')
  | .error e c' => (.error e, c')

/-- A server that waits for the message, and what was returned so far. -/
structure KexRun (K : Type) where
  conn : KexConn K
  /-- The result of the handler, once it is not blocked any more. -/
  outcome : Option (Except Err Unit) := none
  results : List (Except Err Unit) := []

/-- A blocked handler is called again. -/
def handlerOutcome : Except Err Unit → Option (Except Err Unit)
  | .error .asyncBlocked => none
  | x => some x

/-- One call. The state machine calls the handler as long as it has no outcome. -/
def KexRun.step (key : RsaKey) (r : KexRun K) : KexCall → KexRun K
  | .clientKeyRecv =>
    match r.outcome with
    | some _ => r
    | none =>
      let (x, c) := callResult (clientKeyRecv key) r.conn
      ⟨c, handlerOutcome x, x :: r.results⟩
  | .pkey call =>
    let (x, c) := callResult (call.exec key) r.conn
    ⟨c, r.outcome, x :: r.results⟩

/-- The run in which the application makes `calls`. -/
def kexRun (key : RsaKey) (c : KexConn K) (calls : List KexCall) : KexRun K :=
  calls.foldl (KexRun.step key) { conn := c }

/-! ### Two runs -/

lemma callResult_lockstep {m n : KexM K Unit} (h : Lockstep SamePublic Eq m n) {c d : KexConn K}
    (hcd : SamePublic c d) :
    (callResult m c).1 = (callResult n d).1 ∧ SamePublic (callResult m c).2 (callResult n d).2 := by
  have h := h c d hcd
  unfold callResult
  cases hm : m.run c <;> cases hn : n.run d <;> simp_all [SameEnd]

/-- Runs that look the same. -/
structure KexRun.Same (r r' : KexRun K) : Prop where
  conn : SamePublic r.conn r'.conn
  outcome : r.outcome = r'.outcome
  results : r.results = r'.results

lemma KexRun.Same.step (key key' : RsaKey) {r r' : KexRun K} (h : r.Same r') (call : KexCall) :
    (r.step key call).Same (r'.step key' call) := by
  cases call with
  | clientKeyRecv =>
    unfold KexRun.step
    rw [h.outcome]
    cases r'.outcome with
    | some _ => exact h
    | none =>
      have hc := callResult_lockstep (lockstep_clientKeyRecv key key') h.conn
      exact ⟨hc.2, congrArg handlerOutcome hc.1, congrArg₂ List.cons hc.1 h.results⟩
  | pkey call =>
    have hc := callResult_lockstep (lockstep_exec key key' call) h.conn
    exact ⟨hc.2, h.outcome, congrArg₂ List.cons hc.1 h.results⟩

lemma KexRun.Same.foldl (key key' : RsaKey) (calls : List KexCall) {r r' : KexRun K}
    (h : r.Same r') :
    (calls.foldl (KexRun.step key) r).Same (calls.foldl (KexRun.step key') r') := by
  induction calls generalizing r r' with
  | nil => exact h
  | cons call calls ih => exact ih (h.step key key' call)

/-! ### The message -/

lemma rawRead_of_le {t : Stuffer} {n : ℕ} (h : n ≤ t.dataAvailable) :
    (rawRead n).run t =
      .ok (if t.blob.isNull then none else some t.readCursor) (t.advanceRead n h).taint := by
  simp [rawRead, EStateM.run, h]

/-- The encrypted premaster secret in the message. -/
def Conn.encryptedPremaster (c : Conn K) : List UInt8 :=
  if c.actualProtocolVersion = sslv3 then c.body.take (c.body.length % 2 ^ 16)
  else (c.body.drop 2).take (beNat (c.body.take 2))

lemma wp_encryptedLength (c : Conn K) :
    wp (encryptedLength c)
      (fun n c' => c'.body.take n = c.encryptedPremaster ∧ c'.clientProtocolVersion = c.clientProtocolVersion)
      (fun e _ => e ≠ .asyncBlocked) c := by
  unfold encryptedLength Conn.encryptedPremaster
  by_cases hv : c.actualProtocolVersion = sslv3
  · simp [hv, Conn.body]
  · simp only [hv, if_false]
    unfold onIo readUint
    rw [wp_zoom, wp_bind]
    by_cases h : 2 ≤ c.handshake.io.dataAvailable
    · rw [wp_readBytes_of_le (isNull_eq_false_of_pos (by omega)) h, wp_pure]
      exact ⟨congrArg (List.take _) (unread_advanceRead h), rfl⟩
    · rw [wp_readBytes_of_lt h]
      decide

lemma wp_readEncrypted (c : Conn K) :
    wp readEncrypted
      (fun bs c' => bs = c.encryptedPremaster ∧ c'.clientProtocolVersion = c.clientProtocolVersion)
      (fun e _ => e ≠ .asyncBlocked) c := by
  unfold readEncrypted
  rw [wp_read]
  refine wp_then (wp_encryptedLength c) fun n c' hc' => ?_
  rw [wp_read]
  refine wp_guard (by decide) fun hle => ?_
  rw [wp_bind, onIo, wp_zoom, wp_of_ok (rawRead_of_le hle)]
  cases c'.handshake.io.blob.isNull with
  | true => exact fun h => by cases h
  | false =>
    refine wp_guard (by decide) fun _ => ?_
    rw [wp_pure]
    exact ⟨(take_unread hle).symm.trans hc'.1, hc'.2⟩

/-! ### What the flag says -/

/-- The decryption of `encrypted` gives a secret that begins with `version`. -/
def RsaKey.accepts (key : RsaKey) (version encrypted : List UInt8) : Bool :=
  match key.plaintext tlsSecretLen encrypted with
  | some p => decide (version = p.take 2)
  | none => false

/-- A secret of the right size that begins with `version`. -/
def VersionedPremaster (version p : List UInt8) : Prop :=
  p.length = tlsSecretLen ∧ p.take 2 = version

/-- An operation that holds the message or its decryption. -/
structure AsyncPkeyOp.Sound (key : RsaKey) (encrypted : List UInt8) (o : AsyncPkeyOp) : Prop where
  encrypted_eq : o.complete = false → o.encrypted = encrypted
  decrypted_length : o.applied = false → o.decrypted.length = tlsSecretLen
  decrypted_eq : o.complete = true → o.applied = false →
    key.plaintext tlsSecretLen encrypted = some o.decrypted ∧ o.rsaFailed = false ∨
    key.plaintext tlsSecretLen encrypted = none ∧ o.rsaFailed = true

/-- **Invariant of a server that waits for the message** `encrypted`: the operation it gave away is
sound, and once that is applied the premaster secret is versioned and the flag is right. -/
structure KexInv (key : RsaKey) (version encrypted : List UInt8) (c : KexConn K) : Prop where
  version_eq : c.clientHelloVersionBytes = version
  premasters : ∀ p ∈ c.kex.premasters, VersionedPremaster version p
  unread : c.kex.asyncState = .notInvoked → c.conn.encryptedPremaster = encrypted
  invoked : c.kex.asyncState = .invoked → ∃ o, c.kex.op = some o ∧ o.Sound key encrypted
  complete : c.kex.asyncState = .complete →
    VersionedPremaster version c.kex.rsaPremasterSecret ∧
    c.conn.handshake.rsaFailed = !key.accepts version encrypted

variable {c : KexConn K} {version encrypted : List UInt8} {key : RsaKey}

lemma clientHelloVersionBytes_length (c : KexConn K) : c.clientHelloVersionBytes.length = 2 := rfl

lemma rsaFailed_eq_not_accepts {failed : Bool} {p : List UInt8}
    (h : key.plaintext tlsSecretLen encrypted = some p ∧ failed = false ∨
      key.plaintext tlsSecretLen encrypted = none ∧ failed = true) :
    (failed || decide (version ≠ p.take 2)) = !key.accepts version encrypted := by
  unfold RsaKey.accepts
  obtain ⟨hp, rfl⟩ | ⟨hp, rfl⟩ := h
  · simp [hp]
  · simp [hp]

lemma pkeyDecrypt_cases (key : RsaKey) (encrypted : List UInt8) {out : List UInt8}
    (hout : out.length = tlsSecretLen) :
    key.plaintext tlsSecretLen encrypted = some (pkeyDecrypt key encrypted out).2 ∧
      (pkeyDecrypt key encrypted out).1 = false ∨
    key.plaintext tlsSecretLen encrypted = none ∧ (pkeyDecrypt key encrypted out).1 = true := by
  have h := pkeyDecrypt_eq key encrypted out
  rw [hout] at h
  cases hp : key.plaintext tlsSecretLen encrypted with
  | none => exact .inr ⟨rfl, h.2.1 hp⟩
  | some p =>
    left
    rw [h.1 p hp]
    exact ⟨rfl, rfl⟩

lemma wp_rsaClientKeyRecvComplete {failed : Bool} {p : List UInt8}
    (h : key.plaintext tlsSecretLen encrypted = some p ∧ failed = false ∨
      key.plaintext tlsSecretLen encrypted = none ∧ failed = true)
    (hlen : p.length = tlsSecretLen) (hc : c.clientHelloVersionBytes = version) :
    wp (rsaClientKeyRecvComplete failed p)
      (fun _ c' => c'.clientHelloVersionBytes = version ∧ c'.kex.premasters = c.kex.premasters ∧
        c'.kex.asyncState = c.kex.asyncState ∧ c'.kex.op = c.kex.op ∧
        VersionedPremaster version c'.kex.rsaPremasterSecret ∧
        c'.conn.handshake.rsaFailed = !key.accepts version encrypted)
      noError c := by
  unfold rsaClientKeyRecvComplete
  refine wp_ensured hlen ?_
  rw [wp_read, wp_modify]
  subst hc
  refine ⟨rfl, rfl, rfl, rfl, ⟨?_, ?_⟩, ?_⟩
  · rw [List.length_append, clientHelloVersionBytes_length, List.length_drop, hlen]
    rfl
  · exact List.take_left' (clientHelloVersionBytes_length c)
  · exact rsaFailed_eq_not_accepts h

lemma keeps_asyncPkeyOpPerform :
    Keeps (KexInv key version encrypted) (asyncPkeyOpPerform key : KexM K Unit) := by
  intro c hc
  unfold asyncPkeyOpPerform
  rw [wp_read]
  cases hop : c.kex.op with
  | none => exact hc
  | some o =>
    refine wp_guard hc fun hinc => ?_
    unfold modifyKex
    rw [wp_modify]
    refine ⟨hc.version_eq, hc.premasters, hc.unread, fun hinv => ⟨_, rfl, ?_⟩, hc.complete⟩
    obtain ⟨o', ho', hs⟩ := hc.invoked hinv
    obtain rfl : o = o' := Option.some.inj (hop.symm.trans ho')
    refine ⟨fun h => by simp at h, fun h => ?_, fun _ h => ?_⟩
    · rw [pkeyDecrypt_length]
      exact hs.decrypted_length h
    · rw [← hs.encrypted_eq hinc]
      exact pkeyDecrypt_cases key o.encrypted (hs.decrypted_length h)

lemma keeps_asyncPkeyOpApply :
    Keeps (KexInv key version encrypted) (asyncPkeyOpApply : KexM K Unit) := by
  intro c hc
  unfold asyncPkeyOpApply
  rw [wp_read]
  cases hop : c.kex.op with
  | none => exact hc
  | some o =>
    refine wp_guard hc fun hcomplete => ?_
    refine wp_guard hc fun happlied => ?_
    refine wp_guard hc fun hinv => ?_
    obtain ⟨o', ho', hs⟩ := hc.invoked hinv
    obtain rfl : o = o' := Option.some.inj (hop.symm.trans ho')
    refine wp_sure_then (wp_rsaClientKeyRecvComplete (hs.decrypted_eq hcomplete happlied)
      (hs.decrypted_length happlied) hc.version_eq) fun _ c' hc' => ?_
    obtain ⟨hversion, hpremasters, -, -, hgood, hflag⟩ := hc'
    unfold modifyKex
    rw [wp_modify]
    exact ⟨hversion, hpremasters ▸ hc.premasters, fun h => by simp at h, fun h => by simp at h,
      fun _ => ⟨hgood, hflag⟩⟩

lemma keeps_exec (call : PkeyCall) :
    Keeps (KexInv key version encrypted) (call.exec key : KexM K Unit) := by
  cases call with
  | perform => exact keeps_asyncPkeyOpPerform
  | apply => exact keeps_asyncPkeyOpApply

/-- The calls of the callback; their errors are the application's. -/
lemma wp_execPkeyCalls (calls : List PkeyCall)
    (hc : KexInv key version encrypted c) :
    wp (execPkeyCalls key calls) (fun _ => KexInv key version encrypted) noError c := by
  induction calls generalizing c with
  | nil => exact hc
  | cons call calls ih =>
    unfold execPkeyCalls
    rw [wp_bind, wp_attempt]
    exact wp_always (fun _ h => ih h) (keeps_exec call c hc)

/-- After an error: either the handler is blocked, or it is never called again. -/
def BlockedOrDead (key : RsaKey) (version encrypted : List UInt8) (e : Err) (c : KexConn K) : Prop :=
  (∀ p ∈ c.kex.premasters, VersionedPremaster version p) ∧
  (e = .asyncBlocked → KexInv key version encrypted c ∧ c.kex.asyncState ≠ .complete)

/-- After the premaster secret was received. -/
structure Received (key : RsaKey) (version encrypted : List UInt8) (c : KexConn K) : Prop where
  premasters : ∀ p ∈ c.kex.premasters, VersionedPremaster version p
  premaster : VersionedPremaster version c.kex.rsaPremasterSecret
  rsaFailed : c.conn.handshake.rsaFailed = !key.accepts version encrypted
  not_invoked : c.kex.asyncState ≠ .invoked

lemma BlockedOrDead.of_ne {e : Err} (he : e ≠ .asyncBlocked)
    (h : ∀ p ∈ c.kex.premasters, VersionedPremaster version p) :
    BlockedOrDead key version encrypted e c := ⟨h, fun h' => absurd h' he⟩

lemma wp_asyncCbExecute (cb : PkeyCallback) {o : AsyncPkeyOp} (ho : o.Sound key encrypted)
    (hversion : c.clientHelloVersionBytes = version)
    (hpremasters : ∀ p ∈ c.kex.premasters, VersionedPremaster version p) :
    wp (asyncCbExecute key cb o) (fun _ c' => Received key version encrypted c')
      (BlockedOrDead key version encrypted) c := by
  unfold asyncCbExecute
  rw [wp_read]
  refine wp_guard (BlockedOrDead.of_ne (by decide) hpremasters) fun _ => ?_
  unfold modifyKex
  rw [wp_update]
  have hinv : KexInv key version encrypted
      { c with kex := { c.kex with asyncState := .invoked, op := some o } } :=
    ⟨hversion, hpremasters, fun h => by simp at h, fun _ => ⟨o, rfl, ho⟩, fun h => by simp at h⟩
  refine wp_sure_then (wp_execPkeyCalls cb.calls hinv) fun _ c' hc' => ?_
  refine wp_guard (BlockedOrDead.of_ne (by decide) hc'.premasters) fun _ => ?_
  rw [wp_read, wp_ensure]
  refine ⟨fun hcomplete => ?_, fun hne => ⟨hc'.premasters, fun _ => ⟨hc', hne⟩⟩⟩
  obtain ⟨hgood, hflag⟩ := hc'.complete hcomplete
  exact ⟨hc'.premasters, hgood, hflag, by rw [hcomplete]; decide⟩

lemma wp_asyncPkeyDecrypt (hversion : c.clientHelloVersionBytes = version)
    (hpremasters : ∀ p ∈ c.kex.premasters, VersionedPremaster version p)
    (hlen : c.kex.rsaPremasterSecret.length = tlsSecretLen)
    (hasync : c.kex.asyncState = .notInvoked) :
    wp (asyncPkeyDecrypt key encrypted) (fun _ c' => Received key version encrypted c')
      (BlockedOrDead key version encrypted) c := by
  unfold asyncPkeyDecrypt
  rw [wp_read]
  cases c.kex.asyncPkeyCb with
  | some cb =>
    refine wp_guard (BlockedOrDead.of_ne (by decide) hpremasters) fun _ => ?_
    refine wp_guard (BlockedOrDead.of_ne (by decide) hpremasters) fun _ => ?_
    refine wp_guard (BlockedOrDead.of_ne (by decide) hpremasters) fun _ => ?_
    exact wp_asyncCbExecute cb ⟨fun _ => rfl, fun _ => hlen, fun h => by simp at h⟩ hversion
      hpremasters
  | none =>
    unfold modifyKex
    rw [wp_update]
    refine wp_sure (fun _ c' hc' => ?_)
      (wp_rsaClientKeyRecvComplete (pkeyDecrypt_cases key encrypted hlen)
        ((pkeyDecrypt_length _ _ _).trans hlen) hversion)
    obtain ⟨-, hpre, hstate, -, hgood, hflag⟩ := hc'
    exact ⟨hpre ▸ hpremasters, hgood, hflag, by rw [hstate]; exact hasync ▸ by decide⟩

lemma wp_getPrivateRandomData (n : ℕ) (c : Conn K) :
    wp (getPrivateRandomData n)
      (fun bs c' => bs.length = n ∧ c'.clientProtocolVersion = c.clientProtocolVersion)
      (fun e _ => e ≠ .asyncBlocked) c := by
  unfold getPrivateRandomData getPublicRandomData
  rw [wp_read]
  refine wp_guard (by decide) fun _ => ?_
  rw [wp_update, wp_pure]
  exact ⟨slice_length _ _ _, rfl⟩

lemma clientHelloVersionBytes_congr {d : Conn K}
    (h : d.clientProtocolVersion = c.conn.clientProtocolVersion) :
    ({ c with conn := d } : KexConn K).clientHelloVersionBytes = c.clientHelloVersionBytes := by
  unfold KexConn.clientHelloVersionBytes KexConn.clientHelloProtocolVersion
  rw [h]

lemma wp_rsaClientKeyRecv (hc : KexInv key version encrypted c) :
    wp (rsaClientKeyRecv key) (fun _ c' => Received key version encrypted c')
      (BlockedOrDead key version encrypted) c := by
  unfold rsaClientKeyRecv
  rw [wp_read]
  cases hasync : c.kex.asyncState with
  | invoked => exact ⟨hc.premasters, fun _ => ⟨hc, by rw [hasync]; decide⟩⟩
  | complete =>
    obtain ⟨hgood, hflag⟩ := hc.complete hasync
    exact ⟨hc.premasters, hgood, hflag, fun h => by cases h⟩
  | notInvoked =>
    unfold onConn
    rw [wp_bind, wp_zoom]
    refine wp_mono (fun bs d hd => ?_) (fun e _ he => BlockedOrDead.of_ne he hc.premasters)
      (wp_readEncrypted c.conn)
    obtain ⟨rfl, hd⟩ := hd
    rw [wp_bind, wp_zoom]
    refine wp_mono (fun random d' hd' => ?_) (fun e _ he => BlockedOrDead.of_ne he hc.premasters)
      (wp_getPrivateRandomData _ d)
    unfold modifyKex
    rw [wp_update, hc.unread hasync]
    refine wp_asyncPkeyDecrypt ?_ hc.premasters ?_ hasync
    · exact (clientHelloVersionBytes_congr (hd'.2.trans hd)).trans hc.version_eq
    · rw [List.length_append, clientHelloVersionBytes_length, List.length_drop, hd'.1]
      rfl

/-- What deriving the keys leaves alone. -/
structure KexCore where
  premasters : List (List UInt8)
  asyncState : AsyncState
  rsaFailed : Bool

def KexConn.core (c : KexConn K) : KexCore :=
  ⟨c.kex.premasters, c.kex.asyncState, c.conn.handshake.rsaFailed⟩

lemma wp_prfCalculateMasterSecret (p : List UInt8) (c : KexConn K) :
    wp (prfCalculateMasterSecret p) (fun _ c' => c'.core = c.core)
      (fun e c' => e ≠ .asyncBlocked ∧ c'.core = c.core) c := by
  unfold prfCalculateMasterSecret
  rw [wp_read]
  refine wp_guard ⟨by decide, rfl⟩ fun _ => ?_
  have hhash : wp (when (c.kex.emsNegotiated = true)
      (ensure (c.conn.env.fault .hash = false) .hashCopyFailed)) (fun _ c' => c' = c)
      (fun e c' => e ≠ Err.asyncBlocked ∧ c' = c) c := by simp
  refine wp_seq hhash ?_ ?_
  · rintro _ _ rfl
    refine wp_guard ⟨by decide, rfl⟩ fun _ => ?_
    rw [wp_modify]
    rfl
  · rintro e _ ⟨he, rfl⟩
    exact ⟨he, rfl⟩

lemma wp_prfKeyExpansion (c : KexConn K) :
    wp prfKeyExpansion (fun _ c' => c'.core = c.core)
      (fun e c' => e ≠ .asyncBlocked ∧ c'.core = c.core) c := by
  unfold prfKeyExpansion modifyKex
  rw [wp_read]
  refine wp_guard ⟨by decide, rfl⟩ fun _ => ?_
  refine wp_guard ⟨by decide, rfl⟩ fun _ => ?_
  refine wp_guard ⟨by decide, rfl⟩ fun _ => ?_
  refine wp_guard ⟨by decide, rfl⟩ fun _ => ?_
  rw [wp_update]
  refine wp_guard ⟨by decide, rfl⟩ fun _ => ?_
  rw [wp_update]
  refine wp_guard ⟨by decide, rfl⟩ fun _ => ?_
  rw [wp_modify]
  rfl

lemma wp_calculateKeys (c : KexConn K) :
    wp calculateKeys
      (fun _ c' => c'.core = { c.core with
        premasters := c.kex.rsaPremasterSecret :: c.kex.premasters })
      (fun e c' => e ≠ .asyncBlocked ∧ c'.core = { c.core with
        premasters := c.kex.rsaPremasterSecret :: c.kex.premasters }) c := by
  unfold calculateKeys modifyKex
  rw [wp_read, wp_update]
  refine wp_then (wp_prfCalculateMasterSecret _ _) fun _ c' hc' => ?_
  exact wp_mono (fun _ _ h => h.trans hc') (fun _ _ h => ⟨h.1, h.2.trans hc'⟩) (wp_prfKeyExpansion c')

/-- The handler: the flag is set right, or it is blocked, or it fails for good. -/
lemma wp_clientKeyRecv (hc : KexInv key version encrypted c) :
    wp (clientKeyRecv key)
      (fun _ c' => (∀ p ∈ c'.kex.premasters, VersionedPremaster version p) ∧
        c'.conn.handshake.rsaFailed = (!key.accepts version encrypted) ∧
        c'.kex.asyncState ≠ .invoked)
      (BlockedOrDead key version encrypted) c := by
  unfold clientKeyRecv
  rw [wp_bind, wp_attempt]
  refine wp_seq (wp_rsaClientKeyRecv hc) (fun _ c' hc' => ?_) fun e c' hc' => ?_
  · have hgood : ∀ p ∈ c'.kex.rsaPremasterSecret :: c'.kex.premasters,
        VersionedPremaster version p := List.forall_mem_cons.mpr ⟨hc'.premaster, hc'.premasters⟩
    refine wp_mono (fun _ c'' hcore => ?_) (fun e c'' hcore => ?_) (wp_calculateKeys c')
    · have hpre : c''.kex.premasters = c'.kex.rsaPremasterSecret :: c'.kex.premasters :=
        congrArg KexCore.premasters hcore
      have hstate : c''.kex.asyncState = c'.kex.asyncState := congrArg KexCore.asyncState hcore
      refine ⟨fun p hp => hgood p (hpre ▸ hp), ?_, fun h => hc'.not_invoked (hstate ▸ h)⟩
      exact (congrArg KexCore.rsaFailed hcore).trans hc'.rsaFailed
    · have hpre : c''.kex.premasters = c'.kex.rsaPremasterSecret :: c'.kex.premasters :=
        congrArg KexCore.premasters hcore.2
      exact BlockedOrDead.of_ne hcore.1 fun p hp => hgood p (hpre ▸ hp)
  · -- the secret is wiped; what the operation needs is in the operation
    refine ⟨hc'.1, fun he => ?_⟩
    obtain ⟨hinv, hne⟩ := hc'.2 he
    exact ⟨⟨hinv.version_eq, hinv.premasters, hinv.unread, hinv.invoked, fun h => absurd h hne⟩, hne⟩

/-- The operation does not derive a secret. -/
lemma frames_exec (key : RsaKey) (call : PkeyCall) :
    Frames (fun c : KexConn K => c.kex.premasters) (call.exec key) := by
  cases call with
  | perform =>
    refine .read fun c => ?_
    cases c.kex.op with
    | none => exact .throw _
    | some o => exact .checked <| .modify fun _ => rfl
  | apply =>
    refine .read fun c => ?_
    cases c.kex.op with
    | none => exact .throw _
    | some o =>
      refine .checked <| .checked <|
        .checked <| .bind ?_ fun _ => .modify fun _ => rfl
      exact .checked <| .read fun _ =>
        .modify fun _ => rfl

/-- An operation that is not waited for does not touch the flag. -/
lemma wp_exec_of_not_invoked (call : PkeyCall) (h : c.kex.asyncState ≠ .invoked)
    {P : KexConn K → Prop} (hP : ∀ o, P { c with kex := { c.kex with op := o } }) :
    wp (call.exec key) (fun _ => P) (fun _ => P) c := by
  have hc : P c := hP c.kex.op
  cases call with
  | perform =>
    unfold PkeyCall.exec asyncPkeyOpPerform
    rw [wp_read]
    cases c.kex.op with
    | none => exact hc
    | some o => exact wp_seq_ensure (fun _ => hP _) fun _ => hc
  | apply =>
    unfold PkeyCall.exec asyncPkeyOpApply
    rw [wp_read]
    cases c.kex.op with
    | none => exact hc
    | some o =>
      refine wp_guard hc fun _ => ?_
      refine wp_guard hc fun _ => ?_
      exact wp_seq_ensure (fun h' => absurd h' h) fun _ => hc

/-! ### Whole runs -/

structure KexRun.Inv (key : RsaKey) (version encrypted : List UInt8) (r : KexRun K) : Prop where
  premasters : ∀ p ∈ r.conn.kex.premasters, VersionedPremaster version p
  waiting : r.outcome = none → KexInv key version encrypted r.conn
  received : r.outcome = some (.ok ()) →
    r.conn.conn.handshake.rsaFailed = (!key.accepts version encrypted) ∧
    r.conn.kex.asyncState ≠ .invoked

lemma callResult_of_wp {m : KexM K Unit} {Q : Except Err Unit → KexConn K → Prop}
    (h : wp m (fun _ => Q (.ok ())) (fun e => Q (.error e)) c) :
    Q (callResult m c).1 (callResult m c).2 := by
  unfold wp at h
  unfold callResult
  cases hm : m.run c <;> simpa [hm] using h

lemma KexRun.Inv.step {r : KexRun K} (h : r.Inv key version encrypted) (call : KexCall) :
    (r.step key call).Inv key version encrypted := by
  cases call with
  | clientKeyRecv =>
    unfold KexRun.step
    cases hout : r.outcome with
    | some _ => exact h
    | none =>
      refine callResult_of_wp (Q := fun x c => KexRun.Inv key version encrypted
        ⟨c, handlerOutcome x, x :: r.results⟩) ?_
      refine wp_mono (fun _ c hc => ?_) (fun e c hc => ?_) (wp_clientKeyRecv (h.waiting hout))
      · exact ⟨hc.1, fun h => by simp [handlerOutcome] at h, fun _ => hc.2⟩
      · refine ⟨hc.1, fun hnone => (hc.2 ?_).1, fun hok => ?_⟩
        · cases e <;> simp [handlerOutcome] at hnone ⊢
        · cases e <;> simp [handlerOutcome] at hok
  | pkey call =>
    have hpre := callResult_of_wp (Q := fun _ c => c.kex.premasters = r.conn.kex.premasters)
      (frames_exec key call r.conn)
    refine ⟨fun p hp => h.premasters p (hpre ▸ hp), fun hnone => ?_, fun hok => ?_⟩
    · exact callResult_of_wp (Q := fun _ c => KexInv key version encrypted c)
        (keeps_exec call r.conn (h.waiting hnone))
    · obtain ⟨hflag, hstate⟩ := h.received hok
      exact callResult_of_wp (Q := fun _ c =>
        c.conn.handshake.rsaFailed = (!key.accepts version encrypted) ∧ c.kex.asyncState ≠ .invoked)
        (wp_exec_of_not_invoked call hstate fun _ => ⟨hflag, hstate⟩)

lemma KexRun.Inv.foldl (calls : List KexCall) {r : KexRun K} (h : r.Inv key version encrypted) :
    (calls.foldl (KexRun.step key) r).Inv key version encrypted := by
  induction calls generalizing r with
  | nil => exact h
  | cons call calls ih => exact ih (h.step call)

/-- A server to which the message is dispatched for the first time. -/
structure KexConn.AwaitsClientKey (c : KexConn K) : Prop where
  asyncState : c.kex.asyncState = .notInvoked
  premasters : c.kex.premasters = []

lemma KexConn.AwaitsClientKey.inv (h : c.AwaitsClientKey) (key : RsaKey) :
    KexRun.Inv key c.clientHelloVersionBytes c.conn.encryptedPremaster { conn := c } := by
  have hpre : ∀ p ∈ c.kex.premasters, VersionedPremaster c.clientHelloVersionBytes p := by
    simp [h.premasters]
  refine ⟨hpre, fun _ => ⟨rfl, hpre, fun _ => rfl, fun h' => ?_, fun h' => ?_⟩, fun h => by simp at h⟩
  · simp [h.asyncState] at h'
  · simp [h.asyncState] at h'

lemma clientFinishedRecv_of_rsaFailed {d : Conn K} (h : d.handshake.rsaFailed = true) :
    ¬ ∃ d', clientFinishedRecv.run d = .ok () d' := by
  intro hok
  have hready := ((FinishedHandler.client.recv_ok_iff d).mp hok).1
  simp [FinishedHandler.Ready, h] at hready

/-- **The decryption of the premaster secret is not visible.** Two servers in one state, with keys
that decrypt the message in any two ways, return the same results to the same calls and end in
states that differ in the secrets and in `rsa_failed` only. Every secret from which a master secret
is derived begins with the version of the ClientHello. If the message does not decrypt, or to
something that does not begin with that version, no Finished message is accepted later. -/
theorem rsa_decryption_invisible (key key' : RsaKey) (calls : List KexCall) (c : KexConn K)
    (h : c.AwaitsClientKey) :
    (kexRun key c calls).results = (kexRun key' c calls).results ∧
    (kexRun key c calls).outcome = (kexRun key' c calls).outcome ∧
    SamePublic (kexRun key c calls).conn (kexRun key' c calls).conn ∧
    (∀ p ∈ (kexRun key c calls).conn.kex.premasters,
      p.length = tlsSecretLen ∧ p.take 2 = c.clientHelloVersionBytes) ∧
    ((kexRun key c calls).outcome = some (.ok ()) →
      key.accepts c.clientHelloVersionBytes c.conn.encryptedPremaster = false →
      ∀ d : Conn K, d.handshake.rsaFailed = (kexRun key c calls).conn.conn.handshake.rsaFailed →
        ¬ ∃ d', clientFinishedRecv.run d = .ok () d') := by
  have hsame : (kexRun key c calls).Same (kexRun key' c calls) :=
    KexRun.Same.foldl key key' calls ⟨rfl, rfl, rfl⟩
  have hinv : (kexRun key c calls).Inv key c.clientHelloVersionBytes c.conn.encryptedPremaster :=
    KexRun.Inv.foldl calls (h.inv key)
  refine ⟨hsame.results, hsame.outcome, hsame.conn, hinv.premasters, fun hok hrej d hd => ?_⟩
  refine clientFinishedRecv_of_rsaFailed ?_
  rw [hd, (hinv.received hok).1, hrej]
  rfl

/-! ### An example -/

/-- A server that has received a ClientKeyExchange message with an encrypted secret of one byte. -/
def rsaServer : KexConn Unit where
  conn :=
    { mode := .server
      clientProtocolVersion := tls12
      actualProtocolVersion := tls12
      crypto :=
        { initial := CryptoParameters.new ()
          secure := ⟨copyingCipherSuite, CryptoSide.new (), CryptoSide.new ()⟩ }
      handshake :=
        { io := Stuffer.initWritten
            ⟨fun i => if i = 1 then 1 else 0, 3, false, fun h => Bool.noConfusion h, by decide⟩
          handshakeType := HandshakeType.negotiated ||| HandshakeType.fullHandshake
          messageNumber := 4
          stateMachine := .tls12 } }
  kex := { clientHelloVersion := tls12 }

/-- A key under which everything decrypts to ones, which is no padding; the random bytes that are
used instead begin with the version of TLS1.2. -/
def unpaddedKey : RsaKey where
  size := 64
  raw _ := some (List.replicate 64 1)
  random _ := 3

def failingKey : RsaKey where
  size := 64
  raw _ := none

/-- The two keys give the same results, and with the second no Finished message is accepted. -/
theorem rsa_decryption_invisible_rsaServer :
    rsaServer.AwaitsClientKey ∧
    (kexRun failingKey rsaServer [.clientKeyRecv]).outcome = some (.ok ()) ∧
    (kexRun failingKey rsaServer [.clientKeyRecv]).results =
      (kexRun unpaddedKey rsaServer [.clientKeyRecv]).results :=
  ⟨⟨rfl, rfl⟩, rfl, (rsa_decryption_invisible failingKey unpaddedKey [.clientKeyRecv] rsaServer ⟨rfl, rfl⟩).1⟩

/-- The server when the Finished message of the client has arrived. -/
def withFinished (c : Conn Unit) : Conn Unit :=
  let io := Stuffer.initWritten ⟨fun _ => 0, 12, false, fun h => Bool.noConfusion h, by decide⟩
  { c with handshake := { c.handshake with io := io } }

/-- **A failed padding check alone does not stop a handshake**: the random bytes may begin with the
version. -/
theorem unpadded_premaster_completes :
    rsaServer.AwaitsClientKey ∧
    (∃ src, unpaddedKey.raw rsaServer.conn.encryptedPremaster = some src ∧ ∀ data, ¬ Pkcs1Pads src data) ∧
    (kexRun unpaddedKey rsaServer [.clientKeyRecv]).outcome = some (.ok ()) ∧
    ∃ d, clientFinishedRecv.run
      (withFinished (kexRun unpaddedKey rsaServer [.clientKeyRecv]).conn.conn) = .ok () d := by
  refine ⟨⟨rfl, rfl⟩, ⟨List.replicate 64 1, rfl, ?_⟩, rfl, _, rfl⟩
  rintro data ⟨padding, h, -⟩
  have hhead := congrArg List.head? h
  simp at hhead

end S2nTls
