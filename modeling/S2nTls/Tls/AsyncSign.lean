import S2nTls.Lib.Calls
import S2nTls.Tls.ClientKeyExchange

/-!
Signatures (`tls/s2n_async_pkey.c`).

A handler signs with the private key itself, or hands an operation to the application. The application performs the
operation or supplies the signature, and applies it. With `verify_after_sign` the handler verifies its own signature,
and an operation is made in the mode in which applying it verifies the signature. That mode is a field of the
operation that the application may set, so it can apply a signature that was not verified. In every run in which
operations are in that mode when they are applied, all signatures are verified.
-/

namespace S2nTls.AsyncSign

open Lib

/-! ### Hashes and keys -/

inductive ValidationMode
  | fast | strict
  deriving DecidableEq, Repr

/-- `struct s2n_hash_state`, with the digest of what was put in. -/
structure HashState where
  digest : List UInt8
  isReadyForInput : Bool := true

def hashDigest : EStateM Err HashState (List UInt8) := do
  let h ← get
  ensure (h.isReadyForInput = true) .hashNotReady
  set { h with isReadyForInput := false }
  return h.digest

/-- A private key, for signature algorithms `A`. -/
structure SigningKey (A : Type) where
  /-- `s2n_pkey_size` -/
  size : Option ℕ
  /-- `EVP_PKEY_sign` -/
  sign : A → List UInt8 → Option (List UInt8)

/-- What the libraries do, for public keys `P`. -/
structure SignLib (A P : Type) where
  malloc : ℕ → Bool := fun _ => true
  /-- `s2n_libcrypto_is_awslc_fips`: the state of a hash is signed and verified as it is -/
  isAwslcFips : Bool := false
  /-- `s2n_pkey_evp_validate_sig_alg` -/
  validateSigAlg : P → A → Bool
  /-- `EVP_PKEY_verify` of a digest and a signature -/
  verify : P → A → List UInt8 → List UInt8 → Bool

variable {A P : Type} (lib : SignLib A P)

/-- The digest that is signed or verified. -/
def SignLib.finalDigest : EStateM Err HashState (List UInt8) :=
  if lib.isAwslcFips = true then do return (← get).digest
  else hashDigest

/-- `s2n_pkey_evp_sign`, to a blob of `room` bytes. -/
def pkeyEvpSign (key : SigningKey A) (sigAlg : A) (room : ℕ) : EStateM Err HashState (List UInt8) := do
  let digest ← lib.finalDigest
  match key.sign sigAlg digest with
  | none => throw .sign
  | some signature =>
    ensure (signature.length ≤ room) .sizeMismatch
    return signature

def pkeyEvpVerify (key : P) (sigAlg : A) (signature : List UInt8) : EStateM Err HashState Unit := do
  ensure (lib.validateSigAlg key sigAlg = true) .invalidSignatureAlgorithm
  let digest ← lib.finalDigest
  ensure (lib.verify key sigAlg digest signature = true) .verifySignature

/-- `s2n_async_pkey_verify_signature`, with the public key of the certificate, if it can be parsed. -/
def asyncPkeyVerifySignature (publicKey : Option P) (sigAlg : A) (signature : List UInt8) :
    EStateM Err HashState Unit :=
  match publicKey with
  | none => throw .decodeCertificate
  | some key => failWith .verifySignature (pkeyEvpVerify lib key sigAlg signature)

/-! ### Connections and operations -/

/-- `struct s2n_async_pkey_op` of a signature. -/
structure SignOp (A : Type) where
  validationMode : ValidationMode
  complete : Bool := false
  applied : Bool := false
  /-- whether `on_complete` succeeds -/
  onComplete : List UInt8 → Bool
  digest : HashState
  sigAlg : A
  signature : List UInt8 := []
  /-- Not in the source: the digest that was to be signed. -/
  toSign : List UInt8

/-- A signature that was given to `on_complete`. -/
structure Completed (A : Type) where
  sigAlg : A
  toSign : List UInt8
  signature : List UInt8

/-- The fields of a connection for signatures. -/
structure SignConn (A P : Type) where
  verifyAfterSign : Bool
  /-- whether the config has an `async_pkey_cb` -/
  asyncPkeyCb : Bool
  asyncPkeyValidationMode : ValidationMode := .fast
  /-- `our_chain_and_key` -/
  privateKey : SigningKey A
  publicKey : Option P
  asyncState : AsyncState := .notInvoked
  /-- The operations that the application was given. -/
  ops : List (SignOp A) := []
  /-- Not in the source: what was given to `on_complete`. -/
  completed : List (Completed A) := []

abbrev SignM (A P : Type) : Type → Type := EStateM Err (SignConn A P)

def SignConn.setOp (s : SignConn A P) (i : ℕ) (op : SignOp A) : SignConn A P := { s with ops := s.ops.set i op }

/-- The operation that a pointer of the application points to. -/
def getOp (i : ℕ) : SignM A P (SignOp A) := do
  match (← get).ops[i]? with
  | none => throw .null
  | some op => return op

/-- Work with the hash of an operation. -/
def onDigest {α : Type} (i : ℕ) (op : SignOp A) (m : EStateM Err HashState α) : SignM A P (α × SignOp A) :=
  zoom (fun _ => op.digest) (fun digest s => s.setOp i { op with digest := digest }) do
    let a ← m
    return (a, { op with digest := ← get })

def callOnComplete (onComplete : List UInt8 → Bool) (c : Completed A) : SignM A P Unit := do
  modify fun s => { s with completed := c :: s.completed }
  ensure (onComplete c.signature = true) .safety

/-! ### Calls of the application -/

/-- `s2n_async_pkey_sign_perform`: in the strict mode a copy of the hash is signed. -/
def asyncPkeySignPerform (key : SigningKey A) (i : ℕ) (op : SignOp A) : SignM A P (SignOp A) :=
  match key.size with
  | none => throw .safety
  | some room => do
    ensure (lib.malloc room = true) .alloc
    if op.validationMode = .strict then
      let out ← onLocal (pkeyEvpSign lib key op.sigAlg room) op.digest
      return { op with signature := out.1 }
    else
      let out ← onDigest i op (pkeyEvpSign lib key op.sigAlg room)
      return { out.2 with signature := out.1 }

def asyncPkeyOpPerform (key : SigningKey A) (i : ℕ) : SignM A P Unit := do
  let op ← getOp i
  ensure (op.complete = false) .asyncAlreadyPerformed
  let op ← asyncPkeySignPerform lib key i op
  modify fun s => s.setOp i { op with complete := true }

def asyncPkeyOpSetOutput (i : ℕ) (data : List UInt8) : SignM A P Unit := do
  let op ← getOp i
  ensure (data.length = 0 ∨ lib.malloc data.length = true) .alloc
  modify fun s => s.setOp i { op with signature := data, complete := true }

def asyncPkeyOpSetValidationMode (i : ℕ) (mode : ValidationMode) : SignM A P Unit := do
  let op ← getOp i
  modify fun s => s.setOp i { op with validationMode := mode }

/-- `s2n_async_pkey_op_get_input`, of a copy of the hash -/
def asyncPkeyOpGetInput (i : ℕ) (dataLen : ℕ) : SignM A P (List UInt8) := do
  let op ← getOp i
  ensure (op.digest.digest.length ≤ dataLen) .safety
  let out ← onLocal hashDigest op.digest
  return out.1

def asyncPkeySignApply (i : ℕ) (op : SignOp A) : SignM A P (SignOp A) := do
  let s ← get
  if op.validationMode = .strict then
    let out ← onDigest i op (asyncPkeyVerifySignature lib s.publicKey op.sigAlg op.signature)
    callOnComplete op.onComplete ⟨op.sigAlg, op.toSign, op.signature⟩
    return out.2
  else
    callOnComplete op.onComplete ⟨op.sigAlg, op.toSign, op.signature⟩
    return op

/-- `s2n_async_pkey_op_apply`; `sameConn` says whether the connection is the one of the operation. -/
def asyncPkeyOpApply (i : ℕ) (sameConn : Bool) : SignM A P Unit := do
  let op ← getOp i
  ensure (op.complete = true) .asyncNotPerformed
  ensure (op.applied = false) .asyncAlreadyApplied
  ensure (sameConn = true) .asyncWrongConnection
  ensure ((← get).asyncState = .invoked) .asyncWrongConnection
  let op ← asyncPkeySignApply lib i op
  -- the hash and the signature are freed
  modify fun s => { s.setOp i { op with
    applied := true
    signature := []
    digest := { op.digest with isReadyForInput := false } } with asyncState := .complete }

inductive Call (A : Type)
  | perform (key : SigningKey A) (i : ℕ) | setOutput (i : ℕ) (data : List UInt8)
  | setValidationMode (i : ℕ) (mode : ValidationMode) | getInput (i dataLen : ℕ) | apply (i : ℕ) (sameConn : Bool)

def Call.exec : Call A → SignM A P Unit
  | .perform key i => asyncPkeyOpPerform lib key i
  | .setOutput i data => asyncPkeyOpSetOutput lib i data
  | .setValidationMode i mode => asyncPkeyOpSetValidationMode i mode
  | .getInput i dataLen => do let _ ← asyncPkeyOpGetInput i dataLen
  | .apply i sameConn => asyncPkeyOpApply lib i sameConn

/-! ### Signing -/

/-- What `async_pkey_cb` does: the calls it makes, and whether it succeeds. -/
structure SignCallback (A : Type) where
  calls : List (Call A) := []
  succeeds : Bool := true

/-- What a handler asks for. -/
structure Request (A : Type) where
  sigAlg : A
  digest : HashState
  onComplete : List UInt8 → Bool := fun _ => true
  callback : SignCallback A := {}

/-- The operation that is made for a request. -/
def SignConn.newOp (s : SignConn A P) (r : Request A) : SignOp A where
  validationMode := if s.verifyAfterSign = true then .strict else s.asyncPkeyValidationMode
  onComplete := r.onComplete
  digest := r.digest
  sigAlg := r.sigAlg
  toSign := r.digest.digest

/-- The connection when it calls the callback. -/
def SignConn.invoked (s : SignConn A P) (r : Request A) : SignConn A P :=
  { s with asyncState := .invoked, ops := s.ops ++ [s.newOp r] }

/-- `s2n_async_pkey_sign_async` and `s2n_async_cb_execute` -/
def asyncPkeySignAsync (r : Request A) : SignM A P Unit := do
  ensure ((← get).asyncState = .notInvoked) .asyncMoreThanOne
  modify fun s => (runCalls (Call.exec lib) r.callback.calls (s.invoked r)).2
  ensure (r.callback.succeeds = true) .asyncCallbackFailed
  ensure ((← get).asyncState = .complete) .asyncBlocked

def asyncPkeySignSync (r : Request A) : SignM A P Unit := do
  let s ← get
  match s.privateKey.size with
  | none => throw .safety
  | some room =>
    ensure (lib.malloc room = true) .alloc
    let out ← onLocal (pkeyEvpSign lib s.privateKey r.sigAlg room) r.digest
    when (s.verifyAfterSign = true) do
      let _ ← onLocal (asyncPkeyVerifySignature lib s.publicKey r.sigAlg out.1) r.digest
    callOnComplete r.onComplete ⟨r.sigAlg, r.digest.digest, out.1⟩

/-- A handler that signs: `S2N_ASYNC_PKEY_GUARD` and `s2n_async_pkey_sign`. -/
def signHandler (r : Request A) : SignM A P Unit := do
  let s ← get
  match s.asyncState with
  | .invoked => throw .asyncBlocked
  | .complete => set { s with asyncState := .notInvoked }
  | .notInvoked => if s.asyncPkeyCb = true then asyncPkeySignAsync lib r else asyncPkeySignSync lib r

/-- What happens to a connection: a handler signs, the application makes a call, or other operations and
`s2n_connection_wipe` set the state of the handshake. -/
inductive Step (A : Type)
  | handler (r : Request A) | call (c : Call A) | other (st : AsyncState)

def Step.exec : Step A → SignM A P Unit
  | .handler r => signHandler lib r
  | .call c => c.exec lib
  | .other st => modify fun s => { s with asyncState := st }

/-! ### What is kept -/

section Kept

variable {lib} {pub : Option P} {s : SignConn A P} {i : ℕ} {op : SignOp A} {α : Type}

/-- The signature verifies under the public key, for the digest that was to be signed. -/
def Completed.Verified (lib : SignLib A P) (pub : Option P) (c : Completed A) : Prop :=
  ∃ key, pub = some key ∧ lib.verify key c.sigAlg c.toSign c.signature = true

/-- All signatures so far are verified, and operations have the digest that is to be signed. -/
structure SignInv (lib : SignLib A P) (pub : Option P) (s : SignConn A P) : Prop where
  publicKey : s.publicKey = pub
  verifyAfterSign : s.verifyAfterSign = true
  digest : ∀ op ∈ s.ops, op.digest.digest = op.toSign
  completed : ∀ c ∈ s.completed, c.Verified lib pub

lemma SignInv.setOp (h : SignInv lib pub s) (hop : op.digest.digest = op.toSign) : SignInv lib pub (s.setOp i op) where
  publicKey := h.publicKey
  verifyAfterSign := h.verifyAfterSign
  digest op' hmem := by
    obtain hmem | rfl := List.mem_or_eq_of_mem_set hmem
    · exact h.digest op' hmem
    · exact hop
  completed := h.completed

lemma SignInv.withAsyncState (h : SignInv lib pub s) (st : AsyncState) : SignInv lib pub { s with asyncState := st } :=
  ⟨h.publicKey, h.verifyAfterSign, h.digest, h.completed⟩

lemma wp_finalDigest (h : HashState) :
    wp lib.finalDigest (fun digest h' => digest = h.digest ∧ h'.digest = h.digest)
      (fun _ h' => h'.digest = h.digest) h := by
  unfold SignLib.finalDigest
  by_cases hfips : lib.isAwslcFips = true
  · rw [if_pos hfips, wp_read, wp_pure]
    exact ⟨rfl, rfl⟩
  · rw [if_neg hfips]
    unfold hashDigest
    rw [wp_read]
    refine wp_guard rfl fun _ => ?_
    rw [wp_bind, wp_set, wp_pure]
    exact ⟨rfl, rfl⟩

lemma wp_pkeyEvpSign (lib : SignLib A P) (key : SigningKey A) (sigAlg : A) (room : ℕ) (h : HashState) :
    wp (pkeyEvpSign lib key sigAlg room) (fun _ h' => h'.digest = h.digest) (fun _ h' => h'.digest = h.digest) h := by
  unfold pkeyEvpSign
  refine wp_then (wp_finalDigest h) fun digest h₁ hdigest => ?_
  cases key.sign sigAlg digest with
  | none => exact hdigest.2
  | some signature => exact wp_seq_ensure (fun _ => hdigest.2) fun _ => hdigest.2

lemma wp_asyncPkeyVerifySignature (sigAlg : A) (signature : List UInt8) (h : HashState) :
    wp (asyncPkeyVerifySignature lib pub sigAlg signature)
      (fun _ h' => Completed.Verified lib pub ⟨sigAlg, h.digest, signature⟩ ∧ h'.digest = h.digest)
      (fun _ h' => h'.digest = h.digest) h := by
  unfold asyncPkeyVerifySignature
  cases pub with
  | none => exact rfl
  | some key =>
    dsimp only
    rw [wp_failWith]
    unfold pkeyEvpVerify
    refine wp_guard rfl fun _ => ?_
    refine wp_then (wp_finalDigest h) fun digest h₁ hdigest => ?_
    rw [wp_ensure]
    refine ⟨fun hverify => ⟨⟨key, rfl, ?_⟩, hdigest.2⟩, fun _ => hdigest.2⟩
    rw [← hdigest.1]
    exact hverify

lemma wp_onDigest {m : EStateM Err HashState α} {F : α → Prop} (h : SignInv lib pub s)
    (hop : op.digest.digest = op.toSign)
    (hm : wp m (fun a h => F a ∧ h.digest = op.digest.digest) (fun _ h => h.digest = op.digest.digest) op.digest) :
    wp (onDigest i op m) (fun out s' => F out.1 ∧ SignInv lib pub s' ∧ out.2.digest.digest = out.2.toSign)
      (fun _ => SignInv lib pub) s := by
  unfold onDigest
  rw [wp_zoom]
  refine wp_seq hm (fun a h' hh' => ?_) fun e h' hh' => h.setOp (hh'.trans hop)
  rw [wp_read, wp_pure]
  exact ⟨hh'.1, h.setOp (hh'.2.trans hop), hh'.2.trans hop⟩

lemma wp_seq_getOp {f : SignOp A → SignM A P α} {Q : α → SignConn A P → Prop} {R : Err → SignConn A P → Prop}
    (hf : ∀ op, s.ops[i]? = some op → wp (f op) Q R s) (hR : ∀ e, R e s) : wp (getOp i >>= f) Q R s := by
  unfold getOp
  rw [wp_bind, wp_read]
  cases hop : s.ops[i]? with
  | none => exact hR _
  | some op => exact hf op hop

/-- Operations are in the strict mode when they are applied. -/
def Call.Strict : Call A → SignConn A P → Prop
  | .apply i _, s => ∀ op, s.ops[i]? = some op → op.validationMode = .strict
  | _, _ => True

lemma wp_asyncPkeySignPerform (key : SigningKey A) (h : SignInv lib pub s) (hop : op.digest.digest = op.toSign) :
    wp (asyncPkeySignPerform lib key i op) (fun op' s' => SignInv lib pub s' ∧ op'.digest.digest = op'.toSign)
      (fun _ => SignInv lib pub) s := by
  unfold asyncPkeySignPerform
  cases key.size with
  | none => exact h
  | some room =>
    dsimp only
    refine wp_guard h fun _ => ?_
    split
    · exact wp_seq_onLocal (fun _ => ⟨h, hop⟩) fun _ => h
    · have hsign := wp_pkeyEvpSign lib key op.sigAlg room op.digest
      refine wp_then (wp_onDigest (F := fun _ => True) h hop ?_) fun out s' hout => ⟨hout.2.1, hout.2.2⟩
      exact wp_mono_ok (fun _ _ h => ⟨trivial, h⟩) hsign

lemma wp_callOnComplete {onComplete : List UInt8 → Bool} {c : Completed A} (h : SignInv lib pub s)
    (hc : c.Verified lib pub) :
    wp (callOnComplete onComplete c) (fun _ => SignInv lib pub) (fun _ => SignInv lib pub) s := by
  have hnext : SignInv lib pub { s with completed := c :: s.completed } := by
    refine ⟨h.publicKey, h.verifyAfterSign, h.digest, fun c' hmem => ?_⟩
    obtain rfl | hmem := List.mem_cons.1 hmem
    · exact hc
    · exact h.completed c' hmem
  unfold callOnComplete
  rw [wp_update, wp_ensure]
  exact ⟨fun _ => hnext, fun _ => hnext⟩

lemma wp_asyncPkeySignApply (h : SignInv lib pub s) (hop : op.digest.digest = op.toSign)
    (hstrict : op.validationMode = .strict) :
    wp (asyncPkeySignApply lib i op) (fun op' s' => SignInv lib pub s' ∧ op'.digest.digest = op'.toSign)
      (fun _ => SignInv lib pub) s := by
  unfold asyncPkeySignApply
  rw [wp_read, if_pos hstrict, h.publicKey]
  refine wp_then (wp_onDigest h hop (wp_asyncPkeyVerifySignature op.sigAlg op.signature op.digest))
    fun out s₁ hout => ?_
  obtain ⟨hverified, hinv, hdigest⟩ := hout
  rw [hop] at hverified
  exact wp_then (wp_callOnComplete hinv hverified) fun _ s₂ h₂ => ⟨h₂, hdigest⟩

/-- **One call** keeps the invariant. -/
lemma wp_callExec (c : Call A) (h : SignInv lib pub s) (hstrict : c.Strict s) :
    wp (c.exec lib) (fun _ => SignInv lib pub) (fun _ => SignInv lib pub) s := by
  have hdigest : ∀ {i : ℕ} {op : SignOp A}, s.ops[i]? = some op → op.digest.digest = op.toSign := fun hop =>
    h.digest _ (List.mem_of_getElem? hop)
  cases c with
  | perform key i =>
    refine wp_seq_getOp (fun op hop => ?_) fun _ => h
    refine wp_guard h fun _ => ?_
    refine wp_then (wp_asyncPkeySignPerform key h (hdigest hop)) fun op' s' hs' => ?_
    rw [wp_modify]
    exact hs'.1.setOp hs'.2
  | setOutput i data =>
    refine wp_seq_getOp (fun op hop => ?_) fun _ => h
    refine wp_guard h fun _ => ?_
    have hop' := hdigest hop
    rw [wp_modify]
    exact h.setOp hop'
  | setValidationMode i mode =>
    refine wp_seq_getOp (fun op hop => ?_) fun _ => h
    have hop' := hdigest hop
    rw [wp_modify]
    exact h.setOp hop'
  | getInput i dataLen =>
    show wp (asyncPkeyOpGetInput i dataLen >>= fun _ => pure ()) _ _ s
    unfold asyncPkeyOpGetInput
    rw [wp_bind]
    refine wp_seq_getOp (fun op hop => ?_) fun _ => h
    refine wp_guard h fun _ => ?_
    exact wp_seq_onLocal (fun _ => h) fun _ => h
  | apply i sameConn =>
    refine wp_seq_getOp (fun op hop => ?_) fun _ => h
    refine wp_guard h fun _ => ?_
    refine wp_guard h fun _ => ?_
    refine wp_guard h fun _ => ?_
    rw [wp_read]
    refine wp_guard h fun _ => ?_
    refine wp_then (wp_asyncPkeySignApply h (hdigest hop) (hstrict op hop)) fun op' s' hs' => ?_
    rw [wp_modify]
    exact SignInv.withAsyncState (hs'.1.setOp (by exact hs'.2)) .complete

lemma signInv_callExec (c : Call A) (s : SignConn A P) (h : SignInv lib pub s) (hstrict : c.Strict s) :
    SignInv lib pub (finalState (c.exec lib) s) := finalState_of_wp (wp_callExec c h hstrict)

/-- A step is strict, and so are the calls of the callback. -/
def Step.Strict (lib : SignLib A P) : Step A → SignConn A P → Prop
  | .handler r, s => AllMeet (Call.exec lib) Call.Strict r.callback.calls (s.invoked r)
  | .call c, s => c.Strict s
  | .other _, _ => True

lemma SignInv.invoked (h : SignInv lib pub s) (r : Request A) : SignInv lib pub (s.invoked r) where
  publicKey := h.publicKey
  verifyAfterSign := h.verifyAfterSign
  digest op hmem := by
    obtain hmem | hmem := List.mem_append.1 hmem
    · exact h.digest op hmem
    · obtain rfl := List.mem_singleton.1 hmem
      rfl
  completed := h.completed

lemma wp_asyncPkeySignSync (r : Request A) (h : SignInv lib pub s) :
    wp (asyncPkeySignSync lib r) (fun _ => SignInv lib pub) (fun _ => SignInv lib pub) s := by
  unfold asyncPkeySignSync
  rw [wp_read]
  cases s.privateKey.size with
  | none => exact h
  | some room =>
    dsimp only
    refine wp_guard h fun _ => ?_
    refine wp_seq_onLocal (fun out => ?_) fun _ => h
    rw [wp_bind]
    refine wp_taken h.verifyAfterSign ?_
    rw [wp_bind, wp_onLocal, h.publicKey]
    refine wp_mono (fun _ _ hverified => ?_) (fun _ _ _ => h)
      (wp_asyncPkeyVerifySignature r.sigAlg out.1 r.digest)
    rw [wp_pure]
    exact wp_callOnComplete h hverified.1

/-- **One step** keeps the invariant. -/
lemma wp_stepExec (x : Step A) (h : SignInv lib pub s) (hstrict : x.Strict lib s) :
    wp (x.exec lib) (fun _ => SignInv lib pub) (fun _ => SignInv lib pub) s := by
  cases x with
  | call c => exact wp_callExec c h hstrict
  | other st =>
    show wp (modify _) _ _ s
    rw [wp_modify]
    exact h.withAsyncState st
  | handler r =>
    show wp (signHandler lib r) _ _ s
    unfold signHandler
    rw [wp_read]
    cases s.asyncState with
    | invoked => exact h
    | complete => exact h.withAsyncState .notInvoked
    | notInvoked =>
      dsimp only
      split
      · have hcalls : SignInv lib pub (runCalls (Call.exec lib) r.callback.calls (s.invoked r)).2 :=
          runCalls_invariant signInv_callExec r.callback.calls _ (h.invoked r) hstrict
        unfold asyncPkeySignAsync
        rw [wp_read]
        refine wp_guard h fun _ => ?_
        rw [wp_update]
        refine wp_guard hcalls fun _ => ?_
        rw [wp_read, wp_ensure]
        exact ⟨fun _ => hcalls, fun _ => hcalls⟩
      · exact wp_asyncPkeySignSync r h

/-- **Signatures are verified.** In every run of a new connection with `verify_after_sign` in which operations are in
the strict mode when they are applied, all signatures that were given to `on_complete` verify under the public key of
the certificate, for the digest that was to be signed. -/
theorem signatures_verified (lib : SignLib A P) (steps : List (Step A)) (s : SignConn A P) (hops : s.ops = [])
    (hcompleted : s.completed = []) (hverify : s.verifyAfterSign = true)
    (hsteps : AllMeet (Step.exec lib) (Step.Strict lib) steps s) :
    ∀ c ∈ (runCalls (Step.exec lib) steps s).2.completed, c.Verified lib s.publicKey := by
  have hnew : SignInv lib s.publicKey s := by
    refine ⟨rfl, hverify, ?_, ?_⟩
    · rw [hops]
      exact fun _ hno => nomatch hno
    · rw [hcompleted]
      exact fun _ hno => nomatch hno
  exact (runCalls_invariant (fun x s h hx => finalState_of_wp (wp_stepExec x h hx)) steps s hnew hsteps).completed

end Kept

/-! ### Two runs -/

/-- A signature is the digest with a byte before it. -/
def sampleLib : SignLib Unit Unit where
  validateSigAlg _ _ := true
  verify _ _ digest signature := signature == 1 :: digest

def sampleKey : SigningKey Unit := ⟨some 64, fun _ digest => some (1 :: digest)⟩

def sampleConn : SignConn Unit Unit where
  verifyAfterSign := true
  asyncPkeyCb := true
  privateKey := sampleKey
  publicKey := some ()

def sampleRequest : Request Unit := { sigAlg := (), digest := ⟨[5, 6], true⟩ }

/-- The application performs the operation and applies it. -/
def performedSteps : List (Step Unit) := [.handler sampleRequest, .call (.perform sampleKey 0), .call (.apply 0 true)]

theorem signatures_verified_performed :
    (runCalls (Step.exec sampleLib) performedSteps sampleConn).2.completed.length = 1 ∧
    ∀ c ∈ (runCalls (Step.exec sampleLib) performedSteps sampleConn).2.completed,
      c.Verified sampleLib sampleConn.publicKey :=
  ⟨by decide +kernel, signatures_verified sampleLib performedSteps sampleConn rfl rfl rfl
    ⟨trivial, trivial, fun op hop => Option.some.inj (hop.symm.trans rfl) ▸ rfl, trivial⟩⟩

/-- The application supplies a signature of its own, and sets the mode before it applies it. -/
def fastSteps : List (Step Unit) :=
  [.handler sampleRequest, .call (.setOutput 0 [9]), .call (.setValidationMode 0 .fast), .call (.apply 0 true)]

theorem fast_mode_not_verified :
    ∃ c ∈ (runCalls (Step.exec sampleLib) fastSteps sampleConn).2.completed,
      ¬ c.Verified sampleLib sampleConn.publicKey := by
  refine ⟨⟨(), [5, 6], [9]⟩, List.mem_singleton_self _, ?_⟩
  rintro ⟨⟨⟩, -, hverify⟩
  exact absurd hverify (by decide)

end S2nTls.AsyncSign
