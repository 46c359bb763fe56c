import S2nTls.Lib.Lockstep
import S2nTls.Tls.ClientKeyExchange

/-!
What a server reveals of the decryption of a ClientKeyExchange message.

Two servers in the same state that receive the same message, with keys that decrypt it in any two
ways, give the same results at every call and are left in states that differ in the secrets only.
A failed decryption shows when the Finished message of the client is checked.
-/

namespace S2nTls

open Lib Stuffer

variable {K : Type}
variable {o o' : AsyncPkeyOp} {c d : KexConn K}

/-! ### What is public -/

def AsyncPkeyOp.erase (op : AsyncPkeyOp) : AsyncPkeyOp :=
  { op with decrypted := List.replicate op.decrypted.length 0, rsaFailed := false }

def Conn.eraseRsa (c : Conn K) : Conn K := { c with
  secrets := { c.secrets with masterSecret := [] }
  handshake := { c.handshake with rsaFailed := false } }

/-- The connection without the premaster secret, the master secret, the keys derived from it, and
the flag `rsa_failed`. Lengths are public. -/
def KexConn.erase (c : KexConn K) : KexConn K where
  conn := c.conn.eraseRsa
  kex := { c.kex with
    rsaPremasterSecret := List.replicate c.kex.rsaPremasterSecret.length 0
    keys := {}
    op := c.kex.op.map AsyncPkeyOp.erase
    premasters := [] }

def SameConn (c d : Conn K) : Prop := c.eraseRsa = d.eraseRsa

/-- **Indistinguishable connections.** They differ in what `KexConn.erase` erases only. -/
def SamePublic (c d : KexConn K) : Prop := c.erase = d.erase

namespace SamePublic

variable (h : SamePublic c d)

include h

lemma asyncState : c.kex.asyncState = d.kex.asyncState := congrArg (fun x => x.kex.asyncState) h
lemma asyncPkeyCb : c.kex.asyncPkeyCb = d.kex.asyncPkeyCb :=
  congrArg (fun x => x.kex.asyncPkeyCb) h
lemma env : c.conn.env = d.conn.env := congrArg (fun x => x.conn.env) h
lemma versionBytes : c.clientHelloVersionBytes = d.clientHelloVersionBytes :=
  congrArg (fun x => x.clientHelloVersionBytes) h

lemma premaster_length : c.kex.rsaPremasterSecret.length = d.kex.rsaPremasterSecret.length := by
  simpa [KexConn.erase] using congrArg (fun x => x.kex.rsaPremasterSecret.length) h

lemma op : c.kex.op.map AsyncPkeyOp.erase = d.kex.op.map AsyncPkeyOp.erase :=
  congrArg (fun x => x.kex.op) h

end SamePublic

/-! ### Changes of indistinguishable connections -/

section Setters

variable (h : SamePublic c d)

include h

lemma SamePublic.setPremaster {p q : List UInt8} (hlen : p.length = q.length) :
    SamePublic { c with kex := { c.kex with rsaPremasterSecret := p } }
      { d with kex := { d.kex with rsaPremasterSecret := q } } := by
  have h' := congrArg (fun x : KexConn K =>
    { x with kex := { x.kex with rsaPremasterSecret := List.replicate q.length 0 } }) h
  unfold SamePublic KexConn.erase
  dsimp only
  rw [hlen]
  exact h'

lemma SamePublic.setOp (ho : o.erase = o'.erase) :
    SamePublic { c with kex := { c.kex with op := some o } }
      { d with kex := { d.kex with op := some o' } } := by
  have h' := congrArg (fun x : KexConn K =>
    { x with kex := { x.kex with op := some o'.erase } }) h
  unfold SamePublic KexConn.erase
  dsimp only
  rw [Option.map_some, Option.map_some, ho]
  exact h'

lemma SamePublic.setAsyncState (a : AsyncState) :
    SamePublic { c with kex := { c.kex with asyncState := a } }
      { d with kex := { d.kex with asyncState := a } } := by
  have h' := congrArg (fun x : KexConn K => { x with kex := { x.kex with asyncState := a } }) h
  exact h'

end Setters

/-! ### Every part of the handler keeps connections indistinguishable -/

section Parts

variable {α : Type}

lemma Lockstep.modifySecret {f g : KexState → KexState}
    (hf : ∀ c : KexConn K, ({ c with kex := f c.kex } : KexConn K).erase = c.erase)
    (hg : ∀ c : KexConn K, ({ c with kex := g c.kex } : KexConn K).erase = c.erase) :
    Lockstep SamePublic Eq (modifyKex f : KexM K Unit) (modifyKex g) :=
  Lockstep.modify fun c d h => (hf c).trans (Eq.trans h (hg d).symm)

lemma lockstep_prfKeyExpansion : Lockstep SamePublic Eq (prfKeyExpansion : KexM K Unit) prfKeyExpansion := by
  unfold prfKeyExpansion
  refine Lockstep.get.bind fun c d h => ?_
  have hfault (f : Fault) : (c.conn.env.fault f = false) = (d.conn.env.fault f = false) := by rw [h.env]
  refine (Lockstep.ensure (congrArg (fun x : KexConn K =>
    2 * macKeySize x.conn.crypto.secure.cipherSuite.recordAlg +
      2 * x.conn.crypto.secure.cipherSuite.recordAlg.cipher.keyMaterialSize +
      2 * implicitIvSize x.conn.actualProtocolVersion x.conn.crypto.secure.cipherSuite.recordAlg ≤
    maxKeyBlockLen) h) _).seq ?_
  refine (Lockstep.ensure (hfault .kdf) _).seq ?_
  refine (Lockstep.ensure (congrArg (fun x => x.kex.suiteAvailable = true) h) _).seq ?_
  refine (Lockstep.ensure (hfault .initialHmac) _).seq ?_
  refine (Lockstep.modifySecret (fun _ => rfl) fun _ => rfl).seq ?_
  refine (Lockstep.ensure (hfault .setKey) _).seq ?_
  refine (Lockstep.modifySecret (fun _ => rfl) fun _ => rfl).seq ?_
  refine (Lockstep.ensure (congrArg (fun x : KexConn K =>
    implicitIvSize x.conn.actualProtocolVersion x.conn.crypto.secure.cipherSuite.recordAlg ≤ 16) h) _).seq ?_
  exact Lockstep.modifySecret (fun _ => rfl) fun _ => rfl

lemma lockstep_prfCalculateMasterSecret (p q : List UInt8) :
    Lockstep SamePublic Eq (prfCalculateMasterSecret p : KexM K Unit) (prfCalculateMasterSecret q) := by
  unfold prfCalculateMasterSecret
  refine Lockstep.get.bind fun c d h => ?_
  have hfault (f : Fault) : (c.conn.env.fault f = false) = (d.conn.env.fault f = false) := by rw [h.env]
  refine (Lockstep.ensure (congrArg (fun x : KexConn K => x.conn.currentMessageType = .clientKey) h) _).seq ?_
  refine Lockstep.seq (Lockstep.ite (congrArg (fun x : KexConn K => x.kex.emsNegotiated = true) h)
    (Lockstep.ensure (hfault .hash) _) (Lockstep.pure rfl)) ?_
  refine (Lockstep.ensure (hfault .kdf) _).seq ?_
  exact Lockstep.modify fun _ _ h => h

lemma lockstep_calculateKeys : Lockstep SamePublic Eq (calculateKeys : KexM K Unit) calculateKeys := by
  unfold calculateKeys
  refine Lockstep.get.bind fun c d h => ?_
  refine (Lockstep.modifySecret (fun _ => rfl) fun _ => rfl).seq ?_
  exact (lockstep_prfCalculateMasterSecret _ _).seq lockstep_prfKeyExpansion

lemma lockstep_rsaClientKeyRecvComplete (b b' : Bool) {p q : List UInt8} (hlen : p.length = q.length) :
    Lockstep SamePublic Eq (rsaClientKeyRecvComplete b p : KexM K Unit) (rsaClientKeyRecvComplete b' q) := by
  unfold rsaClientKeyRecvComplete
  refine (Lockstep.ensure (by rw [hlen]) _).seq ?_
  refine Lockstep.get.bind fun c d h => ?_
  refine Lockstep.modify fun c' d' h' => ?_
  have hlen' : (c.clientHelloVersionBytes ++ p.drop 2).length =
      (d.clientHelloVersionBytes ++ q.drop 2).length := by simp [h.versionBytes, hlen]
  exact SamePublic.setPremaster h' hlen'

/-- The result of a decryption: the plaintext, or a failure. -/
lemma pkeyDecrypt_eq (key : RsaKey) (encrypted out : List UInt8) :
    (∀ p, key.plaintext out.length encrypted = some p → pkeyDecrypt key encrypted out = (false, p)) ∧
    (key.plaintext out.length encrypted = none → (pkeyDecrypt key encrypted out).1 = true) ∧
    (pkeyDecrypt key encrypted out).2.length = out.length := by
  have h := wp_pkeyEvpDecrypt key encrypted out
  unfold wp at h
  unfold pkeyDecrypt
  cases hrun : (pkeyEvpDecrypt key encrypted).run out with
  | ok _ out' =>
    simp only [hrun] at h
    simp [h]
  | error e out' =>
    simp only [hrun] at h
    simp [h]

lemma pkeyDecrypt_length (key : RsaKey) (encrypted out : List UInt8) :
    (pkeyDecrypt key encrypted out).2.length = out.length := (pkeyDecrypt_eq key encrypted out).2.2

variable (key key' : RsaKey)

lemma SamePublic.op_cases {c d : KexConn K} (h : SamePublic c d) :
    c.kex.op = none ∧ d.kex.op = none ∨
      ∃ o o', c.kex.op = some o ∧ d.kex.op = some o' ∧ o.erase = o'.erase := by
  have hop := h.op
  cases hc : c.kex.op <;> cases hd : d.kex.op <;> simp_all

lemma AsyncPkeyOp.decrypted_length (h : o.erase = o'.erase) : o.decrypted.length = o'.decrypted.length := by
  simpa [AsyncPkeyOp.erase] using congrArg (fun x => x.decrypted.length) h

lemma lockstep_asyncPkeyOpPerform :
    Lockstep SamePublic Eq (asyncPkeyOpPerform key : KexM K Unit) (asyncPkeyOpPerform key') := by
  unfold asyncPkeyOpPerform
  refine Lockstep.get.bind fun c d h => ?_
  obtain ⟨hc, hd⟩ | ⟨o, o', hc, hd, ho⟩ := h.op_cases
  · rw [hc, hd]
    exact Lockstep.throw _
  · rw [hc, hd]
    refine (Lockstep.ensure (congrArg (fun x : AsyncPkeyOp => x.complete = false) ho) _).seq ?_
    refine Lockstep.modify fun c' d' h' => ?_
    have hlen : (pkeyDecrypt key o.encrypted o.decrypted).2.length =
        (pkeyDecrypt key' o'.encrypted o'.decrypted).2.length := by
      rw [pkeyDecrypt_length, pkeyDecrypt_length, AsyncPkeyOp.decrypted_length ho]
    have hop : ({ o with rsaFailed := (pkeyDecrypt key o.encrypted o.decrypted).1
                         decrypted := (pkeyDecrypt key o.encrypted o.decrypted).2
                         complete := true } : AsyncPkeyOp).erase =
        ({ o' with rsaFailed := (pkeyDecrypt key' o'.encrypted o'.decrypted).1
                   decrypted := (pkeyDecrypt key' o'.encrypted o'.decrypted).2
                   complete := true } : AsyncPkeyOp).erase := by
      unfold AsyncPkeyOp.erase
      dsimp only
      rw [hlen]
      exact congrArg (fun x : AsyncPkeyOp => { x with
        decrypted := List.replicate (pkeyDecrypt key' o'.encrypted o'.decrypted).2.length 0
        complete := true }) ho
    exact h'.setOp hop

lemma lockstep_asyncPkeyOpApply :
    Lockstep SamePublic Eq (asyncPkeyOpApply : KexM K Unit) asyncPkeyOpApply := by
  unfold asyncPkeyOpApply
  refine Lockstep.get.bind fun c d h => ?_
  obtain ⟨hc, hd⟩ | ⟨o, o', hc, hd, ho⟩ := h.op_cases
  · rw [hc, hd]
    exact Lockstep.throw _
  · rw [hc, hd]
    refine (Lockstep.ensure (congrArg (fun x : AsyncPkeyOp => x.complete = true) ho) _).seq ?_
    refine (Lockstep.ensure (congrArg (fun x : AsyncPkeyOp => x.applied = false) ho) _).seq ?_
    refine (Lockstep.ensure (by rw [h.asyncState]) _).seq ?_
    refine (lockstep_rsaClientKeyRecvComplete _ _ (AsyncPkeyOp.decrypted_length ho)).seq ?_
    refine Lockstep.modify fun c' d' h' => ?_
    refine (h'.setAsyncState .complete).setOp ?_
    exact congrArg (fun x : AsyncPkeyOp => { x with applied := true, encrypted := [], decrypted := [] }) ho

lemma lockstep_exec (call : PkeyCall) :
    Lockstep SamePublic Eq (call.exec key : KexM K Unit) (call.exec key') := by
  cases call with
  | perform => exact lockstep_asyncPkeyOpPerform key key'
  | apply => exact lockstep_asyncPkeyOpApply

lemma lockstep_execPkeyCalls (calls : List PkeyCall) :
    Lockstep SamePublic Eq (execPkeyCalls key calls : KexM K Unit) (execPkeyCalls key' calls) := by
  induction calls with
  | nil => exact Lockstep.pure rfl
  | cons call calls ih => exact (lockstep_exec key key' call).attempt.bind fun _ _ _ => ih

lemma lockstep_asyncCbExecute (cb : PkeyCallback) (ho : o.erase = o'.erase) :
    Lockstep SamePublic Eq (asyncCbExecute key cb o : KexM K Unit) (asyncCbExecute key' cb o') := by
  unfold asyncCbExecute
  refine Lockstep.get.bind fun c d h => ?_
  refine (Lockstep.ensure (by rw [h.asyncState]) _).seq ?_
  refine Lockstep.seq (Lockstep.modify fun _ _ h' => (h'.setAsyncState .invoked).setOp ho) ?_
  refine (lockstep_execPkeyCalls key key' cb.calls).seq ?_
  refine (Lockstep.ensure rfl _).seq ?_
  refine Lockstep.get.bind fun c' d' h' => ?_
  exact Lockstep.ensure (by rw [h'.asyncState]) _

lemma lockstep_asyncPkeyDecrypt (encrypted : List UInt8) :
    Lockstep SamePublic Eq (asyncPkeyDecrypt key encrypted : KexM K Unit)
      (asyncPkeyDecrypt key' encrypted) := by
  unfold asyncPkeyDecrypt
  refine Lockstep.get.bind fun c d h => ?_
  rw [h.asyncPkeyCb]
  cases d.kex.asyncPkeyCb with
  | some cb =>
    dsimp only
    rw [h.env, h.premaster_length]
    refine (Lockstep.ensure (congrArg (fun x : KexConn K => d.conn.env.malloc x.kex.opSize = true) h) _).seq ?_
    refine (Lockstep.ensure rfl _).seq ((Lockstep.ensure rfl _).seq ?_)
    refine lockstep_asyncCbExecute key key' cb ?_
    simp [AsyncPkeyOp.erase, h.premaster_length]
  | none =>
    have hlen : (pkeyDecrypt key encrypted c.kex.rsaPremasterSecret).2.length =
        (pkeyDecrypt key' encrypted d.kex.rsaPremasterSecret).2.length := by
      rw [pkeyDecrypt_length, pkeyDecrypt_length, h.premaster_length]
    exact Lockstep.seq (Lockstep.modify fun _ _ h' => h'.setPremaster hlen)
      (lockstep_rsaClientKeyRecvComplete _ _ hlen)

lemma lockstep_onConn {m n : ConnM K α}
    (h : Lockstep SameConn Eq m n) :
    Lockstep SamePublic Eq (onConn m) (onConn n) := by
  refine h.zoom (fun _ _ hcd => congrArg (fun c => c.conn) hcd) fun c d x y hcd hxy => ?_
  have h₁ : (KexConn.erase { c with conn := x }).kex = (KexConn.erase { d with conn := y }).kex :=
    congrArg (fun c => c.kex) hcd
  exact congrArg₂ KexConn.mk hxy h₁

lemma lockstep_onIo (m : StufferM α) :
    Lockstep SameConn Eq (onIo m : ConnM K α) (onIo m) := by
  refine (Lockstep.refl m).zoom (fun _ _ h => congrArg (fun c => c.handshake.io) h) ?_
  rintro c d x _ h rfl
  have h' := congrArg (fun c : Conn K => { c with handshake := { c.handshake with io := x } }) h
  exact h'

lemma lockstep_encryptedLength {c d : Conn K} (h : SameConn c d) :
    Lockstep SameConn Eq (encryptedLength c)
      (encryptedLength d) := by
  unfold encryptedLength
  refine Lockstep.ite (congrArg (fun c => c.actualProtocolVersion = sslv3) h) ?_ (lockstep_onIo _)
  exact Lockstep.pure (congrArg (fun c => c.handshake.io.dataAvailable % 2 ^ 16) h)

lemma lockstep_readEncrypted :
    Lockstep SameConn Eq (readEncrypted : ConnM K _) readEncrypted := by
  unfold readEncrypted
  refine Lockstep.get.bind fun c d h => (lockstep_encryptedLength h).bind ?_
  rintro length _ rfl
  refine Lockstep.get.bind fun c' d' h' => ?_
  have hio : c'.handshake.io = d'.handshake.io := congrArg (fun c => c.handshake.io) h'
  rw [hio]
  refine (Lockstep.ensure rfl _).seq ((lockstep_onIo _).bind ?_)
  rintro ptr _ rfl
  cases ptr with
  | none => exact Lockstep.throw _
  | some ptr => exact (Lockstep.ensure rfl _).seq (Lockstep.pure rfl)

lemma lockstep_getPrivateRandomData (n : ℕ) :
    Lockstep SameConn Eq (getPrivateRandomData n : ConnM K _)
      (getPrivateRandomData n) := by
  unfold getPrivateRandomData getPublicRandomData
  refine Lockstep.get.bind fun c d h => ?_
  have henv : c.env = d.env := congrArg (fun c => c.env) h
  rw [henv]
  refine (Lockstep.ensure rfl _).seq (Lockstep.seq (Lockstep.modify fun c' d' h' => ?_) (Lockstep.pure rfl))
  have h'' := congrArg (fun c : Conn K =>
    { c with env := { c.env with random := fun i => c.env.random (n + i) } }) h'
  exact h''

lemma lockstep_rsaClientKeyRecv :
    Lockstep SamePublic Eq (rsaClientKeyRecv key : KexM K Unit) (rsaClientKeyRecv key') := by
  unfold rsaClientKeyRecv
  refine Lockstep.get.bind fun c d h => ?_
  rw [h.asyncState, h.versionBytes]
  cases d.kex.asyncState with
  | invoked => exact Lockstep.throw _
  | complete => exact Lockstep.modify fun _ _ h' => h'.setAsyncState .notInvoked
  | notInvoked =>
    refine (lockstep_onConn lockstep_readEncrypted).bind ?_
    rintro encrypted _ rfl
    refine (lockstep_onConn (lockstep_getPrivateRandomData _)).bind ?_
    rintro random _ rfl
    exact Lockstep.seq (Lockstep.modify fun _ _ h' => h'.setPremaster rfl)
      (lockstep_asyncPkeyDecrypt key key' encrypted)

/-- **The handler is blind.** Whatever the two keys make of the message, it ends in the same way. -/
theorem lockstep_clientKeyRecv :
    Lockstep SamePublic Eq (clientKeyRecv key : KexM K Unit) (clientKeyRecv key') := by
  unfold clientKeyRecv
  refine (((lockstep_rsaClientKeyRecv key key').seq lockstep_calculateKeys).attempt).bind ?_
  rintro result _ rfl
  exact Lockstep.seq (Lockstep.modify fun _ _ h => h.setPremaster rfl) (Lockstep.ofExcept result)

end Parts
end S2nTls
