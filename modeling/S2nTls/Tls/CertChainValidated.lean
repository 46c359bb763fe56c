import S2nTls.Lib.Run
import S2nTls.Tls.X509Validator

/-!
When a chain counts as validated.

The functions of the validator may be called in any order and may fail anywhere. Most of what they
do is not seen by `CertConn.validation`, the part of the state that decides whether the chain
counts as validated and that records why. What remains is a path: a pending validator becomes
ready, a ready one verifies the chain it holds, and only a verified one looks at a stapled
response, unless stapled responses are not checked and the function for them is called by itself.
-/

namespace S2nTls

open Lib Stuffer Relation

variable {X P : Type} {c : CertConn X}

/-! ### What is seen of the validator -/

/-- The part of the validator that decides whether its chain counts as validated, and the record
of what was verified. -/
structure Validation (X : Type) where
  state : ValidatorState
  chain : List X
  skip : Bool
  checkOcsp : Bool
  verified : List (List X)
  goodResponses : List (List UInt8)

def CertConn.validation (c : CertConn X) : Validation X :=
  { state := c.x509Validator.state
    chain := c.x509Validator.certChainFromWire
    skip := c.x509Validator.skipCertValidation
    checkOcsp := c.x509Validator.checkStapledOcsp
    verified := c.verified
    goodResponses := c.goodResponses }

namespace Validation

def IsValidated (v : Validation X) : Prop := v.state = .validated ∨ v.state = .ocspValidated

/-- **What validated means.** A chain that counts as validated has been verified, and where stapled
responses are required one was found to be good. -/
structure Sound (v : Validation X) : Prop where
  checked : v.skip = false
  verified : v.IsValidated → v.chain ∈ v.verified
  stapled : v.checkOcsp = true → v.state = .ocspValidated → v.goodResponses ≠ []

/-- The chain has not been verified yet. -/
structure Pending (v : Validation X) : Prop where
  checked : v.skip = false
  pending : ¬ v.IsValidated

lemma Pending.sound {v : Validation X} (h : v.Pending) : v.Sound :=
  ⟨h.checked, fun hv => absurd hv h.pending, fun _ hs => absurd (.inr hs) h.pending⟩

end Validation

lemma isCertChainValidated_iff :
    c.x509Validator.isCertChainValidated = true ↔ c.validation.IsValidated := by
  simp [X509Validator.isCertChainValidated, Validation.IsValidated, CertConn.validation]

/-! ### Calls that are not seen -/

lemma frames_modifyValidator {f : X509Validator X → X509Validator X}
    (h : ∀ c : CertConn X, CertConn.validation { c with x509Validator := f c.x509Validator } = c.validation) :
    Frames CertConn.validation (modifyValidator f) := .modify h

section Frame

variable (env : CertEnv X P)

lemma frames_opensslX509Parse (leaf : Bool) (bs : List UInt8) :
    Frames CertConn.validation (opensslX509Parse env leaf bs) := by
  unfold opensslX509Parse
  split
  · exact .throw _
  · exact .checked <| .pure _

lemma frames_checkCertPreferences (cert : X) :
    Frames CertConn.validation (checkCertPreferences env cert) :=
  .bind (.ofExcept _) fun _ => .read fun _ =>
    .bind (.when (.ensure _ _)) fun _ =>
      .bind (.when (.ofExcept _)) fun _ => .ofExcept _

lemma frames_readCertExtensions (t : Stuffer) :
    Frames CertConn.validation (readCertExtensions t : CertM X Stuffer) :=
  .read fun _ => .ite (.bind (.runLocal _ _) fun _ => .pure _) (.pure _)

lemma frames_verifyHost (leaf : X) : Frames CertConn.validation (verifyHost env leaf) := by
  unfold verifyHost
  split
  · exact .pure _
  · exact .ofExcept _

variable (cb : ℕ → List (CrlLookup X) → List (CrlLookup X) × Bool)

lemma frames_crlInvokeLoop (is : List ℕ) :
    Frames CertConn.validation (crlInvokeLoop cb is) := by
  induction is with
  | nil => exact .pure _
  | cons i is ih =>
    exact .read fun _ => (frames_modifyValidator fun _ => rfl).bind fun _ =>
      .checked <| ih

lemma frames_crlInvokeLookupCallbacks :
    Frames CertConn.validation (crlInvokeLookupCallbacks env cb) :=
  .read fun _ => .checked <| (frames_modifyValidator fun _ => rfl).bind
    fun _ => frames_crlInvokeLoop cb _

lemma frames_crlStackLoop (lookups : List (CrlLookup X)) (count : ℕ) :
    Frames CertConn.validation (crlStackLoop env lookups count) := by
  induction lookups generalizing count with
  | nil => exact .pure _
  | cons lookup lookups ih =>
    unfold crlStackLoop
    split
    · exact ih count
    · exact .checked <| .checked <| ih _

lemma frames_setCrls : Frames CertConn.validation (setCrls env) := by
  refine .when (.bind (.read fun c => ?_) fun _ =>
    .checked <| .ensure _ _)
  split
  · exact .throw _
  · exact frames_crlStackLoop env _ _

lemma frames_setTime : Frames CertConn.validation (setTime env) :=
  .ite (.when (.ensure _ _)) (.ensure _ _)

lemma frames_checkRootCert : Frames CertConn.validation (checkRootCert env) := by
  refine .read fun _ => .checked ?_
  split
  · exact .throw _
  · split
    · exact .throw _
    · exact .bind (.ofExcept _) fun _ => .ofExcept _

lemma frames_timeSince (e : Err) (t u : ℤ) :
    Frames CertConn.validation (timeSince env e t u) := by
  unfold timeSince
  split
  · exact .throw _
  · exact .checked <| .pure _

lemma frames_checkOcspTimes (found : OcspStatus) :
    Frames CertConn.validation (checkOcspTimes env found) := by
  unfold checkOcspTimes
  split
  · exact .throw _
  · split
    · exact .throw _
    · refine (frames_timeSince env _ _ _).bind fun ⟨pday, psec⟩ => ?_
      dsimp only
      split
      · exact (frames_timeSince env _ _ _).bind fun _ => .pure _
      · exact .ensure _ _

lemma frames_ocspFindStatus (raw : List UInt8) (chain : List X) :
    Frames CertConn.validation (ocspFindStatus env raw chain) := by
  unfold ocspFindStatus
  split
  · exact .throw _
  · split
    · exact .throw _
    · refine .checked <| .checked ?_
      split
      · exact .throw _
      · exact .pure _

lemma frames_checkOcspResponse (raw : List UInt8) :
    Frames CertConn.validation (checkOcspResponse env raw) := by
  unfold checkOcspResponse
  split
  · exact .throw _
  · refine .checked <| .checked ?_
    split
    · exact .throw _
    · exact (frames_ocspFindStatus env raw _).bind fun found =>
        (frames_checkOcspTimes env found).bind fun _ => .pure _

lemma frames_handleCertValidationCallbackResult :
    Frames CertConn.validation (handleCertValidationCallbackResult : CertM X Unit) :=
  .read fun _ => .checked <| .ensure _ _

lemma frames_invokeCertValidationCb : Frames CertConn.validation (invokeCertValidationCb env) := by
  unfold invokeCertValidationCb
  split
  · exact .pure _
  · exact .read fun _ => (frames_modifyValidator fun _ => rfl).bind fun _ =>
      .checked <| (frames_modifyValidator fun _ => rfl).bind fun _ =>
        frames_handleCertValidationCallbackResult

lemma frames_serverSctListRecv (t : Stuffer) :
    Frames CertConn.validation (serverSctListRecv env t) :=
  .checked <| .read fun _ => .checked <|
    .checked <| .checked <| .modify fun _ => rfl

end Frame

/-! ### The path of a chain -/

namespace Validation

/-- What `Pending` looks at. -/
def phase (v : Validation X) : ValidatorState × Bool := (v.state, v.skip)

lemma Pending.of_phase {v w : Validation X} (h : v.Pending) (hphase : w.phase = v.phase) :
    w.Pending := by
  obtain ⟨hs, hk⟩ := Prod.mk.inj hphase
  exact ⟨hk.trans h.checked, by unfold IsValidated; rw [hs]; exact h.pending⟩

structure Ready (v : Validation X) : Prop where
  checked : v.skip = false
  ready : v.state = .readyToVerify

lemma Ready.pending {v : Validation X} (h : v.Ready) : v.Pending :=
  ⟨h.checked, by unfold IsValidated; rw [h.ready]; decide⟩

end Validation

section Path

variable (env : CertEnv X P)

lemma frames_readCertChainLoop (fuel : ℕ) (t : Stuffer) :
    Frames (fun c => c.validation.phase) (readCertChainLoop env fuel t) := by
  induction fuel generalizing t with
  | zero => exact .pure _
  | succ fuel ih =>
    refine .read fun c => .ite (.pure _) ?_
    refine .bind (.runLocal _ _) fun _ => ?_
    refine ((frames_opensslX509Parse env _ _).map Validation.phase).bind fun cert => ?_
    refine (Frames.when ((frames_checkCertPreferences env cert).map Validation.phase)).bind
      fun _ => ?_
    refine .checked <| .bind (.modify fun _ => rfl) fun _ => ?_
    exact ((frames_readCertExtensions _).map Validation.phase).bind fun t => ih t

variable (chain : Blob)

lemma frames_readCertChain :
    Frames (fun c => c.validation.phase) (readCertChain env chain) :=
  .read fun _ => .checked <| .checked <|
    (frames_readCertChainLoop env _ _).bind fun _ => .checked <|
      .read fun _ => .ensure _ _

variable (h : c.validation.Pending)

include h

lemma crlHandleLookupCallbackResult_ready :
    wp crlHandleLookupCallbackResult (fun _ t => t.validation.Ready)
      (fun _ t => t.validation.Pending) c := by
  unfold crlHandleLookupCallbackResult
  rw [wp_read]
  split
  · exact h
  · split
    · rw [wp_bind]
      unfold setValidatorState modifyValidator
      rw [wp_modify, wp_throw]
      exact ⟨h.checked, by simp [CertConn.validation, Validation.IsValidated]⟩
    · unfold setValidatorState modifyValidator
      rw [wp_modify]
      exact ⟨h.checked, rfl⟩

lemma crlLookups_pending :
    wp (crlLookups env) (fun _ t => t.validation.Pending) (fun _ t => t.validation.Pending) c := by
  unfold crlLookups
  split
  · exact h
  · refine (frames_crlInvokeLookupCallbacks env _).seq rfl (fun _ t ht => ?_) fun _ t ht => ?_
    · exact wp_mono_ok (fun _ _ hr => hr.pending)
        (crlHandleLookupCallbackResult_ready (by rw [ht]; exact h))
    · rw [ht]
      exact h

lemma processCertChain_ready :
    wp (processCertChain env chain) (fun _ t => t.validation.Ready)
      (fun _ t => t.validation.Pending) c := by
  unfold processCertChain
  rw [wp_read]
  refine wp_guard h fun _ => ?_
  refine (frames_readCertChain env chain).seq rfl (fun _ t ht => ?_) fun _ t ht => h.of_phase ht
  have hp : t.validation.Pending := h.of_phase ht
  have hskip : t.x509Validator.skipCertValidation = false := hp.checked
  rw [wp_read]
  simp only [hskip, Bool.false_eq_true, if_false]
  split
  · exact hp
  · refine (frames_verifyHost env _).seq rfl (fun _ u hu => ?_) fun _ u hu => by rw [hu]; exact hp
    have hp' : u.validation.Pending := by rw [hu]; exact hp
    refine wp_guard hp' fun _ => ?_
    refine wp_then (crlLookups_pending env hp') fun _ w hw => ?_
    unfold setValidatorState modifyValidator
    rw [wp_modify]
    exact ⟨hw.checked, rfl⟩
omit h

lemma resumeValidation_pending (h : c.validation.Sound) :
    wp resumeValidation
      (fun _ t => t.validation.Pending ∧
        (t.x509Validator.state = .init ∨ t.x509Validator.state = .readyToVerify))
      (fun _ t => t.validation.Sound) c := by
  unfold resumeValidation
  rw [wp_read]
  split
  · rename_i hs
    refine ⟨⟨h.checked, ?_⟩, .inl hs⟩
    simp [Validation.IsValidated, CertConn.validation, hs]
  · rename_i hs
    have hp : c.validation.Pending := ⟨h.checked, by
      simp [Validation.IsValidated, CertConn.validation, hs]⟩
    exact wp_mono (fun _ _ hr => ⟨hr.pending, .inr hr.ready⟩) (fun _ _ hq => hq.sound)
      (crlHandleLookupCallbackResult_ready hp)
  · exact h

/-- What a validated chain has behind it while stapled responses are still to come. -/
structure Validation.Done (v : Validation X) : Prop extends v.Sound where
  validated : v.IsValidated

lemma verifyCertChain_done (h : c.validation.Ready) :
    wp (verifyCertChain env) (fun _ t => t.validation.Done) (fun _ t => t.validation.Sound) c := by
  have hsound : ∀ {t : CertConn X}, t.validation = c.validation → t.validation.Sound := fun ht => by
    rw [ht]; exact h.pending.sound
  unfold verifyCertChain
  rw [wp_read]
  refine wp_guard (hsound rfl) fun _ => ?_
  refine (frames_setCrls env).seq rfl (fun _ t ht => ?_) fun _ t ht => hsound ht
  refine (frames_setTime env).seq ht (fun _ u hu => ?_) fun _ u hu => hsound hu
  rw [wp_read]
  dsimp only
  split
  · exact hsound hu
  · have hskip : u.validation.skip = false := by rw [hu]; exact h.checked
    unfold setValidatorState modifyValidator
    rw [wp_update, wp_modify]
    exact ⟨⟨hskip, fun _ => List.mem_cons_self, fun _ hs => ValidatorState.noConfusion hs⟩, .inl rfl⟩

/-- **Verification precedes validation.** A validator that is ready ends validated or pending. -/
lemma verifyIfReady_done (h : c.validation.Ready) :
    wp (verifyIfReady env) (fun _ t => t.validation.Done) (fun _ t => t.validation.Sound) c := by
  have hready : c.x509Validator.state = .readyToVerify := h.ready
  unfold verifyIfReady
  rw [wp_read]
  refine wp_taken hready ?_
  refine wp_then (verifyCertChain_done env h) fun _ t ht => ?_
  exact (frames_checkRootCert env).wp (fun _ u hu => by rw [hu]; exact ht)
    fun _ u hu => by rw [hu]; exact ht.toSound

/-- A stapled response is looked at once the chain is verified, unless responses are not checked. -/
lemma validateCertStapledOcspResponse_done (response : Option (List UInt8))
    (h : c.validation.Sound) (hguard : c.validation.checkOcsp = true ∨ c.validation.IsValidated) :
    wp (validateCertStapledOcspResponse env response) (fun _ t => t.validation.Done)
      (fun _ t => t.validation = c.validation) c := by
  have hskip : c.x509Validator.skipCertValidation = false := h.checked
  unfold validateCertStapledOcspResponse
  rw [wp_read]
  dsimp only
  simp only [hskip, Bool.false_eq_true, false_or]
  split
  · rename_i hcheck
    have hvalid : c.validation.IsValidated := hguard.resolve_left fun ht => by
      rw [show c.validation.checkOcsp = false from hcheck] at ht
      exact Bool.noConfusion ht
    unfold setValidatorState modifyValidator
    rw [wp_modify]
    refine ⟨⟨hskip, fun _ => h.verified hvalid, fun ht => ?_⟩, .inr rfl⟩
    exact absurd (show c.x509Validator.checkStapledOcsp = true from ht) (by simp [hcheck])
  · refine wp_guard rfl fun hstate => ?_
    split
    · rfl
    · rename_i raw
      refine (frames_checkOcspResponse env raw).seq rfl (fun status t ht => ?_) fun _ _ ht => ht
      cases status with
      | good =>
        have hchain : t.validation.chain ∈ t.validation.verified := by
          rw [ht]; exact h.verified (.inl hstate)
        have hskip' : t.validation.skip = false := by rw [ht]; exact h.checked
        unfold setValidatorState modifyValidator
        rw [wp_update, wp_modify]
        exact ⟨⟨hskip', fun _ => hchain, fun _ _ => List.cons_ne_nil _ _⟩, .inr rfl⟩
      | revoked => exact ht
      | unknown => exact ht

lemma keeps_done_onLocal {α τ : Type} (m : EStateM Err τ α) (t : τ) :
    Keeps (fun c : CertConn X => c.validation.Done) (onLocal m t) := by
  have hframes : Frames (CertConn.validation (X := X)) (onLocal m t) := .runLocal m t
  exact hframes.keeps Validation.Done

lemma keeps_certStatusRecv (t : Stuffer) :
    Keeps (fun c => c.validation.Done) (certStatusRecv env t) := by
  refine (keeps_done_onLocal _ _).bind fun _ => Keeps.ite ?_ (Keeps.pure _)
  refine Keeps.read fun _ => Keeps.bind (Keeps.ite (Keeps.modify fun _ h => h) (Keeps.pure _))
    fun _ => ?_
  refine (keeps_done_onLocal _ _).bind fun _ => .checked <| .checked ?_
  refine .bind (.when (.bind (.modify fun _ h => h) fun _ => .throw _)) fun _ => ?_
  refine (keeps_done_onLocal _ _).bind fun _ => Keeps.bind (Keeps.modify fun _ h => h) fun _ c hc => ?_
  exact wp_mono (fun _ _ h => h) (fun _ _ h => by rw [h]; exact hc)
    (validateCertStapledOcspResponse_done env _ hc.toSound (.inr hc.validated))

lemma keeps_processLeafExtensions :
    Keeps (fun c => c.validation.Done) (processLeafExtensions env chain) := by
  refine (keeps_done_onLocal _ _).bind fun _ => (keeps_done_onLocal _ _).bind fun _ =>
    extensionListProcess_keeps _ (fun _ _ h => h) _ fun x hx _ => ?_
  obtain rfl | rfl : x = certStatusExtension env ∨ x = serverSctListExtension env := by
    simpa using hx
  · exact ⟨keeps_certStatusRecv env, .pure _⟩
  · exact ⟨fun t => (frames_serverSctListRecv env t).keeps Validation.Done, .pure _⟩

lemma keeps_validateCertChainPreCb :
    Keeps (fun c => c.validation.Sound) (validateCertChainPreCb env chain) := by
  intro c h
  refine wp_then (resumeValidation_pending h) fun _ t ht => ?_
  have hready : wp (when (t.x509Validator.state = .init) (processCertChain env chain))
      (fun _ u => u.validation.Ready) (fun _ u => u.validation.Pending) t := by
    rw [wp_when]
    refine ⟨fun _ => processCertChain_ready env chain ht.1, fun hn => ?_⟩
    exact ⟨ht.1.checked, ht.2.resolve_left hn⟩
  rw [wp_read]
  refine wp_seq hready (fun _ u hu => ?_) fun _ _ hu => hu.sound
  refine wp_then (verifyIfReady_done env hu) fun _ w hw => ?_
  rw [wp_read, wp_when]
  refine ⟨fun _ => ?_, fun _ => hw.toSound⟩
  exact wp_always (fun _ hd => hd.toSound)
    (keeps_processLeafExtensions env chain w hw)

/-- **Every call for a chain leaves the validator sound.** -/
lemma keeps_validateCertChain :
    Keeps (fun c => c.validation.Sound) (validateCertChain env chain) := by
  have hcb := frames_handleCertValidationCallbackResult.keeps (Validation.Sound (X := X))
  refine Keeps.bind (Keeps.read fun c => Keeps.ite hcb ?_) fun _ => Keeps.read fun c => ?_
  · exact (keeps_validateCertChainPreCb env chain).bind fun _ =>
      (frames_invokeCertValidationCb env).keeps Validation.Sound
  · split
    · exact Keeps.throw _
    · have hframes : ∀ {α : Type} (x : Except Err α), Frames (CertConn.validation (X := X)) (ofExcept x) :=
        Frames.ofExcept
      exact (hframes _).keeps Validation.Sound

end Path

/-! ### Runs -/

/-- A stapled response is only handed to the validator while responses are checked or the chain is
already validated. -/
def CertConn.OcspInOrder (c : CertConn X) : Prop :=
  c.x509Validator.checkStapledOcsp = true ∨ c.x509Validator.isCertChainValidated = true

/-- **Calls on a validator**, in any order, each with arbitrary answers from outside and each
possibly failing. Between them the application answers CRL lookups and certificate validations,
and anything may happen to the rest of the connection. -/
inductive ValidatorStep (P : Type) (inOrder : CertConn X → Prop) : CertConn X → CertConn X → Prop
  | validateCertChain (c : CertConn X) (env : CertEnv X P) (chain : Blob) :
      ValidatorStep P inOrder c (finalState (validateCertChain env chain) c)
  | stapledOcspResponse (c : CertConn X) (env : CertEnv X P) (response : Option (List UInt8))
      (h : inOrder c) :
      ValidatorStep P inOrder c (finalState (validateCertStapledOcspResponse env response) c)
  | crlLookups (c : CertConn X) (lookups : Option (List (CrlLookup X))) :
      ValidatorStep P inOrder c
        { c with x509Validator := { c.x509Validator with crlLookupList := lookups } }
  | certValidation (c : CertConn X) (accepted : Bool) :
      ValidatorStep P inOrder c (finalState (certValidationAnswer accepted) c)
  | other (c c' : CertConn X) (h : c'.validation = c.validation) : ValidatorStep P inOrder c c'

/-- A connection whose validator has just been initialized for a check of certificates. -/
structure CertConn.Fresh (c : CertConn X) : Prop where
  init : ∃ hasCerts checkOcsp, c.x509Validator = X509Validator.init hasCerts checkOcsp
  verified : c.verified = []
  goodResponses : c.goodResponses = []

lemma CertConn.Fresh.sound (h : c.Fresh) : c.validation.Sound := by
  obtain ⟨hasCerts, checkOcsp, hv⟩ := h.init
  refine Validation.Pending.sound ⟨?_, ?_⟩ <;>
    simp [CertConn.validation, Validation.IsValidated, hv, X509Validator.init]

lemma validatorStep_sound (c c' : CertConn X) (h : c.validation.Sound)
    (hstep : ValidatorStep P CertConn.OcspInOrder c c') : c'.validation.Sound := by
  cases hstep with
  | validateCertChain env chain => exact (keeps_validateCertChain env chain).finalState h
  | stapledOcspResponse env response hin =>
    have hguard : c.validation.checkOcsp = true ∨ c.validation.IsValidated :=
      hin.imp id isCertChainValidated_iff.mp
    refine finalState_of_wp (P := fun t : CertConn X => t.validation.Sound) ?_
    exact wp_mono (fun _ _ hd => hd.toSound) (fun _ _ ht => by rw [ht]; exact h)
      (validateCertStapledOcspResponse_done env response h hguard)
  | crlLookups lookups => exact h
  | certValidation accepted =>
    have hframe : Frames CertConn.validation (certValidationAnswer accepted : CertM X Unit) :=
      .read fun _ => .checked <| frames_modifyValidator fun _ => rfl
    exact (hframe.keeps Validation.Sound).finalState h
  | other _ heq =>
    rw [heq]
    exact h

/-- Answers that accept everything. -/
def acceptingEnv : CertEnv ℕ Unit where
  malloc := fun _ => true
  policy := ⟨none, none⟩
  trustStoreHasCerts := true
  ossl := fun _ => true
  d2iX509 := fun bs => some (bs.length, bs.length)
  getCertInfo := fun _ => .ok ⟨false, 0, 0, 0, 0⟩
  verifyHostInformation := none
  crlLookupCb := none
  disableX509TimeValidation := false
  libcryptoSupportsFlagNoCheckTime := true
  wallClock := some 0
  verifyCert := fun _ => .ok ()
  get1Chain := some [1]
  certValidationCb := none
  pkeyFromX509 := fun _ => .ok ()
  ocsp :=
    { d2iResponse := fun _ => some true
      basicResponse := fun _ => true
      checkIssued := fun _ _ => true
      basicVerify := fun _ _ => true
      certToId := fun _ _ => true
      respFindStatus := fun _ _ _ => some ⟨.good, 0, none⟩
      generalizedTime := fun _ => some 0
      timeDiff := fun _ _ => some (0, 0) }

/-- A TLS1.2 client whose validator has just been initialized. -/
def freshClient (checkOcsp : Bool) : CertConn ℕ where
  mode := .client
  actualProtocolVersion := tls12
  extensionBits := ⟨fun _ => false, fun _ => false, fun _ => false⟩
  statusTypeOcsp := false
  statusResponse := []
  ctResponse := []
  x509Validator := X509Validator.init true checkOcsp
  verified := []
  goodResponses := []

lemma freshClient_fresh (checkOcsp : Bool) : (freshClient checkOcsp).Fresh :=
  ⟨⟨true, checkOcsp, rfl⟩, rfl, rfl⟩

/-- A client that requires a stapled response after it was given a chain of one certificate. -/
def chainReceived : CertConn ℕ :=
  finalState (validateCertChain acceptingEnv (Blob.ofList [0, 0, 1, 7] (by decide))) (freshClient true)

/-- The same client after the stapled response. -/
def responseReceived : CertConn ℕ :=
  finalState (validateCertStapledOcspResponse acceptingEnv (some [9])) chainReceived

end S2nTls
