import S2nTls.Tls.RecordFrame

/-!
The parameters that `s2n_record_writev` puts aside.

In TLS1.3 a change cipher spec record is written with the parameters of `conn->initial`: the function points
`conn->client` and `conn->server` to them before it looks at anything else, and points them back in its last lines.
A call that fails in between does not come to these lines.
-/

namespace S2nTls

open Lib Stuffer

variable {K : Type}

/-- `conn->client` and `conn->server` -/
def Conn.refs (c : Conn K) : ParamsRef × ParamsRef := (c.crypto.client, c.crypto.server)

section Call

variable {c : Conn K} {ct : ContentType} {iov : Option (List Iovec)} {offs toWrite : ℕ}

lemma blind_refs : Blind (Conn.refs : Conn K → ParamsRef × ParamsRef) where
  side c r m d := by cases r <;> cases m <;> rfl
  random _ _ := rfl
  uses _ _ := rfl

/-- A record of another kind, or one that the kernel makes, leaves the parameters alone, and so does a call without the
initial parameters. -/
lemma recordWritev_refs_of_not_switched (h : ¬ (c.send.ktlsSendEnabled = false ∧ c.actualProtocolVersion = tls13 ∧
      ct = tlsChangeCipherSpec ∧ c.crypto.initialFreed = false)) :
    wp (recordWritev ct iov offs toWrite) (fun _ c' => c'.refs = c.refs) (fun _ c' => c'.refs = c.refs) c := by
  unfold recordWritev
  rw [wp_read, wp_ite]
  refine ⟨fun _ => ?_, fun hktls => ?_⟩
  · have hktls : Frames Conn.refs (ktlsRecordWritev ct iov offs toWrite : ConnM K ℕ) :=
      frames_ktlsRecordWritev ct (fun _ _ => rfl) iov offs toWrite
    exact hktls c
  unfold recordWritevOut recordSwitchToInitial
  rw [wp_read, wp_bind, wp_read, wp_when]
  refine ⟨fun hccs => ?_, fun hno => ?_⟩
  · refine wp_seq_ensure (fun hfreed => ?_) fun _ => rfl
    exact absurd ⟨Bool.eq_false_iff.mpr hktls, hccs.1, hccs.2, hfreed⟩ h
  have hfail : ∀ (_ : Err) (c' : Conn K), (c'.refs, c'.actualProtocolVersion) = (c.refs, c.actualProtocolVersion) →
      c'.refs = c.refs := fun _ _ heq => (Prod.mk.inj heq).1
  refine (frames_recordCheckWrite ct).seq rfl (fun _ c₂ h₂ => ?_) hfail
  refine frames_recordMaxWritePayloadSize.seq h₂ (fun m c₃ h₃ => ?_) hfail
  refine (frames_recordAllocOut (fun _ _ => rfl) m).seq h₃ (fun _ c₄ h₄ => ?_) hfail
  obtain ⟨hrefs, hversion⟩ := Prod.mk.inj h₄
  rw [wp_read]
  refine (blind_refs.recordBuild ct iov offs _ _).seq hrefs (fun p c₅ h₅ => ?_) fun _ _ h => h
  refine (frames_recordSyncOut (fun _ _ => rfl) (fun _ _ => rfl) ct p.1 p.2).seq h₅ (fun _ c₆ h₆ => ?_) fun _ _ h => h
  rw [wp_bind, wp_when]
  exact ⟨fun hyes => absurd (by rwa [hversion] at hyes) hno, fun _ => h₆⟩

/-- **A change cipher spec record of TLS1.3.** The parameters are chosen again exactly if the call succeeds. -/
lemma recordWritev_refs_of_switched (hktls : c.send.ktlsSendEnabled = false)
    (hversion : c.actualProtocolVersion = tls13)
    (hfreed : c.crypto.initialFreed = false) :
    wp (recordWritev tlsChangeCipherSpec iov offs toWrite) (fun _ c' => c'.refs = c.refs)
      (fun _ c' => c'.refs = (.initial, .initial)) c := by
  unfold recordWritev
  rw [wp_read, if_neg (by rw [hktls]; decide)]
  unfold recordWritevOut recordSwitchToInitial
  rw [wp_read, wp_bind, wp_read]
  refine wp_taken ⟨hversion, rfl⟩ (wp_ensured hfreed ?_)
  rw [wp_modify]
  -- from here on `conn->client` and `conn->server` are the initial parameters
  have hfail : ∀ (_ : Err) (c' : Conn K), (c'.refs, c'.actualProtocolVersion) = ((.initial, .initial), tls13) →
      c'.refs = (.initial, .initial) := fun _ _ heq => (Prod.mk.inj heq).1
  have hcheck : Frames (fun c : Conn K => (c.refs, c.actualProtocolVersion)) (recordCheckWrite tlsChangeCipherSpec) :=
    frames_recordCheckWrite _
  refine hcheck.seq (v := ((.initial, .initial), tls13)) (Prod.ext rfl hversion) (fun _ c₂ h₂ => ?_) hfail
  refine frames_recordMaxWritePayloadSize.seq h₂ (fun m c₃ h₃ => ?_) hfail
  refine (frames_recordAllocOut (fun _ _ => rfl) m).seq h₃ (fun _ c₄ h₄ => ?_) hfail
  obtain ⟨hrefs, hversion₄⟩ := Prod.mk.inj h₄
  rw [wp_read]
  refine (blind_refs.recordBuild _ iov offs _ _).seq hrefs (fun p c₅ h₅ => ?_) fun _ _ h => h
  refine (frames_recordSyncOut (fun _ _ => rfl) (fun _ _ => rfl) _ p.1 p.2).seq h₅ (fun _ c₆ _ => ?_) fun _ _ h => h
  rw [wp_bind]
  refine wp_taken ⟨hversion₄, rfl⟩ ?_
  rw [wp_modify, wp_pure]
  rfl

end Call

/-- A server of TLS1.3 that protects what it writes; `out` is what it has not sent yet. -/
def protectingServer (out : Stuffer) : Conn Unit where
  mode := .server
  actualProtocolVersion := tls13
  crypto :=
    { initial := CryptoParameters.new ()
      secure := ⟨copyingCipherSuite, CryptoSide.new (), CryptoSide.new ()⟩
      client := .secure
      server := .secure }
  send := { out := out }

/-- The data of a change cipher spec message. -/
def ccsData : Option (List Iovec) := some [⟨fun _ => 1, 1, false⟩]

/-- An output buffer with one byte that has not been sent. -/
def undrained : Stuffer :=
  finalState (writeBytes .ample [0])
    (finalState (growableAlloc .ample 0) Stuffer.zero)

end S2nTls
