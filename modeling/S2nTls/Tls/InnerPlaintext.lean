import S2nTls.Stuffer.Written
import S2nTls.Tls.RecordRead

/-!
The inner plaintext of TLS1.3 (RFC 8446, section 5.4): content, a content type that is not zero, and zeros.

`s2n_tls13_parse_record_type` takes bytes from the back until one is not zero. The content may itself end in zeros:
the last byte that is not zero is the type, so that there is only one way to cut the plaintext.
-/

namespace S2nTls

open Lib Stuffer

variable {ct : ContentType} {c : List UInt8} {k : ℕ}

/-- The plaintext of a content, its type and a padding. -/
def paddedPlaintext (content : List UInt8) (ct : ContentType) (k : ℕ) : List UInt8 :=
  content ++ ct :: List.replicate k 0

lemma paddedPlaintext_succ (content : List UInt8) (ct : ContentType) (k : ℕ) :
    paddedPlaintext content ct (k + 1) = paddedPlaintext content ct k ++ [0] := by
  simp [paddedPlaintext, List.replicate_succ']

lemma paddedPlaintext_inj {c' : List UInt8} {ct' : ContentType} {k' : ℕ} (hct : ct ≠ 0) (hct' : ct' ≠ 0)
    (h : paddedPlaintext c ct k = paddedPlaintext c' ct' k') : c = c' ∧ ct = ct' := by
  induction k generalizing k' with
  | zero =>
    cases k' with
    | zero => simpa [paddedPlaintext] using h
    | succ k' =>
      rw [paddedPlaintext_succ] at h
      exact absurd (List.singleton_inj.mp (List.append_inj' h rfl).2) hct
  | succ k ih =>
    rw [paddedPlaintext_succ] at h
    cases k' with
    | zero => exact absurd (List.singleton_inj.mp (List.append_inj' h rfl).2).symm hct'
    | succ k' =>
      rw [paddedPlaintext_succ] at h
      exact ih (List.append_left_injective _ h)

lemma paddedPlaintext_ne_zeros {n : ℕ} (hct : ct ≠ 0) : paddedPlaintext c ct k ≠ List.replicate n 0 := by
  intro h
  have hmem : ct ∈ paddedPlaintext c ct k := by simp [paddedPlaintext]
  exact hct (List.eq_of_mem_replicate (h ▸ hmem))

section Loop

variable {t u : Stuffer} {Q : Unit → Stuffer → Prop} {R : Err → Stuffer → Prop} {bs : List UInt8} {b : UInt8}

lemma wp_rewindRead_one (h : 1 ≤ t.readCursor)
    (hok : ∀ u, u.blob = t.blob → u.readCursor = t.readCursor - 1 → u.writeCursor = t.writeCursor →
      Q () u) : wp (rewindRead 1) Q R t := by
  unfold rewindRead wp
  simp only [EStateM.run, h, if_true]
  exact hok _ rfl rfl rfl

lemma wp_wipeN_one (h : t.written = bs ++ [b])
    (hok : ∀ u, u.written = bs → u.readCursor = min t.readCursor bs.length → Q () u) : wp (wipeN 1) Q R t := by
  have hlen : t.writeCursor = bs.length + 1 := by rw [← written_length, h, List.length_append, List.length_singleton]
  have hmin : min 1 t.writeCursor = 1 := by omega
  have hn : t.writeCursor - 1 = bs.length := by omega
  rw [wipeN, wp_modify]
  refine hok _ ?_ (by simp only [hmin, hn])
  simp only [written, hmin, hn]
  refine Eq.trans (slice_overwrite_of_disjoint (.inl (by omega))) ?_
  rw [written, hlen, slice_add] at h
  exact (List.append_inj' h (by simp)).1

/-- **The loop** takes the zeros and the byte before them, or everything if there is no other byte. -/
lemma wp_parseRecordTypeLoop {fuel : ℕ} (hcursors : u.readCursor = u.writeCursor) (hfuel : u.written.length < fuel) :
    wp (parseRecordTypeLoop fuel)
      (fun ct v => ct ≠ 0 ∧ ∃ k, u.written = paddedPlaintext v.written ct k)
      (fun e v => e = .stufferOutOfData ∧ v.written = [] ∧ ∃ k, u.written = List.replicate k 0) u := by
  induction fuel generalizing u with
  | zero => exact absurd hfuel (Nat.not_lt_zero _)
  | succ fuel ih =>
    rw [parseRecordTypeLoop, wp_bind]
    obtain hnil | ⟨bs, b, hbs⟩ := List.eq_nil_or_concat' u.written
    · -- nothing is left, and the cursor cannot go back
      have hread : ¬ 1 ≤ u.readCursor := by rw [hcursors, ← written_length, hnil]; decide
      rw [wp_of_error (e := .stufferOutOfData) (t := u) (by simp only [rewindRead, EStateM.run, hread, if_false])]
      exact ⟨rfl, hnil, 0, hnil⟩
    have hlen : u.writeCursor = bs.length + 1 := by
      rw [← written_length, hbs, List.length_append, List.length_singleton]
    refine wp_rewindRead_one (by omega) fun v hvb hvr hvw => ?_
    have hv : v.written = bs ++ [b] := by rw [written, hvb, hvw]; exact hbs
    have hun : v.unread = [b] ++ [] := by
      rw [unread_eq_drop_written, hv, show v.readCursor = bs.length by omega, List.drop_left, List.append_nil]
    have hnull : v.blob.isNull = false :=
      isNull_eq_false_of_pos (t := v) (by rw [← unread_length, hun]; exact Nat.one_pos)
    rw [wp_bind, readUint, wp_bind]
    refine wp_readBytes_append hun hnull fun w hwun hwb hww => ?_
    have hw : w.written = bs ++ [b] := by rw [written, hwb, hww]; exact hv
    have hwr : w.readCursor = w.writeCursor := by
      have := congrArg List.length hwun
      rw [unread_length, List.length_nil, dataAvailable] at this
      have := w.read_le_write
      omega
    rw [wp_pure, wp_bind]
    refine wp_wipeN_one hw fun x hx hxr => ?_
    rw [show beNat [b] = b.toNat by simp [beNat]]
    by_cases hb : b = 0
    · have hxw : x.writeCursor = bs.length := by rw [← written_length, hx]
      rw [if_pos (by rw [hb]; rfl)]
      rw [hbs, List.length_append, List.length_singleton] at hfuel
      refine wp_mono (fun ct v h => ?_) (fun e v h => ?_) (ih (by rw [hxr, hxw]; omega) (by rw [hx]; omega))
      · obtain ⟨hct, k, hk⟩ := h
        exact ⟨hct, k + 1, by rw [hbs, hb, paddedPlaintext_succ, ← hk, hx]⟩
      · obtain ⟨he, hv, k, hk⟩ := h
        exact ⟨he, hv, k + 1, by rw [hbs, hb, List.replicate_succ', ← hk, hx]⟩
    · have hne : b.toNat ≠ 0 := fun h => hb (UInt8.toNat_inj.mp h)
      rw [if_neg hne, wp_pure, UInt8.ofNat_toNat]
      exact ⟨hb, 0, by rw [hbs, hx]; rfl⟩

end Loop

/-- `s2n_tls13_parse_record_type`, whatever of the plaintext was read before. -/
lemma wp_tls13ParseRecordType_cut (t : Stuffer) :
    wp tls13ParseRecordType
      (fun ct u => ct ≠ 0 ∧ (∃ k, t.written = paddedPlaintext u.unread ct k) ∧ u.readCursor = 0 ∧
        u.unread.length ≤ 2 ^ 14 ∧ t.dataAvailable ≤ 2 ^ 14 + 17)
      (fun _ _ => 2 ^ 14 + 17 < t.dataAvailable ∨ (∃ k, t.written = List.replicate k 0) ∨
        ∃ c ct k, ct ≠ 0 ∧ t.written = paddedPlaintext c ct k ∧ 2 ^ 14 < c.length) t := by
  unfold tls13ParseRecordType
  rw [wp_read]
  refine wp_seq_ensure (fun hmax => ?_) fun h => .inl (by unfold maximumInnerPlaintextLength at h; omega)
  rw [wp_bind, wp_skipRead]
  refine ⟨fun hle => ?_, fun h => absurd le_rfl h⟩
  have hread : (t.advanceRead t.dataAvailable hle).readCursor = t.writeCursor := Nat.add_sub_cancel' t.read_le_write
  rw [wp_read, wp_bind]
  refine wp_mono (fun ct v h => ?_) (fun _ _ h => .inr (.inl h.2.2))
    (wp_parseRecordTypeLoop hread (by rw [written_length, hread]; exact Nat.lt_succ_self _))
  obtain ⟨hct, k, hk⟩ := h
  rw [wp_bind, reread, wp_modify, wp_read]
  have hun : ({ v with readCursor := 0, read_le_write := Nat.zero_le _ } : Stuffer).unread = v.written :=
    unread_eq_written (t := { v with readCursor := 0, read_le_write := Nat.zero_le _ }) rfl
  unfold maximumInnerPlaintextLength at *
  refine wp_seq_ensure (fun hfit => ?_) fun h => .inr (.inr ⟨v.written, ct, k, hct, hk, ?_⟩)
  · rw [wp_pure, hun]
    rw [← unread_length, hun] at hfit
    exact ⟨hct, ⟨k, hk⟩, rfl, by omega, by omega⟩
  · rw [← unread_length, hun] at h
    omega

lemma tls13ParseRecordType_padded {t : Stuffer}
    (hw : t.written = paddedPlaintext c ct k) (hct : ct ≠ 0) (hmax : c.length + 1 + k ≤ 2 ^ 14 + 17)
    (hc : c.length ≤ 2 ^ 14) :
    ∃ u, tls13ParseRecordType.run t = .ok ct u ∧ u.unread = c ∧ u.readCursor = 0 := by
  have h := wp_tls13ParseRecordType_cut t
  cases hrun : tls13ParseRecordType.run t with
  | ok a u =>
    obtain ⟨ha, ⟨j, hj⟩, hread, -⟩ := (wp_of_ok hrun).mp h
    obtain ⟨rfl, rfl⟩ := paddedPlaintext_inj hct ha (hw.symm.trans hj)
    exact ⟨u, rfl, rfl, hread⟩
  | error e u =>
    rcases (wp_of_error hrun).mp h with hbig | ⟨j, hj⟩ | ⟨c', ct', j, hct', hj, hbig⟩
    · have := congrArg List.length hw
      simp only [written_length, paddedPlaintext, List.length_append, List.length_cons, List.length_replicate] at this
      unfold dataAvailable at hbig
      omega
    · exact absurd (hw.symm.trans hj) (paddedPlaintext_ne_zeros hct)
    · obtain ⟨rfl, rfl⟩ := paddedPlaintext_inj hct hct' (hw.symm.trans hj)
      omega

/-- **Unpadding inverts padding.** A plaintext of the right form is cut into content and type, only such plaintexts
are accepted, and one of zeros is not. -/
theorem tls13ParseRecordType_inverts (t : Stuffer) :
    (∀ c ct k, t.written = paddedPlaintext c ct k → ct ≠ 0 → c.length + 1 + k ≤ 2 ^ 14 + 17 → c.length ≤ 2 ^ 14 →
      ∃ u, tls13ParseRecordType.run t = .ok ct u ∧ u.unread = c ∧ u.readCursor = 0) ∧
    (∀ ct u, tls13ParseRecordType.run t = .ok ct u → ct ≠ 0 ∧ (∃ k, t.written = paddedPlaintext u.unread ct k) ∧
      u.readCursor = 0 ∧ u.unread.length ≤ 2 ^ 14 ∧ t.dataAvailable ≤ 2 ^ 14 + 17) ∧
    (∀ k, t.written = List.replicate k 0 → ∃ e u, tls13ParseRecordType.run t = .error e u) := by
  have h := wp_tls13ParseRecordType_cut t
  refine ⟨fun c ct k hw hct hmax hc => tls13ParseRecordType_padded hw hct hmax hc,
    fun ct u hrun => (wp_of_ok hrun).mp h, fun k hw => ?_⟩
  cases hrun : tls13ParseRecordType.run t with
  | ok a u =>
    obtain ⟨ha, ⟨j, hj⟩, -⟩ := (wp_of_ok hrun).mp h
    exact absurd (hj.symm.trans hw) (paddedPlaintext_ne_zeros ha)
  | error e u => exact ⟨e, u, rfl⟩

end S2nTls
