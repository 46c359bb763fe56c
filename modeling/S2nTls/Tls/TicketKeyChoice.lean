import Mathlib.Algebra.Order.Field.Rat
import S2nTls.Lib.Weighted
import S2nTls.Tls.TicketKeyStore

/-!
The choice of the key that encrypts a ticket (`tls/s2n_resume.c`, `s2n_config_is_encrypt_key_available`,
`s2n_compute_weight_of_encrypt_decrypt_keys`, `s2n_get_ticket_encrypt_decrypt_key`).

A key is used more and more during the first half of the time in which it may encrypt, and less and less during the
second. At both ends its weight can be zero: at the time of the introduction, and at the last moment if the lifetime is
odd. If there are several keys and all of them are at such an end, the total is zero and none is chosen.
-/

namespace S2nTls

open Lib

/-! ### The functions of the source -/

/-- The test of both loops: the key may encrypt at `now`. -/
def TicketConfig.Encrypts (c : TicketConfig) (now : UInt64) (key : TicketKey) : Prop :=
  key.introTimestamp ≤ now ∧ now < key.introTimestamp + c.encryptDecryptKeyLifetimeInNanos

instance (c : TicketConfig) (now : UInt64) (key : TicketKey) : Decidable (c.Encrypts now key) :=
  inferInstanceAs (Decidable (_ ∧ _))

def isEncryptKeyAvailable : TicketM Unit := do
  let now ← configWallClock
  let c ← get
  ensure (c.ticketKeys.isSome = true) .null
  ensure (c.keys.reverse.any (fun key => decide (c.Encrypts now key)) = true) .noTicketEncryptDecryptKey

/-- The weight of a key in `s2n_compute_weight_of_encrypt_decrypt_keys`, in 64 bits. -/
def keyWeight (encryptDecryptKeyLifetime now : UInt64) (key : TicketKey) : UInt64 :=
  let keyEncryptionPeakTime := key.introTimestamp + encryptDecryptKeyLifetime / 2
  if now < keyEncryptionPeakTime then now - key.introTimestamp
  else encryptDecryptKeyLifetime / 2 - (now - keyEncryptionPeakTime)

/-- The weight of a key of the config as a fraction. -/
def TicketConfig.weightAt (c : TicketConfig) (now : UInt64) (key : TicketKey) : ℚ :=
  (keyWeight c.encryptDecryptKeyLifetimeInNanos now key).toNat

/-- `s2n_compute_weight_of_encrypt_decrypt_keys`, with the draw of `s2n_public_random` and with fractions for `double`:
where a total of zero gives no number in the source, a fraction is zero here, and neither is greater than the draw. -/
def computeWeightOfEncryptDecryptKeys (random : Except Err ℚ) (c : TicketConfig) (keys : List TicketKey)
    (now : UInt64) : Except Err TicketKey := do
  let totalWeight := (keys.map (c.weightAt now)).sum
  let draw ← random
  match pickWeighted (c.weightAt now) totalWeight draw 0 keys with
  | none => throw .encryptDecryptKeySelectionFailed
  | some key => return key

def getTicketEncryptDecryptKeyByWeight (random : Except Err ℚ) : TicketM TicketKey := do
  let now ← configWallClock
  let c ← get
  ensure (c.ticketKeys.isSome = true) .null
  match encryptDecryptKeys c now with
  | [] => throw .noTicketEncryptDecryptKey
  | [key] => return key
  | keys => ofExcept (computeWeightOfEncryptDecryptKeys random c keys now)

variable {c : TicketConfig} {key : TicketKey} {now : UInt64}

/-! ### The weight of a key -/

lemma TicketConfig.Encrypts.window (h : c.Encrypts now key) :
    key.introTimestamp.toNat ≤ now.toNat ∧
    now.toNat < key.introTimestamp.toNat + c.encryptDecryptKeyLifetimeInNanos.toNat ∧
    key.introTimestamp.toNat + c.encryptDecryptKeyLifetimeInNanos.toNat < 2 ^ 64 := by
  obtain ⟨hintro, hend⟩ := h
  have hintro := UInt64.le_iff_toNat_le.mp hintro
  have hend := UInt64.lt_iff_toNat_lt.mp hend
  rw [UInt64.toNat_add] at hend
  have hlifetime := c.encryptDecryptKeyLifetimeInNanos.toNat_lt
  omega

/-- A key in use weighs nothing in two cases only. -/
lemma keyWeight_eq_zero_iff (h : c.Encrypts now key) :
    (keyWeight c.encryptDecryptKeyLifetimeInNanos now key).toNat = 0 ↔ key.introTimestamp = now ∨
      c.encryptDecryptKeyLifetimeInNanos.toNat % 2 = 1 ∧
        now.toNat + 1 = key.introTimestamp.toNat + c.encryptDecryptKeyLifetimeInNanos.toNat := by
  obtain ⟨hintro, hend, hfits⟩ := h.window
  have htwo : (2 : UInt64).toNat = 2 := rfl
  have hpeak : (key.introTimestamp + c.encryptDecryptKeyLifetimeInNanos / 2).toNat =
      key.introTimestamp.toNat + c.encryptDecryptKeyLifetimeInNanos.toNat / 2 := by
    rw [UInt64.toNat_add, UInt64.toNat_div, htwo]
    exact Nat.mod_eq_of_lt (by omega)
  rw [← UInt64.toNat_inj]
  unfold keyWeight
  dsimp only
  split
  · rename_i hrising
    have hrising := UInt64.lt_iff_toNat_lt.mp hrising
    rw [hpeak] at hrising
    rw [UInt64.toNat_sub_of_le _ _ (UInt64.le_iff_toNat_le.mpr hintro)]
    omega
  · rename_i hfalling
    have hfalling := UInt64.le_iff_toNat_le.mp (UInt64.not_lt.mp hfalling)
    have hpast : (now - (key.introTimestamp + c.encryptDecryptKeyLifetimeInNanos / 2)).toNat =
        now.toNat - (key.introTimestamp.toNat + c.encryptDecryptKeyLifetimeInNanos.toNat / 2) := by
      rw [UInt64.toNat_sub_of_le _ _ (UInt64.le_iff_toNat_le.mpr hfalling), hpeak]
    rw [hpeak] at hfalling
    rw [UInt64.toNat_sub_of_le, hpast, UInt64.toNat_div, htwo]
    · omega
    · rw [UInt64.le_iff_toNat_le, hpast, UInt64.toNat_div, htwo]
      omega

/-! ### The choice -/

section Choice

variable {draw : ℚ}

lemma mem_encryptDecryptKeys : key ∈ encryptDecryptKeys c now ↔ key ∈ c.keys ∧ c.Encrypts now key := by
  unfold encryptDecryptKeys
  rw [List.mem_filter, List.mem_reverse, decide_eq_true_iff]
  exact Iff.rfl

/-- The key that the weights choose among those in use. -/
def weightedKey (c : TicketConfig) (now : UInt64) (draw : ℚ) : Option TicketKey :=
  pickWeighted (c.weightAt now) ((encryptDecryptKeys c now).map (c.weightAt now)).sum draw 0 (encryptDecryptKeys c now)

lemma computeWeightOfEncryptDecryptKeys_ok (keys : List TicketKey) :
    computeWeightOfEncryptDecryptKeys (.ok draw) c keys now =
      match pickWeighted (c.weightAt now) (keys.map (c.weightAt now)).sum draw 0 keys with
      | none => .error .encryptDecryptKeySelectionFailed
      | some key => .ok key := by
  unfold computeWeightOfEncryptDecryptKeys
  show (match pickWeighted _ _ draw 0 keys with | none => _ | some key => _) = _
  cases pickWeighted (c.weightAt now) (keys.map (c.weightAt now)).sum draw 0 keys <;> rfl

variable (hnow : c.clock c.readings = some now)

include hnow

lemma run_getTicketEncryptDecryptKeyByWeight :
    (getTicketEncryptDecryptKeyByWeight (.ok draw)).run c =
      (getTicketEncryptDecryptKey ((weightedKey c now draw).map (encryptDecryptKeys c now).idxOf)).run c := by
  have hclock : configWallClock.run c = .ok now { c with readings := c.readings + 1 } := by
    have hwp : wp configWallClock (fun t c' => t = now ∧ c' = { c with readings := c.readings + 1 })
        noError c := by
      rw [wp_configWallClock]
      exact ⟨fun t ht => ⟨Option.some.inj (ht.symm.trans hnow), rfl⟩, fun hnone => nomatch hnow.symm.trans hnone⟩
    obtain ⟨_, _, hrun, rfl, rfl⟩ := exists_ok_of_wp hwp
    exact hrun
  unfold getTicketEncryptDecryptKeyByWeight getTicketEncryptDecryptKey
  simp only [EStateM.run_bind, hclock, EStateM.run_get]
  have hkeys : encryptDecryptKeys { c with readings := c.readings + 1 } now = encryptDecryptKeys c now := rfl
  rw [hkeys]
  congr 1
  funext x c1
  unfold weightedKey
  match encryptDecryptKeys c now with
  | [] => rfl
  | [key] => rfl
  | k1 :: k2 :: ks =>
    have hweight : TicketConfig.weightAt { c with readings := c.readings + 1 } now = c.weightAt now := rfl
    simp only [computeWeightOfEncryptDecryptKeys_ok, hweight]
    generalize hkeys : k1 :: k2 :: ks = keys
    cases hpick : pickWeighted (c.weightAt now) (keys.map (c.weightAt now)).sum draw 0 keys with
    | none =>
      rfl
    | some key =>
      have hplace : keys[keys.idxOf key]? = some key := List.getElem?_idxOf (mem_of_pickWeighted hpick)
      simp only [Option.map_some, Option.bind_some, hplace]
      rfl

/-- A key is returned if there is only one in use, or if some key in use weighs something. -/
lemma succeeds_getTicketEncryptDecryptKeyByWeight_iff
    (hsome : c.ticketKeys.isSome = true) (hne : encryptDecryptKeys c now ≠ []) (hdraw : 0 ≤ draw) (hlt : draw < 1) :
    succeeds (getTicketEncryptDecryptKeyByWeight (.ok draw)) c = true ↔
      (encryptDecryptKeys c now).length ≤ 1 ∨ ∃ key ∈ encryptDecryptKeys c now, c.weightAt now key ≠ 0 := by
  have hnonneg : ∀ key ∈ encryptDecryptKeys c now, 0 ≤ c.weightAt now key := fun _ _ => Nat.cast_nonneg _
  have hpicks := exists_pickWeighted_iff hnonneg hdraw hlt
  rw [succeeds_iff_wp]
  unfold getTicketEncryptDecryptKeyByWeight
  rw [wp_bind, wp_configWallClock]
  have hclock : ∀ {P : UInt64 → Prop}, (∀ t, c.clock c.readings = some t → P t) ↔ P now := fun {P} =>
    ⟨fun h => h now hnow, fun h t ht => Option.some.inj (hnow.symm.trans ht) ▸ h⟩
  rw [hclock, and_iff_left (fun hnone => nomatch hnow.symm.trans hnone), wp_read, wp_bind, wp_ensure_ok,
    and_iff_right hsome]
  have hkeys : encryptDecryptKeys { c with readings := c.readings + 1 } now = encryptDecryptKeys c now := rfl
  have hweight : TicketConfig.weightAt { c with readings := c.readings + 1 } now = c.weightAt now := rfl
  rw [hkeys]
  match hlist : encryptDecryptKeys c now with
  | [] => exact absurd hlist hne
  | [key] => exact iff_of_true trivial (.inl le_rfl)
  | key₁ :: key₂ :: rest =>
    dsimp only
    rw [or_iff_right (by simp), ← hlist, ← hpicks, wp_ofExcept, computeWeightOfEncryptDecryptKeys_ok, hweight]
    cases pickWeighted (c.weightAt now) ((encryptDecryptKeys c now).map (c.weightAt now)).sum draw 0
        (encryptDecryptKeys c now) with
    | none => simp
    | some key => simp

lemma isEncryptKeyAvailable_ok {c' : TicketConfig}
    (h : isEncryptKeyAvailable.run c = .ok () c') :
    c' = { c with readings := c.readings + 1 } ∧ c.ticketKeys.isSome = true ∧ encryptDecryptKeys c now ≠ [] := by
  have hwp : wp isEncryptKeyAvailable (fun _ c' => c' = { c with readings := c.readings + 1 } ∧
      c.ticketKeys.isSome = true ∧ encryptDecryptKeys c now ≠ []) anyError c := by
    unfold isEncryptKeyAvailable
    rw [wp_bind, wp_configWallClock]
    refine ⟨fun t ht => ?_, fun _ => trivial⟩
    obtain rfl := Option.some.inj (hnow.symm.trans ht)
    rw [wp_read]
    refine wp_checked fun hsome => ?_
    rw [wp_ensure]
    refine ⟨fun hany => ⟨rfl, hsome, ?_⟩, fun _ => trivial⟩
    obtain ⟨key, hmem, hkey⟩ := List.any_eq_true.mp hany
    exact List.ne_nil_of_mem (mem_encryptDecryptKeys.mpr ⟨List.mem_reverse.mp hmem, of_decide_eq_true hkey⟩)
  exact (wp_iff_run.mp hwp).1 () c' h

end Choice

/-- Where there is no key available, none encrypts. -/
lemma encryptDecryptKeys_eq_nil {c : TicketConfig} {now : UInt64} (hnow : c.clock c.readings = some now)
    (h : succeeds isEncryptKeyAvailable c = false) : encryptDecryptKeys c now = [] := by
  by_contra hne
  obtain ⟨key, hkey⟩ := List.exists_mem_of_ne_nil _ hne
  obtain ⟨hmem, hencrypts⟩ := mem_encryptDecryptKeys.mp hkey
  have hsome : c.ticketKeys.isSome = true := by
    unfold TicketConfig.keys at hmem
    split at hmem
    · cases hmem
    · rename_i keys heq
      rw [heq]
      rfl
  refine Bool.false_ne_true (h.symm.trans (succeeds_iff_wp.mpr ?_))
  unfold isEncryptKeyAvailable
  rw [wp_bind, wp_configWallClock]
  refine ⟨fun t ht => ?_, fun hnone => nomatch hnow.symm.trans hnone⟩
  obtain rfl := Option.some.inj (hnow.symm.trans ht)
  rw [wp_read]
  refine wp_ensured hsome ?_
  rw [wp_ensure]
  refine ⟨fun _ => trivial, fun hnone => hnone (List.any_eq_true.mpr ⟨key, List.mem_reverse.mpr hmem, ?_⟩)⟩
  exact decide_eq_true hencrypts

/-- If there is a key that encrypts at `now`, every draw returns one of the keys whose time it is. -/
def ChoosesUsableKey (c : TicketConfig) (now : UInt64) : Prop :=
  ∀ c', isEncryptKeyAvailable.run c = .ok () c' → ∀ draw : ℚ, 0 ≤ draw → draw < 1 →
    ∃ key c'', (getTicketEncryptDecryptKeyByWeight (.ok draw)).run c' = .ok key c'' ∧ key ∈ c.keys ∧
      key.introTimestamp.toNat ≤ now.toNat ∧
      now.toNat < key.introTimestamp.toNat + c.encryptDecryptKeyLifetimeInNanos.toNat

/-- At most one key encrypts at `now`, or one of them does so neither at the moment of its introduction nor, if the
lifetime is odd, at its last moment. -/
def SomeKeyWeighs (c : TicketConfig) (now : UInt64) : Prop :=
  (c.keys.filter fun key => decide (c.Encrypts now key)).length ≤ 1 ∨
  ∃ key ∈ c.keys, c.Encrypts now key ∧ key.introTimestamp ≠ now ∧
    ¬ (c.encryptDecryptKeyLifetimeInNanos.toNat % 2 = 1 ∧
      now.toNat + 1 = key.introTimestamp.toNat + c.encryptDecryptKeyLifetimeInNanos.toNat)

lemma someKeyWeighs_iff {c : TicketConfig} {now : UInt64} :
    SomeKeyWeighs c now ↔
      (encryptDecryptKeys c now).length ≤ 1 ∨ ∃ key ∈ encryptDecryptKeys c now, c.weightAt now key ≠ 0 := by
  have hlength : (encryptDecryptKeys c now).length =
      (c.keys.filter fun key => decide (c.Encrypts now key)).length := by
    unfold encryptDecryptKeys
    rw [List.filter_reverse, List.length_reverse]
    rfl
  unfold SomeKeyWeighs
  rw [hlength]
  refine or_congr_right (exists_congr fun key => ?_)
  rw [mem_encryptDecryptKeys, and_assoc]
  refine and_congr_right fun _ => and_congr_right fun hkey => ?_
  unfold TicketConfig.weightAt
  rw [Nat.cast_ne_zero, ← not_or, ← keyWeight_eq_zero_iff hkey]

/-- **The choice of a key.** Where `s2n_config_is_encrypt_key_available` succeeds, `s2n_get_ticket_encrypt_decrypt_key`
returns a key whose time it is for every draw, unless several keys encrypt at that time and none of them weighs
anything. -/
theorem chooses_usable_key_iff (c : TicketConfig) (now : UInt64) (hfirst : c.clock c.readings = some now)
    (hsecond : c.clock (c.readings + 1) = some now) : ChoosesUsableKey c now ↔ SomeKeyWeighs c now := by
  rw [someKeyWeighs_iff]
  cases havailable : Lib.succeeds isEncryptKeyAvailable c with
  | false =>
    refine iff_of_true (fun c' hrun => ?_) (.inl ?_)
    · unfold Lib.succeeds at havailable
      rw [hrun] at havailable
      cases havailable
    · rw [encryptDecryptKeys_eq_nil hfirst havailable]
      exact Nat.zero_le _
  | true =>
    obtain ⟨⟨⟩, c', hrun⟩ := exists_ok_of_succeeds havailable
    obtain ⟨rfl, hsome, hne⟩ := isEncryptKeyAvailable_ok hfirst hrun
    have hiff : ∀ draw : ℚ, 0 ≤ draw → draw < 1 → (_ ↔ _) := fun draw =>
      succeeds_getTicketEncryptDecryptKeyByWeight_iff (c := { c with readings := c.readings + 1 }) hsecond hsome hne
    constructor
    · intro h
      obtain ⟨key, c'', hget, -⟩ := h _ hrun 0 le_rfl zero_lt_one
      refine (hiff 0 le_rfl zero_lt_one).mp ?_
      unfold Lib.succeeds
      rw [hget]
    · intro h c₁ hrun₁ draw hdraw hlt
      obtain ⟨rfl, -, -⟩ := isEncryptKeyAvailable_ok hfirst hrun₁
      obtain ⟨key, c'', hget⟩ := exists_ok_of_succeeds ((hiff draw hdraw hlt).mpr h)
      have hpick : (getTicketEncryptDecryptKeyByWeight (.ok draw)).run { c with readings := c.readings + 1 } = _ :=
        run_getTicketEncryptDecryptKeyByWeight hsecond
      obtain ⟨hmem, -, -, t, ht, hwindow⟩ := getTicketEncryptDecryptKey_mem (hpick.symm.trans hget)
      obtain rfl := Option.some.inj (hsecond.symm.trans ht)
      have hwindow : key.introTimestamp.toNat ≤ now.toNat ∧ _ := TicketConfig.Encrypts.window hwindow
      exact ⟨key, c'', hget, hmem, hwindow.1, hwindow.2.1⟩

/-- A config with two keys from the fifth second on, when the clock shows `now`. -/
def twoKeysAt (now : UInt64) : TicketConfig :=
  addKeys [⟨repeatingLib, [1], [1], 5⟩, ⟨repeatingLib, [2], [2], 5⟩] { ticketConfig with clock := fun _ => some now }

/-- A second later each draw gives one of the two keys. -/
theorem chooses_usable_key_twoKeysAt :
    succeeds isEncryptKeyAvailable (twoKeysAt 6000000000) = true ∧ (twoKeysAt 6000000000).keys.length = 2 ∧
    ChoosesUsableKey (twoKeysAt 6000000000) 6000000000 := by
  refine ⟨by decide +kernel, by decide +kernel, ?_⟩
  refine (chooses_usable_key_iff (twoKeysAt 6000000000) 6000000000 (by decide +kernel) (by decide +kernel)).mpr ?_
  exact someKeyWeighs_iff.mpr (.inr (by decide +kernel))

/-- **At the moment of their introduction, neither of two keys is chosen.** -/
theorem new_keys_not_chosen :
    (twoKeysAt 5000000000).clock (twoKeysAt 5000000000).readings = some 5000000000 ∧
    succeeds isEncryptKeyAvailable (twoKeysAt 5000000000) = true ∧
    ¬ ChoosesUsableKey (twoKeysAt 5000000000) 5000000000 := by
  have havailable : Lib.succeeds isEncryptKeyAvailable (twoKeysAt 5000000000) = true := by decide +kernel
  refine ⟨by decide +kernel, havailable, fun h => ?_⟩
  obtain ⟨key, c'', hget, -⟩ := h _ (run_of_succeeds havailable) 0 le_rfl zero_lt_one
  have hfails : Lib.succeeds (getTicketEncryptDecryptKeyByWeight (.ok 0))
      (finalState isEncryptKeyAvailable (twoKeysAt 5000000000)) = false := by decide +kernel
  unfold Lib.succeeds at hfails
  rw [hget] at hfails
  cases hfails

end S2nTls
