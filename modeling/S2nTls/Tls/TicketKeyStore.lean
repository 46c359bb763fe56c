import Mathlib.Data.List.Nodup
import S2nTls.Lib.Run
import S2nTls.Tls.TicketKeys

/-!
The array of ticket keys over all calls of `s2n_config_add_ticket_crypto_key`.

A call first removes the keys that have expired, so that the array never holds two keys of one name
and a name leads to one key. As long as the clock does not go back, a key stays until it expires.
-/

namespace S2nTls

open Lib S2nArray

variable {k : TicketKey} {c c' : TicketConfig}

/-! ### Times that fit -/

namespace TicketConfig

variable {c c' c₁ : TicketConfig} {now : UInt64}

/-- The two lifetimes after `time` end before the clock overflows. -/
def Fits (c : TicketConfig) (time : ℕ) : Prop :=
  time + c.encryptDecryptKeyLifetimeInNanos.toNat + c.decryptKeyLifetimeInNanos.toNat < 2 ^ 64

def Unexpired (c : TicketConfig) (now : UInt64) (k : TicketKey) : Prop :=
  now.toNat < k.introTimestamp.toNat + c.encryptDecryptKeyLifetimeInNanos.toNat +
    c.decryptKeyLifetimeInNanos.toNat

instance (time : ℕ) : Decidable (c.Fits time) := inferInstanceAs (Decidable (_ < _))

instance : DecidablePred (c.Unexpired now) := fun _ => inferInstanceAs (Decidable (_ < _))

lemma expiry_toNat (h : c.Fits k.introTimestamp.toNat) :
    (c.expiry k).toNat = k.introTimestamp.toNat + c.encryptDecryptKeyLifetimeInNanos.toNat +
      c.decryptKeyLifetimeInNanos.toNat := by
  unfold Fits at h
  rw [expiry, UInt64.toNat_add, UInt64.toNat_add]
  omega

lemma ge_expiry_iff (h : c.Fits k.introTimestamp.toNat) :
    now ≥ c.expiry k ↔ ¬ c.Unexpired now k := by
  rw [ge_iff_le, UInt64.le_iff_toNat_le, expiry_toNat h]
  exact Nat.not_lt.symm

def ClockMonotone (c : TicketConfig) : Prop :=
  ∀ i j a b, i ≤ j → c.clock i = some a → c.clock j = some b → a.toNat ≤ b.toNat

/-- All but the array and the number of readings of the clock is as before. -/
structure Same (c c' : TicketConfig) : Prop where
  useTickets : c'.useTickets = c.useTickets
  useSessionCache : c'.useSessionCache = c.useSessionCache
  encryptDecrypt : c'.encryptDecryptKeyLifetimeInNanos = c.encryptDecryptKeyLifetimeInNanos
  decrypt : c'.decryptKeyLifetimeInNanos = c.decryptKeyLifetimeInNanos
  clock : c'.clock = c.clock
  readings : c.readings ≤ c'.readings
  isSome : c'.ticketKeys.isSome = c.ticketKeys.isSome

lemma Same.refl (c : TicketConfig) : Same c c := ⟨rfl, rfl, rfl, rfl, rfl, le_rfl, rfl⟩

lemma Same.trans (h : Same c c₁) (h' : Same c₁ c') : Same c c' :=
  ⟨h'.useTickets.trans h.useTickets, h'.useSessionCache.trans h.useSessionCache,
    h'.encryptDecrypt.trans h.encryptDecrypt, h'.decrypt.trans h.decrypt, h'.clock.trans h.clock,
    h.readings.trans h'.readings, h'.isSome.trans h.isSome⟩

lemma Same.unexpired (h : Same c c') : c'.Unexpired = c.Unexpired := by
  unfold Unexpired
  rw [h.encryptDecrypt, h.decrypt]

lemma Same.fits (h : Same c c') {time : ℕ} : c'.Fits time ↔ c.Fits time := by
  unfold Fits
  rw [h.encryptDecrypt, h.decrypt]

end TicketConfig

open TicketConfig

/-! ### What each function does to the keys -/

section Functions

variable {α : Type}

lemma wp_configWallClock {Q : UInt64 → TicketConfig → Prop} {R : Err → TicketConfig → Prop} :
    wp configWallClock Q R c ↔
      (∀ now, c.clock c.readings = some now → Q now { c with readings := c.readings + 1 }) ∧
      (c.clock c.readings = none → R .cancelled { c with readings := c.readings + 1 }) := by
  unfold configWallClock
  rw [wp_read, wp_bind, wp_set]
  cases h : c.clock c.readings with
  | none => simp
  | some now => simp

lemma same_readings (c : TicketConfig) : Same c { c with readings := c.readings + 1 } :=
  ⟨rfl, rfl, rfl, rfl, rfl, Nat.le_succ _, rfl⟩

lemma wp_onTicketKeys {m : EStateM Err (S2nArray TicketKey) α} {Q : α → List TicketKey → Prop}
    {R : Err → List TicketKey → Prop}
    (h : ∀ a : S2nArray TicketKey, a.elements = c.keys →
      wp m (fun x b => Q x b.elements) (fun e b => R e b.elements) a)
    (hnull : R .null c.keys) :
    wp (onTicketKeys m) (fun x c' => Same c c' ∧ c'.readings = c.readings ∧ Q x c'.keys)
      (fun e c' => Same c c' ∧ c'.readings = c.readings ∧ R e c'.keys) c := by
  unfold onTicketKeys
  rw [wp_read]
  cases hkeys : c.ticketKeys with
  | none => exact ⟨Same.refl c, rfl, hnull⟩
  | some a =>
    have hsame : ∀ b, Same c { c with ticketKeys := some b } := fun b =>
      ⟨rfl, rfl, rfl, rfl, rfl, le_rfl, by rw [hkeys]; rfl⟩
    show wp (zoom _ _ m) _ _ c
    rw [wp_zoom]
    exact wp_mono (fun x b hb => ⟨hsame b, rfl, hb⟩) (fun e b hb => ⟨hsame b, rfl, hb⟩)
      (h a (by rw [TicketConfig.keys, hkeys]))

/-- The keys that are left when those are removed that have expired at `now`. -/
def TicketConfig.unexpiredKeys (c : TicketConfig) (now : UInt64) : List TicketKey :=
  c.keys.filter fun k => decide (c.Unexpired now k)

/-- **The sweep.** Exactly the expired keys are removed, and the others stay in order. -/
lemma wp_wipeExpiredTicketCryptoKeys (hfits : ∀ k ∈ c.keys, c.Fits k.introTimestamp.toNat) :
    wp (wipeExpiredTicketCryptoKeys none)
      (fun _ c' => Same c c' ∧ c'.readings = c.readings + 1 ∧
        ∃ now, c.clock c.readings = some now ∧ c'.keys = c.unexpiredKeys now)
      (fun _ c' => Same c c' ∧ c'.keys = c.keys) c := by
  unfold wipeExpiredTicketCryptoKeys
  rw [wp_bind, wp_configWallClock]
  refine ⟨fun now hnow => ?_, fun _ => ⟨same_readings c, rfl⟩⟩
  rw [wp_read]
  refine wp_mono (fun _ c' h => ?_) (fun _ c' h => ?_)
    (wp_onTicketKeys (Q := fun _ keys => keys = c.unexpiredKeys now) (R := fun _ keys => keys = c.keys)
      (fun a ha => ?_) rfl)
  · exact ⟨(same_readings c).trans h.1, h.2.1, now, hnow, h.2.2⟩
  · exact ⟨(same_readings c).trans h.1, h.2.2⟩
  · have ha : a.elements = c.keys := ha
    rw [wp_read]
    refine wp_sure (fun _ b hb => ?_) (wp_removeIndices _ a.elements [] 0 rfl)
    rw [hb.1, List.nil_append, ha]
    refine List.filter_congr fun k hk => ?_
    rw [← decide_not]
    refine decide_eq_decide.mpr ?_
    rw [show (now ≥ TicketConfig.expiry { c with readings := c.readings + 1 } k) ↔ now ≥ c.expiry k
      from Iff.rfl, ge_expiry_iff (hfits k hk), not_not]

lemma wp_checkUnique (key : TicketKey) (keys : List TicketKey) (a : S2nArray TicketKey) :
    wp (checkUnique key keys)
      (fun _ b => b = a ∧ key.keyName ∉ keys.map TicketKey.keyName ∧ key.aesKey ∉ keys.map TicketKey.aesKey)
      (fun _ b => b = a) a := by
  induction keys with
  | nil => exact ⟨rfl, by simp, by simp⟩
  | cons other keys ih =>
    rw [checkUnique]
    refine wp_seq_ensure (fun hname => wp_seq_ensure (fun haes => ?_) fun _ => rfl) fun _ => rfl
    refine wp_mono_ok (fun _ b hb => ?_) ih
    obtain ⟨rfl, h₁, h₂⟩ := hb
    refine ⟨rfl, ?_, ?_⟩
    · rw [List.map_cons, List.mem_cons]
      exact not_or.mpr ⟨hname, h₁⟩
    · rw [List.map_cons, List.mem_cons]
      exact not_or.mpr ⟨haes, h₂⟩

/-- A key is added at the end, and only if its name and its secret are new. -/
lemma wp_storeTicketKey (malloc : ℕ → Bool) (key : TicketKey) :
    wp (storeTicketKey malloc key)
      (fun _ c' => Same c c' ∧ c'.keys = c.keys ++ [key] ∧
        key.keyName ∉ c.keys.map TicketKey.keyName ∧ key.aesKey ∉ c.keys.map TicketKey.aesKey)
      (fun _ c' => Same c c' ∧ c'.keys = c.keys) c := by
  refine wp_mono (fun _ c' h => ⟨h.1, h.2.2⟩) (fun _ c' h => ⟨h.1, h.2.2⟩)
    (wp_onTicketKeys (Q := fun _ keys => keys = c.keys ++ [key] ∧
      key.keyName ∉ c.keys.map TicketKey.keyName ∧ key.aesKey ∉ c.keys.map TicketKey.aesKey)
      (R := fun _ keys => keys = c.keys) (fun a ha => ?_) rfl)
  rw [wp_read]
  refine wp_seq (wp_checkUnique key a.elements a) (fun _ b hb => ?_) fun _ b hb => hb ▸ ha
  obtain ⟨rfl, h₁, h₂⟩ := hb
  rw [ha] at h₁ h₂
  refine wp_mono (fun _ b' hb' => ⟨?_, h₁, h₂⟩) (fun _ b' hb' => hb'.trans ha)
    (wp_insertAndCopy_end malloc key b)
  rw [hb', ha]

end Functions

/-! ### One call -/

/-- The arguments of a call of `s2n_config_add_ticket_crypto_key`, and what the libraries do. -/
structure AddKeyCall where
  lib : TicketLib
  name : List UInt8
  key : List UInt8
  introTimeInSecondsFromEpoch : UInt64

def AddKeyCall.run (call : AddKeyCall) : TicketM Unit :=
  addTicketCryptoKey call.lib call.name call.key call.introTimeInSecondsFromEpoch

/-- `k` is the key that `call` makes, if its time is that of a reading of the clock or given. -/
structure AddKeyCall.Makes (call : AddKeyCall) (c : TicketConfig) (k : TicketKey) : Prop where
  keyName : k.keyName = padName call.name
  secret : ∃ out, call.lib.hkdf call.key = some out ∧ k.aesKey ++ k.implicitAad = out.1
  introTimestamp :
    if call.introTimeInSecondsFromEpoch = 0 then
      ∃ i, c.readings ≤ i ∧ c.clock i = some k.introTimestamp
    else k.introTimestamp = call.introTimeInSecondsFromEpoch * oneSecInNanos

/-- Neither a given time nor that of the clock is so late that a lifetime would overflow. -/
structure AddKeyCall.Fits (call : AddKeyCall) (c : TicketConfig) : Prop where
  clock : ∀ i now, c.clock i = some now → c.Fits now.toNat
  given : c.Fits (call.introTimeInSecondsFromEpoch.toNat * 10 ^ 9)

section Call

variable {call : AddKeyCall}

lemma AddKeyCall.Fits.same (h : call.Fits c) (hsame : Same c c') : call.Fits c' := by
  refine ⟨fun i now hi => hsame.fits.mpr (h.clock i now ?_), hsame.fits.mpr h.given⟩
  rwa [← hsame.clock]

lemma AddKeyCall.Makes.fits (h : call.Makes c k) (hfits : call.Fits c) :
    c.Fits k.introTimestamp.toNat := by
  have hintro := h.introTimestamp
  split at hintro
  · obtain ⟨i, -, hi⟩ := hintro
    exact hfits.clock i _ hi
  · have hgiven := hfits.given
    unfold TicketConfig.Fits at hgiven ⊢
    rw [hintro, UInt64.toNat_mul, show oneSecInNanos.toNat = 10 ^ 9 from rfl]
    omega

lemma wp_introTimestampOf (intro : UInt64) :
    wp (introTimestampOf intro)
      (fun time c' => Same c c' ∧ c'.keys = c.keys ∧
        if intro = 0 then ∃ i, c.readings ≤ i ∧ c.clock i = some time else time = intro * oneSecInNanos)
      (fun _ c' => Same c c' ∧ c'.keys = c.keys) c := by
  unfold introTimestampOf
  rw [wp_ite]
  refine ⟨fun h => ?_, fun h => ?_⟩
  · rw [wp_configWallClock]
    refine ⟨fun now hnow => ⟨same_readings c, rfl, ?_⟩, fun _ => ⟨same_readings c, rfl⟩⟩
    rw [if_pos h]
    exact ⟨c.readings, le_rfl, hnow⟩
  · rw [wp_pure, if_neg h]
    exact ⟨Same.refl c, rfl, rfl⟩

/-- What a call may do once the expired keys are gone. -/
def Added (call : AddKeyCall) (c c' : TicketConfig) : Prop :=
  ∃ k, call.Makes c k ∧ c'.keys = c.keys ++ [k] ∧
    k.keyName ∉ c.keys.map TicketKey.keyName ∧ k.aesKey ∉ c.keys.map TicketKey.aesKey

lemma wp_addCheckedTicketCryptoKey (call : AddKeyCall) (h : call.name.length ≤ ticketKeyNameLen) :
    wp (addCheckedTicketCryptoKey call.lib call.name call.key h call.introTimeInSecondsFromEpoch)
      (fun _ c' => Same c c' ∧ Added call c c') (fun _ c' => Same c c' ∧ c'.keys = c.keys) c := by
  unfold addCheckedTicketCryptoKey
  refine wp_guard ⟨Same.refl c, rfl⟩ fun _ => ?_
  cases hout : call.lib.hkdf call.key with
  | none => exact ⟨Same.refl c, rfl⟩
  | some out =>
    refine wp_then (wp_introTimestampOf _) fun time c₁ h₁ => ?_
    obtain ⟨hsame, hkeys, htime⟩ := h₁
    refine wp_mono (fun _ c' h => ?_) (fun _ c' h => ?_) (wp_storeTicketKey _ _)
    · rw [hkeys] at h
      refine ⟨hsame.trans h.1, _, ⟨rfl, ⟨out, hout, ?_⟩, htime⟩, h.2⟩
      exact List.take_append_drop _ _
    · exact ⟨hsame.trans h.1, h.2.trans hkeys⟩

lemma wp_addNewTicketCryptoKey (call : AddKeyCall)
    (hfits : ∀ k ∈ c.keys, c.Fits k.introTimestamp.toNat) :
    wp (addNewTicketCryptoKey call.lib call.name call.key call.introTimeInSecondsFromEpoch)
      (fun _ c' => ∃ now c₁, c.clock c.readings = some now ∧ Same c c₁ ∧ Same c₁ c' ∧
        c₁.keys = c.unexpiredKeys now ∧ c₁.keys.length < maxTicketKeys ∧ Added call c₁ c')
      (fun _ c' => Same c c' ∧ (c'.keys = c.keys ∨
        ∃ now, c.clock c.readings = some now ∧ c'.keys = c.unexpiredKeys now)) c := by
  unfold addNewTicketCryptoKey
  refine wp_seq (wp_wipeExpiredTicketCryptoKeys hfits) (fun _ c₁ h₁ => ?_) fun _ c' h => ⟨h.1, .inl h.2⟩
  obtain ⟨hsame, -, now, hnow, hkeys⟩ := h₁
  have herror : ∀ c', Same c₁ c' → c'.keys = c₁.keys → Same c c' ∧ (c'.keys = c.keys ∨
      ∃ now, c.clock c.readings = some now ∧ c'.keys = c.unexpiredKeys now) := fun c' hs hk =>
    ⟨hsame.trans hs, .inr ⟨now, hnow, hk.trans hkeys⟩⟩
  refine wp_guard (herror c₁ (Same.refl c₁) rfl) fun _ => ?_
  have hlen := wp_onTicketKeys (c := c₁) (m := numElements)
    (Q := fun n keys => n = c₁.keys.length ∧ keys = c₁.keys) (R := fun _ keys => keys = c₁.keys)
    (fun a ha => ⟨by rw [ha], ha⟩) rfl
  refine wp_seq hlen (fun n c₂ h₂ => ?_) fun _ c' h => herror c' h.1 h.2.2
  obtain ⟨hsame₂, -, hn, hkeys₂⟩ := h₂
  refine wp_guard (herror c₂ hsame₂ hkeys₂) fun hlt => ?_
  refine wp_guard (herror c₂ hsame₂ hkeys₂) fun _ => ?_
  split
  · rename_i hname
    refine wp_mono (fun _ c' h => ?_) (fun _ c' h => ?_) (wp_addCheckedTicketCryptoKey call hname)
    · refine ⟨now, c₂, hnow, hsame.trans hsame₂, h.1, hkeys₂.trans hkeys, ?_, h.2⟩
      rw [hkeys₂, ← hn]
      exact hlt
    · exact herror c' (hsame₂.trans h.1) (h.2.trans hkeys₂)
  · exact herror c₂ hsame₂ hkeys₂

lemma AddKeyCall.Makes.of_same (h : call.Makes c' k) (hsame : Same c c') : call.Makes c k := by
  refine ⟨h.keyName, h.secret, ?_⟩
  have hintro := h.introTimestamp
  rw [hsame.clock] at hintro
  split at hintro
  · rename_i h0
    rw [if_pos h0]
    obtain ⟨i, hi, hclock⟩ := hintro
    exact ⟨i, hsame.readings.trans hi, hclock⟩
  · rename_i h0
    rw [if_neg h0]
    exact hintro

def TicketConfig.InUse (c : TicketConfig) : Prop := c.useTickets = true ∨ c.useSessionCache = true

/-- A call that succeeds adds one key, if the config uses its keys. -/
def CallSucceeded (call : AddKeyCall) (c c' : TicketConfig) : Prop :=
  ¬ c.InUse ∧ c'.keys = c.keys ∨
  c.InUse ∧ ∃ now k, c.clock c.readings = some now ∧ call.Makes c k ∧
    c'.keys = c.unexpiredKeys now ++ [k]

/-- A call that fails has at most removed the keys that have expired. -/
def CallFailed (c c' : TicketConfig) : Prop :=
  c'.keys = c.keys ∨ ∃ now, c.clock c.readings = some now ∧ c'.keys = c.unexpiredKeys now

/-! ### The invariant -/

/-- **The invariant of the array.** -/
structure StoreInv (c : TicketConfig) : Prop where
  length : c.keys.length ≤ maxTicketKeys
  names : (c.keys.map TicketKey.keyName).Nodup
  secrets : (c.keys.map TicketKey.aesKey).Nodup
  fits : ∀ k ∈ c.keys, c.Fits k.introTimestamp.toNat

lemma StoreInv.of_sublist (h : StoreInv c) (hsame : Same c c') (hsub : c'.keys.Sublist c.keys) :
    StoreInv c' :=
  ⟨hsub.length_le.trans h.length, h.names.sublist (hsub.map _), h.secrets.sublist (hsub.map _),
    fun k hk => hsame.fits.mpr (h.fits k (hsub.subset hk))⟩

lemma StoreInv.of_empty (h : c.keys = []) : StoreInv c := by
  refine ⟨?_, ?_, ?_, ?_⟩ <;> simp [h]

lemma unexpiredKeys_sublist (c : TicketConfig) (now : UInt64) : (c.unexpiredKeys now).Sublist c.keys :=
  List.filter_sublist

lemma StoreInv.added (h : StoreInv c) (hsame : Same c c') (hfits : call.Fits c)
    (hlen : c.keys.length < maxTicketKeys) (hadded : Added call c c') : StoreInv c' := by
  obtain ⟨k, hmakes, hkeys, hname, hsecret⟩ := hadded
  refine ⟨?_, ?_, ?_, ?_⟩
  · rw [hkeys, List.length_append, List.length_singleton]
    exact hlen
  · rw [hkeys, List.map_append, List.map_singleton]
    exact h.names.append (List.nodup_singleton _) (List.disjoint_singleton.mpr hname)
  · rw [hkeys, List.map_append, List.map_singleton]
    exact h.secrets.append (List.nodup_singleton _) (List.disjoint_singleton.mpr hsecret)
  · intro k' hk'
    rw [hkeys, List.mem_append, List.mem_singleton] at hk'
    rcases hk' with hk' | rfl
    · exact hsame.fits.mpr (h.fits k' hk')
    · exact hsame.fits.mpr (hmakes.fits hfits)

/-- **One call.** The invariant is kept, and the keys are as the two cases say. -/
lemma wp_call (call : AddKeyCall) (h : StoreInv c) (hfits : call.Fits c) :
    wp call.run (fun _ c' => Same c c' ∧ StoreInv c' ∧ CallSucceeded call c c')
      (fun _ c' => Same c c' ∧ StoreInv c' ∧ CallFailed c c') c := by
  unfold AddKeyCall.run addTicketCryptoKey
  rw [wp_read, wp_ite]
  refine ⟨fun huse => ?_, fun huse => ?_⟩
  · have huse : ¬ c.InUse := by simpa [TicketConfig.InUse] using huse
    exact ⟨Same.refl c, h, .inl ⟨huse, rfl⟩⟩
  · have huse : c.InUse := by
      rw [TicketConfig.InUse]
      by_contra hnot
      exact huse (by simpa using hnot)
    refine wp_mono (fun _ c' h' => ?_) (fun _ c' h' => ?_) (wp_addNewTicketCryptoKey call h.fits)
    · obtain ⟨now, c₁, hnow, hsame₁, hsame, hkeys, hlen, hadded⟩ := h'
      have hinv₁ : StoreInv c₁ := h.of_sublist hsame₁ (hkeys ▸ unexpiredKeys_sublist c now)
      have hinv : StoreInv c' := hinv₁.added hsame (hfits.same hsame₁) hlen hadded
      obtain ⟨k, hmakes, hk, -⟩ := hadded
      refine ⟨hsame₁.trans hsame, hinv, .inr ⟨huse, now, k, hnow, hmakes.of_same hsame₁, ?_⟩⟩
      rw [hk, hkeys]
    · obtain ⟨hsame, hkeys⟩ := h'
      refine ⟨hsame, ?_, hkeys⟩
      rcases hkeys with hkeys | ⟨now, -, hkeys⟩
      · exact h.of_sublist hsame (hkeys ▸ List.Sublist.refl _)
      · exact h.of_sublist hsame (hkeys ▸ unexpiredKeys_sublist c now)

end Call

/-! ### All calls -/

/-- The config after some calls, with or without success. -/
def addKeys (calls : List AddKeyCall) (c : TicketConfig) : TicketConfig :=
  calls.foldl (fun c call => finalState call.run c) c

section Run

/-- A step of a run: the invariant is kept, and no key is lost that has not expired. -/
lemma call_step (call : AddKeyCall) (h : StoreInv c) (hfits : call.Fits c) :
    Same c (finalState call.run c) ∧ StoreInv (finalState call.run c) ∧
    ∀ k ∈ c.keys, (∀ now, c.clock c.readings = some now → c.Unexpired now k) →
      k ∈ (finalState call.run c).keys := by
  refine finalState_of_wp (P := fun c' => Same c c' ∧ StoreInv c' ∧
    ∀ k ∈ c.keys, (∀ now, c.clock c.readings = some now → c.Unexpired now k) → k ∈ c'.keys) ?_
  have hmem : ∀ now, c.clock c.readings = some now → ∀ k ∈ c.keys,
      (∀ now, c.clock c.readings = some now → c.Unexpired now k) → k ∈ c.unexpiredKeys now :=
    fun now hnow k hk hall => List.mem_filter.mpr ⟨hk, decide_eq_true (hall now hnow)⟩
  refine wp_mono (fun _ c' h' => ⟨h'.1, h'.2.1, fun k hk hall => ?_⟩)
    (fun _ c' h' => ⟨h'.1, h'.2.1, fun k hk hall => ?_⟩) (wp_call call h hfits)
  · rcases h'.2.2 with ⟨-, hkeys⟩ | ⟨-, now, k', hnow, -, hkeys⟩
    · exact hkeys ▸ hk
    · rw [hkeys]
      exact List.mem_append_left _ (hmem now hnow k hk hall)
  · rcases h'.2.2 with hkeys | ⟨now, hnow, hkeys⟩
    · exact hkeys ▸ hk
    · rw [hkeys]
      exact hmem now hnow k hk hall

variable (calls : List AddKeyCall)

/-- **The run.** The invariant holds after any calls. -/
lemma addKeys_inv (h : StoreInv c) (hfits : ∀ call ∈ calls, call.Fits c) :
    Same c (addKeys calls c) ∧ StoreInv (addKeys calls c) := by
  induction calls generalizing c with
  | nil => exact ⟨Same.refl c, h⟩
  | cons call calls ih =>
    obtain ⟨hsame, hinv, -⟩ := call_step call h (hfits call List.mem_cons_self)
    have hrun := ih hinv fun call' hcall => (hfits call' (List.mem_cons_of_mem _ hcall)).same hsame
    exact ⟨hsame.trans hrun.1, hrun.2⟩

/-- A key is not lost before it expires: at any reading of the clock that follows the calls. -/
lemma addKeys_keeps (h : StoreInv c) (hfits : ∀ call ∈ calls, call.Fits c)
    (hclock : c.ClockMonotone) (hk : k ∈ c.keys) {i : ℕ} {t : UInt64}
    (hi : (addKeys calls c).readings ≤ i) (ht : c.clock i = some t) (hlive : c.Unexpired t k) :
    k ∈ (addKeys calls c).keys := by
  induction calls generalizing c with
  | nil => exact hk
  | cons call calls ih =>
    obtain ⟨hsame, hinv, hkeep⟩ := call_step call h (hfits call List.mem_cons_self)
    have hfits' : ∀ call' ∈ calls, call'.Fits (finalState call.run c) := fun call' hcall =>
      (hfits call' (List.mem_cons_of_mem _ hcall)).same hsame
    have hle : c.readings ≤ i :=
      hsame.readings.trans ((addKeys_inv calls hinv hfits').1.readings.trans hi)
    refine ih hinv hfits' ?_ (hkeep k hk fun now hnow => ?_) hi (hsame.clock ▸ ht) (hsame.unexpired ▸ hlive)
    · unfold TicketConfig.ClockMonotone
      rw [hsame.clock]
      exact hclock
    · exact (hclock _ _ _ _ hle hnow ht).trans_lt hlive

end Run

/-! ### Finding a key -/

lemma findByName_eq_some {now : UInt64} {name : List UInt8} {keys : List TicketKey}
    (hnames : (keys.map TicketKey.keyName).Nodup)
    (hfits : ∀ k ∈ keys, c.Fits k.introTimestamp.toNat) :
    findByName (fun key => decide (now ≥ c.expiry key)) name keys = some k ↔ k ∈ keys ∧ k.keyName = name ∧
      c.Unexpired now k := by
  induction keys with
  | nil => simp [findByName]
  | cons key keys ih =>
    obtain ⟨hhead, htail⟩ := List.nodup_cons.mp hnames
    rw [findByName]
    split
    · rename_i hname
      have hother : ∀ k' ∈ keys, k'.keyName ≠ name := by
        intro k' hk' heq
        exact hhead (List.mem_map.mpr ⟨k', hk', heq.trans hname.symm⟩)
      have hexpired : now ≥ c.expiry key ↔ ¬ c.Unexpired now key := ge_expiry_iff (hfits key List.mem_cons_self)
      constructor
      · intro h
        split at h
        · cases h
        · rename_i hlive
          obtain rfl := Option.some.inj h
          refine ⟨List.mem_cons_self, hname, ?_⟩
          by_contra hnot
          exact hlive (decide_eq_true (hexpired.mpr hnot))
      · rintro ⟨hmem, hk, hlive⟩
        obtain rfl : k = key := (List.mem_cons.mp hmem).resolve_right fun h => hother k h hk
        exact if_neg fun h => hexpired.mp (of_decide_eq_true h) hlive
    · rename_i hname
      rw [ih htail fun k' hk' => hfits k' (List.mem_cons_of_mem _ hk')]
      constructor
      · rintro ⟨hmem, h⟩
        exact ⟨List.mem_cons_of_mem _ hmem, h⟩
      · rintro ⟨hmem, hk, hlive⟩
        refine ⟨(List.mem_cons.mp hmem).resolve_left ?_, hk, hlive⟩
        rintro rfl
        exact hname hk

/-- The result of `s2n_find_ticket_key` at a reading of the clock. -/
lemma run_findTicketKey {now : UInt64} (name : List UInt8) (hnow : c.clock c.readings = some now)
    (hsome : c.ticketKeys.isSome = true) :
    (findTicketKey name).run c =
      .ok (findByName (fun key => decide (now ≥ c.expiry key)) name c.keys) { c with readings := c.readings + 1 } := by
  have hwp : wp (findTicketKey name) (fun o c' =>
      o = findByName (fun key => decide (now ≥ c.expiry key)) name c.keys ∧
      c' = { c with readings := c.readings + 1 }) noError c := by
    unfold findTicketKey
    rw [wp_bind, wp_configWallClock]
    refine ⟨fun now' hnow' => ?_, fun hnone => absurd (hnow.symm.trans hnone) (by simp)⟩
    obtain rfl := Option.some.inj (hnow.symm.trans hnow')
    rw [wp_read]
    refine wp_ensured hsome ?_
    exact ⟨rfl, rfl⟩
  obtain ⟨_, _, hrun, rfl, rfl⟩ := exists_ok_of_wp hwp
  exact hrun

lemma getTicketEncryptDecryptKey_mem {pick : Option ℕ} {c' : TicketConfig}
    (h : (getTicketEncryptDecryptKey pick).run c = .ok k c') :
    k ∈ c.keys ∧ c' = { c with readings := c.readings + 1 } ∧ c.ticketKeys.isSome = true ∧
    ∃ now, c.clock c.readings = some now ∧ k.introTimestamp ≤ now ∧
      now < k.introTimestamp + c.encryptDecryptKeyLifetimeInNanos := by
  have hmem : ∀ now, ∀ k' ∈ encryptDecryptKeys c now, k' ∈ c.keys ∧
      k'.introTimestamp ≤ now ∧ now < k'.introTimestamp + c.encryptDecryptKeyLifetimeInNanos := by
    intro now k' hk'
    obtain ⟨h₁, h₂⟩ := List.mem_filter.mp hk'
    exact ⟨List.mem_reverse.mp h₁, of_decide_eq_true h₂⟩
  have hwp : wp (getTicketEncryptDecryptKey pick)
      (fun k c' => c' = { c with readings := c.readings + 1 } ∧ c.ticketKeys.isSome = true ∧
        ∃ now, c.clock c.readings = some now ∧ k ∈ encryptDecryptKeys c now) anyError c := by
    unfold getTicketEncryptDecryptKey
    rw [wp_bind, wp_configWallClock]
    refine ⟨fun now hnow => ?_, fun _ => trivial⟩
    rw [wp_read]
    refine wp_checked fun hsome => ?_
    have hsome : c.ticketKeys.isSome = true := hsome
    have hkeys : encryptDecryptKeys { c with readings := c.readings + 1 } now = encryptDecryptKeys c now := rfl
    rw [hkeys]
    split
    · exact trivial
    · rename_i key heq
      exact ⟨rfl, hsome, now, hnow, heq ▸ List.mem_singleton_self key⟩
    · cases hpick : pick.bind (fun i => (encryptDecryptKeys c now)[i]?) with
      | none => exact trivial
      | some key =>
        obtain ⟨i, -, hi⟩ := Option.bind_eq_some_iff.mp hpick
        exact ⟨rfl, hsome, now, hnow, List.mem_of_getElem? hi⟩
  obtain ⟨hc', hsome, now, hnow, hk⟩ := (wp_iff_run.mp hwp).1 k c' h
  exact ⟨(hmem now k hk).1, hc', hsome, now, hnow, (hmem now k hk).2⟩

/-! ### The store -/

/-- **The ticket keys of a config.** After any calls of `s2n_config_add_ticket_crypto_key`, by a clock
that does not go back, there are at most 48 keys, of different names and secrets. A further call
either fails and has at most removed expired keys, or removes these and adds the one new key; on a
config that does not use its keys it changes nothing. The sweep removes exactly the expired keys. A
name finds the one unexpired key that has it, and a key that may have encrypted a ticket is found
until it expires, whatever is added in between. -/
theorem ticket_key_store (c : TicketConfig) (hempty : c.keys = []) (hclock : c.ClockMonotone)
    (calls : List AddKeyCall) (hfits : ∀ call ∈ calls, call.Fits c) :
    let s := addKeys calls c
    (s.keys.length ≤ maxTicketKeys ∧ (s.keys.map TicketKey.keyName).Nodup ∧
      (s.keys.map TicketKey.aesKey).Nodup) ∧
    (∀ call : AddKeyCall, call.Fits s → (∀ s', call.run.run s = .ok () s' → CallSucceeded call s s') ∧
      ∀ e s', call.run.run s = .error e s' → CallFailed s s') ∧
    (∀ s', (wipeExpiredTicketCryptoKeys none).run s = .ok () s' →
      ∃ now, s.clock s.readings = some now ∧ s'.keys = s.unexpiredKeys now) ∧
    (∀ name now, s.clock s.readings = some now → s.ticketKeys.isSome = true →
      ∃ o s', (findTicketKey name).run s = .ok o s' ∧
        ∀ k, o = some k ↔ k ∈ s.keys ∧ k.keyName = name ∧ s.Unexpired now k) ∧
    ∀ pick k s₁, (getTicketEncryptDecryptKey pick).run s = .ok k s₁ →
      ∀ later : List AddKeyCall, (∀ call ∈ later, call.Fits s₁) →
        ∀ t, (addKeys later s₁).clock (addKeys later s₁).readings = some t → s.Unexpired t k →
          ∃ s₂, (findTicketKey k.keyName).run (addKeys later s₁) = .ok (some k) s₂ := by
  intro s
  obtain ⟨hsame, hinv⟩ := addKeys_inv calls (StoreInv.of_empty hempty) hfits
  refine ⟨⟨hinv.length, hinv.names, hinv.secrets⟩, fun call hcall => ?_, fun s' hrun => ?_,
    fun name now hnow hsome => ?_, fun pick k s₁ hget later hlater t ht hlive => ?_⟩
  · obtain ⟨hok, herror⟩ := wp_iff_run.mp (wp_call call hinv hcall)
    exact ⟨fun s' hrun => (hok () s' hrun).2.2, fun e s' hrun => (herror e s' hrun).2.2⟩
  · exact ((wp_iff_run.mp (wp_wipeExpiredTicketCryptoKeys hinv.fits)).1 () s' hrun).2.2
  · exact ⟨_, _, run_findTicketKey name hnow hsome, fun k => findByName_eq_some hinv.names hinv.fits⟩
  · obtain ⟨hmem, rfl, hsome, -⟩ := getTicketEncryptDecryptKey_mem hget
    have hsame₁ := same_readings s
    have hinv₁ : StoreInv { s with readings := s.readings + 1 } := hinv.of_sublist hsame₁ (List.Sublist.refl _)
    obtain ⟨hsame₂, hinv₂⟩ := addKeys_inv later hinv₁ hlater
    have hclock₁ : TicketConfig.ClockMonotone { s with readings := s.readings + 1 } := by
      unfold TicketConfig.ClockMonotone
      rw [hsame₁.clock, hsame.clock]
      exact hclock
    have ht₁ : s.clock (addKeys later { s with readings := s.readings + 1 }).readings = some t :=
      (congrFun hsame₂.clock _).symm.trans ht
    have hkept := addKeys_keeps later hinv₁ hlater hclock₁ hmem le_rfl ht₁ hlive
    have hlive₂ : (addKeys later { s with readings := s.readings + 1 }).Unexpired t k := by
      rw [hsame₂.unexpired]
      exact hlive
    have hfound : findByName _ k.keyName _ = some k :=
      (findByName_eq_some hinv₂.names hinv₂.fits).mpr ⟨hkept, rfl, hlive₂⟩
    have hrun := run_findTicketKey k.keyName ht (hsame₂.isSome.trans hsome)
    rw [hfound] at hrun
    exact ⟨_, hrun⟩

/-- HKDF that repeats the first byte of the secret. -/
def repeatingLib : TicketLib where
  hkdf secret := some ⟨List.replicate 44 (secret.headD 0), List.length_replicate⟩

def ticketKeyArray (keys : List TicketKey) (h : keys.length ≤ maxTicketKeys) : S2nArray TicketKey :=
  ⟨keys, sizeOfTicketKey, maxTicketKeys, by decide, h, by decide⟩

/-- A config that uses tickets and has no keys yet. -/
def ticketConfig : TicketConfig where
  useTickets := true
  ticketKeys := some (ticketKeyArray [] (by decide))

/-- Two calls that add a key each, and one whose name is taken. -/
def sampleCalls : List AddKeyCall :=
  [⟨repeatingLib, [1], [1], 0⟩, ⟨repeatingLib, [2], [2], 5⟩, ⟨repeatingLib, [1, 0], [3], 0⟩]

/-- Two of the three keys are in the store. -/
theorem ticket_key_store_sampleCalls :
    (∀ call ∈ sampleCalls, call.Fits ticketConfig) ∧ (addKeys sampleCalls ticketConfig).keys.length = 2 ∧
    ((addKeys sampleCalls ticketConfig).keys.map TicketKey.keyName).Nodup := by
  have hfits : ∀ call ∈ sampleCalls, call.Fits ticketConfig := by
    intro call hcall
    refine ⟨fun i now hnow => ?_, ?_⟩
    · obtain rfl := Option.some.inj hnow
      decide
    · simp only [sampleCalls, List.mem_cons, List.not_mem_nil, or_false] at hcall
      rcases hcall with rfl | rfl | rfl <;> decide
  have hclock : ticketConfig.ClockMonotone := by
    intro i j a b _ ha hb
    obtain rfl := Option.some.inj ha
    obtain rfl := Option.some.inj hb
    exact le_rfl
  exact ⟨hfits, by decide +kernel, (ticket_key_store ticketConfig rfl hclock sampleCalls hfits).1.2.1⟩

/-- **A call may succeed without adding a key**: that of a config that uses neither tickets nor the
session cache. -/
theorem unused_config_adds_no_key :
    ∃ (c c' : TicketConfig) (call : AddKeyCall), c.ClockMonotone ∧ call.Fits c ∧
      call.run.run c = .ok () c' ∧ ∀ k, call.Makes c k → k ∉ c'.keys := by
  refine ⟨{}, {}, ⟨repeatingLib, [1], [1], 0⟩, ?_, ⟨?_, by decide⟩, rfl, fun k _ => List.not_mem_nil⟩
  · intro i j a b _ ha hb
    obtain rfl := Option.some.inj ha
    obtain rfl := Option.some.inj hb
    exact le_rfl
  · intro i now hnow
    obtain rfl := Option.some.inj hnow
    decide

end S2nTls
