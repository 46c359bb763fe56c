import S2nTls.Tls.Parameters
import S2nTls.Tls.TicketKeyStore

/-!
The lifetime of a TLS1.3 ticket (`s2n_generate_ticket_lifetime`, `s2n_validate_ticket_lifetime`).

A server tells the client for how many seconds a ticket is good. When the ticket comes back, the
server looks for the key, checks the age of the ticket and of the keying material, and compares the
age that the client states with the lifetime of session state, in milliseconds and 32 bits.
-/

namespace S2nTls

open Lib S2nArray TicketConfig

variable {session : UInt64} {ticket : IssuedTicket}

def oneMillisecInNanos : UInt64 := 1000000

def oneWeekInSec : UInt32 := 604800

def maxAllowedClockSkewSec : UInt64 := 3600

/-- The fields of the chosen PSK that limit a new ticket. -/
structure ChosenPsk where
  isResumption : Bool
  keyingMaterialExpiration : UInt64

/-- The fields of a server for tickets. -/
structure TicketConn where
  config : TicketConfig
  actualProtocolVersion : ℕ := tls13
  /-- in seconds; a week by default -/
  serverKeyingMaterialLifetime : UInt32 := 604800
  chosenPsk : Option ChosenPsk := none

abbrev TicketConnM : Type → Type := EStateM Err TicketConn

def onConfig {α : Type} (m : TicketM α) : TicketConnM α :=
  zoom TicketConn.config (fun config conn => { conn with config := config }) m

/-! ### Issuing a ticket -/

/-- The lifetime of the keying material from `now` on, in seconds. -/
def keyMaterialLifetime (conn : TicketConn) (now : UInt64) : TicketConnM UInt32 :=
  match conn.chosenPsk with
  | none => return conn.serverKeyingMaterialLifetime
  | some psk => do
    ensure (psk.keyingMaterialExpiration ≥ now) .safety
    let pskKeyMaterialLifetime := ((psk.keyingMaterialExpiration - now) / oneSecInNanos).toUInt32
    return min conn.serverKeyingMaterialLifetime pskKeyMaterialLifetime

/-- The minimum for the version of the connection. -/
def limitByKeyMaterial (conn : TicketConn) (now : UInt64) (lifetime : UInt32) : TicketConnM UInt32 :=
  if conn.actualProtocolVersion = tls13 then do
    return min lifetime (← keyMaterialLifetime conn now)
  else return lifetime

/-- `s2n_generate_ticket_lifetime`; divisions by a second are cut to 32 bits. -/
def generateTicketLifetime (keyIntroTime : UInt64) : TicketConnM UInt32 := do
  let now ← onConfig configWallClock
  let conn ← get
  ensure (now ≥ keyIntroTime) .safety
  let ticketKeyAge := now - keyIntroTime
  let keyLifetime := conn.config.encryptDecryptKeyLifetimeInNanos + conn.config.decryptKeyLifetimeInNanos
  ensure (keyLifetime ≥ ticketKeyAge) .safety
  let remainingKeyLifetime := ((keyLifetime - ticketKeyAge) / oneSecInNanos).toUInt32
  let sessionLifetime := (conn.config.sessionStateLifetimeInNanos / oneSecInNanos).toUInt32
  let minLifetime ← limitByKeyMaterial conn now (min remainingKeyLifetime sessionLifetime)
  return min minLifetime oneWeekInSec

/-- A ticket: what the client is told, and what is encrypted under `key`. -/
structure IssuedTicket where
  ticketLifetime : UInt32
  ticketAgeAdd : UInt32
  key : TicketKey
  ticketIssueTime : UInt64
  keyingMaterialExpiration : UInt64

/-- `s2n_tls13_serialize_keying_material_expiration`, for a server. -/
def keyingMaterialExpirationAt (conn : TicketConn) (now : UInt64) : UInt64 :=
  let expirationTimestamp := now + conn.serverKeyingMaterialLifetime.toUInt64 * oneSecInNanos
  match conn.chosenPsk with
  | none => expirationTimestamp
  | some psk =>
    if psk.isResumption then min psk.keyingMaterialExpiration expirationTimestamp
    else expirationTimestamp

/-- `s2n_tls13_server_nst_write` and `s2n_resume_encrypt_session_ticket`, as far as they deal with
keys and times. `ageAdd` is random. -/
def TicketConn.tls13ServerNstWrite (pick : Option ℕ) (ageAdd : UInt32) : TicketConnM IssuedTicket := do
  let key ← onConfig (getTicketEncryptDecryptKey pick)
  let ticketLifetimeInSecs ← generateTicketLifetime key.introTimestamp
  ensure (ticketLifetimeInSecs > 0) .zeroLifetimeTicket
  ensure (key.aesKey ≠ List.replicate aes256KeyLen 0) .keyCheck
  let currentTime ← onConfig configWallClock
  let conn ← get
  return {
    ticketLifetime := ticketLifetimeInSecs
    ticketAgeAdd := ageAdd
    key := key
    ticketIssueTime := currentTime
    keyingMaterialExpiration := keyingMaterialExpirationAt conn currentTime }

/-! ### Accepting a ticket -/

/-- `s2n_generate_obfuscated_ticket_age` of a client, for a resumption PSK. -/
def generateObfuscatedTicketAge (ticketIssueTime : UInt64) (ticketAgeAdd : UInt32)
    (currentTime : UInt64) : Except Err UInt32 :=
  if currentTime ≥ ticketIssueTime then
    let ticketAgeInMillis := (currentTime - ticketIssueTime) / oneMillisecInNanos
    if ticketAgeInMillis ≤ 4294967295 then .ok (ticketAgeInMillis.toUInt32 + ticketAgeAdd)
    else .error .safety
  else .error .safety

def validateTicketAge (currentTime ticketIssueTime : UInt64) : TicketM Unit :=
  if currentTime < ticketIssueTime then
    ensure ((ticketIssueTime - currentTime) / oneSecInNanos ≤ maxAllowedClockSkewSec) .invalidSessionTicket
  else ensure ((currentTime - ticketIssueTime) / oneSecInNanos ≤ oneWeekInSec.toUInt64) .invalidSessionTicket

/-- `s2n_validate_ticket_lifetime`, for a resumption PSK. -/
def validateTicketLifetime (obfuscatedTicketAge ticketAgeAdd : UInt32) : TicketM Unit := do
  let config ← get
  let ticketAgeInMillis := obfuscatedTicketAge - ticketAgeAdd
  let sessionLifetimeInMillis := (config.sessionStateLifetimeInNanos / oneMillisecInNanos).toUInt32
  ensure (ticketAgeInMillis < sessionLifetimeInMillis) .invalidSessionTicket

/-- `s2n_resume_decrypt_session` and `s2n_tls13_deserialize_session_state`: the key is found by its
name, and the ticket opens under the key that sealed it; then its times are checked. -/
def resumeDecryptSession (ticket : IssuedTicket) : TicketM Unit := do
  let key ← failWith .keyUsedInSessionTicketNotFound (findTicketKey ticket.key.keyName)
  ensure (key.isSome = true) .keyUsedInSessionTicketNotFound
  ensure (key = some ticket.key) .decrypt
  let currentTime ← configWallClock
  validateTicketAge currentTime ticket.ticketIssueTime
  ensure (ticket.keyingMaterialExpiration > currentTime) .keyingMaterialExpired

/-- `s2n_offered_psk_list_choose_psk` of a server for a ticket. Without tickets in use there is no PSK
of that identity. -/
def choosePsk (ticket : IssuedTicket) (obfuscatedTicketAge : UInt32) : TicketM Unit := do
  let config ← get
  ensure (config.useTickets = true) .null
  resumeDecryptSession ticket
  validateTicketLifetime obfuscatedTicketAge ticket.ticketAgeAdd

/-! ### What a lifetime is bounded by -/

section Issue

variable {conn conn' : TicketConn}

/-- The connection after `n` more readings of the clock. -/
def TicketConn.ticked (conn : TicketConn) (n : ℕ) : TicketConn :=
  { conn with config := { conn.config with readings := conn.config.readings + n } }

lemma wp_onConfig_configWallClock {Q : UInt64 → TicketConn → Prop} {R : Err → TicketConn → Prop} :
    wp (onConfig configWallClock) Q R conn ↔
      (∀ now, conn.config.clock conn.config.readings = some now → Q now (conn.ticked 1)) ∧
      (conn.config.clock conn.config.readings = none → R .cancelled (conn.ticked 1)) := by
  unfold onConfig
  rw [wp_zoom, wp_configWallClock]
  rfl

lemma uint32_toNat_min (a b : UInt32) : (min a b).toNat = min a.toNat b.toNat := by
  show (if a ≤ b then a else b).toNat = _
  split
  · rename_i h
    exact (Nat.min_eq_left (UInt32.le_iff_toNat_le.mp h)).symm
  · rename_i h
    exact (Nat.min_eq_right (Nat.le_of_not_le fun hle => h (UInt32.le_iff_toNat_le.mpr hle))).symm

lemma uint64_toNat_min (a b : UInt64) : (min a b).toNat = min a.toNat b.toNat := by
  show (if a ≤ b then a else b).toNat = _
  split
  · rename_i h
    exact (Nat.min_eq_left (UInt64.le_iff_toNat_le.mp h)).symm
  · rename_i h
    exact (Nat.min_eq_right (Nat.le_of_not_le fun hle => h (UInt64.le_iff_toNat_le.mpr hle))).symm

/-- The bounds of a lifetime that is computed at `now`, for a key that was introduced at `intro`. -/
structure LifetimeBounds (conn : TicketConn) (intro now : UInt64) (lifetime : UInt32) : Prop where
  week : lifetime.toNat ≤ 604800
  intro_le : intro.toNat ≤ now.toNat
  key : now.toNat + lifetime.toNat * 10 ^ 9 ≤ intro.toNat +
    (conn.config.encryptDecryptKeyLifetimeInNanos + conn.config.decryptKeyLifetimeInNanos).toNat
  session : lifetime.toNat ≤ conn.config.sessionStateLifetimeInNanos.toNat / 10 ^ 9 % 2 ^ 32
  material : conn.actualProtocolVersion = tls13 →
    lifetime.toNat ≤ conn.serverKeyingMaterialLifetime.toNat
  psk : conn.actualProtocolVersion = tls13 → ∀ psk, conn.chosenPsk = some psk →
    now.toNat + lifetime.toNat * 10 ^ 9 ≤ psk.keyingMaterialExpiration.toNat

lemma toUInt32_secs (nanos : UInt64) :
    (nanos / oneSecInNanos).toUInt32.toNat = nanos.toNat / 10 ^ 9 % 2 ^ 32 := by
  rfl

lemma wp_keyMaterialLifetime (conn s : TicketConn) (now : UInt64) :
    wp (keyMaterialLifetime conn now)
      (fun l s' => s' = s ∧ l.toNat ≤ conn.serverKeyingMaterialLifetime.toNat ∧
        ∀ psk, conn.chosenPsk = some psk → now.toNat + l.toNat * 10 ^ 9 ≤ psk.keyingMaterialExpiration.toNat)
      anyError s := by
  unfold keyMaterialLifetime
  cases hpsk : conn.chosenPsk with
  | none => exact ⟨rfl, le_rfl, fun _ h => nomatch h⟩
  | some psk =>
    refine wp_checked fun hle => ?_
    have hsecs := toUInt32_secs (psk.keyingMaterialExpiration - now)
    rw [UInt64.toNat_sub_of_le _ _ hle] at hsecs
    have hle : now.toNat ≤ psk.keyingMaterialExpiration.toNat := UInt64.le_iff_toNat_le.mp hle
    have hmin := uint32_toNat_min conn.serverKeyingMaterialLifetime
      ((psk.keyingMaterialExpiration - now) / oneSecInNanos).toUInt32
    refine ⟨rfl, by omega, fun psk' h => ?_⟩
    obtain rfl := Option.some.inj h
    omega

lemma wp_limitByKeyMaterial (conn s : TicketConn) (now : UInt64) (lifetime : UInt32) :
    wp (limitByKeyMaterial conn now lifetime)
      (fun l s' => s' = s ∧ l.toNat ≤ lifetime.toNat ∧ (conn.actualProtocolVersion = tls13 →
        l.toNat ≤ conn.serverKeyingMaterialLifetime.toNat ∧ ∀ psk, conn.chosenPsk = some psk →
          now.toNat + l.toNat * 10 ^ 9 ≤ psk.keyingMaterialExpiration.toNat))
      anyError s := by
  unfold limitByKeyMaterial
  rw [wp_ite]
  refine ⟨fun _ => ?_, fun hversion => ⟨rfl, le_rfl, fun h => absurd h hversion⟩⟩
  refine wp_tried (wp_keyMaterialLifetime conn s now) fun l s' hl => ?_
  obtain ⟨rfl, hmaterial, hpsk⟩ := hl
  have hmin := uint32_toNat_min lifetime l
  refine (wp_pure _).mpr ⟨rfl, by omega, fun _ => ⟨by omega, fun psk h => ?_⟩⟩
  rw [hmin]
  exact le_trans (Nat.add_le_add_left (Nat.mul_le_mul_right _ (Nat.min_le_right _ _)) _) (hpsk psk h)

/-- **The lifetime** is within all its bounds. -/
lemma wp_generateTicketLifetime (conn : TicketConn) (intro : UInt64) :
    wp (generateTicketLifetime intro)
      (fun l conn' => conn' = conn.ticked 1 ∧ ∃ now,
        conn.config.clock conn.config.readings = some now ∧ LifetimeBounds conn intro now l)
      anyError conn := by
  unfold generateTicketLifetime
  rw [wp_bind, wp_onConfig_configWallClock]
  refine ⟨fun now hnow => ?_, fun _ => trivial⟩
  refine wp_checked fun hintro => wp_checked fun hage => ?_
  refine wp_tried (wp_limitByKeyMaterial _ _ now _) fun l s' hl => ?_
  obtain ⟨rfl, hle, hversion⟩ := hl
  rw [uint32_toNat_min, toUInt32_secs, toUInt32_secs, UInt64.toNat_sub_of_le _ _ hage,
    UInt64.toNat_sub_of_le _ _ hintro] at hle
  have hage := UInt64.le_iff_toNat_le.mp hage
  rw [UInt64.toNat_sub_of_le _ _ hintro] at hage
  have hmin := uint32_toNat_min l oneWeekInSec
  have hweek : oneWeekInSec.toNat = 604800 := rfl
  refine (wp_pure _).mpr ⟨rfl, now, hnow, ?_⟩
  have hlifetimes : (conn.ticked 1).config.encryptDecryptKeyLifetimeInNanos +
      (conn.ticked 1).config.decryptKeyLifetimeInNanos =
    conn.config.encryptDecryptKeyLifetimeInNanos + conn.config.decryptKeyLifetimeInNanos := rfl
  have hsession : (conn.ticked 1).config.sessionStateLifetimeInNanos =
    conn.config.sessionStateLifetimeInNanos := rfl
  rw [hlifetimes] at hle hage
  rw [hsession] at hle
  refine ⟨by omega, hintro, by omega, by omega, fun h => ?_, fun h psk hpsk => ?_⟩
  · have hmaterial : l.toNat ≤ conn.serverKeyingMaterialLifetime.toNat := (hversion h).1
    omega
  · rw [hmin]
    exact le_trans (Nat.add_le_add_left (Nat.mul_le_mul_right _ (Nat.min_le_left _ _)) _)
      ((hversion h).2 psk hpsk)

/-- The times of a ticket: its lifetime is computed at `t₀` and its state is written at `t₁`. -/
structure IssuedAt (conn : TicketConn) (ticket : IssuedTicket) (t₀ t₁ : UInt64) : Prop where
  mem : ticket.key ∈ conn.config.keys
  isSome : conn.config.ticketKeys.isSome = true
  clock₀ : conn.config.clock (conn.config.readings + 1) = some t₀
  clock₁ : conn.config.clock (conn.config.readings + 2) = some t₁
  bounds : LifetimeBounds conn ticket.key.introTimestamp t₀ ticket.ticketLifetime
  issueTime : ticket.ticketIssueTime = t₁
  expiration : ticket.keyingMaterialExpiration = keyingMaterialExpirationAt conn t₁

/-- **Issuing a ticket.** -/
lemma tls13ServerNstWrite_issued {pick : Option ℕ} {ageAdd : UInt32}
    (h : (TicketConn.tls13ServerNstWrite pick ageAdd).run conn = .ok ticket conn') :
    conn' = conn.ticked 3 ∧ ∃ t₀ t₁, IssuedAt conn ticket t₀ t₁ := by
  have hwp : wp (TicketConn.tls13ServerNstWrite pick ageAdd)
      (fun ticket conn' => conn' = conn.ticked 3 ∧ ∃ t₀ t₁, IssuedAt conn ticket t₀ t₁)
      anyError conn := by
    unfold TicketConn.tls13ServerNstWrite
    have hkey : wp (onConfig (getTicketEncryptDecryptKey pick))
        (fun key conn' => conn' = conn.ticked 1 ∧ key ∈ conn.config.keys ∧
          conn.config.ticketKeys.isSome = true) anyError conn := by
      unfold onConfig
      rw [wp_zoom, wp_iff_run]
      refine ⟨fun key config' hrun => ?_, fun _ _ _ => trivial⟩
      obtain ⟨hmem, rfl, hsome, -⟩ := getTicketEncryptDecryptKey_mem hrun
      exact ⟨rfl, hmem, hsome⟩
    refine wp_tried hkey fun key conn₁ hconn₁ => ?_
    obtain ⟨rfl, hmem, hsome⟩ := hconn₁
    refine wp_tried (wp_generateTicketLifetime _ _) fun l conn₂ hconn₂ => ?_
    obtain ⟨rfl, t₀, ht₀, hbounds⟩ := hconn₂
    refine wp_checked fun _ => wp_checked fun _ => ?_
    rw [wp_bind, wp_onConfig_configWallClock]
    refine ⟨fun t₁ ht₁ => ?_, fun _ => trivial⟩
    rw [wp_read]
    have hbounds : LifetimeBounds conn key.introTimestamp t₀ l :=
      ⟨hbounds.week, hbounds.intro_le, hbounds.key, hbounds.session, hbounds.material, hbounds.psk⟩
    exact (wp_pure _).mpr ⟨rfl, t₀, t₁, hmem, hsome, ht₀, ht₁, hbounds, rfl, rfl⟩
  exact (wp_iff_run.mp hwp).1 ticket conn' h

lemma IssuedAt.lt_expiration {t₀ t₁ t : UInt64} (h : IssuedAt conn ticket t₀ t₁)
    (hversion : conn.actualProtocolVersion = tls13) (hle : t₀.toNat ≤ t₁.toNat)
    (hfits : t₁.toNat + conn.serverKeyingMaterialLifetime.toNat * 10 ^ 9 < 2 ^ 64)
    (ht : t.toNat < t₀.toNat + ticket.ticketLifetime.toNat * 10 ^ 9) :
    ticket.keyingMaterialExpiration > t := by
  have hmaterial := h.bounds.material hversion
  have hown : (t₁ + conn.serverKeyingMaterialLifetime.toUInt64 * oneSecInNanos).toNat =
      t₁.toNat + conn.serverKeyingMaterialLifetime.toNat * 10 ^ 9 := by
    rw [UInt64.toNat_add, UInt64.toNat_mul, UInt32.toNat_toUInt64, show oneSecInNanos.toNat = 10 ^ 9 from rfl]
    omega
  rw [h.expiration]
  unfold keyingMaterialExpirationAt
  cases hpsk : conn.chosenPsk with
  | none =>
    show t.toNat < (t₁ + conn.serverKeyingMaterialLifetime.toUInt64 * oneSecInNanos).toNat
    omega
  | some psk =>
    have hlimit := h.bounds.psk hversion psk hpsk
    show t.toNat < (if psk.isResumption = true then min psk.keyingMaterialExpiration
      (t₁ + conn.serverKeyingMaterialLifetime.toUInt64 * oneSecInNanos)
      else t₁ + conn.serverKeyingMaterialLifetime.toUInt64 * oneSecInNanos).toNat
    split
    · rw [uint64_toNat_min]
      omega
    · omega

end Issue

/-! ### The lifetime of session state stays -/

lemma frames_configWallClock : Frames TicketConfig.sessionStateLifetimeInNanos configWallClock := by
  intro c
  rw [wp_configWallClock]
  exact ⟨fun _ _ => rfl, fun _ => rfl⟩

lemma frames_onTicketKeys {α : Type} (m : EStateM Err (S2nArray TicketKey) α) :
    Frames TicketConfig.sessionStateLifetimeInNanos (onTicketKeys m) := by
  refine Frames.get_bind fun c => ?_
  split
  · exact Frames.throw _ c
  · rename_i keys _
    have hzoom : Frames TicketConfig.sessionStateLifetimeInNanos
        (zoom (fun _ => keys) (fun keys' c => { c with ticketKeys := some keys' }) m) := by
      refine .zoom ?_ m
      intro _ _
      rfl
    exact hzoom c

lemma frames_addCheckedTicketCryptoKey (lib : TicketLib) (name key : List UInt8)
    (h : name.length ≤ ticketKeyNameLen) (intro : UInt64) :
    Frames TicketConfig.sessionStateLifetimeInNanos (addCheckedTicketCryptoKey lib name key h intro) := by
  refine .checked ?_
  split
  · exact .throw _
  · exact (Frames.ite frames_configWallClock (.pure _)).bind fun _ => frames_onTicketKeys _

lemma frames_addKeyCall (call : AddKeyCall) :
    Frames TicketConfig.sessionStateLifetimeInNanos call.run := by
  refine .read fun c => .ite (.pure ()) ?_
  have hwipe : Frames TicketConfig.sessionStateLifetimeInNanos (wipeExpiredTicketCryptoKeys none) :=
    frames_configWallClock.bind fun _ => .read fun _ => frames_onTicketKeys _
  refine hwipe.bind fun _ => .checked <| (frames_onTicketKeys _).bind fun _ => ?_
  refine .checked <| .checked ?_
  split
  · exact frames_addCheckedTicketCryptoKey _ _ _ _ _
  · exact .throw _

/-- Adding keys does not change the lifetime of session state. -/
lemma addKeys_sessionStateLifetime (calls : List AddKeyCall) (c : TicketConfig) :
    (addKeys calls c).sessionStateLifetimeInNanos = c.sessionStateLifetimeInNanos := by
  induction calls generalizing c with
  | nil => rfl
  | cons call calls ih => exact (ih _).trans (finalState_of_wp (frames_addKeyCall call c))

lemma frames_resumeDecryptSession (ticket : IssuedTicket) :
    Frames TicketConfig.sessionStateLifetimeInNanos (resumeDecryptSession ticket) := by
  have hfind : Frames TicketConfig.sessionStateLifetimeInNanos (findTicketKey ticket.key.keyName) :=
    frames_configWallClock.bind fun _ => .read fun _ =>
      .checked <| .pure _
  refine .bind (fun c => (wp_failWith _ _).mpr (hfind c)) fun key => ?_
  refine .checked <| .checked ?_
  refine frames_configWallClock.bind fun now => ?_
  exact (Frames.ite (.ensure _ _) (.ensure _ _)).bind fun _ => .ensure _ _

/-! ### When a ticket is accepted -/

section Accept

variable {c c' : TicketConfig} {t : UInt64}

lemma wp_validateTicketAge (hle : ticket.ticketIssueTime.toNat ≤ t.toNat)
    (hweek : t.toNat < ticket.ticketIssueTime.toNat + 604800 * 10 ^ 9) :
    wp (validateTicketAge t ticket.ticketIssueTime) (fun _ c' => c' = c) noError c := by
  have hle' : ticket.ticketIssueTime ≤ t := UInt64.le_iff_toNat_le.mpr hle
  unfold validateTicketAge
  rw [if_neg (UInt64.not_lt.mpr hle'), wp_ensure_ok]
  refine ⟨UInt64.le_iff_toNat_le.mpr ?_, rfl⟩
  rw [UInt64.toNat_div, UInt64.toNat_sub_of_le _ _ hle', show oneSecInNanos.toNat = 10 ^ 9 from rfl,
    show oneWeekInSec.toUInt64.toNat = 604800 from rfl]
  omega

/-- The lifetime of session state in milliseconds, in 32 bits. -/
def TicketConfig.sessionMillis (c : TicketConfig) : ℕ :=
  c.sessionStateLifetimeInNanos.toNat / 10 ^ 6 % 2 ^ 32

lemma lt_sessionMillis_iff (age : UInt32) :
    age < (c.sessionStateLifetimeInNanos / oneMillisecInNanos).toUInt32 ↔ age.toNat < c.sessionMillis := by
  rfl

/-- **Accepting a ticket.** -/
lemma choosePsk_ok {age : UInt32} (hinv : StoreInv c) (huse : c.useTickets = true)
    (hsome : c.ticketKeys.isSome = true) (ht : c.clock c.readings = some t)
    (ht' : c.clock (c.readings + 1) = some t) (hmem : ticket.key ∈ c.keys) (hlive : c.Unexpired t ticket.key)
    (hle : ticket.ticketIssueTime.toNat ≤ t.toNat)
    (hweek : t.toNat < ticket.ticketIssueTime.toNat + 604800 * 10 ^ 9)
    (hexpiration : ticket.keyingMaterialExpiration > t)
    (hage : (age - ticket.ticketAgeAdd).toNat < c.sessionMillis) :
    ∃ c', (choosePsk ticket age).run c = .ok () c' := by
  have hfound : findByName (fun key => decide (t ≥ c.expiry key)) ticket.key.keyName c.keys = some ticket.key :=
    (findByName_eq_some hinv.names hinv.fits).mpr ⟨hmem, rfl, hlive⟩
  have hfind : wp (findTicketKey ticket.key.keyName)
      (fun o c' => o = some ticket.key ∧ c' = { c with readings := c.readings + 1 }) noError c := by
    rw [wp_of_ok (run_findTicketKey _ ht hsome)]
    exact ⟨hfound, rfl⟩
  have hdecrypt : wp (resumeDecryptSession ticket)
      (fun _ c' => c' = { c with readings := c.readings + 2 }) noError c := by
    unfold resumeDecryptSession
    refine wp_then ((wp_failWith _ _).mpr hfind) fun o c₁ h => ?_
    obtain ⟨rfl, rfl⟩ := h
    refine wp_ensured rfl (wp_ensured rfl ?_)
    rw [wp_bind, wp_configWallClock]
    refine ⟨fun now hnow => ?_, fun hnone => nomatch ht'.symm.trans hnone⟩
    obtain rfl := Option.some.inj (ht'.symm.trans hnow)
    refine wp_then (wp_validateTicketAge hle hweek) fun _ c₂ h => ?_
    subst h
    exact (wp_ensure_ok _ _).mpr ⟨hexpiration, rfl⟩
  have hwp : wp (choosePsk ticket age) (fun _ _ => True) noError c := by
    unfold choosePsk
    refine wp_ensured huse ?_
    refine wp_then hdecrypt fun _ c₁ h => ?_
    subst h
    unfold validateTicketLifetime
    exact (wp_ensure_ok _ _).mpr ⟨(lt_sessionMillis_iff _).mpr hage, trivial⟩
  obtain ⟨_, c', hrun, -⟩ := exists_ok_of_wp hwp
  exact ⟨c', hrun⟩

lemma choosePsk_age_lt {age : UInt32} (h : (choosePsk ticket age).run c = .ok () c') :
    (age - ticket.ticketAgeAdd).toNat < c.sessionMillis := by
  have hwp : wp (choosePsk ticket age) (fun _ _ => (age - ticket.ticketAgeAdd).toNat < c.sessionMillis)
      anyError c := by
    unfold choosePsk
    refine wp_checked fun _ => ?_
    refine wp_tried (frames_resumeDecryptSession ticket c) fun _ c₁ h₁ => ?_
    unfold validateTicketLifetime
    rw [wp_read, wp_ensure]
    refine ⟨fun hlt => ?_, fun _ => trivial⟩
    rw [TicketConfig.sessionMillis, ← h₁]
    exact (lt_sessionMillis_iff _).mp hlt
  exact (wp_iff_run.mp hwp).1 () c' h

/-- The age that a client states at `t`, less what was added to it. -/
lemma generateObfuscatedTicketAge_ok {received : UInt64} (ageAdd : UInt32) (hle : received.toNat ≤ t.toNat)
    (hweek : t.toNat < received.toNat + 604800 * 10 ^ 9) :
    ∃ age, generateObfuscatedTicketAge received ageAdd t = .ok age ∧
      (age - ageAdd).toNat = (t.toNat - received.toNat) / 10 ^ 6 := by
  have hle' : received ≤ t := UInt64.le_iff_toNat_le.mpr hle
  have hmillis : ((t - received) / oneMillisecInNanos).toNat = (t.toNat - received.toNat) / 10 ^ 6 := by
    rw [UInt64.toNat_div, UInt64.toNat_sub_of_le _ _ hle']
    rfl
  have hfits : (t - received) / oneMillisecInNanos ≤ 4294967295 := by
    rw [UInt64.le_iff_toNat_le, hmillis, show (4294967295 : UInt64).toNat = 4294967295 from rfl]
    omega
  refine ⟨((t - received) / oneMillisecInNanos).toUInt32 + ageAdd, ?_, ?_⟩
  · unfold generateObfuscatedTicketAge
    rw [if_pos hle', if_pos hfits]
  · rw [UInt32.add_sub_cancel, UInt64.toNat_toUInt32]
    omega

end Accept

/-! ### A promised lifetime -/

section Honoured

/-- The clock does not go back, and the lifetime of the keying material never overflows. -/
structure TicketConn.TimesFit (conn : TicketConn) : Prop where
  monotone : conn.config.ClockMonotone
  material : ∀ i now, conn.config.clock i = some now →
    now.toNat + conn.serverKeyingMaterialLifetime.toNat * 10 ^ 9 < 2 ^ 64

/-- At `t` a server with the config `c` accepts a ticket that the client received at `received`. -/
def AcceptedAt (c : TicketConfig) (ticket : IssuedTicket) (received t : UInt64) : Prop :=
  ∃ age c', generateObfuscatedTicketAge received ticket.ticketAgeAdd t = .ok age ∧
    (choosePsk ticket age).run c = .ok () c'

/-- A ticket that `conn` has issued at `t₀` is accepted until its lifetime ends, whatever keys are
added in between; both readings of the clock for it show `t`. -/
def TicketHonoured (conn : TicketConn) (ticket : IssuedTicket) (t₀ : UInt64) : Prop :=
  ∀ later : List AddKeyCall, (∀ call ∈ later, call.Fits conn.config) →
    let c := addKeys later conn.config
    ∀ t received : UInt64, c.clock c.readings = some t → c.clock (c.readings + 1) = some t →
      t₀ ≤ t → t.toNat < t₀.toNat + ticket.ticketLifetime.toNat * 10 ^ 9 →
      t₀ ≤ received → received ≤ t → AcceptedAt c ticket received t

/-- **Every promise is kept** by the servers with this lifetime of session state, after any calls that
add keys. The time of issue is that for which the lifetime is computed: the second of three readings. -/
def LifetimeHonoured (sessionStateLifetimeInNanos : UInt64) : Prop :=
  ∀ (conn conn' : TicketConn) (calls : List AddKeyCall) (pick : Option ℕ) (ageAdd : UInt32)
    (ticket : IssuedTicket) (t₀ : UInt64),
    conn.config.sessionStateLifetimeInNanos = sessionStateLifetimeInNanos →
    conn.actualProtocolVersion = tls13 → conn.config.useTickets = true → conn.config.keys = [] →
    conn.TimesFit → (∀ call ∈ calls, call.Fits conn.config) →
    let issuing := { conn with config := addKeys calls conn.config }
    (TicketConn.tls13ServerNstWrite pick ageAdd).run issuing = .ok ticket conn' →
    issuing.config.clock (issuing.config.readings + 1) = some t₀ →
    ticket.ticketLifetime.toNat ≤ 604800 ∧ TicketHonoured conn' ticket t₀

variable {conn : TicketConn} {t₀ t₁ t received : UInt64}

lemma same_ticked (conn : TicketConn) (n : ℕ) : Same conn.config (conn.ticked n).config :=
  ⟨rfl, rfl, rfl, rfl, rfl, Nat.le_add_right _ _, rfl⟩

lemma IssuedAt.unexpired (h : IssuedAt conn ticket t₀ t₁)
    (ht : t.toNat < t₀.toNat + ticket.ticketLifetime.toNat * 10 ^ 9) :
    conn.config.Unexpired t ticket.key := by
  have hkey := h.bounds.key
  rw [UInt64.toNat_add] at hkey
  unfold TicketConfig.Unexpired
  omega

/-- A promise is kept if it is no longer than the lifetime of session state that is compared with. -/
lemma IssuedAt.honoured (h : IssuedAt conn ticket t₀ t₁) (hversion : conn.actualProtocolVersion = tls13)
    (huse : conn.config.useTickets = true) (hfit : conn.TimesFit) (hinv : StoreInv conn.config)
    (hsession : ticket.ticketLifetime.toNat * 1000 ≤ conn.config.sessionMillis) :
    TicketHonoured (conn.ticked 3) ticket t₀ := by
  intro later hlater c t received ht ht' hle hlt hreceived hreceived'
  have hsame := same_ticked conn 3
  have hinv₁ : StoreInv (conn.ticked 3).config := hinv.of_sublist hsame (List.Sublist.refl _)
  obtain ⟨hsame₂, hinv₂⟩ := addKeys_inv later hinv₁ hlater
  have hclock : ∀ i, c.clock i = conn.config.clock i := fun i => congrFun hsame₂.clock i
  have hreadings : conn.config.readings + 3 ≤ c.readings := hsame₂.readings
  have ht₀₁ : t₀.toNat ≤ t₁.toNat := hfit.monotone _ _ _ _ (Nat.le_succ _) h.clock₀ h.clock₁
  have ht₁ : t₁.toNat ≤ t.toNat :=
    hfit.monotone _ _ _ _ (by omega) h.clock₁ ((hclock _).symm.trans ht)
  have hweek := h.bounds.week
  have hlive := h.unexpired hlt
  have hmem : ticket.key ∈ c.keys := addKeys_keeps later hinv₁ hlater hfit.monotone h.mem le_rfl
    ((hclock _).symm.trans ht) hlive
  have hreceived := UInt64.le_iff_toNat_le.mp hreceived
  obtain ⟨age, hage, hmillis⟩ :=
    generateObfuscatedTicketAge_ok ticket.ticketAgeAdd hreceived' (by omega)
  obtain ⟨c', hrun⟩ := choosePsk_ok hinv₂ (hsame₂.useTickets.trans huse) (hsame₂.isSome.trans h.isSome) ht ht' hmem
    (hsame₂.unexpired ▸ hlive) (h.issueTime ▸ ht₁) (by rw [h.issueTime]; omega)
    (h.lt_expiration hversion ht₀₁ (hfit.material _ _ h.clock₁) hlt) (by
      rw [hmillis, TicketConfig.sessionMillis, addKeys_sessionStateLifetime]
      refine lt_of_lt_of_le ?_ hsession
      omega)
  exact ⟨age, c', hage, hrun⟩

/-- The longest lifetime that a server with this lifetime of session state may promise, in seconds. -/
def longestPromise (sessionStateLifetimeInNanos : UInt64) : ℕ :=
  min (sessionStateLifetimeInNanos.toNat / 10 ^ 9 % 2 ^ 32) 604800

lemma lifetimeHonoured_of_le
    (h : longestPromise session * 1000 ≤ session.toNat / 10 ^ 6 % 2 ^ 32) : LifetimeHonoured session := by
  intro conn conn' calls pick ageAdd ticket t₀ hsession hversion huse hempty hfit hcalls issuing hrun ht₀
  obtain ⟨rfl, t₀', t₁, hissued⟩ := tls13ServerNstWrite_issued hrun
  obtain rfl : t₀' = t₀ := Option.some.inj (hissued.clock₀.symm.trans ht₀)
  obtain ⟨hsame, hinv⟩ := addKeys_inv calls (StoreInv.of_empty hempty) hcalls
  have hsession₁ : issuing.config.sessionStateLifetimeInNanos = session :=
    (addKeys_sessionStateLifetime calls conn.config).trans hsession
  have hbound := hissued.bounds.session
  have hweek := hissued.bounds.week
  rw [hsession₁] at hbound
  have hfit₁ : issuing.TimesFit := by
    refine ⟨?_, ?_⟩
    · unfold TicketConfig.ClockMonotone
      rw [hsame.clock]
      exact hfit.monotone
    · rw [hsame.clock]
      exact hfit.material
  refine ⟨hweek, hissued.honoured hversion (hsame.useTickets.trans huse) hfit₁ hinv ?_⟩
  have hlongest : ticket.ticketLifetime.toNat ≤ longestPromise session := le_min hbound hweek
  rw [TicketConfig.sessionMillis, hsession₁]
  exact le_trans (Nat.mul_le_mul_right _ hlongest) h

end Honoured

/-! ### A server that makes the longest promise -/

/-- A call that adds a key at once. -/
def addOneKey : AddKeyCall := ⟨repeatingLib, [1], [1], 0⟩

/-- The clock shows 0 until a ticket is issued, and `t` from then on. -/
def clockUntil (t : UInt64) (i : ℕ) : Option UInt64 := some (if i < 5 then 0 else t)

/-- Keys of a server live for a week, as does its keying material. -/
def weekServer (session t : UInt64) : TicketConn where
  config := { ticketConfig with
    encryptDecryptKeyLifetimeInNanos := 604800000000000
    decryptKeyLifetimeInNanos := 0
    sessionStateLifetimeInNanos := session
    clock := clockUntil t }

def oneKey : TicketKey :=
  ticketKeyOf [1] (by decide) ⟨List.replicate 44 1, List.length_replicate⟩ 0

def issuingServer (session t : UInt64) : TicketConn :=
  { weekServer session t with
    config := { (weekServer session t).config with
      ticketKeys := some (ticketKeyArray [oneKey] (by decide))
      readings := 2 } }

def weekLifetime (session : UInt64) : UInt32 :=
  min (min (min ((604800000000000 + 0 - (0 - 0)) / oneSecInNanos).toUInt32
    (session / oneSecInNanos).toUInt32) 604800) oneWeekInSec

lemma weekLifetime_toNat (session : UInt64) : (weekLifetime session).toNat = longestPromise session := by
  unfold weekLifetime longestPromise
  rw [uint32_toNat_min, uint32_toNat_min, uint32_toNat_min, toUInt32_secs session,
    show ((604800000000000 + 0 - (0 - 0)) / oneSecInNanos).toUInt32.toNat = 604800 by decide,
    show (604800 : UInt32).toNat = 604800 from rfl, show oneWeekInSec.toNat = 604800 from rfl]
  omega

def weekTicket (session t : UInt64) : IssuedTicket where
  ticketLifetime := weekLifetime session
  ticketAgeAdd := 0
  key := oneKey
  ticketIssueTime := 0
  keyingMaterialExpiration := keyingMaterialExpirationAt ((issuingServer session t).ticked 3) 0

lemma wp_generateTicketLifetime_issuingServer (session t : UInt64) :
    wp (generateTicketLifetime oneKey.introTimestamp)
      (fun l conn' => l = weekLifetime session ∧ conn' = (issuingServer session t).ticked 2)
      noError ((issuingServer session t).ticked 1) := by
  unfold generateTicketLifetime
  rw [wp_bind, wp_onConfig_configWallClock]
  refine ⟨fun now hnow => ?_, fun hnone => nomatch hnone⟩
  obtain rfl := Option.some.inj hnow
  rw [wp_read]
  exact wp_ensured (by decide : (0 : UInt64) ≤ 0)
    (wp_ensured (by decide : (0 : UInt64) - 0 ≤ 604800000000000 + 0) ⟨rfl, rfl⟩)

lemma run_issuingServer (session t : UInt64) (h : weekLifetime session > 0) :
    (TicketConn.tls13ServerNstWrite none 0).run (issuingServer session t) =
      .ok (weekTicket session t) ((issuingServer session t).ticked 3) := by
  have hkey : (onConfig (getTicketEncryptDecryptKey none)).run (issuingServer session t) =
      .ok oneKey ((issuingServer session t).ticked 1) := by rfl
  have hwp : wp (TicketConn.tls13ServerNstWrite none 0)
      (fun ticket conn' => ticket = weekTicket session t ∧ conn' = (issuingServer session t).ticked 3)
      noError (issuingServer session t) := by
    unfold TicketConn.tls13ServerNstWrite
    rw [wp_bind]
    refine wp_then (wp_generateTicketLifetime_issuingServer session t) fun l conn' hl => ?_
    obtain ⟨rfl, rfl⟩ := hl
    refine wp_ensured h (wp_ensured (by decide) ?_)
    rw [wp_bind, wp_onConfig_configWallClock]
    refine ⟨fun now hnow => ?_, fun hnone => nomatch hnone⟩
    obtain rfl := Option.some.inj hnow
    exact ⟨rfl, rfl⟩
  obtain ⟨_, _, hrun, rfl, rfl⟩ := exists_ok_of_wp hwp
  exact hrun

lemma clockUntil_le {t now : UInt64} {i : ℕ} (h : clockUntil t i = some now) : now.toNat ≤ t.toNat := by
  obtain rfl := Option.some.inj h
  split
  · exact Nat.zero_le _
  · exact le_rfl

lemma weekServer_monotone (session t : UInt64) : (weekServer session t).config.ClockMonotone := by
  intro i j a b hij ha hb
  have hb : clockUntil t j = some b := hb
  obtain rfl := Option.some.inj ha
  split
  · exact Nat.zero_le _
  · rename_i hi
    rw [clockUntil, if_neg (by omega)] at hb
    exact le_of_eq (congrArg UInt64.toNat (Option.some.inj hb))

lemma weekServer_fits {t : UInt64} (ht : t.toNat < 604800 * 10 ^ 9) :
    addOneKey.Fits (weekServer session t).config := by
  have hfits : ∀ time, (weekServer session t).config.Fits time ↔ time + 604800000000000 + 0 < 2 ^ 64 :=
    fun time => Iff.rfl
  constructor
  · intro i now hnow
    have hnow := clockUntil_le hnow
    rw [hfits]
    omega
  · rw [hfits]
    decide

lemma LifetimeHonoured.le (h : LifetimeHonoured session) :
    longestPromise session * 1000 ≤ session.toNat / 10 ^ 6 % 2 ^ 32 := by
  by_contra hlt
  -- A ticket is refused as soon as its age is the lifetime of session state in 32 bits.
  generalize hmillis : session.toNat / 10 ^ 6 % 2 ^ 32 = millis at hlt
  have hweek : longestPromise session ≤ 604800 := Nat.min_le_right _ _
  have hpos : weekLifetime session > 0 := by
    rw [gt_iff_lt, UInt32.lt_iff_toNat_lt, weekLifetime_toNat]
    show 0 < longestPromise session
    omega
  obtain ⟨t, ht⟩ : ∃ t : UInt64, t.toNat = millis * 10 ^ 6 :=
    ⟨UInt64.ofNat (millis * 10 ^ 6), UInt64.toNat_ofNat_of_lt' (by show _ < 2 ^ 64; omega)⟩
  have hfits : addOneKey.Fits (weekServer session t).config := weekServer_fits (by omega)
  have htimes : (weekServer session t).TimesFit := by
    refine ⟨weekServer_monotone session t, fun i now hnow => ?_⟩
    have hnow := clockUntil_le hnow
    show now.toNat + 604800 * 10 ^ 9 < 2 ^ 64
    omega
  have hissue := h (weekServer session t) ((issuingServer session t).ticked 3) [addOneKey] none 0
    (weekTicket session t) 0 rfl rfl rfl rfl htimes (by simpa using hfits)
  have hhonoured := (hissue (run_issuingServer session t hpos) rfl).2
  have ht_lt : t.toNat < (0 : UInt64).toNat + (weekTicket session t).ticketLifetime.toNat * 10 ^ 9 := by
    rw [show (weekTicket session t).ticketLifetime.toNat = _ from weekLifetime_toNat session,
      show (0 : UInt64).toNat = 0 from rfl]
    omega
  have haccept := hhonoured [] (fun _ hmem => absurd hmem List.not_mem_nil) t 0 rfl rfl
    (UInt64.le_iff_toNat_le.mpr (Nat.zero_le _)) ht_lt (UInt64.le_iff_toNat_le.mpr le_rfl)
    (UInt64.le_iff_toNat_le.mpr (Nat.zero_le _))
  obtain ⟨age, c', hage, hrun⟩ := haccept
  have hweek' : t.toNat < (0 : UInt64).toNat + 604800 * 10 ^ 9 := by
    rw [show (0 : UInt64).toNat = 0 from rfl]
    omega
  obtain ⟨age', hage', hage_eq⟩ :=
    generateObfuscatedTicketAge_ok (weekTicket session t).ticketAgeAdd (Nat.zero_le _) hweek'
  obtain rfl : age = age' := Except.ok.inj (hage.symm.trans hage')
  have hyoung := choosePsk_age_lt hrun
  rw [hage_eq, TicketConfig.sessionMillis, addKeys_sessionStateLifetime,
    show ((issuingServer session t).ticked 3).config.sessionStateLifetimeInNanos = session from rfl, hmillis, ht,
    show (0 : UInt64).toNat = 0 from rfl] at hyoung
  omega

/-- **A promised lifetime is honoured** by all servers with a given lifetime of session state, if and
only if that lifetime, cut to 32 bits of milliseconds, is not less than the longest promise. -/
theorem lifetime_honoured_iff (session : UInt64) :
    LifetimeHonoured session ↔ longestPromise session * 1000 ≤ session.toNat / 10 ^ 6 % 2 ^ 32 :=
  ⟨LifetimeHonoured.le, lifetimeHonoured_of_le⟩

/-- **A promise that is not kept**: session state lives for 50 days, which are about 7 hours in 32 bits
of milliseconds, while a lifetime of a week is promised. -/
theorem fifty_days_not_honoured : ¬ LifetimeHonoured 4320000000000000 := by
  intro h
  exact absurd h.le (by decide)

end S2nTls
