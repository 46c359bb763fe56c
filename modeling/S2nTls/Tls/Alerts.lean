import S2nTls.Lib.Calls
import S2nTls.Stuffer.Fixed
import S2nTls.Stuffer.Written
import S2nTls.Tls.Parameters

/-!
Alerts that arrive (`tls/s2n_alerts.c`).

An alert has two bytes, but a record may carry a part of one or several of them. The bytes of an alert are
collected in `conn->alert_in`. `s2n_process_alert_fragment` returns when it has an alert, and both callers wipe
the record then, so that whatever stands behind a first alert in a record is lost.

`alertByte` says what the alerts of a stream do, byte by byte; the code does the same as long as nothing follows
in a record on an alert that does not end the connection.
-/

namespace S2nTls

open Lib Stuffer

variable {rest : List UInt8} {level : UInt8}

/-! ### The model -/

inductive AlertBehavior
  | failOnWarnings | ignoreWarnings
  deriving DecidableEq, Repr

def alertLevelWarning : UInt8 := 1
def alertCloseNotify : UInt8 := 0
def alertUserCanceled : UInt8 := 90

/-- What alerts change in a connection, and what decides about them. -/
structure AlertStatus where
  mode : Mode
  actualProtocolVersion : ℕ
  clientProtocolVersion : ℕ
  serverProtocolVersion : ℕ
  alertBehavior : AlertBehavior
  quicEnabled : Bool := false
  /-- `s2n_allowed_to_cache_connection`, for a connection with a session id. -/
  cached : Bool := false
  readClosed : Bool := false
  writeClosed : Bool := false
  closeNotifyReceived : Bool := false
  errorAlertReceived : Bool := false
  /-- Whether `cache_delete` was called. -/
  cacheDeleted : Bool := false
  /-- The alerts that were taken for warnings so far. -/
  ignored : List (UInt8 × UInt8) := []
  deriving DecidableEq

namespace AlertStatus

def protocolVersion (s : AlertStatus) : ℕ :=
  if s.actualProtocolVersion ≠ versionUnknown then s.actualProtocolVersion
  else match s.mode with
    | .client => s.clientProtocolVersion
    | .server => s.serverProtocolVersion

def processAsWarning (s : AlertStatus) (level type : UInt8) : Bool :=
  if s.protocolVersion < tls13 then
    level == alertLevelWarning && s.alertBehavior == .ignoreWarnings
  else type == alertUserCanceled

def close (s : AlertStatus) : AlertStatus := { s with readClosed := true, closeNotifyReceived := true }

def ignore (s : AlertStatus) (level type : UInt8) : AlertStatus :=
  { s with ignored := s.ignored ++ [(level, type)] }

/-- An error alert: the session is removed from the cache and the connection is closed. -/
def fail (s : AlertStatus) : AlertStatus :=
  { s with
    cacheDeleted := s.cacheDeleted || s.cached
    readClosed := true
    writeClosed := true
    errorAlertReceived := true }

end AlertStatus

/-- The part of a connection that alerts go through. -/
structure AlertConn where
  status : AlertStatus
  inStuffer : Stuffer
  alertIn : Stuffer

/-- The rest of the loop, once there is an alert in `conn->alert_in`. All its branches return. -/
def handleAlert : EStateM Err AlertConn Unit := do
  let c ← get
  let level := c.alertIn.blob.data 0
  let type := c.alertIn.blob.data 1
  if type = alertCloseNotify then
    set { c with status := c.status.close }
  else if c.status.processAsWarning level type then
    set { c with status := c.status.ignore level type, alertIn := c.alertIn.wiped }
  else do
    set { c with status := c.status.fail }
    throw .alert

/-- The loop of `s2n_process_alert_fragment`. Each iteration takes a byte at least. -/
def alertLoop : (fuel : ℕ) → EStateM Err AlertConn Unit
  | 0 => return
  | fuel + 1 => do
    let c ← get
    if c.inStuffer.dataAvailable = 0 then return
    else
      let bytesRequired := if c.alertIn.dataAvailable = 1 then 1 else 2
      zoom (fun c => (c.inStuffer, c.alertIn)) (fun p c => { c with inStuffer := p.1, alertIn := p.2 })
        (copy .ample (min bytesRequired c.inStuffer.dataAvailable))
      if (← get).alertIn.dataAvailable = 2 then handleAlert else alertLoop fuel

def processAlertFragment : EStateM Err AlertConn Unit := do
  let c ← get
  ensure (c.inStuffer.dataAvailable ≠ 0) .badMessage
  ensure (c.alertIn.dataAvailable ≠ 2) .alertPresent
  ensure (c.status.quicEnabled = false) .badMessage
  alertLoop c.inStuffer.dataAvailable

/-- The content of an alert record. -/
structure AlertRecord where
  bytes : List UInt8
  nonempty : bytes ≠ []
  length_lt : bytes.length < 2 ^ 16

lemma AlertRecord.size_lt (r : AlertRecord) : r.bytes.length < 2 ^ 32 := lt_trans r.length_lt (by decide)

/-- A record arrives, is processed and wiped. -/
def alertRecord (r : AlertRecord) : EStateM Err AlertConn Unit := do
  modify fun c => { c with inStuffer := Stuffer.initWritten (Blob.ofList r.bytes r.size_lt) }
  processAlertFragment
  modify fun c => { c with inStuffer := c.inStuffer.wiped }

/-! ### The alerts of a stream -/

/-- An alert that does not end the connection. -/
def AlertStatus.goesOn (s : AlertStatus) (level type : UInt8) : Bool :=
  type == alertCloseNotify || s.processAsWarning level type

/-- The bytes of an alert that has not been dealt with, and the connection. -/
structure AlertStream where
  status : AlertStatus
  pending : List UInt8

/-- What a complete alert does. A close notification and an error stay where they are, and no other alert is
accepted then. -/
def completeAlert (level type : UInt8) : EStateM Err AlertStream Unit := do
  let s ← get
  if type = alertCloseNotify then
    set (⟨s.status.close, [level, type]⟩ : AlertStream)
  else if s.status.processAsWarning level type then
    set (⟨s.status.ignore level type, []⟩ : AlertStream)
  else do
    set (⟨s.status.fail, [level, type]⟩ : AlertStream)
    throw .alert

/-- The next byte of the stream. -/
def alertByte (b : UInt8) : EStateM Err AlertStream Unit := do
  let s ← get
  match s.pending with
  | [] => do
    ensure (s.status.quicEnabled = false) .badMessage
    set { s with pending := [b] }
  | [level] => do
    ensure (s.status.quicEnabled = false) .badMessage
    completeAlert level b
  | _ => throw .alertPresent

variable (b : UInt8) {s : AlertStream}

section Stream

variable {Q : Unit → AlertStream → Prop} {R : Err → AlertStream → Prop}

lemma wp_alertByte_nil (hnil : s.pending = []) (hquic : s.status.quicEnabled = false) :
    wp (alertByte b) Q R s ↔ Q () { s with pending := [b] } := by
  unfold alertByte
  rw [wp_read, hnil, wp_bind, wp_ensure]
  simp [hquic]

lemma wp_alertByte_singleton (hpend : s.pending = [level])
    (hquic : s.status.quicEnabled = false) : wp (alertByte b) Q R s ↔ wp (completeAlert level b) Q R s := by
  unfold alertByte
  rw [wp_read, hpend, wp_bind, wp_ensure]
  simp [hquic]

lemma wp_alertByte_quic (hlt : s.pending.length < 2) (hquic : s.status.quicEnabled = true) :
    wp (alertByte b) Q R s ↔ R .badMessage s := by
  unfold alertByte
  rw [wp_read]
  match hpend : s.pending with
  | [] => rw [wp_bind, wp_ensure]; simp [hquic]
  | [_] => rw [wp_bind, wp_ensure]; simp [hquic]
  | _ :: _ :: _ =>
    rw [hpend, List.length_cons, List.length_cons] at hlt
    omega

/-- After a close notification or an error there are no more alerts. -/
lemma wp_alertByte_full (hge : 2 ≤ s.pending.length) : wp (alertByte b) Q R s ↔ R .alertPresent s := by
  unfold alertByte
  rw [wp_read]
  match hpend : s.pending with
  | [] => rw [hpend] at hge; cases hge
  | [_] => rw [hpend] at hge; exact absurd hge (Nat.not_le_of_lt Nat.one_lt_two)
  | _ :: _ :: _ => rw [wp_throw]

end Stream

/-- If a record completes an alert that does not end the connection, it has no more bytes. -/
def AlertRecord.Whole (r : AlertRecord) (c : AlertConn) : Prop :=
  let bs := c.alertIn.unread ++ r.bytes
  c.alertIn.dataAvailable < 2 → 2 < bs.length → c.status.goesOn (bs.getD 0 0) (bs.getD 1 0) = false

instance (r : AlertRecord) (c : AlertConn) : Decidable (r.Whole c) :=
  inferInstanceAs (Decidable (_ → _ → _))

/-- The connection holds what the stream has. -/
structure Tracks (c : AlertConn) (s : AlertStream) : Prop where
  status : c.status = s.status
  holds : Holds c.alertIn 2 s.pending

namespace Tracks

variable {c : AlertConn}

lemma handleAlert {type : UInt8} (hstatus : c.status = s.status) (h : Holds c.alertIn 2 [level, type]) :
    EndsAs Tracks handleAlert (completeAlert level type) c s := by
  have hbytes := (Contains.of_holds h).bytes
  obtain ⟨hlevel, htype⟩ : c.alertIn.blob.data 0 = level ∧ c.alertIn.blob.data 1 = type := by
    simpa [slice, List.range_succ] using hbytes
  unfold EndsAs S2nTls.handleAlert completeAlert
  simp only [wp_bind, wp_get, wp_ite, wp_set, wp_throw, hlevel, htype, hstatus]
  refine ⟨fun hclose => ?_, fun hclose => ⟨fun hwarn => ?_, fun hwarn => ?_⟩⟩
  · exact ⟨fun _ => ⟨trivial, rfl, h⟩, fun h => absurd hclose h⟩
  · exact ⟨fun h => absurd h hclose, fun _ => ⟨fun _ => ⟨trivial, rfl, h.wiped⟩, fun h => absurd hwarn h⟩⟩
  · exact ⟨fun h => absurd h hclose, fun _ => ⟨fun h => absurd h hwarn, fun _ => ⟨trivial, rfl, h⟩⟩⟩

variable {Q : Unit → AlertConn → Prop} {R : Err → AlertConn → Prop}

lemma wp_copyAlert {xs : List UInt8}
    (h : Holds c.alertIn 2 s.pending) (hin : c.inStuffer.unread = xs ++ rest)
    (hlen : s.pending.length + xs.length ≤ 2)
    (hok : ∀ c' : AlertConn, c'.status = c.status → c'.inStuffer.unread = rest →
      Holds c'.alertIn 2 (s.pending ++ xs) → Q () c') :
    wp (zoom (fun c => (c.inStuffer, c.alertIn)) (fun p c => { c with inStuffer := p.1, alertIn := p.2 })
      (copy .ample xs.length)) Q R c := by
  have havail := congrArg List.length hin
  rw [unread_length, List.length_append] at havail
  have hle : xs.length ≤ c.inStuffer.dataAvailable := by omega
  rw [wp_zoom]
  refine wp_sure (fun _ p hp => ?_)
    (wp_copy_of_room .ample hle (by rw [h.spaceRemaining_eq]; omega))
  obtain ⟨hsrc, hdst, hread, hsame⟩ := hp
  refine hok _ rfl ?_ ⟨?_, ?_, ?_, ?_⟩
  · rw [hsrc, unread_advanceRead hle, hin, List.drop_left]
  · exact hsame.growable.trans h.growable
  · exact hsame.size.trans h.size_eq
  · exact hread.trans h.readCursor
  · rw [unread_eq_written (hread.trans h.readCursor), hdst, ← unread_eq_written h.readCursor, h.unread, hin,
      List.take_left]

lemma lastAlert {type : UInt8} (hstatus : c.status = s.status)
    (h : Holds c.alertIn 2 [level, type]) (hrest : s.status.goesOn level type = true → rest = []) :
    EndsAs Tracks S2nTls.handleAlert (completeAlert level type >>= fun _ => forM rest alertByte) c s := by
  have hends := handleAlert hstatus h
  unfold EndsAs at hends ⊢
  cases hgo : s.status.goesOn level type with
  | true =>
    rw [hrest hgo]
    simpa only [List.forM_nil, wp_bind, wp_pure] using hends
  | false =>
    obtain ⟨hclose, hwarn⟩ := Bool.or_eq_false_iff.mp hgo
    have hfail : (completeAlert level type).run s = .error .alert ⟨s.status.fail, [level, type]⟩ := by
      have hne : type ≠ alertCloseNotify := by simpa using hclose
      unfold completeAlert
      simp [hne, hwarn]
    simp only [wp_bind, wp_of_error hfail] at hends ⊢
    exact hends

lemma wp_alertLoop_succ {fuel : ℕ}
    (xs : List UInt8) (h : Holds c.alertIn 2 s.pending) (hlt : s.pending.length < 2)
    (hin : c.inStuffer.unread = xs ++ rest) (hne : xs ≠ [])
    (hlen : min (2 - s.pending.length) (xs ++ rest).length = xs.length)
    (hok : ∀ c' : AlertConn, c'.status = c.status → Holds c'.alertIn 2 (s.pending ++ xs) →
      wp (if (s.pending ++ xs).length = 2 then S2nTls.handleAlert else alertLoop fuel) Q R c') :
    wp (alertLoop (fuel + 1)) Q R c := by
  have havail := congrArg List.length hin
  rw [unread_length] at havail
  have hpending : c.alertIn.dataAvailable = s.pending.length := by rw [← unread_length, h.unread]
  have hpos : 0 < xs.length := List.length_pos_iff.mpr hne
  have hnonzero : (xs ++ rest).length ≠ 0 := by
    rw [List.length_append]
    omega
  have hrequired : (if s.pending.length = 1 then 1 else 2) = 2 - s.pending.length := by
    split <;> omega
  unfold alertLoop
  rw [wp_read, havail, if_neg hnonzero]
  dsimp only
  rw [hpending, hrequired, hlen, wp_bind]
  refine wp_copyAlert h hin (by omega) fun c' hst _ hh => ?_
  have hfull : c'.alertIn.dataAvailable = (s.pending ++ xs).length := by rw [← unread_length, hh.unread]
  rw [wp_read, hfull]
  exact hok c' hst hh

lemma loop (h : Tracks c s) {bs : List UInt8} (hin : c.inStuffer.unread = bs) (hne : bs ≠ [])
    (hlt : s.pending.length < 2) (hquic : s.status.quicEnabled = false)
    (hrest : ∀ level type rest, s.pending ++ bs = level :: type :: rest →
      s.status.goesOn level type = true → rest = []) :
    EndsAs Tracks (alertLoop bs.length) (forM bs alertByte) c s := by
  obtain ⟨b, bs, rfl⟩ := List.exists_cons_of_ne_nil hne
  unfold EndsAs
  match hpend : s.pending, bs with
  | [], [] =>
    refine wp_alertLoop_succ [b] h.holds hlt hin (by simp) (by rw [hpend]; rfl) fun c' hst hh => ?_
    have hpart : (s.pending ++ [b]).length ≠ 2 := by simp [hpend]
    rw [hpend, List.nil_append] at hh
    rw [if_neg hpart, List.length_nil, alertLoop, wp_pure, List.forM_cons, wp_bind,
      wp_alertByte_nil b hpend hquic, List.forM_nil, wp_pure]
    exact ⟨rfl, hst.trans h.status, hh⟩
  | [], type :: rest =>
    refine wp_alertLoop_succ [b, type] h.holds hlt hin (by simp) ?_ fun c' hst hh => ?_
    · rw [hpend]
      simp
    · have hfull : (s.pending ++ [b, type]).length = 2 := by simp [hpend]
      rw [hpend] at hh
      have hlast := lastAlert (s := { s with pending := [b] }) (hst.trans h.status) hh
        (hrest b type rest (by rw [hpend]; rfl))
      unfold EndsAs at hlast
      rw [if_pos hfull]
      simp only [List.forM_cons, wp_bind, wp_alertByte_nil b hpend hquic,
        wp_alertByte_singleton (s := { s with pending := [b] }) type rfl hquic] at hlast ⊢
      exact hlast
  | [level], rest =>
    refine wp_alertLoop_succ [b] h.holds hlt hin (by simp) ?_ fun c' hst hh => ?_
    · rw [hpend]
      simp
    · have hfull : (s.pending ++ [b]).length = 2 := by simp [hpend]
      rw [hpend] at hh
      have hlast := lastAlert (hst.trans h.status) hh (hrest level b rest (by rw [hpend]; rfl))
      unfold EndsAs at hlast
      rw [if_pos hfull]
      simp only [List.forM_cons, wp_bind, wp_alertByte_singleton b hpend hquic] at hlast ⊢
      exact hlast
  | _ :: _ :: _, _ =>
    rw [hpend, List.length_cons, List.length_cons] at hlt
    omega

/-- A record is processed as its bytes are, if nothing in it is behind an alert that does not end the
connection. -/
lemma record (h : Tracks c s) {r : AlertRecord} (hwhole : r.Whole c) :
    EndsAs Tracks (alertRecord r) (forM r.bytes alertByte) c s := by
  have hin : (Stuffer.initWritten (Blob.ofList r.bytes r.size_lt)).unread = r.bytes := by
    rw [unread_initWritten, Blob.bytes_ofList]
  have havail : (Stuffer.initWritten (Blob.ofList r.bytes r.size_lt)).dataAvailable = r.bytes.length := rfl
  have hpending : c.alertIn.dataAvailable = s.pending.length := by rw [← unread_length, h.holds.unread]
  have hle := h.holds.length_le
  obtain ⟨b, bs, hbytes⟩ := List.exists_cons_of_ne_nil r.nonempty
  unfold EndsAs alertRecord processAlertFragment
  rw [wp_update, wp_bind, wp_read]
  dsimp only
  generalize Stuffer.initWritten (Blob.ofList r.bytes r.size_lt) = t at hin havail ⊢
  rw [havail]
  refine wp_ensured (by simp [r.nonempty]) ?_
  rw [hpending]
  refine wp_seq_ensure (fun hfull => ?_) fun hfull => ?_
  swap
  · have htwo : 2 ≤ s.pending.length := by omega
    rw [hbytes, List.forM_cons, wp_bind, wp_alertByte_full b htwo]
    exact ⟨rfl, h.status, h.holds⟩
  have hlt : s.pending.length < 2 := by omega
  refine wp_seq_ensure (fun hquic => ?_) fun hquic => ?_
  swap
  · have hquic : s.status.quicEnabled = true := by
      rw [← h.status]
      simpa using hquic
    rw [hbytes, List.forM_cons, wp_bind, wp_alertByte_quic b hlt hquic]
    exact ⟨rfl, h.status, h.holds⟩
  rw [h.status] at hquic
  have hloop : EndsAs Tracks (alertLoop r.bytes.length) (forM r.bytes alertByte)
      { c with inStuffer := t } s := by
    have htracks : Tracks { c with inStuffer := t } s := ⟨h.status, h.holds⟩
    refine htracks.loop hin r.nonempty hlt hquic fun level type rest hcons hgo => ?_
    unfold AlertRecord.Whole at hwhole
    rw [h.holds.unread, hcons, hpending, h.status] at hwhole
    by_contra hrest
    have hpos := List.length_pos_iff.mpr hrest
    have hstop := hwhole hlt (by rw [List.length_cons, List.length_cons]; omega)
    exact Bool.false_ne_true (hstop.symm.trans hgo)
  refine wp_mono_ok (fun _ c' hok => ?_) hloop
  rw [wp_modify]
  exact wp_mono_ok (fun _ _ hsame => ⟨hsame.1, hsame.2.status, hsame.2.holds⟩) hok

/-- An alert in a record of its own leaves no part of an alert behind. -/
lemma alone (level type : UInt8) (hne : s.pending.length ≠ 1) :
    (finalState (forM [level, type] alertByte) s).pending.length ≠ 1 := by
  refine finalState_of_wp (P := fun s' : AlertStream => s'.pending.length ≠ 1) ?_
  rw [List.forM_cons, wp_bind]
  by_cases hfull : 2 ≤ s.pending.length
  · rw [wp_alertByte_full level hfull]
    exact hne
  have hnil : s.pending = [] := List.length_eq_zero_iff.mp (by omega)
  cases hquic : s.status.quicEnabled with
  | true =>
    rw [wp_alertByte_quic level (by omega) hquic]
    exact hne
  | false =>
    rw [wp_alertByte_nil level hnil hquic, List.forM_cons, wp_bind,
      wp_alertByte_singleton (s := { s with pending := [level] }) type rfl hquic]
    unfold completeAlert
    simp

end Tracks

/-! ### Whole runs -/

/-- What is seen of a sequence of alert records. -/
structure AlertOutcome where
  closeNotifyReceived : Bool
  readClosed : Bool
  errorAlertReceived : Bool
  ignored : List (UInt8 × UInt8)
  /-- The error that is returned. -/
  error : Option Err
  deriving DecidableEq

/-- How records that are processed one after the other end; an error ends the connection. -/
def alertOutcome (rs : List AlertRecord) (c : AlertConn) : AlertOutcome :=
  let s := (finalState (forM rs alertRecord) c).status
  { closeNotifyReceived := s.closeNotifyReceived
    readClosed := s.readClosed
    errorAlertReceived := s.errorAlertReceived
    ignored := s.ignored
    error := match outcome (forM rs alertRecord) c with
      | .ok _ => none
      | .error e => some e }

/-- An alert in a record of its own. -/
def AlertRecord.alone (a : UInt8 × UInt8) : AlertRecord := ⟨[a.1, a.2], by simp, by simp⟩

lemma forM_bytes (rs : List AlertRecord) :
    (forM rs fun r => forM r.bytes alertByte) = forM (rs.map AlertRecord.bytes).flatten alertByte := by
  induction rs with
  | nil => rfl
  | cons r rs ih => rw [List.forM_cons, ih, List.map_cons, List.flatten_cons, List.forM_append]

lemma bytes_alone (alerts : List (UInt8 × UInt8)) :
    ((alerts.map AlertRecord.alone).map AlertRecord.bytes).flatten = alerts.flatMap fun a => [a.1, a.2] := by
  rw [List.map_map, List.flatMap_def]
  rfl

/-- Records with one alert each have nothing behind it. -/
lemma allMeet_alone {c : AlertConn} {s : AlertStream} (h : Tracks c s) (hne : s.pending.length ≠ 1)
    (alerts : List (UInt8 × UInt8)) : AllMeet alertRecord AlertRecord.Whole (alerts.map AlertRecord.alone) c := by
  induction alerts generalizing c s with
  | nil => trivial
  | cons a alerts ih =>
    have hwhole : (AlertRecord.alone a).Whole c := by
      unfold AlertRecord.Whole
      have hpending : c.alertIn.dataAvailable = s.pending.length := by rw [← unread_length, h.holds.unread]
      dsimp only
      rw [hpending, h.holds.unread]
      intro hlt hlong
      have hnil : s.pending = [] := List.length_eq_zero_iff.mp (by omega)
      rw [hnil] at hlong
      exact absurd hlong (lt_irrefl 2)
    exact ⟨hwhole, ih (h.record hwhole).outcome_eq.2 (Tracks.alone a.1 a.2 hne)⟩

lemma alertOutcome_eq {c : AlertConn} {s : AlertStream} (h : Tracks c s) {rs : List AlertRecord}
    (hwhole : AllMeet alertRecord AlertRecord.Whole rs c) :
    let m := forM (rs.map AlertRecord.bytes).flatten alertByte
    outcome (forM rs alertRecord) c = outcome m s ∧
      (finalState (forM rs alertRecord) c).status = (finalState m s).status := by
  intro m
  have hrun := forM_refines (P := AlertRecord.Whole) (fun _ _ _ hI hP => (Tracks.record hI hP).outcome_eq) rs c s h
    hwhole
  rw [forM_bytes] at hrun
  exact ⟨hrun.1, hrun.2.status⟩

/-- **The outcome of a stream of alerts does not depend on the records it comes in**, if no record has more
bytes behind an alert that does not end the connection. -/
theorem alertOutcome_independent (c : AlertConn) (hempty : Holds c.alertIn 2 []) (alerts : List (UInt8 × UInt8))
    (rs : List AlertRecord) (hdiv : (rs.map AlertRecord.bytes).flatten = alerts.flatMap fun a => [a.1, a.2])
    (hwhole : AllMeet alertRecord AlertRecord.Whole rs c) :
    alertOutcome rs c = alertOutcome (alerts.map AlertRecord.alone) c := by
  have h : Tracks c ⟨c.status, []⟩ := ⟨rfl, hempty⟩
  obtain ⟨hout, hstatus⟩ := alertOutcome_eq h hwhole
  obtain ⟨hout', hstatus'⟩ := alertOutcome_eq h (allMeet_alone h (by simp) alerts)
  rw [hdiv] at hout hstatus
  rw [bytes_alone] at hout' hstatus'
  unfold alertOutcome
  rw [hout, hstatus, hout', hstatus']

/-- A connection without an alert, of the given version. -/
def alertReceiver (version : ℕ) (behavior : AlertBehavior) : AlertConn where
  status :=
    { mode := .client
      actualProtocolVersion := version
      clientProtocolVersion := version
      serverProtocolVersion := version
      alertBehavior := behavior }
  inStuffer := Stuffer.zero
  alertIn := Stuffer.init (Blob.ofList [0, 0] (by decide))

def AlertRecord.byte (b : UInt8) : AlertRecord := ⟨[b], by simp, by simp⟩

/-- A warning and an error in four records. -/
theorem alertOutcome_independent_bytes :
    alertOutcome [.byte 1, .byte 90, .byte 2, .byte 40] (alertReceiver tls12 .ignoreWarnings) =
      alertOutcome [.alone (1, 90), .alone (2, 40)] (alertReceiver tls12 .ignoreWarnings) :=
  alertOutcome_independent (alertReceiver tls12 .ignoreWarnings) (Holds.init _) [(1, 90), (2, 40)] _ rfl
    (by decide +kernel)

/-- The content of a record with two alerts. -/
def AlertRecord.two (a b : UInt8 × UInt8) : AlertRecord := ⟨[a.1, a.2, b.1, b.2], by simp, by simp⟩

/-- **An alert behind a warning is lost.** The error alert that shares a record with an ignored warning closes
nothing, while it ends the connection when it comes alone; the same happens to a close notification. -/
theorem alertOutcome_loses_alert :
    let c := alertReceiver tls12 .ignoreWarnings
    alertOutcome [.alone (1, 90), .alone (2, 40)] c = ⟨false, true, true, [(1, 90)], some .alert⟩ ∧
      alertOutcome [.two (1, 90) (2, 40)] c = ⟨false, false, false, [(1, 90)], none⟩ ∧
      alertOutcome [.alone (1, 90), .alone (1, 0)] c = ⟨true, true, false, [(1, 90)], none⟩ ∧
      alertOutcome [.two (1, 90) (1, 0)] c = ⟨false, false, false, [(1, 90)], none⟩ := by
  decide +kernel

end S2nTls
