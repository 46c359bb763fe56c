import S2nTls.Tls.ExtensionDecode

/-!
Lists of application protocols (`tls/s2n_protocol_preferences.c`).

A list is kept as it is sent: every protocol after a byte with its length. The server goes through
its own list and takes the first protocol that the list of the client contains.
-/

namespace S2nTls

open Lib Stuffer

/-- `application_protocols`: a list takes at most 65535 bytes. -/
structure ProtocolPreferences where
  bytes : List UInt8
  length_le : bytes.length ≤ 65535

namespace ProtocolPreferences

def empty : ProtocolPreferences := ⟨[], by decide⟩

def blob (prefs : ProtocolPreferences) : Blob :=
  Blob.ofList prefs.bytes (lt_of_le_of_lt prefs.length_le (by decide))

end ProtocolPreferences

/-! ### Making a list -/

/-- `s2n_free` of a list: the bytes are zeroed before the memory is given back, which may fail. -/
def protocolPreferencesFree (released : Bool) : EStateM Err ProtocolPreferences Unit := do
  let prefs ← get
  when (prefs.bytes ≠ []) do
    set (⟨List.replicate prefs.bytes.length 0, List.length_replicate.trans_le prefs.length_le⟩ : ProtocolPreferences)
    ensure (released = true) .cancelled
  set ProtocolPreferences.empty

/-- A protocol whose length is a byte. -/
abbrev Protocol : Type := { protocol : List UInt8 // protocol.length < 256 }

def protocolPreferencesAppend (malloc : Allocator) (protocol : Protocol) :
    EStateM Err ProtocolPreferences Unit := do
  ensure (protocol.1.length ≠ 0) .invalidApplicationProtocol
  let prefs ← get
  if h : prefs.bytes.length + 1 + protocol.1.length ≤ 65535 then
    ensure (malloc (prefs.bytes.length + 1 + protocol.1.length) = true) .alloc
    -- the bytes are in a new block
    protocolPreferencesFree malloc.releases
    set (⟨prefs.bytes ++ (beBytes 1 protocol.1.length ++ protocol.1), by
      rw [List.length_append, List.length_append, beBytes_length]; omega⟩ : ProtocolPreferences)
  else throw .invalidApplicationProtocol

def appendProtocols (malloc : Allocator) : List Protocol → EStateM Err ProtocolPreferences Unit
  | [] => return
  | protocol :: rest => do
    protocolPreferencesAppend malloc protocol
    appendProtocols malloc rest

/-- The bytes of a C string, whose length is that of `strlen`. -/
def cString (bs : List UInt8) : List UInt8 := bs.takeWhile fun b => b ≠ 0

/-- The loop of `s2n_protocol_preferences_set`. -/
def appendStrings (malloc : Allocator) : List (List UInt8) → EStateM Err ProtocolPreferences Unit
  | [] => return
  | protocol :: rest =>
    if h : (cString protocol).length < 256 then do
      protocolPreferencesAppend malloc ⟨cString protocol, h⟩
      appendStrings malloc rest
    else throw .invalidApplicationProtocol

/-- `s2n_protocol_preferences_set`; `released` is whether the old list can be freed. -/
def protocolPreferencesSet (malloc : Allocator) (released : Bool) (protocols : List (List UInt8)) :
    EStateM Err ProtocolPreferences Unit := do
  if protocols = [] then protocolPreferencesFree released
  else
    ensure (malloc (protocols.length * 8) = true) .alloc
    -- `s2n_realloc` to 0 bytes frees the block again
    ensure (malloc.releases = true) .cancelled
    let newProtocols ← execLocal (appendStrings malloc protocols) ProtocolPreferences.empty
    protocolPreferencesFree released
    set newProtocols

/-! ### Reading a list -/

def protocolPreferencesRead : StufferM Blob := do
  let length ← readUint 1
  ensure (length > 0) .safety
  match ← rawRead length with
  | none => throw .null
  | some off => return (← get).blob.sub off length

/-- The loop of `s2n_protocol_preferences_contain`. A protocol takes at least a byte, so the bytes that
are there bound the number of rounds. -/
def containLoop (protocol : Blob) : (fuel : ℕ) → StufferM Bool
  | 0 => return false
  | fuel + 1 => do
    if (← get).dataAvailable = 0 then return false
    else
      let matchAgainst ← protocolPreferencesRead
      -- equal sizes, and then `memcmp`
      if matchAgainst.bytes = protocol.bytes then return true
      else containLoop protocol fuel

def protocolPreferencesContain {σ : Type} (prefs protocol : Blob) : EStateM Err σ Bool := do
  let (contains, _) ← onLocal (containLoop protocol prefs.size) (Stuffer.initWritten prefs)
  return contains

/-- The loop of `s2n_select_server_preference_protocol`: the protocol that is selected. -/
def selectLoop {σ : Type} (clientList : Blob) : (fuel : ℕ) → Stuffer → EStateM Err σ (Option Blob)
  | 0, _ => return none
  | fuel + 1, serverList =>
    if serverList.dataAvailable = 0 then return none
    else do
      let (protocol, serverList') ← failWith .badMessage (onLocal protocolPreferencesRead serverList)
      let matchFound ← failWith .badMessage (protocolPreferencesContain clientList protocol)
      if matchFound then return some protocol
      else selectLoop clientList fuel serverList'

/-- All protocols of a list, as the loops read them. -/
def readProtocols : (fuel : ℕ) → StufferM (List (List UInt8))
  | 0 => return []
  | fuel + 1 => do
    if (← get).dataAvailable = 0 then return []
    else
      let protocol ← protocolPreferencesRead
      return protocol.bytes :: (← readProtocols fuel)

/-! ### The format -/

def encodeProtocols (ps : List (List UInt8)) : List UInt8 :=
  ps.flatMap fun p => beBytes 1 p.length ++ p

lemma encodeProtocols_cons (p : List UInt8) (ps : List (List UInt8)) :
    encodeProtocols (p :: ps) = beBytes 1 p.length ++ (p ++ encodeProtocols ps) := by
  rw [encodeProtocols, List.flatMap_cons, List.append_assoc]
  rfl

/-- A protocol of 1 to 255 bytes. -/
def ValidProtocol (p : List UInt8) : Prop := 0 < p.length ∧ p.length < 256

/-- `prefs` was made by appending these protocols. -/
def Configured (ps : List (List UInt8)) (prefs : ProtocolPreferences) : Prop :=
  ∃ (malloc : Allocator) (protocols : List Protocol), protocols.map (·.1) = ps ∧
    (appendProtocols malloc protocols).run ProtocolPreferences.empty = .ok () prefs

section Making

variable {malloc : Allocator}

/-- A list is freed, or it is zeroed. -/
lemma wp_protocolPreferencesFree (released : Bool) (prefs : ProtocolPreferences) :
    wp (protocolPreferencesFree released) (fun _ prefs' => prefs' = ProtocolPreferences.empty)
      (fun _ prefs' => released = false ∧ prefs'.bytes = List.replicate prefs.bytes.length 0) prefs := by
  unfold protocolPreferencesFree
  rw [wp_read, wp_bind, wp_when]
  refine ⟨fun _ => ?_, fun _ => (wp_set _).mpr rfl⟩
  rw [wp_bind, wp_set, wp_ensure]
  exact ⟨fun _ => (wp_set _).mpr rfl, fun hno => ⟨Bool.eq_false_iff.mpr hno, rfl⟩⟩

lemma wp_protocolPreferencesAppend (protocol : Protocol) (prefs : ProtocolPreferences) :
    wp (protocolPreferencesAppend malloc protocol)
      (fun _ prefs' => 0 < protocol.1.length ∧
        prefs'.bytes = prefs.bytes ++ (beBytes 1 protocol.1.length ++ protocol.1))
      anyError prefs := by
  unfold protocolPreferencesAppend
  refine wp_guard trivial fun hpos => ?_
  rw [wp_read]
  split
  · refine wp_guard trivial fun _ => wp_tried (wp_protocolPreferencesFree _ prefs) fun _ _ _ => ?_
    exact (wp_set _).mpr ⟨Nat.pos_of_ne_zero hpos, rfl⟩
  · exact trivial

lemma wp_appendProtocols (protocols : List Protocol) (prefs : ProtocolPreferences) :
    wp (appendProtocols malloc protocols)
      (fun _ prefs' => (∀ p ∈ protocols, ValidProtocol p.1) ∧
        prefs'.bytes = prefs.bytes ++ encodeProtocols (protocols.map (·.1)))
      anyError prefs := by
  induction protocols generalizing prefs with
  | nil => exact ⟨by simp, (List.append_nil _).symm⟩
  | cons p protocols ih =>
    refine wp_tried (wp_protocolPreferencesAppend p prefs) fun _ prefs₁ h₁ => ?_
    refine wp_mono_ok (fun _ prefs' h => ⟨?_, ?_⟩) (ih prefs₁)
    · intro q hq
      rcases List.mem_cons.mp hq with rfl | hq
      · exact ⟨h₁.1, q.2⟩
      · exact h.1 q hq
    · rw [h.2, h₁.2, List.map_cons, encodeProtocols_cons, List.append_assoc, List.append_assoc]

lemma Configured.spec {ps : List (List UInt8)} {prefs : ProtocolPreferences} (h : Configured ps prefs) :
    (∀ p ∈ ps, ValidProtocol p) ∧ prefs.bytes = encodeProtocols ps := by
  obtain ⟨malloc, protocols, rfl, hrun⟩ := h
  obtain ⟨hvalid, hbytes⟩ := (wp_iff_run.mp (wp_appendProtocols protocols _)).1 () prefs hrun
  refine ⟨fun p hp => ?_, hbytes⟩
  obtain ⟨q, hq, rfl⟩ := List.mem_map.mp hp
  exact hvalid q hq

lemma wp_appendStrings (strings : List (List UInt8)) (prefs : ProtocolPreferences) :
    wp (appendStrings malloc strings)
      (fun _ prefs' => ∃ protocols : List Protocol, protocols.map (·.1) = strings.map cString ∧
        (appendProtocols malloc protocols).run prefs = .ok () prefs')
      anyError prefs := by
  induction strings generalizing prefs with
  | nil => exact ⟨[], rfl, rfl⟩
  | cons string strings ih =>
    rw [appendStrings]
    split
    · rename_i h
      have hfirst : wp (protocolPreferencesAppend malloc ⟨cString string, h⟩)
          (fun _ prefs₁ => (protocolPreferencesAppend malloc ⟨cString string, h⟩).run prefs = .ok () prefs₁)
          anyError prefs := wp_iff_run.mpr ⟨fun _ _ hrun => hrun, fun _ _ _ => trivial⟩
      refine wp_tried hfirst fun _ prefs₁ h₁ => ?_
      refine wp_mono_ok (fun _ prefs' h' => ?_) (ih prefs₁)
      obtain ⟨protocols, hmap, hrun⟩ := h'
      refine ⟨⟨cString string, h⟩ :: protocols, by rw [List.map_cons, List.map_cons, hmap], ?_⟩
      have hwp : wp (appendProtocols malloc (⟨cString string, h⟩ :: protocols))
          (fun _ p => p = prefs') noError prefs := by
        rw [appendProtocols, wp_bind, wp_of_ok h₁, wp_of_ok hrun]
      obtain ⟨_, _, hall, rfl⟩ := exists_ok_of_wp hwp
      exact hall
    · exact trivial

end Making

section Reading

variable {t : Stuffer} {p : List UInt8} {ps : List (List UInt8)}
variable {fuel : ℕ}

lemma wp_protocolPreferencesRead {rest : List UInt8} (hp : ValidProtocol p) (hnull : t.blob.isNull = false)
    (hun : t.unread = beBytes 1 p.length ++ (p ++ rest)) :
    wp protocolPreferencesRead (fun b u => b.bytes = p ∧ u.unread = rest ∧ u.blob = t.blob)
      noError t := by
  unfold protocolPreferencesRead
  rw [wp_bind]
  refine wp_readUint_of_uint hnull (by rw [hun]; exact Parser.uint_append _ hp.2) fun u hu hblob => ?_
  refine wp_ensured hp.1 ?_
  have hbytes : Parser.bytes p.length u.unread = some (p, rest) := by
    rw [hu]
    exact Parser.bytes_append rest rfl
  rw [wp_bind]
  refine wp_rawRead_of_bytes (hblob ▸ hnull) hbytes fun off v hslice hv hblob' => ?_
  rw [wp_read]
  refine (wp_pure _).mpr ⟨?_, hv, hblob'.trans hblob⟩
  rw [Blob.bytes_sub (hblob' ▸ le_size_of_bytes hbytes), hblob']
  exact hslice

lemma dataAvailable_eq_zero_iff : t.dataAvailable = 0 ↔ t.unread = [] := unread_eq_nil.symm

lemma encodeProtocols_cons_ne_nil (p : List UInt8) (ps : List (List UInt8)) :
    encodeProtocols (p :: ps) ≠ [] := by
  rw [encodeProtocols_cons]
  simp [beBytes]

/-- A stuffer in which this list is left to read, in at most as many rounds. -/
structure LeftToRead (fuel : ℕ) (t : Stuffer) (ps : List (List UInt8)) : Prop where
  valid : ∀ q ∈ ps, ValidProtocol q
  isNull : t.blob.isNull = false
  unread : t.unread = encodeProtocols ps
  fuel : (encodeProtocols ps).length ≤ fuel

/-- The induction of a loop that reads one protocol a round: the next one is read, and the rest is left. -/
@[elab_as_elim]
lemma LeftToRead.induct {P : ℕ → Stuffer → List (List UInt8) → Prop} (stop : ∀ t, P 0 t [])
    (nil : ∀ fuel t, t.dataAvailable = 0 → P (fuel + 1) t [])
    (cons : ∀ fuel t q ps, t.dataAvailable ≠ 0 →
      wp protocolPreferencesRead (fun b u => b.bytes = q ∧ P fuel u ps) noError t →
      P (fuel + 1) t (q :: ps)) (h : LeftToRead fuel t ps) : P fuel t ps := by
  induction ps generalizing fuel t with
  | nil =>
    cases fuel with
    | zero => exact stop t
    | succ fuel => exact nil fuel t (dataAvailable_eq_zero_iff.mpr h.unread)
  | cons q ps ih =>
    have hne : t.dataAvailable ≠ 0 := fun hz =>
      encodeProtocols_cons_ne_nil q ps (h.unread.symm.trans (dataAvailable_eq_zero_iff.mp hz))
    have hfuel := h.fuel
    rw [encodeProtocols_cons, List.length_append, List.length_append, beBytes_length] at hfuel
    cases fuel with
    | zero => omega
    | succ fuel =>
      refine cons fuel t q ps hne (wp_mono_ok (fun b u hu => ⟨hu.1, ?_⟩)
        (wp_protocolPreferencesRead (h.valid q List.mem_cons_self) h.isNull
          (h.unread.trans (encodeProtocols_cons q ps))))
      have hvalid : ∀ q' ∈ ps, ValidProtocol q' := fun q' hq' => h.valid q' (List.mem_cons_of_mem _ hq')
      exact ih ⟨hvalid, hu.2.2 ▸ h.isNull, hu.2.1, by omega⟩

/-- **The loop of a search** finds a protocol if and only if the list contains it. -/
lemma wp_containLoop (protocol : Blob) (h : LeftToRead fuel t ps) :
    wp (containLoop protocol fuel) (fun b _ => b = decide (protocol.bytes ∈ ps)) noError t := by
  refine LeftToRead.induct (fun t => rfl) (fun fuel t hzero => ?_) (fun fuel t q ps hne hread => ?_) h
  · rw [containLoop, wp_read, if_pos hzero]
    exact rfl
  · rw [containLoop, wp_read, if_neg hne]
    refine wp_then hread fun b u hu => ?_
    rw [hu.1, wp_ite]
    refine ⟨fun heq => ?_, fun hneq => ?_⟩
    · rw [wp_pure]
      exact (decide_eq_true (List.mem_cons.mpr (.inl heq.symm))).symm
    · refine wp_mono_ok (fun b' _ hb' => ?_) hu.2
      rw [hb']
      refine decide_eq_decide.mpr ⟨List.mem_cons_of_mem _, fun hmem => ?_⟩
      exact (List.mem_cons.mp hmem).resolve_left fun h => hneq h.symm

/-- A block that holds the encoding of a list. -/
structure HoldsProtocols (b : Blob) (ps : List (List UInt8)) : Prop where
  valid : ∀ p ∈ ps, ValidProtocol p
  isNull : b.isNull = false
  bytes : b.bytes = encodeProtocols ps

lemma HoldsProtocols.size {b : Blob} (h : HoldsProtocols b ps) : b.size = (encodeProtocols ps).length := by
  rw [← h.bytes, Blob.bytes, slice_length]

lemma wp_protocolPreferencesContain {σ : Type} {c : σ} {prefs : Blob} (protocol : Blob)
    (h : HoldsProtocols prefs ps) :
    wp (protocolPreferencesContain prefs protocol)
      (fun b c' => b = decide (protocol.bytes ∈ ps) ∧ c' = c) noError c := by
  unfold protocolPreferencesContain
  rw [wp_bind, wp_onLocal]
  refine wp_mono_ok (fun b _ hb => ?_)
    (wp_containLoop protocol ⟨h.valid, h.isNull, h.bytes, le_of_eq h.size.symm⟩)
  exact (wp_pure _).mpr ⟨hb, rfl⟩

/-- The first protocol of the server's list that is on the client's. -/
def firstShared (server client : List (List UInt8)) : Option (List UInt8) :=
  server.find? fun p => decide (p ∈ client)

/-- **The loop of the selection** ends with the first protocol of the server that the client has. -/
lemma wp_selectLoop {σ : Type} {c : σ} {clientList : Blob} {client : List (List UInt8)}
    (hclient : HoldsProtocols clientList client) (h : LeftToRead fuel t ps) :
    wp (selectLoop clientList fuel t)
      (fun o c' => o.map Blob.bytes = firstShared ps client ∧ c' = c) noError c := by
  refine LeftToRead.induct (fun t => ⟨rfl, rfl⟩) (fun fuel t hzero => ?_) (fun fuel t q ps hne hread => ?_) h
  · rw [selectLoop, if_pos hzero]
    exact ⟨rfl, rfl⟩
  · rw [selectLoop, if_neg hne, wp_bind, wp_failWith, wp_onLocal]
    refine wp_mono_ok (fun b u hu => ?_) hread
    refine wp_then ((wp_failWith _ _).mpr (wp_protocolPreferencesContain b hclient))
      fun found c' hfound => ?_
    obtain ⟨rfl, rfl⟩ := hfound
    rw [hu.1, firstShared, List.find?_cons, wp_ite]
    refine ⟨fun hmem => ?_, fun hmem => ?_⟩
    · rw [hmem]
      exact (wp_pure _).mpr ⟨congrArg some hu.1, rfl⟩
    · rw [Bool.eq_false_iff.mpr hmem]
      exact hu.2

/-- **Round trip.** What is read of the encoding of a list is the list. -/
lemma wp_readProtocols (h : LeftToRead fuel t ps) :
    wp (readProtocols fuel) (fun qs _ => qs = ps) noError t := by
  refine LeftToRead.induct (fun t => rfl) (fun fuel t hzero => ?_) (fun fuel t q ps hne hread => ?_) h
  · rw [readProtocols, wp_read, if_pos hzero]
    exact rfl
  · rw [readProtocols, wp_read, if_neg hne]
    refine wp_then hread fun b u hu => ?_
    refine wp_then hu.2 fun qs _ hqs => ?_
    exact (wp_pure _).mpr (by rw [hu.1, hqs])

end Reading

end S2nTls
