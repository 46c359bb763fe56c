import Mathlib.Data.List.TakeWhile
import S2nTls.Tls.Parameters
import S2nTls.Tls.ProtocolPreferences

/-!
ALPN (`tls/extensions/s2n_client_alpn.c`, `s2n_server_alpn.c`).

The client sends its list. The server keeps the first protocol of its own that the client has, as a C
string, and sends that back. Both sides pass over a list of less than three bytes. So a shared protocol
of one byte, or one with a byte 0 in it, does not arrive; all others do.
-/

namespace S2nTls

open Lib Stuffer

/-! ### Connections -/

/-- `char application_protocol[256]`. It always holds a byte 0, so that `strlen` stays inside. -/
structure ApplicationProtocol where
  chars : List UInt8
  length_eq : chars.length = 256
  terminated : 0 ∈ chars

namespace ApplicationProtocol

def zero : ApplicationProtocol := ⟨List.replicate 256 0, List.length_replicate, by decide⟩

/-- Copy a string of at most 255 bytes and put a 0 after it. -/
def copy (a : ApplicationProtocol) (p : List UInt8) : ApplicationProtocol where
  chars := p.take 255 ++ 0 :: a.chars.drop ((p.take 255).length + 1)
  length_eq := by
    have hle := List.length_take_le 255 p
    rw [List.length_append, List.length_cons, List.length_drop, a.length_eq]
    omega
  terminated := List.mem_append_right _ List.mem_cons_self

/-- `strlen` and the bytes it counts. -/
def string (a : ApplicationProtocol) : List UInt8 := cString a.chars

end ApplicationProtocol

/-- The fields of a connection for ALPN. -/
structure AlpnConn where
  applicationProtocolsOverridden : ProtocolPreferences := ProtocolPreferences.empty
  configApplicationProtocols : ProtocolPreferences := ProtocolPreferences.empty
  applicationProtocol : ApplicationProtocol := ApplicationProtocol.zero
  version : ℕ
  bits : ExtensionBits
  /-- the bytes of the other extensions in the message with the extension -/
  otherExtensions : ℕ := 0
  /-- the bytes of that message before its extensions -/
  otherFields : ℕ := 0

namespace AlpnConn

def getProtocolPreferences (c : AlpnConn) : ProtocolPreferences :=
  if c.applicationProtocolsOverridden.bytes.length > 0 then c.applicationProtocolsOverridden
  else c.configApplicationProtocols

/-- `s2n_get_application_protocol`, `none` for `NULL`. -/
def getApplicationProtocol (c : AlpnConn) : Option (List UInt8) :=
  if c.applicationProtocol.string.length = 0 then none else some c.applicationProtocol.string

def setApplicationProtocol (c : AlpnConn) (p : List UInt8) : AlpnConn :=
  { c with applicationProtocol := c.applicationProtocol.copy p }

end AlpnConn

def alpnAccess : ExtensionAccess AlpnConn where
  version := AlpnConn.version
  bits := AlpnConn.bits
  setBits b c := { c with bits := b }

/-! ### The extension of the client -/

def clientAlpnShouldSend (c : AlpnConn) : Bool := c.getProtocolPreferences.bytes.length ≠ 0

def clientAlpnSend (c : AlpnConn) : List UInt8 :=
  beBytes 2 c.getProtocolPreferences.bytes.length ++ c.getProtocolPreferences.bytes

def selectServerPreferenceProtocol (serverList : Stuffer) (clientList : Blob) : EStateM Err AlpnConn Unit := do
  match ← selectLoop clientList serverList.dataAvailable serverList with
  | none => return
  | some protocol =>
    ensure (protocol.size < 256) .safety
    modify fun c => c.setApplicationProtocol protocol.bytes

/-- The part of `s2n_client_alpn_recv` after the length of the list. -/
def clientAlpnRecvList (supportedProtocols : ProtocolPreferences) (wireSize : ℕ) (extension : Stuffer) :
    EStateM Err AlpnConn Unit :=
  if wireSize > extension.dataAvailable ∨ wireSize < 3 then
    -- a malformed length is ignored
    return
  else do
    let (data, extension) ← onLocal (rawRead wireSize) extension
    match data with
    | none => throw .safety
    | some off =>
      selectServerPreferenceProtocol (Stuffer.initWritten supportedProtocols.blob)
        (extension.blob.sub off wireSize)

def clientAlpnRecv (extension : Stuffer) : EStateM Err AlpnConn Unit := do
  let supportedProtocols := (← get).getProtocolPreferences
  if supportedProtocols.bytes.length = 0 then return
  else
    let (wireSize, extension) ← onLocal (readUint 2) extension
    clientAlpnRecvList supportedProtocols wireSize extension

/-! ### The extension of the server -/

def serverAlpnShouldSend (c : AlpnConn) : Bool := c.applicationProtocol.string.length > 0

def alpnSend (c : AlpnConn) : List UInt8 :=
  let p := c.applicationProtocol.string
  beBytes 2 (p.length + 1) ++ (beBytes 1 p.length ++ p)

/-- The part of `s2n_alpn_recv` after the length of the list. -/
def alpnRecvProtocol (sizeOfAll : ℕ) (extension : Stuffer) : EStateM Err AlpnConn Unit :=
  if sizeOfAll > extension.dataAvailable ∨ sizeOfAll < 3 then
    -- an invalid size is ignored
    return
  else do
    let (protocolLen, extension) ← onLocal (readUint 1) extension
    let (protocol, extension) ← onLocal (rawRead protocolLen) extension
    match protocol with
    | none => throw .null
    | some off => modify fun c => c.setApplicationProtocol (slice extension.blob.data off protocolLen)

def alpnRecv (extension : Stuffer) : EStateM Err AlpnConn Unit := do
  let (sizeOfAll, extension) ← onLocal (readUint 2) extension
  alpnRecvProtocol sizeOfAll extension

/-! ### The exchange -/

def clientAlpnSender : ExtensionSender AlpnConn where
  ianaValue := Extension.alpn
  isResponse := false
  minimumVersion := 0
  shouldSend := clientAlpnShouldSend
  send := clientAlpnSend

def clientAlpnExtension : ExtensionType AlpnConn where
  ianaValue := Extension.alpn
  isResponse := false
  minimumVersion := 0
  recv := clientAlpnRecv
  ifMissing := extensionNoopIfMissing

def serverAlpnSender : ExtensionSender AlpnConn where
  ianaValue := Extension.alpn
  isResponse := true
  minimumVersion := 0
  shouldSend := serverAlpnShouldSend
  send := alpnSend

def serverAlpnExtension : ExtensionType AlpnConn where
  ianaValue := Extension.alpn
  isResponse := true
  minimumVersion := 0
  recv := alpnRecv
  ifMissing := extensionNoopIfMissing

structure AlpnEnds where
  client : AlpnConn
  server : AlpnConn

abbrev AlpnM : Type → Type := EStateM Err AlpnEnds

def onClient {α : Type} (m : EStateM Err AlpnConn α) : AlpnM α :=
  zoom AlpnEnds.client (fun c ends => { ends with client := c }) m

def onServer {α : Type} (m : EStateM Err AlpnConn α) : AlpnM α :=
  zoom AlpnEnds.server (fun c ends => { ends with server := c }) m

/-- The message with the extension: the size of all extensions is written in two bytes (`s2n_extension_list_send`), and
the other end does not take a longer message (`s2n_read_full_handshake_message`). -/
def helloSent {σ : Type} (c : AlpnConn) (extension : Option ShortBytes) :
    EStateM Err σ Unit := do
  let size := c.otherExtensions + extension.elim 0 fun body => 4 + body.1.length
  ensure (size < 2 ^ 16) .sizeMismatch
  ensure (c.otherFields + size ≤ maximumHandshakeMessageLength) .badMessage

def alpnAnswer : AlpnM Unit := do
  let extension ← onServer (extensionSend alpnAccess serverAlpnSender)
  helloSent (← get).server extension
  match extension with
  | none => onClient (extensionIsMissing alpnAccess serverAlpnExtension)
  | some body => onClient (extensionRecv alpnAccess serverAlpnExtension (arrived body))

def alpnRequest : AlpnM Unit := do
  let extension ← onClient (extensionSend alpnAccess clientAlpnSender)
  helloSent (← get).client extension
  match extension with
  | none => onServer (extensionIsMissing alpnAccess clientAlpnExtension)
  | some body => onServer (extensionRecv alpnAccess clientAlpnExtension (arrived body))

def alpnExchange : AlpnM Unit := do
  alpnRequest
  alpnAnswer

variable {client server : List (List UInt8)} {ends : AlpnEnds} {p : List UInt8}

/-! ### What each side keeps -/

section Handlers

variable {c : AlpnConn} {t : Stuffer}

lemma cString_append_zero (p q : List UInt8) : cString (p ++ 0 :: q) = cString p := by
  unfold cString
  induction p with
  | nil => rfl
  | cons b p ih => rw [List.cons_append, List.takeWhile_cons, List.takeWhile_cons, ih]

lemma cString_eq_self_iff : cString p = p ↔ 0 ∉ p := by
  unfold cString
  rw [List.takeWhile_eq_self_iff]
  constructor
  · intro h hmem
    simpa using h 0 hmem
  · intro h b hb
    exact decide_eq_true fun hzero => h (hzero ▸ hb)

lemma length_cString_le (p : List UInt8) : (cString p).length ≤ p.length :=
  (List.takeWhile_prefix _).length_le

variable (a : ApplicationProtocol)

lemma string_copy (h : p.length < 256) : (a.copy p).string = cString p := by
  have htake : p.take 255 = p := List.take_of_length_le (by omega)
  show cString (p.take 255 ++ 0 :: _) = cString p
  rw [cString_append_zero, htake]

lemma string_zero : ApplicationProtocol.zero.string = [] := by decide

lemma length_string_lt : a.string.length < 256 := by
  have hle : a.string.length ≤ 256 := a.length_eq ▸ length_cString_le a.chars
  refine lt_of_le_of_ne hle fun heq => ?_
  have hself : cString a.chars = a.chars :=
    (List.takeWhile_prefix _).eq_of_length (heq.trans a.length_eq.symm)
  exact cString_eq_self_iff.mp hself a.terminated

lemma HoldsProtocols.of_configured {prefs : ProtocolPreferences} (h : Configured server prefs) :
    HoldsProtocols prefs.blob server := by
  obtain ⟨hvalid, hbytes⟩ := h.spec
  refine ⟨hvalid, rfl, ?_⟩
  rw [← hbytes]
  exact Blob.bytes_ofList _ _

/-- **What `s2n_protocol_preferences_set` keeps** is read as the strings that it was given. If it fails, the old list
stays; only if it cannot be freed, all its bytes are 0. -/
theorem protocolPreferencesSet_reads_back (malloc : Allocator) (released : Bool) (strings : List (List UInt8))
    (prefs : ProtocolPreferences) :
    wp (protocolPreferencesSet malloc released strings)
      (fun _ prefs' => wp (readProtocols prefs'.bytes.length) (fun ps _ => ps = strings.map cString) noError
        (Stuffer.initWritten prefs'.blob))
      (fun _ prefs' => prefs' = prefs ∨ released = false ∧ prefs'.bytes = List.replicate prefs.bytes.length 0)
      prefs := by
  have hread : ∀ prefs', Configured (strings.map cString) prefs' →
      wp (readProtocols prefs'.bytes.length) (fun ps _ => ps = strings.map cString) noError
        (Stuffer.initWritten prefs'.blob) := by
    intro prefs' h
    have hholds := HoldsProtocols.of_configured h
    exact wp_readProtocols ⟨hholds.valid, rfl, hholds.bytes, le_of_eq hholds.size.symm⟩
  unfold protocolPreferencesSet
  rw [wp_ite]
  refine ⟨fun hnil => ?_, fun _ => ?_⟩
  · subst hnil
    refine wp_mono (fun _ prefs' h => ?_) (fun _ _ h => .inr h) (wp_protocolPreferencesFree released prefs)
    exact h ▸ hread _ ⟨malloc, [], rfl, rfl⟩
  · refine wp_guard (.inl rfl) fun _ => wp_guard (.inl rfl) fun _ => ?_
    refine wp_seq_execLocal_of (wp_appendStrings strings _) (fun prefs₁ h₁ => ?_) fun _ _ => .inl rfl
    obtain ⟨protocols, hmap, hrun⟩ := h₁
    refine wp_seq (wp_protocolPreferencesFree released prefs) (fun _ _ _ => ?_) fun _ _ h => .inr h
    exact (wp_set _).mpr (hread _ ⟨malloc, protocols, hmap, hrun⟩)

/-- The connection after a protocol was selected or not. -/
def AlpnConn.select (c : AlpnConn) : Option (List UInt8) → AlpnConn
  | none => c
  | some p => c.setApplicationProtocol p

lemma wp_selectServerPreferenceProtocol {serverList clientList : Blob}
    (hserver : HoldsProtocols serverList server) (hclient : HoldsProtocols clientList client) :
    wp (selectServerPreferenceProtocol (Stuffer.initWritten serverList) clientList)
      (fun _ c' => c' = c.select (firstShared server client)) noError c := by
  unfold selectServerPreferenceProtocol
  have hfuel : (encodeProtocols server).length ≤ (Stuffer.initWritten serverList).dataAvailable :=
    le_of_eq hserver.size.symm
  refine wp_then (wp_selectLoop hclient ⟨hserver.valid, hserver.isNull, hserver.bytes, hfuel⟩)
    fun o c' ho => ?_
  obtain ⟨ho, rfl⟩ := ho
  cases o with
  | none =>
    rw [← ho]
    exact rfl
  | some b =>
    have hshared : firstShared server client = some b.bytes := ho.symm
    rw [hshared]
    refine wp_seq_ensure (fun _ => (wp_modify _).mpr rfl) fun hsize => hsize ?_
    have hvalid := hserver.valid _ (List.mem_of_find?_eq_some hshared)
    have hlt := hvalid.2
    rwa [Blob.bytes, slice_length] at hlt

/-- **The server** takes the first protocol that is shared, if the list is not too short. -/
lemma wp_clientAlpnRecv (hserver : Configured server c.getProtocolPreferences)
    (hvalid : ∀ p ∈ client, ValidProtocol p) (hlen : (encodeProtocols client).length < 2 ^ 16)
    (hnull : t.blob.isNull = false)
    (hun : t.unread = beBytes 2 (encodeProtocols client).length ++ encodeProtocols client) :
    wp (clientAlpnRecv t)
      (fun _ c' => c' = c.select (if (encodeProtocols client).length < 3 then none
        else firstShared server client))
      noError c := by
  have hprefs := HoldsProtocols.of_configured hserver
  unfold clientAlpnRecv
  rw [wp_read, wp_ite]
  refine ⟨fun hempty => ?_, fun _ => ?_⟩
  · -- a server without protocols shares none
    have hnil : server = [] := by
      cases server with
      | nil => rfl
      | cons p ps =>
        exact absurd (hserver.spec.2.symm.trans (List.length_eq_zero_iff.mp hempty))
          (encodeProtocols_cons_ne_nil p ps)
    subst hnil
    rw [show firstShared [] client = none from rfl, ite_self]
    exact rfl
  · rw [wp_bind, wp_onLocal]
    refine wp_readUint_of_uint hnull (by rw [hun]; exact Parser.uint_append _ hlen) fun u hu hblob => ?_
    have havail : u.dataAvailable = (encodeProtocols client).length := by rw [← unread_length, hu]
    show wp (clientAlpnRecvList c.getProtocolPreferences (encodeProtocols client).length u) _ _ c
    unfold clientAlpnRecvList
    rw [havail, wp_ite]
    refine ⟨fun hshort => ?_, fun hlong => ?_⟩
    · rw [if_pos (by omega)]
      exact rfl
    · rw [if_neg (by omega), wp_bind, wp_onLocal]
      have hbytes : Parser.bytes (encodeProtocols client).length u.unread =
          some (encodeProtocols client, []) := by
        refine Parser.bytes_eq_some.mpr ⟨?_, rfl⟩
        rw [hu, List.append_nil]
      refine wp_rawRead_of_bytes (hblob ▸ hnull) hbytes fun off v hslice _ hblob' => ?_
      have hclient : HoldsProtocols (v.blob.sub off (encodeProtocols client).length) client := by
        refine ⟨hvalid, rfl, ?_⟩
        rw [hblob', Blob.bytes_sub (le_size_of_bytes hbytes)]
        exact hslice
      exact wp_selectServerPreferenceProtocol hprefs hclient

/-- **The client** keeps the answer, if it is not too short. -/
lemma wp_alpnRecv (hp : p.length < 256) (hnull : t.blob.isNull = false)
    (hun : t.unread = beBytes 2 (p.length + 1) ++ (beBytes 1 p.length ++ p)) :
    wp (alpnRecv t) (fun _ c' => c' = c.select (if p.length < 2 then none else some p))
      noError c := by
  unfold alpnRecv
  rw [wp_bind, wp_onLocal]
  refine wp_readUint_of_uint hnull (by rw [hun]; exact Parser.uint_append _ (by omega)) fun u hu hblob => ?_
  have havail : u.dataAvailable = p.length + 1 := by
    rw [← unread_length, hu, List.length_append, beBytes_length, Nat.add_comm]
  show wp (alpnRecvProtocol (p.length + 1) u) _ _ c
  unfold alpnRecvProtocol
  rw [havail, wp_ite]
  refine ⟨fun hshort => ?_, fun hlong => ?_⟩
  · rw [if_pos (by omega)]
    exact rfl
  · rw [if_neg (by omega), wp_bind, wp_onLocal]
    have hnull_u : u.blob.isNull = false := hblob ▸ hnull
    refine wp_readUint_of_uint hnull_u (by rw [hu]; exact Parser.uint_append _ hp) fun v hv hblob' => ?_
    have hbytes : Parser.bytes p.length v.unread = some (p, []) := by
      refine Parser.bytes_eq_some.mpr ⟨?_, rfl⟩
      rw [hv, List.append_nil]
    rw [wp_bind, wp_onLocal]
    refine wp_rawRead_of_bytes (hblob' ▸ hnull_u) hbytes fun off w hslice _ hblob'' => ?_
    have hslice : slice w.blob.data off p.length = p := hblob'' ▸ hslice
    show wp (modify fun c => c.setApplicationProtocol (slice w.blob.data off p.length)) _ _ c
    rw [hslice]
    exact (wp_modify _).mpr rfl

end Handlers

/-! ### Both ends -/

/-- Two new connections with their lists of protocols. -/
structure AlpnStart (client server : List (List UInt8)) (ends : AlpnEnds) : Prop where
  client : Configured client ends.client.getProtocolPreferences
  server : Configured server ends.server.getProtocolPreferences
  client_unset : ends.client.applicationProtocol = ApplicationProtocol.zero
  server_unset : ends.server.applicationProtocol = ApplicationProtocol.zero

/-- The string that the server keeps. -/
def serverString (client server : List (List UInt8)) : List UInt8 :=
  if (encodeProtocols client).length < 3 then []
  else cString ((firstShared server client).getD [])

lemma cString_cString (p : List UInt8) : cString (cString p) = cString p := List.takeWhile_idem

lemma cString_serverString (client server : List (List UInt8)) :
    cString (serverString client server) = serverString client server := by
  unfold serverString
  split
  · rfl
  · exact cString_cString _

/-- There is room for `n` bytes in the message with the extension. -/
def AlpnConn.Fits (c : AlpnConn) (n : ℕ) : Prop :=
  c.otherExtensions + n < 2 ^ 16 ∧ c.otherFields + (c.otherExtensions + n) ≤ maximumHandshakeMessageLength

instance (c : AlpnConn) (n : ℕ) : Decidable (c.Fits n) := inferInstanceAs (Decidable (_ ∧ _))

lemma AlpnConn.Fits.of_le {c : AlpnConn} {m n : ℕ} (h : c.Fits n) (hle : m ≤ n) : c.Fits m := by
  obtain ⟨h₁, h₂⟩ := h
  exact ⟨by omega, by omega⟩

lemma wp_helloSent {σ : Type} {s : σ} {c : AlpnConn} {n : ℕ}
    (extension : Option ShortBytes)
    (hn : (extension.elim 0 fun body => 4 + body.1.length) = n) :
    wp (helloSent c extension) (fun _ s' => s' = s ∧ c.Fits n) (fun _ _ => ¬ c.Fits n) s := by
  subst hn
  unfold helloSent
  refine wp_seq_ensure (fun hsize => ?_) fun hlong hfits => hlong hfits.1
  rw [wp_ensure]
  exact ⟨fun hlen => ⟨rfl, hsize, hlen⟩, fun hlong hfits => hlong hfits.2⟩

/-- What the ends know after the request. -/
structure AfterRequest (client server : List (List UInt8)) (start ends : AlpnEnds) : Prop where
  client_unset : ends.client.applicationProtocol = ApplicationProtocol.zero
  string : ends.server.applicationProtocol.string = serverString client server
  sent : client ≠ [] → ends.client.bits.requestsSent Extension.alpn = true
  received : client ≠ [] → ends.server.bits.requestsReceived Extension.alpn = true
  sent_fits : client ≠ [] → start.client.Fits (6 + (encodeProtocols client).length)
  server_fits : ends.server.Fits = start.server.Fits

lemma encodeProtocols_eq_nil : encodeProtocols client = [] ↔ client = [] := by
  constructor
  · intro h
    cases client with
    | nil => rfl
    | cons p ps => exact absurd h (encodeProtocols_cons_ne_nil p ps)
  · rintro rfl
    rfl

lemma string_select (c : AlpnConn) (hunset : c.applicationProtocol = ApplicationProtocol.zero)
    {o : Option (List UInt8)} (ho : ∀ p, o = some p → p.length < 256) :
    (c.select o).applicationProtocol.string = cString (o.getD []) := by
  cases o with
  | none =>
    show c.applicationProtocol.string = _
    rw [hunset, string_zero]
    rfl
  | some p => exact string_copy _ (ho p rfl)

lemma firstShared_length (hvalid : ∀ p ∈ server, ValidProtocol p) {p : List UInt8}
    (h : firstShared server client = some p) : p.length < 256 :=
  (hvalid p (List.mem_of_find?_eq_some h)).2

lemma AlpnConn.fits_select (c : AlpnConn) (o : Option (List UInt8)) : (c.select o).Fits = c.Fits := by
  cases o <;> rfl

lemma wp_alpnRequest (h : AlpnStart client server ends) :
    wp alpnRequest (fun _ ends' => AfterRequest client server ends ends')
      (fun _ _ => ¬ ends.client.Fits (6 + (encodeProtocols client).length)) ends := by
  obtain ⟨hvalid, hbytes⟩ := h.client.spec
  unfold alpnRequest onClient onServer
  rw [wp_bind, wp_zoom]
  cases hshould : clientAlpnShouldSend ends.client with
  | false =>
    have hnil : client = [] := by
      refine encodeProtocols_eq_nil.mp (List.length_eq_zero_iff.mp ?_)
      rw [← hbytes]
      simpa [clientAlpnShouldSend] using hshould
    refine wp_extensionSend_none hshould ?_
    rw [wp_read]
    refine wp_seq (wp_helloSent none rfl) (fun _ ends' hsent => ?_) fun _ _ hno hfits =>
      hno (hfits.of_le (Nat.zero_le _))
    obtain ⟨rfl, -⟩ := hsent
    rw [wp_zoom]
    refine wp_extensionIsMissing_noop rfl ⟨h.client_unset, ?_, fun hne => absurd hnil hne,
      fun hne => absurd hnil hne, fun hne => absurd hnil hne, rfl⟩
    show ends.server.applicationProtocol.string = _
    rw [h.server_unset, string_zero, hnil]
    rfl
  | true =>
    have hbody : clientAlpnSend ends.client =
        beBytes 2 (encodeProtocols client).length ++ encodeProtocols client := by
      rw [clientAlpnSend, hbytes]
    have hlen : (clientAlpnSend ends.client).length = 2 + (encodeProtocols client).length := by
      rw [hbody, List.length_append, beBytes_length]
    refine wp_extensionSend_some (fun h => Bool.noConfusion h) (Nat.zero_le _) hshould (fun hlt => ?_)
      fun hlong hfits => ?_
    swap
    · have hle : 2 ^ 16 ≤ (clientAlpnSend ends.client).length := hlong
      have hroom := hfits.1
      omega
    rw [wp_read]
    have hsize : 4 + (clientAlpnSend ends.client).length = 6 + (encodeProtocols client).length := by
      rw [hlen, ← Nat.add_assoc]
    refine wp_seq (wp_helloSent (some ⟨_, hlt⟩) hsize) (fun _ ends' hsent => ?_) fun _ _ hno => hno
    obtain ⟨rfl, hfits⟩ := hsent
    rw [wp_zoom]
    refine wp_extensionRecv (fun h => Bool.noConfusion h) (Nat.zero_le _) ?_
    refine wp_mono (fun _ c' hc' => ?_) (fun _ _ hf => hf.elim)
      (wp_clientAlpnRecv h.server hvalid (by have := hfits.1; omega) rfl ((unread_arrived _).trans hbody))
    subst hc'
    generalize hsel : (if (encodeProtocols client).length < 3 then none else firstShared server client) = o
    refine ⟨h.client_unset, ?_, fun _ => ?_, fun _ => ?_, fun _ => hfits, ends.server.fits_select o⟩
    · show (ends.server.select o).applicationProtocol.string = _
      subst hsel
      rw [string_select ends.server h.server_unset]
      · unfold serverString
        split
        · rfl
        · rfl
      · intro p hp
        split at hp
        · cases hp
        · exact firstShared_length h.server.spec.1 hp
    · show Function.update ends.client.bits.requestsSent Extension.alpn true Extension.alpn = true
      exact Function.update_self _ _ _
    · show Function.update (ends.server.select o).bits.requestsReceived Extension.alpn true Extension.alpn = true
      exact Function.update_self _ _ _

/-- What both ends have after the exchange. -/
abbrev Exchanged (client server : List (List UInt8)) (ends : AlpnEnds) : Prop :=
  ends.server.applicationProtocol.string = serverString client server ∧ ends.client.applicationProtocol.string =
    if (serverString client server).length < 2 then [] else serverString client server

variable {start : AlpnEnds}

lemma wp_alpnAnswer (h : AfterRequest client server start ends) :
    wp alpnAnswer (fun _ ends' => Exchanged client server ends' ∧
        (serverString client server ≠ [] → start.server.Fits (7 + (serverString client server).length)))
      (fun _ _ => ¬ start.server.Fits (7 + (serverString client server).length)) ends := by
  rw [← h.server_fits]
  unfold alpnAnswer onClient onServer
  rw [wp_bind, wp_zoom]
  cases hshould : serverAlpnShouldSend ends.server with
  | false =>
    have hnil : serverString client server = [] := by
      rw [← h.string]
      simpa [serverAlpnShouldSend] using hshould
    refine wp_extensionSend_none hshould ?_
    rw [wp_read]
    refine wp_seq (wp_helloSent none rfl) (fun _ ends' hsent => ?_) fun _ _ hno hfits =>
      hno (hfits.of_le (Nat.zero_le _))
    obtain ⟨rfl, -⟩ := hsent
    rw [wp_zoom]
    refine wp_extensionIsMissing_noop rfl ⟨⟨h.string, ?_⟩, fun hne => absurd hnil hne⟩
    show ends.client.applicationProtocol.string = _
    rw [h.client_unset, string_zero, hnil]
    rfl
  | true =>
    have hne : client ≠ [] := by
      rintro rfl
      have hpos : 0 < ends.server.applicationProtocol.string.length := of_decide_eq_true hshould
      rw [h.string] at hpos
      exact Nat.lt_irrefl 0 hpos
    have hlt : (serverString client server).length < 256 := h.string ▸ length_string_lt _
    have hbody : alpnSend ends.server = beBytes 2 ((serverString client server).length + 1) ++
        (beBytes 1 (serverString client server).length ++ serverString client server) := by
      rw [← h.string]
      rfl
    have hlen : (alpnSend ends.server).length = 3 + (serverString client server).length := by
      rw [hbody, List.length_append, List.length_append, beBytes_length, beBytes_length, ← Nat.add_assoc]
    refine wp_extensionSend_some (fun _ => h.received hne) (Nat.zero_le _) hshould (fun hshort => ?_) fun hlong => ?_
    swap
    · have hle : 2 ^ 16 ≤ (alpnSend ends.server).length := hlong
      omega
    rw [wp_read]
    have hsize : 4 + (alpnSend ends.server).length = 7 + (serverString client server).length := by
      rw [hlen, ← Nat.add_assoc]
    refine wp_seq (wp_helloSent (some ⟨_, hshort⟩) hsize) (fun _ ends' hsent => ?_) fun _ _ hno => hno
    obtain ⟨rfl, hfits⟩ := hsent
    rw [wp_zoom]
    refine wp_extensionRecv (fun _ => h.sent hne) (Nat.zero_le _) ?_
    refine wp_mono (fun _ c' hc' => ?_) (fun _ _ hf => hf.elim)
      (wp_alpnRecv hlt rfl ((unread_arrived _).trans hbody))
    subst hc'
    refine ⟨⟨h.string, ?_⟩, fun _ => hfits⟩
    show (AlpnConn.select ends.client _).applicationProtocol.string = _
    rw [string_select ends.client h.client_unset]
    · split
      · rfl
      · exact cString_serverString client server
    · intro p hp
      split at hp
      · cases hp
      · exact Option.some.inj hp ▸ hlt

lemma wp_alpnExchange (h : AlpnStart client server ends) :
    wp alpnExchange (fun _ ends' => Exchanged client server ends' ∧
        (client ≠ [] → ends.client.Fits (6 + (encodeProtocols client).length)) ∧
        (serverString client server ≠ [] → ends.server.Fits (7 + (serverString client server).length)))
      (fun _ _ => ¬ (ends.client.Fits (6 + (encodeProtocols client).length) ∧
        ends.server.Fits (7 + (serverString client server).length))) ends := by
  refine wp_seq (wp_alpnRequest h) (fun _ ends₁ h₁ => ?_) fun _ _ hno hfits => hno hfits.1
  exact wp_mono (fun _ _ h₂ => ⟨h₂.1, h₁.sent_fits, h₂.2⟩) (fun _ _ hno hfits => hno hfits.2) (wp_alpnAnswer h₁)

/-! ### Agreement -/

/-- **ALPN agreement.** With a shared protocol both ends finish with the first of the server's list;
without one it is unset on both, unless the handshake fails. What the server reads of the encoded list
is the list of the client. -/
structure AlpnAgrees (client server : List (List UInt8)) (ends : AlpnEnds) : Prop where
  shared : ∀ p, firstShared server client = some p → ∃ ends', alpnExchange.run ends = .ok () ends' ∧
    ends'.client.getApplicationProtocol = some p ∧ ends'.server.getApplicationProtocol = some p
  unshared : firstShared server client = none → ∀ ends', alpnExchange.run ends = .ok () ends' →
    ends'.client.getApplicationProtocol = none ∧ ends'.server.getApplicationProtocol = none
  parsed : ∃ t, (readProtocols ends.client.getProtocolPreferences.bytes.length).run
    (Stuffer.initWritten ends.client.getProtocolPreferences.blob) = .ok client t

lemma getApplicationProtocol_eq_some {c : AlpnConn} :
    c.getApplicationProtocol = some p ↔ c.applicationProtocol.string = p ∧ p ≠ [] := by
  unfold AlpnConn.getApplicationProtocol
  constructor
  · intro h
    split at h
    · cases h
    · rename_i hne
      obtain rfl := Option.some.inj h
      exact ⟨rfl, fun hnil => hne (List.length_eq_zero_iff.mpr hnil)⟩
  · rintro ⟨rfl, hne⟩
    exact if_neg fun h => hne (List.length_eq_zero_iff.mp h)

lemma getApplicationProtocol_eq_none {c : AlpnConn} :
    c.getApplicationProtocol = none ↔ c.applicationProtocol.string = [] := by
  unfold AlpnConn.getApplicationProtocol
  constructor
  · intro h
    split at h
    · rename_i hnil
      exact List.length_eq_zero_iff.mp hnil
    · cases h
  · intro h
    exact if_pos (List.length_eq_zero_iff.mpr h)

lemma three_le_length_of_shared (h : firstShared server client = some p) (hp : 2 ≤ p.length) :
    ¬ (encodeProtocols client).length < 3 := by
  have hmem : p ∈ client := of_decide_eq_true (List.find?_some (p := fun q => decide (q ∈ client)) h)
  have hsub : (beBytes 1 p.length ++ p).Sublist (encodeProtocols client) := by
    rw [encodeProtocols, List.flatMap_def]
    exact List.sublist_flatten_of_mem (List.mem_map.mpr ⟨p, hmem, rfl⟩)
  have hle := hsub.length_le
  rw [List.length_append, beBytes_length] at hle
  omega

lemma serverString_eq (h : firstShared server client = some p) (hp : 2 ≤ p.length) :
    serverString client server = cString p := by
  unfold serverString
  rw [if_neg (three_le_length_of_shared h hp), h]
  rfl

lemma AlpnAgrees.first_shared (hagree : AlpnAgrees client server ends) (hstart : AlpnStart client server ends)
    (hp : firstShared server client = some p) :
    2 ≤ p.length ∧ 0 ∉ p ∧ ends.client.Fits (6 + (encodeProtocols client).length) ∧
      ends.server.Fits (7 + p.length) := by
  have hmem : p ∈ client := of_decide_eq_true (List.find?_some (p := fun q => decide (q ∈ client)) hp)
  obtain ⟨ends', hrun, hclient, hserver⟩ := hagree.shared p hp
  obtain ⟨⟨hserver', hclient'⟩, hsent, hanswered⟩ := (wp_iff_run.mp (wp_alpnExchange hstart)).1 _ _ hrun
  obtain ⟨hclient, hne⟩ := getApplicationProtocol_eq_some.mp hclient
  obtain ⟨hserver, -⟩ := getApplicationProtocol_eq_some.mp hserver
  rw [hserver] at hserver'
  rw [hclient, ← hserver'] at hclient'
  -- the client has kept the answer, so the answer was long enough
  have hlen : 2 ≤ p.length := by
    by_contra hshort
    rw [if_pos (Nat.lt_of_not_le hshort)] at hclient'
    exact hne hclient'
  refine ⟨hlen, cString_eq_self_iff.mp ?_, hsent (List.ne_nil_of_mem hmem), ?_⟩
  · rw [← serverString_eq hp hlen]
    exact hserver'.symm
  · rw [← hserver'] at hanswered
    exact hanswered hne

lemma run_readProtocols (hstart : AlpnStart client server ends) :
    ∃ t, (readProtocols ends.client.getProtocolPreferences.bytes.length).run
      (Stuffer.initWritten ends.client.getProtocolPreferences.blob) = .ok client t := by
  have hholds := HoldsProtocols.of_configured hstart.client
  have hread : wp (readProtocols ends.client.getProtocolPreferences.bytes.length)
      (fun qs _ => qs = client) noError
      (Stuffer.initWritten ends.client.getProtocolPreferences.blob) :=
    wp_readProtocols ⟨hholds.valid, rfl, hholds.bytes, le_of_eq hholds.size.symm⟩
  obtain ⟨_, t, hrun, rfl⟩ := exists_ok_of_wp hread
  exact ⟨t, hrun⟩

/-- **When the two ends agree**: if and only if the first shared protocol, if there is one, has at least
two bytes, none of which is 0, and the messages have room for the list of the client and for the answer. -/
theorem alpn_agrees_iff (client server : List (List UInt8)) (ends : AlpnEnds)
    (hstart : AlpnStart client server ends) :
    AlpnAgrees client server ends ↔ ∀ p, firstShared server client = some p →
      2 ≤ p.length ∧ 0 ∉ p ∧ ends.client.Fits (6 + (encodeProtocols client).length) ∧
        ends.server.Fits (7 + p.length) := by
  refine ⟨fun hagree p hp => hagree.first_shared hstart hp, fun hgood => ⟨fun p hp => ?_, ?_,
    run_readProtocols hstart⟩⟩
  · obtain ⟨hlen, hzero, hsent, hanswered⟩ := hgood p hp
    have hstring : serverString client server = p :=
      (serverString_eq hp hlen).trans (cString_eq_self_iff.mpr hzero)
    obtain ⟨_, ends', hrun, ⟨hserver, hclient⟩, -⟩ := exists_ok_of_wp
      (wp_mono (fun _ _ h => h) (fun _ _ hno => hno ⟨hsent, hstring.symm ▸ hanswered⟩) (wp_alpnExchange hstart))
    rw [hstring] at hserver hclient
    rw [if_neg (Nat.not_lt.mpr hlen)] at hclient
    have hne : p ≠ [] := by
      rintro rfl
      exact absurd hlen (by decide)
    exact ⟨ends', hrun, getApplicationProtocol_eq_some.mpr ⟨hclient, hne⟩,
      getApplicationProtocol_eq_some.mpr ⟨hserver, hne⟩⟩
  · intro hnone ends' hrun
    obtain ⟨⟨hserver, hclient⟩, -⟩ := (wp_iff_run.mp (wp_alpnExchange hstart)).1 _ _ hrun
    have hstring : serverString client server = [] := by
      unfold serverString
      rw [hnone]
      exact ite_self _
    rw [hstring] at hserver hclient
    exact ⟨getApplicationProtocol_eq_none.mpr hclient, getApplicationProtocol_eq_none.mpr hserver⟩

/-- A new connection with a list of protocols. -/
def alpnConn (prefs : ProtocolPreferences) : AlpnConn where
  configApplicationProtocols := prefs
  version := tls13
  bits := ⟨fun _ => false, fun _ => false, fun _ => false⟩

/-- Both ends have only the protocol `p`. -/
def oneProtocol (prefs : ProtocolPreferences) : AlpnEnds := ⟨alpnConn prefs, alpnConn prefs⟩

/-- A single protocol, the `h2` of HTTP. -/
lemma alpnStart_h2 : AlpnStart [[104, 50]] [[104, 50]] (oneProtocol ⟨[2, 104, 50], by decide⟩) := by
  have hconfigured : Configured [[104, 50]] ⟨[2, 104, 50], by decide⟩ :=
    ⟨.ample, [⟨[104, 50], by decide⟩], rfl, rfl⟩
  exact ⟨hconfigured, hconfigured, rfl, rfl⟩

theorem alpn_agrees_h2 :
    AlpnStart [[104, 50]] [[104, 50]] (oneProtocol ⟨[2, 104, 50], by decide⟩) ∧
    AlpnAgrees [[104, 50]] [[104, 50]] (oneProtocol ⟨[2, 104, 50], by decide⟩) := by
  refine ⟨alpnStart_h2, (alpn_agrees_iff _ _ _ alpnStart_h2).mpr fun p hp => ?_⟩
  obtain rfl : [104, 50] = p := Option.some.inj hp
  decide

/-- **A shared protocol of one byte is lost**: each list is `a` alone, which the server passes over. -/
theorem one_byte_protocol_lost :
    ∃ ends, AlpnStart [[97]] [[97]] ends ∧ ¬ AlpnAgrees [[97]] [[97]] ends := by
  have hconfigured : Configured [[97]] ⟨[1, 97], by decide⟩ :=
    ⟨.ample, [⟨[97], by decide⟩], rfl, rfl⟩
  have hstart : AlpnStart [[97]] [[97]] (oneProtocol ⟨[1, 97], by decide⟩) :=
    ⟨hconfigured, hconfigured, rfl, rfl⟩
  exact ⟨_, hstart, fun hagree => absurd (hagree.first_shared hstart rfl).1 (by decide)⟩

end S2nTls
