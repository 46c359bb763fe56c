import S2nTls.Lib.Bisect
import S2nTls.Tls.Alpn
import S2nTls.Tls.Finished
import S2nTls.Tls.HandshakeType
import S2nTls.Tls.Psk

/-!
The state of a TLS1.3 session (`tls/s2n_resume.c`).

A connection writes its state to a stuffer, which becomes a part of a ticket or of what the application keeps. A
later connection makes a PSK of it. Writer and reader meet at `SessionState`: the writer appends the encoding of one,
and the reader of the encoding of any of them makes the PSK that it describes, or refuses it for a reason that can
be read off it.
-/

namespace S2nTls

open Lib Stuffer

/-! ### Cipher suites by number -/

/-- The two bytes of a suite as a number; `memcmp` orders suites by it. -/
def HelloSuite.number (s : HelloSuite) : ℕ := beNat s.ianaValue

/-- `s2n_all_cipher_suites`, in the order of their numbers. -/
structure CipherSuites where
  all : List HelloSuite
  sorted : all.Pairwise fun s t => s.number < t.number

/-- How the suite at a place compares with the one that is looked for. -/
def CipherSuites.compareAt (suites : CipherSuites) (iana : List UInt8) (i : ℕ) : Ordering :=
  match suites.all[i]? with
  | none => .gt
  | some s => compare s.number (beNat iana)

def CipherSuites.cipherSuiteFromIana (suites : CipherSuites) (iana : List UInt8) : Except Err HelloSuite :=
  match bisect (suites.compareAt iana) suites.all.length 0 suites.all.length with
  | none => .error .cipherNotSupported
  | some i =>
    match suites.all[i]? with
    | none => .error .cipherNotSupported
    | some s => .ok s

/-! ### PSKs -/

structure EarlyDataConfig where
  maxEarlyDataSize : UInt32 := 0
  protocolVersion : ℕ := 0
  cipherSuite : Option HelloSuite := none
  applicationProtocol : List UInt8 := []
  context : List UInt8 := []

structure SessionPsk where
  type : PskType
  identity : List UInt8 := []
  secret : List UInt8 := []
  earlySecret : List UInt8 := []
  hmacAlg : HmacAlg := .sha256
  ticketAgeAdd : UInt32 := 0
  ticketIssueTime : UInt64 := 0
  keyingMaterialExpiration : UInt64 := 0
  earlyDataConfig : EarlyDataConfig := {}

/-- A copy of the bytes in a new block, which `s2n_realloc` gets from the allocator unless there are none. -/
def Allocator.copy (malloc : Allocator) (bs : List UInt8) : Except Err (List UInt8) :=
  if bs.length = 0 ∨ malloc bs.length = true then .ok bs else .error .alloc

namespace SessionPsk

/-- `s2n_psk_set_identity`; its size is a `uint16_t`. -/
def setIdentity (malloc : Allocator) (psk : SessionPsk) (identity : Blob) : Except Err SessionPsk := do
  if identity.isNull = true then .error .null
  else if identity.size % 2 ^ 16 = 0 then .error .invalidArgument
  else return { psk with identity := ← malloc.copy (slice identity.data 0 (identity.size % 2 ^ 16)) }

def setSecret (malloc : Allocator) (psk : SessionPsk) (secret : List UInt8) : Except Err SessionPsk := do
  if secret.length = 0 then .error .invalidArgument
  else if secret.all (· = 0) = true then .error .invalidArgument
  else return { psk with secret := ← malloc.copy secret }

def configureEarlyData (suites : CipherSuites) (psk : SessionPsk) (maxEarlyDataSize : UInt32) (iana : List UInt8) :
    Except Err SessionPsk := do
  let cipherSuite ← suites.cipherSuiteFromIana iana
  if cipherSuite.prfAlg = psk.hmacAlg then
    return { psk with
      earlyDataConfig := { psk.earlyDataConfig with
        maxEarlyDataSize := maxEarlyDataSize
        protocolVersion := tls13
        cipherSuite := some cipherSuite } }
  else .error .invalidArgument

def setApplicationProtocol (malloc : Allocator) (psk : SessionPsk) (applicationProtocol : List UInt8) :
    Except Err SessionPsk := do
  let applicationProtocol ← malloc.copy applicationProtocol
  return { psk with earlyDataConfig := { psk.earlyDataConfig with applicationProtocol := applicationProtocol } }

def setEarlyDataContext (malloc : Allocator) (psk : SessionPsk) (context : List UInt8) : Except Err SessionPsk := do
  let context ← malloc.copy context
  return { psk with earlyDataConfig := { psk.earlyDataConfig with context := context } }

/-- `s2n_psk_clone`: all blocks are copied. -/
def clone (malloc : Allocator) (psk : SessionPsk) : Except Err SessionPsk := do
  if psk.identity = [] then .error .null
  else
    let identity ← malloc.copy psk.identity
    let copy ← setSecret malloc { psk with identity := identity } psk.secret
    let earlySecret ← malloc.copy psk.earlySecret
    let copy ← setApplicationProtocol malloc { copy with earlySecret := earlySecret }
      psk.earlyDataConfig.applicationProtocol
    setEarlyDataContext malloc copy psk.earlyDataConfig.context

/-- `s2n_psk_wipe` when memory cannot be given back: it ends after the first block was zeroed. -/
def zeroed (psk : SessionPsk) : SessionPsk :=
  if psk.earlySecret ≠ [] then { psk with earlySecret := List.replicate psk.earlySecret.length 0 }
  else { psk with identity := List.replicate psk.identity.length 0 }

/-- `s2n_psk_offered_psk_size` -/
def offeredSize (psk : SessionPsk) : ℕ := 7 + psk.identity.length + psk.hmacAlg.digestSize

end SessionPsk

/-! ### Connections -/

/-- The fields of a connection for session state. -/
structure ResumeConn where
  mode : Mode
  config : TicketConfig
  /-- a `uint8_t` -/
  actualProtocolVersion : { v : ℕ // v < 256 }
  clientProtocolVersion : ℕ := tls13
  serverProtocolVersion : ℕ := tls13
  /-- `secure->cipher_suite` -/
  cipherSuite : HelloSuite
  applicationProtocol : ApplicationProtocol := ApplicationProtocol.zero
  /-- `tls13_ticket_fields` -/
  ticketAgeAdd : UInt32 := 0
  sessionSecret : List UInt8 := []
  serverKeyingMaterialLifetime : UInt32 := 604800
  /-- `server_max_early_data_size`, if it was overridden -/
  serverMaxEarlyDataSize : Option UInt32 := none
  configServerMaxEarlyDataSize : UInt32 := 0
  /-- Its setter takes a `uint16_t`. -/
  serverEarlyDataContext : ShortBytes := .empty
  pskType : PskType := .resumption
  pskList : List SessionPsk := []
  chosenPsk : Option SessionPsk := none
  chosenPskWireIndex : ℕ := 0
  /-- the allocator while a state is read, and while the PSKs of the connection are replaced -/
  malloc : Allocator := .ample
  mallocLater : Allocator := .ample

namespace ResumeConn

def getProtocolVersion (c : ResumeConn) : ℕ :=
  if c.actualProtocolVersion.1 ≠ versionUnknown then c.actualProtocolVersion.1
  else if c.mode = .client then c.clientProtocolVersion
  else c.serverProtocolVersion

/-- `s2n_early_data_get_server_max_size` -/
def earlyDataServerMaxSize (c : ResumeConn) : UInt32 := c.serverMaxEarlyDataSize.getD c.configServerMaxEarlyDataSize

/-- The fields of the connection that limit a ticket. -/
def ticketConn (c : ResumeConn) : TicketConn where
  config := c.config
  actualProtocolVersion := c.actualProtocolVersion.1
  serverKeyingMaterialLifetime := c.serverKeyingMaterialLifetime
  chosenPsk := c.chosenPsk.map fun psk => ⟨psk.type == .resumption, psk.keyingMaterialExpiration⟩

end ResumeConn

/-- A connection, with the stuffer that its state is written to or read from. -/
structure Resuming where
  conn : ResumeConn
  state : Stuffer

abbrev ResumeM : Type → Type := EStateM Err Resuming

def onState {α : Type} (m : StufferM α) : ResumeM α := zoom Resuming.state (fun t s => { s with state := t }) m

def onResumeConn {α : Type} (m : EStateM Err ResumeConn α) : ResumeM α :=
  zoom Resuming.conn (fun c s => { s with conn := c }) m

def onResumeConfig {α : Type} (m : TicketM α) : ResumeM α :=
  onResumeConn (zoom ResumeConn.config (fun config c => { c with config := config }) m)

/-! ### Writing -/

def serializedFormatTls13V1 : ℕ := 2

def tls13SerializeKeyingMaterialExpiration (malloc : ℕ → Bool) (c : ResumeConn) (now : UInt64) : StufferM Unit :=
  when (c.mode = .server) (writeUint malloc 8 (keyingMaterialExpirationAt c.ticketConn now).toNat)

/-- What is written of early data if there is a limit for it. -/
def serializeEarlyData (malloc : ℕ → Bool) (c : ResumeConn) : StufferM Unit := do
  writeUint malloc 1 c.applicationProtocol.string.length
  -- the string without the 0 that ends it
  writeBytes malloc c.applicationProtocol.string
  writeUint malloc 2 c.serverEarlyDataContext.1.length
  writeBytes malloc c.serverEarlyDataContext.1

/-- What `s2n_tls13_serialize_resumption_state` writes at a time. -/
def writeSessionState (malloc : ℕ → Bool) (c : ResumeConn) (currentTime : UInt64) : StufferM Unit := do
  writeUint malloc 1 serializedFormatTls13V1
  writeUint malloc 1 c.actualProtocolVersion.1
  writeBytes malloc c.cipherSuite.ianaValue
  writeUint malloc 8 currentTime.toNat
  writeUint malloc 4 c.ticketAgeAdd.toNat
  ensure (1 ≤ c.sessionSecret.length ∧ c.sessionSecret.length ≤ 255) .safety
  writeUint malloc 1 c.sessionSecret.length
  writeBytes malloc c.sessionSecret
  tls13SerializeKeyingMaterialExpiration malloc c currentTime
  writeUint malloc 4 c.earlyDataServerMaxSize.toNat
  when (c.earlyDataServerMaxSize > 0) (serializeEarlyData malloc c)

def tls13SerializeResumptionState (malloc : ℕ → Bool) : ResumeM Unit := do
  let currentTime ← onResumeConfig configWallClock
  onState (writeSessionState malloc (← get).conn currentTime)

/-! ### Reading -/

/-- The bytes at the pointer of `s2n_stuffer_raw_read`. -/
def rawReadBytes (n : ℕ) : StufferM (List UInt8) := do
  match ← rawRead n with
  | none => throw .null
  | some off => return slice (← get).blob.data off n

/-- The time until which the keying material of a server is good. -/
def readKeyingMaterialExpiration (currentTime : UInt64) (psk : SessionPsk) : ResumeM SessionPsk := do
  if (← get).conn.mode = .server then
    let expiration ← onState (readUint 8)
    ensure (UInt64.ofNat expiration > currentTime) .keyingMaterialExpired
    return { psk with keyingMaterialExpiration := UInt64.ofNat expiration }
  else return psk

def readEarlyData (suites : CipherSuites) (ianaId : List UInt8) (psk : SessionPsk) : ResumeM SessionPsk := do
  let maxEarlyDataSize ← onState (readUint 4)
  if maxEarlyDataSize > 0 then
    let psk ← MonadExcept.ofExcept (psk.configureEarlyData suites (UInt32.ofNat maxEarlyDataSize) ianaId)
    let appProtoSize ← onState (readUint 1)
    let appProtoData ← onState (rawReadBytes appProtoSize)
    let psk ← MonadExcept.ofExcept (psk.setApplicationProtocol (← get).conn.malloc appProtoData)
    let earlyDataContextSize ← onState (readUint 2)
    let earlyDataContextData ← onState (rawReadBytes earlyDataContextSize)
    MonadExcept.ofExcept (psk.setEarlyDataContext (← get).conn.malloc earlyDataContextData)
  else return psk

/-- What is read for the age of the ticket, and the secret. -/
def readSecret (psk : SessionPsk) : ResumeM SessionPsk := do
  let ticketAgeAdd ← onState (readUint 4)
  let secretLen ← onState (readUint 1)
  ensure (secretLen ≤ tlsSecretLen) .safety
  let secretData ← onState (rawReadBytes secretLen)
  let malloc := (← get).conn.malloc
  MonadExcept.ofExcept (SessionPsk.setSecret malloc { psk with ticketAgeAdd := UInt32.ofNat ticketAgeAdd } secretData)

/-- The PSK that `s2n_tls13_deserialize_session_state` makes. -/
def readSessionPsk (suites : CipherSuites) (pskIdentity : Blob) : ResumeM SessionPsk := do
  let psk ← MonadExcept.ofExcept (SessionPsk.setIdentity (← get).conn.malloc { type := .resumption } pskIdentity)
  let protocolVersion ← onState (readUint 1)
  ensure (protocolVersion ≥ tls13) .safety
  let ianaId ← onState (readBytes 2)
  let cipherSuite ← MonadExcept.ofExcept (suites.cipherSuiteFromIana ianaId)
  let ticketIssueTime ← onState (readUint 8)
  let currentTime ← onResumeConfig configWallClock
  onResumeConfig (validateTicketAge currentTime (UInt64.ofNat ticketIssueTime))
  let psk ← readSecret { psk with hmacAlg := cipherSuite.prfAlg, ticketIssueTime := UInt64.ofNat ticketIssueTime }
  let psk ← readKeyingMaterialExpiration currentTime psk
  readEarlyData suites ianaId psk

def connectionSetPskType (type : PskType) : EStateM Err ResumeConn Unit := do
  let c ← get
  ensure (c.pskList = [] ∨ c.pskType = type) .pskMode
  set { c with pskType := type }

def pskParametersWipe : EStateM Err ResumeConn Unit := do
  let c ← get
  if c.pskList = [] ∨ c.mallocLater.releases = true then
    set { c with pskType := .resumption, pskList := [], chosenPsk := none, chosenPskWireIndex := 0 }
  else
    set { c with pskList := c.pskList.modifyHead SessionPsk.zeroed }
    throw .cancelled

def sizeOfPsk : ℕ := 168

/-- `s2n_connection_append_psk` of a PSK with its fields for early data, after the PSKs were removed: `psk_list` gets
its first memory, for 16 PSKs. -/
def appendSessionPsk (psk : SessionPsk) : EStateM Err ResumeConn Unit := do
  connectionSetPskType psk.type
  let c ← get
  ensure (∀ other ∈ c.pskList, other.identity ≠ psk.identity) .duplicatePskIdentities
  ensure (c.mode = .client → 4 + (c.pskList.map SessionPsk.offeredSize).sum + psk.offeredSize + 4 ≤ 65535)
    .offeredPsksTooLong
  let newPsk ← failWith .invalidArgument (MonadExcept.ofExcept (psk.clone c.mallocLater))
  ensure (c.mallocLater (sizeOfPsk * 16) = true) .alloc
  set { c with pskList := c.pskList ++ [newPsk] }

def tls13DeserializeSessionState (suites : CipherSuites) (pskIdentity : Blob) : ResumeM Unit := do
  let psk ← readSessionPsk suites pskIdentity
  onResumeConn (connectionSetPskType .resumption)
  onResumeConn pskParametersWipe
  onResumeConn (appendSessionPsk psk)

end S2nTls
