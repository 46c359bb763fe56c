import S2nTls.Crypto.Hmac
import S2nTls.Tls.ExtensionDecode
import S2nTls.Tls.TicketLifetime

/-!
Pre-shared keys (`tls/s2n_psk.c`, `tls/extensions/s2n_client_psk.c`, `s2n_server_psk.c`).

A client offers identities and a binder for each. The server chooses one, checks its binder and sends
back its place in the list. In the ClientHello after a HelloRetryRequest the client leaves out PSKs
with another hash than that of the cipher suite.
-/

namespace S2nTls

open Lib Stuffer

inductive PskType
  | resumption | external
  deriving DecidableEq, Repr

/-- `struct s2n_psk`, without early data. `s2n_psk_set_hmac` knows two hashes, as the cipher suites of
TLS1.3 do. -/
structure PreSharedKey where
  identity : List UInt8
  secret : List UInt8
  hmacAlg : HmacAlg
  ticketAgeAdd : UInt32
  ticketIssueTime : UInt64
  hmacAlg_valid : hmacAlg = .sha256 ∨ hmacAlg = .sha384
  deriving DecidableEq

/-- `s2n_psk_key_exchange_mode`. -/
inductive PskKeMode
  | unknown | pskKe | pskDheKe
  deriving DecidableEq, Repr

/-! ### The list of a client -/

/-- `s2n_psk_offered_psk_size`: size of the identity, age, size of the binder, and both. -/
def offeredPskSize (psk : PreSharedKey) : ℕ := 7 + psk.identity.length + psk.hmacAlg.digestSize

def offeredPsksSize (psks : List PreSharedKey) : ℕ := 4 + (psks.map offeredPskSize).sum

/-- The PSKs of a client: all fit the extension, and no identity is there twice. -/
structure PskList where
  psks : List PreSharedKey
  fits : offeredPsksSize psks + 4 ≤ 65535
  nodup : (psks.map PreSharedKey.identity).Nodup
  nonempty : ∀ psk ∈ psks, psk.identity ≠ []

/-- The fields of a client for PSKs. -/
structure PskClient where
  pskList : PskList
  pskType : PskType
  /-- `s2n_is_hello_retry_handshake` -/
  isHelloRetryHandshake : Bool := false
  /-- `secure->cipher_suite->prf_alg` -/
  prfAlg : HmacAlg
  chosenPsk : Option PreSharedKey := none
  chosenPskWireIndex : ℕ := 0
  pskKeMode : PskKeMode := .unknown
  bits : ExtensionBits

/-- The PSKs that the loops of `s2n_client_psk_send` and `s2n_psk_write_binder_list` do not pass over. -/
def PskClient.offered (c : PskClient) : List PreSharedKey :=
  c.pskList.psks.filter fun psk => !(c.isHelloRetryHandshake && decide (c.prfAlg ≠ psk.hmacAlg))

def clientPskShouldSend (c : PskClient) : Bool :=
  if c.isHelloRetryHandshake = false then decide (c.pskList.psks.length > 0)
  else c.pskList.psks.any fun psk => decide (c.prfAlg = psk.hmacAlg)

/-- An identity with its obfuscated age, as it stands in the list. -/
structure Identity where
  identity : List UInt8
  obfuscatedTicketAge : UInt32

def PreSharedKey.obfuscatedTicketAge (psk : PreSharedKey) (pskType : PskType) (currentTime : UInt64) :
    Except Err UInt32 :=
  if pskType = .external then .ok 0
  else generateObfuscatedTicketAge psk.ticketIssueTime psk.ticketAgeAdd currentTime

/-- The loop of `s2n_client_psk_send` over the PSKs from place `i` on; the clock is read for each. -/
def offeredIdentities (pskType : PskType) (clock : ℕ → Option UInt64) :
    ℕ → List PreSharedKey → Except Err (List Identity)
  | _, [] => .ok []
  | i, psk :: rest =>
    match clock i with
    | none => .error .cancelled
    | some currentTime => do
      let age ← psk.obfuscatedTicketAge pskType currentTime
      let identities ← offeredIdentities pskType clock (i + 1) rest
      return ⟨psk.identity, age⟩ :: identities

def encodeIdentity (id : Identity) : List UInt8 :=
  beBytes 2 id.identity.length ++ (id.identity ++ beBytes 4 id.obfuscatedTicketAge.toNat)

def encodeIdentities (ids : List Identity) : List UInt8 := ids.flatMap encodeIdentity

/-- The binders of a list, each after its size. -/
def encodeBinders (binders : List (List UInt8)) : List UInt8 :=
  binders.flatMap fun binder => beBytes 1 binder.length ++ binder

/-- `s2n_client_psk_send`, with the binders that `s2n_finish_psk_extension` fills in. -/
def clientPskSend (clock : ℕ → Option UInt64) (binder : PreSharedKey → List UInt8) (c : PskClient) :
    Except Err (List UInt8) := do
  let identities := encodeIdentities (← offeredIdentities c.pskType clock 0 c.offered)
  let binders := encodeBinders (c.offered.map binder)
  return beBytes 2 identities.length ++ (identities ++ (beBytes 2 binders.length ++ binders))

/-! ### The server -/

/-- The fields of a server for PSKs. -/
structure PskServer where
  pskList : List PreSharedKey
  pskType : PskType
  chosenPsk : Option PreSharedKey := none
  chosenPskWireIndex : ℕ := 0
  pskKeMode : PskKeMode
  useTickets : Bool
  bits : ExtensionBits
  /-- `client_hello.extensions` -/
  parsed : List ParsedExtension
  /-- `handshake.io` -/
  io : Stuffer

/-- How the decryption of a ticket ends: without effect, after the list was wiped, or with a PSK. -/
inductive TicketOutcome
  | failed | wiped | restored (psk : PreSharedKey)

/-- What is outside of the model: tickets, binders, and the callback of the application. -/
structure PskEnv where
  decrypt : List UInt8 → TicketOutcome
  lifetimeValid : ℕ → PreSharedKey → Bool
  verifyBinder : PreSharedKey → (partialClientHello binder : List UInt8) → Bool
  /-- The choices that `psk_selection_cb` makes, places in the list or none, and its return value. -/
  pskSelectionCb : Option (List (Option ℕ) × Bool) := none

structure OfferedPsk where
  identity : Blob
  obfuscatedTicketAge : ℕ
  wireIndex : ℕ

structure OfferedPskList where
  wireData : Stuffer
  wireIndex : ℕ := 0

structure PskSelecting where
  conn : PskServer
  list : OfferedPskList

abbrev SelectM : Type → Type := EStateM Err PskSelecting

def onPskServer {α : Type} (m : EStateM Err PskServer α) : SelectM α :=
  zoom PskSelecting.conn (fun c s => { s with conn := c }) m

def onWireData {α : Type} (m : StufferM α) : SelectM α :=
  zoom (fun s => s.list.wireData) (fun t s => { s with list := { s.list with wireData := t } }) m

/-- The age is ignored for an external PSK. -/
def readObfuscatedTicketAge : PskType → StufferM ℕ
  | .external => do
    skipRead 4
    return 0
  | .resumption => readUint 4

def PskSelecting.hasNext (s : PskSelecting) : Bool := s.list.wireData.dataAvailable > 0

def offeredPskListReadNext : SelectM OfferedPsk := do
  let identitySize ← onWireData (readUint 2)
  ensure (identitySize > 0) .safety
  match ← onWireData (rawRead identitySize) with
  | none => throw .null
  | some off =>
    let age ← onWireData (readObfuscatedTicketAge (← get).conn.pskType)
    let s ← get
    ensure (s.list.wireIndex < 65535) .integerOverflow
    set { s with list := { s.list with wireIndex := s.list.wireIndex + 1 } }
    return ⟨s.list.wireData.blob.sub off identitySize, age, s.list.wireIndex⟩

def offeredPskListNext : SelectM OfferedPsk := do
  ensure ((← get).hasNext = true) .stufferOutOfData
  failWith .badMessage offeredPskListReadNext

def offeredPskListReread : SelectM Unit := do
  modify fun s => { s with list := { s.list with wireIndex := 0 } }
  onWireData reread

/-- `s2n_resume_decrypt_session`, as far as it concerns the list of PSKs. -/
def decryptTicket (env : PskEnv) (identity : List UInt8) : EStateM Err PskServer Unit :=
  match env.decrypt identity with
  | .failed => throw .keyUsedInSessionTicketNotFound
  | .wiped => do
    modify fun c =>
      { c with
        pskList := [], chosenPsk := none, chosenPskWireIndex := 0
        pskType := .resumption, pskKeMode := .unknown }
    throw .alloc
  | .restored psk =>
    modify fun c => { c with
      pskList := [{ psk with identity := identity }]
      chosenPsk := none
      chosenPskWireIndex := 0
      pskType := .resumption
      pskKeMode := .unknown }

/-- The part of `s2n_offered_psk_list_choose_psk` that looks for the identity. -/
def chooseKnownPsk (env : PskEnv) (psk : OfferedPsk) : EStateM Err PskServer Unit := do
  let c ← get
  match c.pskList.find? fun known => known.identity = psk.identity.bytes with
  | none => throw .null
  | some chosen =>
    ensure (c.pskType = .external ∨ env.lifetimeValid psk.obfuscatedTicketAge chosen = true) .invalidSessionTicket
    modify fun c => { c with chosenPsk := some chosen, chosenPskWireIndex := psk.wireIndex }

def offeredPskListChoosePsk (env : PskEnv) (psk : OfferedPsk) : EStateM Err PskServer Unit := do
  let c ← get
  when (c.pskType = .resumption ∧ c.useTickets = true) (decryptTicket env psk.identity.bytes)
  chooseKnownPsk env psk

/-- The inner loop of `s2n_select_external_psk`. An identity takes at least seven bytes, so the bytes
that are there bound the number of rounds. -/
def compareIdentities (serverPsk : PreSharedKey) : (fuel wireIndex : ℕ) → SelectM Unit
  | 0, _ => return
  | fuel + 1, wireIndex => do
    if (← get).hasNext = false then return
    else
      let clientPsk ← offeredPskListNext
      onPskServer (modify fun c =>
        if clientPsk.identity.bytes = serverPsk.identity ∧ c.chosenPsk = none then
          { c with chosenPsk := some serverPsk, chosenPskWireIndex := wireIndex }
        else c)
      compareIdentities serverPsk fuel (wireIndex + 1)

/-- The outer loop of `s2n_select_external_psk`. -/
def compareServerPsks : List PreSharedKey → SelectM Unit
  | [] => return
  | serverPsk :: rest => do
    offeredPskListReread
    compareIdentities serverPsk (← get).list.wireData.dataAvailable 0
    compareServerPsks rest

def selectExternalPsk : SelectM Unit := do
  onPskServer (modify fun c => { c with chosenPsk := none })
  compareServerPsks (← get).conn.pskList
  ensure ((← get).conn.chosenPsk.isSome = true) .null

/-- The loop of `s2n_select_resumption_psk`, with the number of tickets that may still be rejected. -/
def tryTickets (env : PskEnv) : (left : ℕ) → SelectM Unit
  | 0 => throw .invalidSessionTicket
  | left + 1 => do
    if (← get).hasNext = false then throw .invalidSessionTicket
    else
      let clientPsk ← offeredPskListNext
      match ← attempt (onPskServer (offeredPskListChoosePsk env clientPsk)) with
      | .ok () => return
      | .error _ => tryTickets env left

def maxRejectedTickets : ℕ := 3

def selectResumptionPsk (env : PskEnv) : SelectM Unit := do
  onPskServer (modify fun c => { c with chosenPsk := none })
  tryTickets env maxRejectedTickets

/-- An application reads the list up to place `i` and keeps the identity there. -/
def offeredAt : ℕ → SelectM OfferedPsk
  | 0 => offeredPskListNext
  | i + 1 => do
    let _ ← offeredPskListNext
    offeredAt i

/-- A choice of the application, of none or of the identity at a place of the list. -/
def applicationChoice (env : PskEnv) : Option ℕ → SelectM Unit
  | none => onPskServer (modify fun c => { c with chosenPsk := none })
  | some i => do
    offeredPskListReread
    let psk ← offeredAt i
    onPskServer (offeredPskListChoosePsk env psk)

/-- `psk_selection_cb`: choices may fail, and the application goes on. -/
def applicationChoices (env : PskEnv) : List (Option ℕ) → SelectM Unit
  | [] => return
  | choice :: rest => do
    let _ ← attempt (applicationChoice env choice)
    applicationChoices env rest

/-- The way of selection in `s2n_client_psk_recv_identity_list`. -/
def selectPsk (env : PskEnv) (pskType : PskType) : SelectM Unit :=
  match env.pskSelectionCb with
  | some (choices, ok) => do
    applicationChoices env choices
    ensure (ok = true) .cancelled
  | none =>
    match pskType with
    | .external => selectExternalPsk
    | .resumption => selectResumptionPsk env

def recvIdentityList (env : PskEnv) (wireIdentities : Stuffer) : EStateM Err PskServer Unit := fun c =>
  match (selectPsk env c.pskType).run ⟨c, ⟨wireIdentities, 0⟩⟩ with
  | .ok () s => (ensure (s.conn.chosenPsk.isSome = true) .null).run s.conn
  | .error e s => .error e s.conn

lemma wp_recvIdentityList {env : PskEnv} {c : PskServer} {Q : Unit → PskServer → Prop}
    {R : Err → PskServer → Prop} {t : Stuffer} :
    wp (recvIdentityList env t) Q R c ↔ wp (selectPsk env c.pskType)
        (fun _ s => wp (ensure (s.conn.chosenPsk.isSome = true) .null) Q R s.conn)
        (fun e s => R e s.conn) ⟨c, ⟨t, 0⟩⟩ := by
  unfold wp recvIdentityList
  simp only [EStateM.run]
  cases selectPsk env c.pskType ⟨c, ⟨t, 0⟩⟩ <;> rfl

/-- `s2n_client_psk_recv_identities`: the rest of the extension. -/
def recvIdentities (env : PskEnv) (extension : Stuffer) : EStateM Err PskServer Stuffer := do
  let (identityListSize, extension) ← onLocal (readUint 2) extension
  let (data, extension) ← onLocal (rawRead identityListSize) extension
  match data with
  | none => throw .null
  | some off =>
    recvIdentityList env (Stuffer.initWritten (extension.blob.sub off identityListSize))
    return extension

/-! ### Binders -/

/-- The loop of `s2n_client_psk_recv_binder_list`: the binder at the place of the chosen PSK is checked. -/
def recvBinderLoop (env : PskEnv) (chosenPsk : PreSharedKey) (chosenPskWireIndex : ℕ)
    (partialClientHello : List UInt8) :
    (fuel wireIndex : ℕ) → StufferM Unit
  | 0, _ => throw .badMessage
  | fuel + 1, wireIndex => do
    if (← get).dataAvailable = 0 then throw .badMessage
    else
      let wireBinderSize ← readUint 1
      match ← rawRead wireBinderSize with
      | none => throw .null
      | some off =>
        let wireBinder := slice (← get).blob.data off wireBinderSize
        if wireIndex = chosenPskWireIndex then
          -- `s2n_psk_verify_binder`
          ensure (wireBinderSize = chosenPsk.hmacAlg.digestSize) .safety
          ensure (env.verifyBinder chosenPsk partialClientHello wireBinder = true) .badMessage
        else recvBinderLoop env chosenPsk chosenPskWireIndex partialClientHello fuel (wireIndex + 1)

/-- The size of what comes before the binders, from the end of the message; a `uint16_t`. -/
def partialClientHelloSize (io : Stuffer) (binderListSize : ℕ) : ℕ :=
  (io.writeCursor - (binderListSize + 2)) % 2 ^ 16

/-- The ClientHello up to the binders, as far as `s2n_client_psk_recv_binders` finds them. -/
def partialClientHello (io : Stuffer) (binderListSize : ℕ) : List UInt8 :=
  slice io.blob.data 0 (partialClientHelloSize io binderListSize)

def recvBinders (env : PskEnv) (chosenPsk : PreSharedKey) (extension : Stuffer) : EStateM Err PskServer Unit := do
  let (binderListSize, extension) ← onLocal (readUint 2) extension
  let (data, extension) ← onLocal (rawRead binderListSize) extension
  match data with
  | none => throw .null
  | some off =>
    let c ← get
    ensure (binderListSize + 2 ≤ c.io.writeCursor) .safety
    ensure (partialClientHelloSize c.io binderListSize ≤ c.io.blob.size) .safety
    let _ ← onLocal
      (recvBinderLoop env chosenPsk c.chosenPskWireIndex (partialClientHello c.io binderListSize) binderListSize 0)
      (Stuffer.initWritten (extension.blob.sub off binderListSize))
    return

/-! ### The extensions -/

/-- The checks of `s2n_client_psk_recv` before it looks at the extension: it is the last one that the
server knows, and those that it needs were received. -/
def clientPskChecks : EStateM Err PskServer Unit := do
  let c ← get
  ensure (c.parsed.length ≠ 0) .safety
  ensure (c.parsed.findIdx (fun e => e.extensionType = Extension.preSharedKey) = c.parsed.length - 1)
    .unsupportedExtension
  ensure (c.bits.requestsReceived Extension.pskKeyExchangeModes = true) .missingExtension
  ensure (c.pskKeMode = .pskDheKe → c.bits.requestsReceived Extension.keyShare = true) .missingExtension

/-- The part of `s2n_client_psk_recv` that checks the binder of the chosen PSK. -/
def recvBindersOfChosen (env : PskEnv) (extension : Stuffer) : EStateM Err PskServer Unit := do
  match (← get).chosenPsk with
  | none => return
  | some psk => recvBinders env psk extension

/-- The part of `s2n_client_psk_recv` for the exchange mode that s2n has: without an acceptable PSK it
goes on without one. -/
def recvPsks (env : PskEnv) (extension : Stuffer) : EStateM Err PskServer Unit := do
  match ← attempt (recvIdentities env extension) with
  | .ok extension => recvBindersOfChosen env extension
  | .error _ => modify fun c => { c with chosenPsk := none }

def clientPskRecv (env : PskEnv) (extension : Stuffer) : EStateM Err PskServer Unit := do
  clientPskChecks
  when ((← get).pskKeMode = .pskDheKe) (recvPsks env extension)

def serverPskSend (c : PskServer) : List UInt8 := beBytes 2 c.chosenPskWireIndex

def PskClient.serverPskRecv (extension : Stuffer) : EStateM Err PskClient Unit := do
  ensure ((← get).bits.responsesReceived Extension.keyShare = true) .missingExtension
  modify fun c => { c with pskKeMode := .pskDheKe }
  let (chosenPskWireIndex, _) ← onLocal (readUint 2) extension
  match (← get).pskList.psks[chosenPskWireIndex]? with
  | none => throw .invalidArgument
  | some psk => modify fun c => { c with chosenPsk := some psk, chosenPskWireIndex := chosenPskWireIndex }

end S2nTls
