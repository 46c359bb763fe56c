import S2nTls.Lib.Calls
import S2nTls.Tls.ProtocolPreferences
import S2nTls.Utils.Map

/-!
Certificates by name (`tls/s2n_config.c`, `tls/s2n_handshake.c`, `tls/extensions/s2n_client_server_name.c`).

A configuration has a table from names to certificates, one for each type of key, and default certificates. A server
looks up the name that the client sends, then the name with a wildcard as its first label, and takes the defaults if
neither is there. The names in the table are those of the certificates in lower case.
-/

namespace S2nTls

open Lib Stuffer

/-! ### Certificates -/

/-- `s2n_pkey_type`, the types of the keys of certificates. -/
inductive PkeyType
  | rsa | ecdsa | rsaPss
  deriving DecidableEq, Repr

def PkeyType.index : PkeyType → ℕ
  | .rsa => 0
  | .ecdsa => 1
  | .rsaPss => 2

/-- A pointer to a `struct s2n_cert_chain_and_key`. -/
abbrev CertRef := { address : UInt64 // address ≠ 0 }

def toLower (b : UInt8) : UInt8 := if 65 ≤ b ∧ b ≤ 90 then b + 32 else b

def charToLower (name : List UInt8) : List UInt8 := name.map toLower

/-- A certificate chain with its key. The leaf certificate has names for DNS in its subjectAltName, and common
names. -/
structure CertChainAndKey where
  ref : CertRef
  pkeyType : PkeyType
  dnsNames : List (List UInt8)
  commonNames : List (List UInt8)

/-- `s2n_cert_chain_and_key_load_sans` -/
def CertChainAndKey.sanNames (cert : CertChainAndKey) : List (List UInt8) := cert.dnsNames.map charToLower

/-- `s2n_cert_chain_and_key_load_cns` -/
def CertChainAndKey.cnNames (cert : CertChainAndKey) : List (List UInt8) :=
  (cert.commonNames.filter fun name => name ≠ []).map charToLower

/-! ### Certificates by type -/

abbrev CertsByType := PkeyType → Option CertRef

def addressOf : Option CertRef → UInt64
  | none => 0
  | some ref => ref.val

def refOf (address : UInt64) : Option CertRef := if h : address ≠ 0 then some ⟨address, h⟩ else none

/-- The memory of a `struct certs_by_type`: three pointers. -/
def CertsByType.toBytes (certs : CertsByType) : List UInt8 :=
  beBytes 8 (addressOf (certs .rsa)).toNat ++ beBytes 8 (addressOf (certs .ecdsa)).toNat ++
    beBytes 8 (addressOf (certs .rsaPss)).toNat

/-- What this memory holds. -/
def CertsByType.ofBytes (bytes : List UInt8) : CertsByType := fun type =>
  refOf (UInt64.ofNat (beNat ((bytes.drop (8 * type.index)).take 8)))

def CertsByType.zero : CertsByType := fun _ => none

/-! ### The configuration -/

inductive CertOwnership
  | notOwned | libOwned | appOwned
  deriving DecidableEq

/-- What is read and written of a `struct s2n_config`. -/
structure CertConfig where
  domainNameToCertMap : S2nMap
  defaultCertsByType : CertsByType
  defaultCertsAreExplicit : Bool
  certOwnership : CertOwnership

/-- `s2n_cert_tiebreak_callback`: the certificate that is there, the new one, and their name. -/
abbrev CertTiebreak := CertRef → CertRef → List UInt8 → Option CertRef

/-- The hash function, how often a table may be made larger within `s2n_map_embiggen`, and the callback. -/
structure CertStoreEnv where
  hash : List UInt8 → UInt32
  depth : ℕ
  certTiebreakCb : Option CertTiebreak

abbrev ConfigM := EStateM MapFail CertConfig

/-- What is done with the table. -/
def onMap {α : Type} (m : MapM α) : ConfigM α :=
  zoom (·.domainNameToCertMap) (fun map c => { c with domainNameToCertMap := map }) m

/-- What is written through the pointer to a value that `s2n_map_lookup` has returned: the entry of the key gets
another value. -/
def mapAssign (hash : List UInt8 → UInt32) (key value : List UInt8) : MapM Unit := do
  let slot ← mapSlot hash key
  let (slot, found) ← probeLoop key (← get).capacity slot
  when (found = true) (setTableEntry slot ⟨key, value⟩)

section Config

variable (env : CertStoreEnv)

def configUpdateDomainNameToCertMap (cert : CertChainAndKey) (name : List UInt8) : ConfigM Unit := do
  if name = [] then return
  else
    match ← onMap (mapLookup env.hash name) with
    | none =>
      onMap mapUnlock
      onMap (mapAdd env.hash (env.depth + 1) name
        (CertsByType.toBytes (Function.update CertsByType.zero cert.pkeyType (some cert.ref))))
      onMap mapComplete
    | some bytes =>
      let value := CertsByType.ofBytes bytes
      let assign (ref : CertRef) : ConfigM Unit :=
        onMap (mapAssign env.hash name (CertsByType.toBytes (Function.update value cert.pkeyType (some ref))))
      match value cert.pkeyType with
      | none => assign cert.ref
      | some existing =>
        match env.certTiebreakCb with
        | none => return
        | some cb =>
          match cb existing cert.ref name with
          | none => return
          | some winner => assign winner

def configBuildDomainNameToCertMap (cert : CertChainAndKey) : ConfigM Unit :=
  if cert.sanNames.length = 0 then forM cert.cnNames (configUpdateDomainNameToCertMap env cert)
  else forM cert.sanNames (configUpdateDomainNameToCertMap env cert)

/-- `s2n_config_add_cert_chain_and_key_impl`; `valid` is what `s2n_security_policy_validate_certificate_chain` says. -/
def configAddCertChainAndKeyImpl (cert : CertChainAndKey) (valid : Bool) : ConfigM Unit := do
  ensure (valid = true) (.err .securityPolicyIncompatibleCert)
  configBuildDomainNameToCertMap env cert
  let c ← get
  when (c.defaultCertsAreExplicit = false) do
    if c.defaultCertsByType cert.pkeyType = none then
      modify fun c => { c with
        defaultCertsByType := Function.update c.defaultCertsByType cert.pkeyType (some cert.ref) }
    else ensure (c.certOwnership ≠ .libOwned) (.err .multipleDefaultCertificatesPerAuthType)

def configAddCertChainAndKeyToStore (cert : CertChainAndKey) (valid : Bool) : ConfigM Unit := do
  ensure ((← get).certOwnership ≠ .libOwned) (.err .certOwnership)
  configAddCertChainAndKeyImpl env cert valid
  modify ({ · with certOwnership := .appOwned })

/-- A call of `s2n_config_add_cert_chain_and_key_to_store`, and whether the policy allows the certificate. -/
structure AddCall where
  cert : CertChainAndKey
  valid : Bool := true

/-- The configuration that `s2n_config_init` makes. -/
def CertConfig.new : CertConfig where
  domainNameToCertMap := { emptyTable 1 with immutable := true }
  defaultCertsByType := CertsByType.zero
  defaultCertsAreExplicit := false
  certOwnership := .notOwned

def CertConfig.after (calls : List AddCall) : CertConfig :=
  (runCalls (fun call : AddCall => configAddCertChainAndKeyToStore env call.cert call.valid) calls CertConfig.new).2

end Config

/-! ### The name that the client sends -/

def maxServerName : ℕ := 255

/-- What is read and written of a connection, with its `handshake_params`. -/
structure SniConn where
  /-- A buffer of `S2N_MAX_SERVER_NAME + 1` bytes. -/
  serverName : List UInt8
  serverNameUsed : Bool
  exactSniMatches : CertsByType
  exactSniMatchExists : Bool
  wcSniMatches : CertsByType
  wcSniMatchExists : Bool

def SniConn.new : SniConn where
  serverName := List.replicate (maxServerName + 1) 0
  serverNameUsed := false
  exactSniMatches := CertsByType.zero
  exactSniMatchExists := false
  wcSniMatches := CertsByType.zero
  wcSniMatchExists := false

def SniConn.receivedServerName (c : SniConn) : Bool := c.serverName.getD 0 0 ≠ 0

def clientServerNameParse : StufferM (List UInt8) := do
  let listSize ← readUint 2
  ensure (listSize ≤ (← get).dataAvailable) .safety
  let serverNameType ← readUint 1
  ensure (serverNameType = 0) .safety
  let length ← readUint 2
  ensure (length ≤ (← get).dataAvailable) .safety
  match ← rawRead length with
  | none => throw .null
  | some off => return slice (← get).blob.data off length

def clientServerNameRecv (extension : Stuffer) (c : SniConn) : SniConn :=
  if c.receivedServerName = true then c
  else
    match clientServerNameParse.run extension with
    | .error _ _ => c
    | .ok name _ =>
      if maxServerName < name.length then c
      else { c with serverName := name ++ c.serverName.drop name.length }

/-! ### Looking it up -/

/-- The loop of `s2n_stuffer_skip_to_char`, of at most `fuel` rounds. -/
def skipToCharLoop (target : UInt8) : (fuel : ℕ) → StufferM Unit
  | 0 => return
  | fuel + 1 => do
    let s ← get
    if s.dataAvailable = 0 ∨ s.blob.data s.readCursor = target then return
    else
      skipRead 1
      skipToCharLoop target fuel

def skipToChar (target : UInt8) : StufferM Unit := do skipToCharLoop target (← get).dataAvailable

/-- `s2n_create_wildcard_hostname`, from the first stuffer to the second: `*` and what comes from the first `.` on. -/
def createWildcardHostname (malloc : ℕ → Bool) : EStateM Err (Stuffer × Stuffer) Unit := do
  zoom (·.1) (fun t s => (t, s.2)) (skipToChar 46)
  if (← get).1.dataAvailable = 0 then return
  else
    zoom (·.2) (fun t s => (s.1, t)) (writeUint malloc 1 42)
    copy malloc (← get).1.dataAvailable

/-- `strlen` bytes of `server_name`, in lower case. -/
def SniConn.normalizedName (c : SniConn) : List UInt8 := charToLower (cString c.serverName)

lemma length_lt_of_le_maxServerName {bs : List UInt8} (h : bs.length ≤ maxServerName) : bs.length < 2 ^ 32 :=
  lt_of_le_of_lt h (by decide)

lemma length_wildcard_lt : (List.replicate (maxServerName + 1) (0 : UInt8)).length < 2 ^ 32 := by
  rw [List.length_replicate]
  decide

def wildcardBlob : Blob := Blob.ofList (List.replicate (maxServerName + 1) 0) length_wildcard_lt

/-- What `s2n_create_wildcard_hostname` makes of a name; empty if there is no first label. -/
def wildcardHostname (malloc : ℕ → Bool) (name : List UInt8) (h : name.length ≤ maxServerName) :
    Except Err (List UInt8) :=
  match (createWildcardHostname malloc).run
      (initWritten (Blob.ofList name (length_lt_of_le_maxServerName h)), init wildcardBlob) with
  | .error e _ => .error e
  | .ok _ s => .ok s.2.unread

section Lookup

variable (env : CertStoreEnv) (malloc : ℕ → Bool) (config : CertConfig)

abbrev SniM := EStateM MapFail SniConn

/-- `s2n_find_cert_matches`; `store` sets the matches and that there are some. -/
def findCertMatches (dnsName : List UInt8) (store : CertsByType → SniConn → SniConn) : SniM Unit := do
  let (value, _) ← onLocal (mapLookup env.hash dnsName) config.domainNameToCertMap
  match value with
  | none => return
  | some bytes => modify (store (CertsByType.ofBytes bytes))

/-- A server that has found a certificate answers with the extension. -/
def markServerNameUsed : SniM Unit := modify fun c =>
  { c with serverNameUsed := c.serverNameUsed || c.exactSniMatchExists || c.wcSniMatchExists }

def connFindNameMatchingCerts : SniM Unit := do
  let c ← get
  if c.receivedServerName = false then return
  else if h : c.normalizedName.length ≤ maxServerName then
    findCertMatches env config c.normalizedName fun certs c =>
      { c with exactSniMatches := certs, exactSniMatchExists := true }
    if (← get).exactSniMatchExists = true then markServerNameUsed
    else
      match wildcardHostname malloc c.normalizedName h with
      | .error e => throw (.err e)
      | .ok [] => return
      | .ok wildcard =>
        findCertMatches env config wildcard fun certs c =>
          { c with wcSniMatches := certs, wcSniMatchExists := true }
        markServerNameUsed
  else throw (.err .safety)

def getCompatibleCertChainAndKey (c : SniConn) (certType : PkeyType) : Option CertRef :=
  if c.exactSniMatchExists = true then c.exactSniMatches certType
  else if c.wcSniMatchExists = true then c.wcSniMatches certType
  else config.defaultCertsByType certType

end Lookup

end S2nTls
