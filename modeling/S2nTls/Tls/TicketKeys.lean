import S2nTls.Utils.Array

/-!
The keys of session tickets (`tls/s2n_resume.c`, `s2n_config_add_ticket_crypto_key`).

A config holds up to 48 keys. A key encrypts tickets from its introduction until the end of its
first lifetime, decrypts them until the end of the second, and is removed when a key is added after
that. A ticket names its key, so names are to be unique.
-/

namespace S2nTls

open Lib S2nArray

def ticketKeyNameLen : ℕ := 16

def aes256KeyLen : ℕ := 32

def ticketAadImplicitLen : ℕ := 12

def maxTicketKeys : ℕ := 48

def oneSecInNanos : UInt64 := 1000000000

structure TicketKey where
  keyName : List UInt8
  aesKey : List UInt8
  implicitAad : List UInt8
  introTimestamp : UInt64
  keyName_length : keyName.length = ticketKeyNameLen
  aesKey_length : aesKey.length = aes256KeyLen
  implicitAad_length : implicitAad.length = ticketAadImplicitLen
  deriving DecidableEq

/-- The fields of `struct s2n_config` for tickets, and the clock of the config. -/
structure TicketConfig where
  useTickets : Bool := false
  useSessionCache : Bool := false
  encryptDecryptKeyLifetimeInNanos : UInt64 := 7200000000000
  decryptKeyLifetimeInNanos : UInt64 := 46800000000000
  sessionStateLifetimeInNanos : UInt64 := 54000000000000
  /-- `NULL` as long as neither tickets nor the session cache are in use -/
  ticketKeys : Option (S2nArray TicketKey) := none
  /-- What the wall clock shows at each reading, if it works. -/
  clock : ℕ → Option UInt64 := fun _ => some 0
  /-- How often the wall clock was read. -/
  readings : ℕ := 0

abbrev TicketM : Type → Type := EStateM Err TicketConfig

def configWallClock : TicketM UInt64 := do
  let c ← get
  set { c with readings := c.readings + 1 }
  match c.clock c.readings with
  | none => throw .cancelled
  | some now => return now

/-- Work with the array of keys, if there is one. -/
def onTicketKeys {α : Type} (m : EStateM Err (S2nArray TicketKey) α) : TicketM α := do
  match (← get).ticketKeys with
  | none => throw .null
  | some keys => zoom (fun _ => keys) (fun keys' c => { c with ticketKeys := some keys' }) m

def TicketConfig.keys (c : TicketConfig) : List TicketKey :=
  match c.ticketKeys with
  | none => []
  | some keys => keys.elements

/-- The sum of `intro_timestamp` and both lifetimes, in 64 bits. -/
def TicketConfig.expiry (c : TicketConfig) (key : TicketKey) : UInt64 :=
  key.introTimestamp + c.encryptDecryptKeyLifetimeInNanos + c.decryptKeyLifetimeInNanos

/-! ### Adding a key -/

/-- `s2n_config_wipe_expired_ticket_crypto_keys`, of one key or, for the index `-1`, of all that
have expired. -/
def wipeExpiredTicketCryptoKeys : Option ℕ → TicketM Unit
  | some expiredKeyIndex => onTicketKeys (removeIndices 0 [expiredKeyIndex])
  | none => do
    let now ← configWallClock
    let c ← get
    onTicketKeys do
      let keys ← get
      removeIndices 0 (indicesOf (fun key => decide (now ≥ c.expiry key)) 0 keys.elements)

/-- The loop of `s2n_config_store_ticket_key`: both the name and the secret must be new. -/
def checkUnique (key : TicketKey) : List TicketKey → EStateM Err (S2nArray TicketKey) Unit
  | [] => return
  | otherKey :: rest => do
    ensure (key.keyName ≠ otherKey.keyName) .invalidTicketKeyNameOrNameLength
    ensure (key.aesKey ≠ otherKey.aesKey) .ticketKeyNotUnique
    checkUnique key rest

def storeTicketKey (malloc : ℕ → Bool) (key : TicketKey) : TicketM Unit :=
  onTicketKeys do
    let keys ← get
    checkUnique key keys.elements
    insertAndCopy malloc keys.elements.length key

/-- What the libraries do when a key is added. -/
structure TicketLib where
  malloc : ℕ → Bool := fun _ => true
  /-- `s2n_hkdf` of the secret, for the key and the additional data -/
  hkdf : List UInt8 → Option { out : List UInt8 // out.length = aes256KeyLen + ticketAadImplicitLen }

/-- The name in an array that is filled up with zeros. -/
def padName (name : List UInt8) : List UInt8 :=
  name ++ List.replicate (ticketKeyNameLen - name.length) 0

lemma padName_length {name : List UInt8} (h : name.length ≤ ticketKeyNameLen) :
    (padName name).length = ticketKeyNameLen := by
  rw [padName, List.length_append, List.length_replicate]
  omega

/-- The key that is made of a name, the output of HKDF and a time. -/
def ticketKeyOf (name : List UInt8) (h : name.length ≤ ticketKeyNameLen)
    (out : { out : List UInt8 // out.length = aes256KeyLen + ticketAadImplicitLen })
    (introTimestamp : UInt64) : TicketKey where
  keyName := padName name
  aesKey := out.1.take aes256KeyLen
  implicitAad := out.1.drop aes256KeyLen
  introTimestamp := introTimestamp
  keyName_length := padName_length h
  aesKey_length := by rw [List.length_take, out.2]; decide
  implicitAad_length := by rw [List.length_drop, out.2]; decide

/-- The time from which a key is used. -/
def introTimestampOf (introTimeInSecondsFromEpoch : UInt64) : TicketM UInt64 :=
  if introTimeInSecondsFromEpoch = 0 then configWallClock
  else return introTimeInSecondsFromEpoch * oneSecInNanos

def sizeOfTicketKey : ℕ := 72

/-- The part of `s2n_config_add_ticket_crypto_key` after the checks of the lengths. -/
def addCheckedTicketCryptoKey (lib : TicketLib) (name key : List UInt8)
    (h : name.length ≤ ticketKeyNameLen) (introTimeInSecondsFromEpoch : UInt64) : TicketM Unit := do
  ensure (lib.malloc sizeOfTicketKey = true) .alloc
  match lib.hkdf key with
  | none => throw .hkdf
  | some out =>
    let introTimestamp ← introTimestampOf introTimeInSecondsFromEpoch
    storeTicketKey lib.malloc (ticketKeyOf name h out introTimestamp)

/-- The part of `s2n_config_add_ticket_crypto_key` for a config that uses its keys. -/
def addNewTicketCryptoKey (lib : TicketLib) (name key : List UInt8)
    (introTimeInSecondsFromEpoch : UInt64) : TicketM Unit := do
  wipeExpiredTicketCryptoKeys none
  ensure (key.length ≠ 0) .invalidTicketKeyLength
  let ticketKeysLen ← onTicketKeys numElements
  ensure (ticketKeysLen < maxTicketKeys) .ticketKeyLimit
  ensure (name.length ≠ 0) .invalidTicketKeyNameOrNameLength
  if h : name.length ≤ ticketKeyNameLen then
    addCheckedTicketCryptoKey lib name key h introTimeInSecondsFromEpoch
  else throw .invalidTicketKeyNameOrNameLength

def addTicketCryptoKey (lib : TicketLib) (name key : List UInt8)
    (introTimeInSecondsFromEpoch : UInt64) : TicketM Unit := do
  let c ← get
  if !c.useTickets && !c.useSessionCache then return
  else addNewTicketCryptoKey lib name key introTimeInSecondsFromEpoch

/-! ### Choosing and finding a key -/

/-- The loop of `s2n_get_ticket_encrypt_decrypt_key`, from the last key to the first. -/
def encryptDecryptKeys (c : TicketConfig) (now : UInt64) : List TicketKey :=
  c.keys.reverse.filter fun key =>
    decide (key.introTimestamp ≤ now ∧ now < key.introTimestamp + c.encryptDecryptKeyLifetimeInNanos)

/-- `s2n_get_ticket_encrypt_decrypt_key`. If there are several keys, which one is taken depends on
weights and a random number: `pick` is the place among them, or `none` for an error. -/
def getTicketEncryptDecryptKey (pick : Option ℕ) : TicketM TicketKey := do
  let now ← configWallClock
  let c ← get
  ensure (c.ticketKeys.isSome = true) .null
  match encryptDecryptKeys c now with
  | [] => throw .noTicketEncryptDecryptKey
  | [key] => return key
  | keys =>
    match pick.bind (keys[·]?) with
    | none => throw .encryptDecryptKeySelectionFailed
    | some key => return key

/-- The loop of `s2n_find_ticket_key`. -/
def findByName (expired : TicketKey → Bool) (name : List UInt8) : List TicketKey → Option TicketKey
  | [] => none
  | key :: rest =>
    if key.keyName = name then
      if expired key then none else some key
    else findByName expired name rest

/-- `s2n_find_ticket_key`: `none` is the result `NULL`, as which a caller sees an error, too. -/
def findTicketKey (name : List UInt8) : TicketM (Option TicketKey) := do
  let now ← configWallClock
  let c ← get
  ensure (c.ticketKeys.isSome = true) .null
  return findByName (fun key => decide (now ≥ c.expiry key)) name c.keys

end S2nTls
