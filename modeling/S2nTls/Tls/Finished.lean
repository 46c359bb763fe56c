import S2nTls.Stuffer.Queue
import S2nTls.Tls.Connection

/-!
The Finished message (`tls/s2n_server_finished.c`, `tls/s2n_client_finished.c`, the finished
values of `tls/s2n_prf.c`, `s2n_tls13_mac_verify`).

Up to TLS1.2 the verify data is computed by the PRF and compared with a prefix of the message. In
TLS1.3 it is a MAC under the finished key, and the length of the message goes through a `uint8_t`
before it is compared.
-/

namespace S2nTls

open Lib Stuffer

variable {K : Type}

/-! ### Verify data up to TLS1.2 -/

/-- `S2N_TLS_SECRET_LEN`, the size of `server_finished` and of `client_finished`. -/
def tlsSecretLen : ℕ := 48

/-- The length of the verify data: `S2N_SSL_FINISHED_LEN` or `S2N_TLS_FINISHED_LEN`. -/
def finishedLength (version : ℕ) : ℕ := if version = sslv3 then 36 else 12

/-- The finished field of the side `m`. -/
def Handshake.finished (h : Handshake) : Mode → ℕ → UInt8
  | .client => h.clientFinished
  | .server => h.serverFinished

def Handshake.setFinished (h : Handshake) (m : Mode) (bs : List UInt8) : Handshake :=
  match m with
  | .client => { h with clientFinished := overwrite h.clientFinished 0 bs }
  | .server => { h with serverFinished := overwrite h.serverFinished 0 bs }

def setFinishedLen (len : ℕ) : ConnM K Unit := do
  ensure (0 < len) .safety
  ensure (len ≤ tlsSecretLen) .safety
  modify fun c => if c.handshake.finishedLen = 0 then
    { c with handshake := { c.handshake with finishedLen := len } } else c
  ensure ((← get).handshake.finishedLen = len) .safety

/-- What `s2n_prf_sslv3_finished` computes with one of the two hashes. -/
def sslv3FinishedHash (lib : CryptoLib) (alg : HashAlg) (transcript master sender : List UInt8)
    (padLength : ℕ) : List UInt8 :=
  let inner := lib.hash alg (transcript ++ sender ++ master ++ List.replicate padLength 0x36)
  lib.hash alg (master ++ List.replicate padLength 0x5c ++ inner)

/-- The label of the side `m` in SSLv3 and in TLS. -/
def finishedSender : Mode → List UInt8
  | .client => [0x43, 0x4c, 0x4e, 0x54]
  | .server => [0x53, 0x52, 0x56, 0x52]

def finishedLabel : Mode → List UInt8
  | .client => labelBytes "client finished"
  | .server => labelBytes "server finished"

/-- The hash of the transcript that goes into the PRF, for the algorithm of the cipher suite in
TLS1.2 and for MD5 and SHA1 before. -/
def finishedSeed (c : Conn K) : Except Err (List UInt8) :=
  let digest (a : HashAlg) := c.env.lib.hash a (c.handshake.hashes a)
  if c.actualProtocolVersion = tls12 then
    match c.crypto.secure.cipherSuite.prfAlg with
    | .sha256 => .ok (digest .sha256)
    | .sha384 => .ok (digest .sha384)
    | _ => .error .prfInvalidAlgorithm
  else .ok (digest .md5 ++ digest .sha1)

/-- The verify data of the side `m`, from a state of the transcript hashes. -/
def prfVerifyData (c : Conn K) (m : Mode) : Except Err (List UInt8) :=
  let master := c.secrets.masterSecret
  if c.actualProtocolVersion = sslv3 then
    .ok (sslv3FinishedHash c.env.lib .md5 (c.handshake.hashes .md5) master (finishedSender m) 48 ++
      sslv3FinishedHash c.env.lib .sha1 (c.handshake.hashes .sha1) master (finishedSender m) 40)
  else (finishedSeed c).map fun seed =>
    c.env.lib.prf c.actualProtocolVersion c.crypto.secure.cipherSuite.prfAlg master (finishedLabel m)
      seed (finishedLength c.actualProtocolVersion)

/-- `s2n_prf_client_finished` and `s2n_prf_server_finished`. -/
def prfFinished (m : Mode) : ConnM K Unit := do
  let c ← get
  setFinishedLen (finishedLength c.actualProtocolVersion)
  let bs ← MonadExcept.ofExcept (prfVerifyData c m)
  ensure (c.env.fault .hash = false) .hashCopyFailed
  when (c.actualProtocolVersion ≠ sslv3) do ensure (c.env.fault .kdf = false) .prfDerive
  modify fun c => { c with handshake := c.handshake.setFinished m bs }

/-! ### Receiving -/

def finishedRecv (localVerifyData : ℕ → UInt8) : ConnM K Unit := do
  let c ← get
  let length := c.handshake.finishedLen
  ensure (length = finishedLength c.actualProtocolVersion) .safety
  match ← onIo (rawRead length) with
  | none => throw .null
  | some ptr =>
    ensure (slice localVerifyData 0 length = slice c.handshake.io.blob.data ptr length) .badMessage

/-- `s2n_server_finished_recv`: the verify data was computed when the server's change cipher spec
message was received. -/
def serverFinishedRecv : ConnM K Unit := do
  finishedRecv (← get).handshake.serverFinished

def clientFinishedRecv : ConnM K Unit := do
  prfFinished .client
  finishedRecv (← get).handshake.clientFinished
  ensure ((← get).handshake.rsaFailed = false) .badMessage

def tls13MacVerify (size : ℕ) (finishedVerify wireVerify : List UInt8) : ConnM K Unit := do
  ensure (wireVerify.length = size) .safety
  ensure (finishedVerify.take size = wireVerify.take size) .badMessage

/-- `s2n_tls13_calculate_finished_mac`, for the finished key of the side `m`. -/
def tls13FinishedMac (c : Conn K) (m : Mode) : List UInt8 :=
  let alg := c.crypto.secure.cipherSuite.prfAlg
  c.env.lib.hkdfExtract alg (slice (c.handshake.finished m) 0 alg.digestSize)
    (c.env.lib.hash alg.hashAlg (c.handshake.hashes alg.hashAlg))

/-- `s2n_tls13_server_finished_recv` and `s2n_tls13_client_finished_recv`. The length of the
message is kept in a `uint8_t`. -/
def tls13FinishedRecv (m : Mode) : ConnM K Unit := do
  let c ← get
  ensure (c.actualProtocolVersion = tls13) .safety
  let length := c.handshake.io.dataAvailable % 2 ^ 8
  ensure (length ≠ 0) .badMessage
  match ← onIo (rawRead length) with
  | none => throw .safety
  | some ptr =>
    let alg := c.crypto.secure.cipherSuite.prfAlg
    ensure (alg.hashAlg ≠ .none) .hashInvalidAlgorithm
    ensure (c.env.fault .hash = false) .hashCopyFailed
    ensure (alg.digestSize ≤ tlsSecretLen) .safety
    ensure (c.env.fault .kdf = false) .hkdf
    tls13MacVerify alg.digestSize (tls13FinishedMac c m) (slice c.handshake.io.blob.data ptr length)

def tls13ServerFinishedRecv : ConnM K Unit := tls13FinishedRecv .server
def tls13ClientFinishedRecv : ConnM K Unit := tls13FinishedRecv .client

/-! ### Which messages are accepted -/

/-- The handlers of the Finished message. -/
inductive FinishedHandler
  | server | client | tls13Server | tls13Client
  deriving DecidableEq, Repr

namespace FinishedHandler

def recv : FinishedHandler → ConnM K Unit
  | .server => serverFinishedRecv
  | .client => clientFinishedRecv
  | .tls13Server => tls13ServerFinishedRecv
  | .tls13Client => tls13ClientFinishedRecv

def isTls13 : FinishedHandler → Bool
  | .server | .client => false
  | .tls13Server | .tls13Client => true

/-- The verify data that the handler compares with. -/
def expected (h : FinishedHandler) (c : Conn K) : List UInt8 :=
  match h with
  | .server => slice c.handshake.serverFinished 0 (finishedLength c.actualProtocolVersion)
  | .client => (prfVerifyData c .client).toOption.getD []
  | .tls13Server => tls13FinishedMac c .server
  | .tls13Client => tls13FinishedMac c .client

/-- What the handler asks of the connection, whatever the message is. -/
def Ready (h : FinishedHandler) (c : Conn K) : Prop :=
  let alg := c.crypto.secure.cipherSuite.prfAlg
  let length := finishedLength c.actualProtocolVersion
  match h with
  | .server => c.handshake.finishedLen = length
  | .client => (c.handshake.finishedLen = 0 ∨ c.handshake.finishedLen = length) ∧
      (∃ bs, prfVerifyData c .client = .ok bs) ∧ c.env.fault .hash = false ∧
      (c.actualProtocolVersion ≠ sslv3 → c.env.fault .kdf = false) ∧ c.handshake.rsaFailed = false
  | .tls13Server | .tls13Client => c.actualProtocolVersion = tls13 ∧ alg.hashAlg ≠ .none ∧
      alg.digestSize ≤ tlsSecretLen ∧ c.env.fault .hash = false ∧ c.env.fault .kdf = false

end FinishedHandler

section Recv

/-- The Finished message without its header. -/
def Conn.body (c : Conn K) : List UInt8 := c.handshake.io.unread

variable (c : Conn K)

lemma compare_iff {v : List UInt8} {n : ℕ} (hv : v.length = n) :
    n ≤ c.handshake.io.dataAvailable ∧ v = slice c.handshake.io.blob.data c.handshake.io.readCursor n ↔
    ∃ tail, c.body = v ++ tail := by
  subst hv
  constructor
  · rintro ⟨hle, h⟩
    rw [← take_unread hle] at h
    refine ⟨c.body.drop v.length, ?_⟩
    calc c.body = c.body.take v.length ++ c.body.drop v.length := (List.take_append_drop _ _).symm
      _ = v ++ c.body.drop v.length := congrArg (· ++ _) h.symm
  · rintro ⟨tail, h⟩
    have hle : v.length ≤ c.handshake.io.dataAvailable := by
      rw [← unread_length]
      have := congrArg List.length h
      rw [List.length_append] at this
      exact this ▸ Nat.le_add_right _ _
    refine ⟨hle, ?_⟩
    rw [← take_unread hle]
    exact (h ▸ List.take_left).symm

lemma finishedLength_pos (version : ℕ) : 0 < finishedLength version := by
  unfold finishedLength
  split <;> decide

lemma finishedRecv_ok_iff (v : ℕ → UInt8) :
    wp (finishedRecv v) (fun _ _ => True) noError c ↔
      c.handshake.finishedLen = finishedLength c.actualProtocolVersion ∧
      ∃ tail, c.body = slice v 0 (finishedLength c.actualProtocolVersion) ++ tail := by
  rw [← compare_iff c (slice_length v 0 _)]
  unfold finishedRecv
  rw [wp_read, wp_bind, wp_ensure]
  by_cases hlen : c.handshake.finishedLen = finishedLength c.actualProtocolVersion
  · rw [wp_bind, onIo, wp_zoom, hlen, wp_rawRead (finishedLength_pos _)]
    by_cases hle : finishedLength c.actualProtocolVersion ≤ c.handshake.io.dataAvailable
    · simp [hle]
    · simp [hle]
  · simp [hlen]

lemma prfVerifyData_length {c : Conn K} {m : Mode} {bs : List UInt8}
    (h : prfVerifyData c m = .ok bs) : bs.length = finishedLength c.actualProtocolVersion := by
  unfold prfVerifyData at h
  split at h
  · rename_i hv
    cases h
    simp only [List.length_append, sslv3FinishedHash, CryptoLib.hash_length, hv]
    rfl
  · cases hs : finishedSeed c with
    | ok seed =>
      rw [hs] at h
      cases h
      exact CryptoLib.prf_length _ _ _ _ _ _ _
    | error e =>
      rw [hs] at h
      cases h

lemma finishedLength_le (version : ℕ) : finishedLength version ≤ tlsSecretLen := by
  unfold finishedLength
  split <;> decide

/-- The connection after `s2n_prf_client_finished` or `s2n_prf_server_finished`. -/
def Conn.withVerifyData (c : Conn K) (m : Mode) (bs : List UInt8) : Conn K :=
  { c with handshake := { c.handshake with
      finishedLen := finishedLength c.actualProtocolVersion }.setFinished m bs }

section WithVerifyData

variable (c : Conn K) (m : Mode) (bs : List UInt8)

@[simp] lemma version_withVerifyData :
    (c.withVerifyData m bs).actualProtocolVersion = c.actualProtocolVersion := rfl

@[simp] lemma finishedLen_withVerifyData :
    (c.withVerifyData m bs).handshake.finishedLen = finishedLength c.actualProtocolVersion := by
  cases m <;> rfl

@[simp] lemma body_withVerifyData : (c.withVerifyData m bs).body = c.body := by
  cases m <;> rfl

@[simp] lemma rsaFailed_withVerifyData :
    (c.withVerifyData m bs).handshake.rsaFailed = c.handshake.rsaFailed := by
  cases m <;> rfl

end WithVerifyData

lemma wp_setFinishedLen {n : ℕ} (hpos : 0 < n) (hle : n ≤ tlsSecretLen) (c : Conn K)
    {Q : Conn K → Prop} :
    wp (setFinishedLen n) (fun _ => Q) noError c ↔
      (c.handshake.finishedLen = 0 ∨ c.handshake.finishedLen = n) ∧
      Q { c with handshake := { c.handshake with finishedLen := n } } := by
  unfold setFinishedLen
  simp only [wp_bind, wp_ensure, wp_modify, wp_get, hpos, hle, forall_const, not_true, false_imp_iff,
    and_true]
  by_cases h0 : c.handshake.finishedLen = 0
  · simp [h0]
  · by_cases hn : c.handshake.finishedLen = n
    · simp [h0, ← hn]
    · simp [h0, hn]

lemma wp_prfFinished (m : Mode) (c : Conn K) {Q : Conn K → Prop} :
    wp (prfFinished m) (fun _ => Q) noError c ↔ (c.handshake.finishedLen = 0 ∨
        c.handshake.finishedLen = finishedLength c.actualProtocolVersion) ∧
      c.env.fault .hash = false ∧ (c.actualProtocolVersion ≠ sslv3 → c.env.fault .kdf = false) ∧
      ∃ bs, prfVerifyData c m = .ok bs ∧ Q (c.withVerifyData m bs) := by
  unfold prfFinished
  rw [wp_read, wp_bind, wp_setFinishedLen (finishedLength_pos _) (finishedLength_le _)]
  refine and_congr_right fun _ => ?_
  rw [wp_bind]
  cases prfVerifyData c m with
  | error e => simp [MonadExcept.ofExcept]
  | ok bs =>
    rw [MonadExcept.ofExcept, wp_pure, wp_bind, wp_ensure]
    by_cases hh : c.env.fault .hash = false
    · rw [wp_bind, wp_when, wp_ensure]
      by_cases hv : c.actualProtocolVersion = sslv3
      · simp [hh, hv, Conn.withVerifyData]
      · by_cases hk : c.env.fault .kdf = false
        · simp [hh, hk, hv, Conn.withVerifyData]
        · simp [hh, hk, hv]
    · simp [hh]

lemma frames_finishedRecv (v : ℕ → UInt8) :
    Frames (fun c : Conn K => c.handshake.rsaFailed) (finishedRecv v) := by
  unfold finishedRecv
  refine Frames.read fun c => Frames.bind (Frames.ensure _ _) fun _ => ?_
  refine Frames.bind ?_ fun p => ?_
  · unfold onIo
    apply Frames.zoom
    intro _ _
    rfl
  · cases p with
    | none => exact Frames.throw _
    | some ptr => exact Frames.ensure _ _

lemma clientFinishedRecv_ok_iff :
    wp clientFinishedRecv (fun _ _ => True) noError c ↔ FinishedHandler.client.Ready c ∧
      ∃ tail, c.body = FinishedHandler.client.expected c ++ tail := by
  unfold clientFinishedRecv
  rw [wp_bind, wp_prfFinished]
  cases hdata : prfVerifyData c .client with
  | error e => simp [FinishedHandler.Ready, hdata]
  | ok bs =>
    have hslice : slice (c.withVerifyData .client bs).handshake.clientFinished 0
        (finishedLength c.actualProtocolVersion) = bs := by
      rw [← prfVerifyData_length hdata]
      exact slice_overwrite c.handshake.clientFinished 0 bs
    have hrecv : wp (finishedRecv (c.withVerifyData .client bs).handshake.clientFinished)
        (fun _ c' => c'.handshake.rsaFailed = false) noError
        (c.withVerifyData .client bs) ↔
        (∃ tail, c.body = bs ++ tail) ∧ c.handshake.rsaFailed = false := by
      rw [(frames_finishedRecv _).wp_iff (· = false), finishedRecv_ok_iff]
      simp [hslice]
    simp only [wp_get, wp_bind, wp_ensure, implies_true, true_and, imp_false, not_not,
      Except.ok.injEq, exists_eq_left', hrecv, FinishedHandler.Ready, FinishedHandler.expected, hdata,
      Except.toOption, Option.getD_some, exists_eq']
    constructor
    · rintro ⟨hlen, hh, hk, htail, hrsa⟩
      exact ⟨⟨hlen, hh, hk, hrsa⟩, htail⟩
    · rintro ⟨⟨hlen, hh, hk, hrsa⟩, htail⟩
      exact ⟨hlen, hh, hk, htail, hrsa⟩

lemma tls13FinishedMac_length (m : Mode) :
    (tls13FinishedMac c m).length = c.crypto.secure.cipherSuite.prfAlg.digestSize :=
  CryptoLib.hkdfExtract_length _ _ _ _

lemma HmacAlg.digestSize_pos {alg : HmacAlg} (h : alg.hashAlg ≠ .none) : 0 < alg.digestSize := by
  cases alg <;> first | decide | exact absurd rfl h

lemma compare_mod_iff {v : List UInt8} (hpos : 0 < v.length) (hlt : v.length < 256) :
    c.handshake.io.dataAvailable % 2 ^ 8 = v.length ∧
      v = slice c.handshake.io.blob.data c.handshake.io.readCursor v.length ↔
    ∃ tail, c.body = v ++ tail ∧ 256 ∣ tail.length := by
  constructor
  · rintro ⟨hlen, h⟩
    have hle : v.length ≤ c.handshake.io.dataAvailable := hlen ▸ Nat.mod_le _ _
    obtain ⟨tail, htail⟩ := (compare_iff c rfl).mp ⟨hle, h⟩
    refine ⟨tail, htail, ?_⟩
    have := congrArg List.length htail
    rw [Conn.body, unread_length, List.length_append] at this
    omega
  · rintro ⟨tail, htail, hdvd⟩
    obtain ⟨hle, h⟩ := (compare_iff c rfl).mpr ⟨tail, htail⟩
    refine ⟨?_, h⟩
    have := congrArg List.length htail
    rw [Conn.body, unread_length, List.length_append] at this
    omega

lemma tls13FinishedRecv_ok_iff (m : Mode) (c : Conn K) :
    wp (tls13FinishedRecv m) (fun _ _ => True) noError c ↔ FinishedHandler.tls13Server.Ready c ∧
      ∃ tail, c.body = tls13FinishedMac c m ++ tail ∧ 256 ∣ tail.length := by
  have hlen := tls13FinishedMac_length c m
  generalize hmac : tls13FinishedMac c m = mac at hlen ⊢
  have hcompare (halg : c.crypto.secure.cipherSuite.prfAlg.hashAlg ≠ .none)
      (hsize : c.crypto.secure.cipherSuite.prfAlg.digestSize ≤ tlsSecretLen) :=
    compare_mod_iff c (v := mac) (hlen ▸ HmacAlg.digestSize_pos halg)
      (hlen ▸ hsize.trans_lt (by decide))
  rw [hlen] at hcompare
  unfold tls13FinishedRecv tls13MacVerify
  simp only [wp_bind, wp_get, wp_ensure_ok]
  by_cases hn : c.handshake.io.dataAvailable % 2 ^ 8 ≠ 0
  · rw [onIo, wp_zoom, wp_rawRead (Nat.pos_of_ne_zero hn)]
    simp only [Nat.mod_le, not_true, false_imp_iff, and_true, forall_const, wp_bind, wp_ensure_ok,
      slice_length, hmac, true_and, ne_eq, hn, not_false_iff]
    constructor
    · rintro ⟨hv, halg, hh, hsize, hk, hlength, heq⟩
      refine ⟨⟨hv, halg, hsize, hh, hk⟩, (hcompare halg hsize).mp ⟨hlength, ?_⟩⟩
      rwa [hlength, List.take_of_length_le hlen.le, List.take_of_length_le (by simp)] at heq
    · rintro ⟨⟨hv, halg, hsize, hh, hk⟩, htail⟩
      obtain ⟨hlength, heq⟩ := (hcompare halg hsize).mpr htail
      refine ⟨hv, halg, hh, hsize, hk, hlength, ?_⟩
      rwa [hlength, List.take_of_length_le hlen.le, List.take_of_length_le (by simp)]
  · -- a message of length 0 modulo 256 is refused, and no such message is the verify data
    refine ⟨fun h => absurd h.2.1 hn, ?_⟩
    rintro ⟨⟨hv, halg, hsize, hh, hk⟩, htail⟩
    have hlength := ((hcompare halg hsize).mpr htail).1
    have := HmacAlg.digestSize_pos halg
    omega

/-- The handlers accept the expected verify data and whatever begins with it, in TLS1.3 if the
rest is a multiple of 256 bytes. -/
theorem FinishedHandler.recv_ok_iff (h : FinishedHandler) (c : Conn K) :
    (∃ c', h.recv.run c = .ok () c') ↔
      h.Ready c ∧ ∃ tail, c.body = h.expected c ++ tail ∧ (h.isTls13 = true → 256 ∣ tail.length) := by
  have hok : (∃ c', h.recv.run c = .ok () c') ↔ wp h.recv (fun _ _ => True) noError c := by
    unfold wp
    cases h.recv.run c <;> simp
  rw [hok]
  cases h with
  | server =>
    simp only [isTls13, Bool.false_eq_true, false_imp_iff, and_true]
    exact finishedRecv_ok_iff c _
  | client =>
    simp only [isTls13, Bool.false_eq_true, false_imp_iff, and_true]
    exact clientFinishedRecv_ok_iff c
  | tls13Server =>
    simp only [isTls13, forall_const]
    exact tls13FinishedRecv_ok_iff .server c
  | tls13Client =>
    simp only [isTls13, forall_const]
    exact tls13FinishedRecv_ok_iff .client c

/-- **A Finished message is accepted only if it is the verify data**, exactly when it is not the
verify data with something appended: anything up to TLS1.2, a multiple of 256 bytes in TLS1.3. -/
theorem finished_accepted_only_if_expected_iff (h : FinishedHandler) (c : Conn K) :
    ((∃ c', h.recv.run c = .ok () c') → c.body = h.expected c) ↔
      ¬ (h.Ready c ∧ ∃ tail, tail ≠ [] ∧ c.body = h.expected c ++ tail ∧
        (h.isTls13 = true → 256 ∣ tail.length)) := by
  rw [h.recv_ok_iff c]
  constructor
  · rintro hexact ⟨hready, tail, hne, htail, hdvd⟩
    have heq : h.expected c ++ tail = h.expected c :=
      htail.symm.trans (hexact ⟨hready, tail, htail, hdvd⟩)
    exact hne (by simpa using heq)
  · rintro hnot ⟨hready, tail, htail, hdvd⟩
    by_cases hne : tail = []
    · rw [htail, hne, List.append_nil]
    · exact absurd ⟨hready, tail, hne, htail, hdvd⟩ hnot

/-- A client that expects the Finished message of its server and has received `n` zeros for it. All
the hashes and keys are zeros too. -/
def clientWithFinished (version n : ℕ) (h : n < 2 ^ 32) : Conn Unit where
  mode := .client
  actualProtocolVersion := version
  crypto :=
    { initial := CryptoParameters.new ()
      secure := ⟨copyingCipherSuite, CryptoSide.new (), CryptoSide.new ()⟩ }
  handshake :=
    { finishedLen := 12
      io := Stuffer.initWritten ⟨fun _ => 0, n, false, fun h => Bool.noConfusion h, h⟩ }

/-- **Longer messages are accepted**: one of 13 bytes in TLS1.2, and one of 288 bytes in TLS1.3
with SHA256. -/
theorem longer_finished_accepted :
    (∃ c', FinishedHandler.server.recv.run (clientWithFinished tls12 13 (by decide)) = .ok () c') ∧
    (FinishedHandler.server.expected (clientWithFinished tls12 13 (by decide))).length = 12 ∧
    (clientWithFinished tls12 13 (by decide)).body.length = 13 ∧
    (∃ c', FinishedHandler.tls13Server.recv.run (clientWithFinished tls13 288 (by decide)) = .ok () c') ∧
    (FinishedHandler.tls13Server.expected (clientWithFinished tls13 288 (by decide))).length = 32 ∧
    (clientWithFinished tls13 288 (by decide)).body.length = 288 :=
  ⟨⟨_, rfl⟩, rfl, rfl, ⟨_, rfl⟩, rfl, unread_length _⟩

end Recv

end S2nTls
