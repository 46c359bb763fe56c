import S2nTls.Crypto.Hmac
import S2nTls.Lib.Calls
import S2nTls.Stuffer.Fixed
import S2nTls.Tls.Parameters

/-!
The key derivations that the library does itself (`s2n_prf_custom` of `tls/s2n_prf.c`, `s2n_custom_hkdf` of
`crypto/s2n_hkdf.c`).

Both loops feed one HMAC again and again. What they compute are P_hash of RFC 5246 and T of RFC 5869, but an update of
the HMAC takes no more than 17535 bytes, and the number of a round is the first byte of an integer in memory.
-/

namespace S2nTls

open Lib

variable {st : HmacState} {pieces : List (List UInt8)} {mac : List UInt8 → List UInt8} {d : ℕ}

/-- HMAC, as a function of key and message for each algorithm. -/
structure Hmac where
  mac : HmacAlg → (key message : List UInt8) → List UInt8
  mac_length : ∀ alg k m, (mac alg k m).length = alg.digestSize

namespace HmacState

def noFault : Fault → Bool := fun _ => false

def init (H : Hmac) (alg : HmacAlg) (key : List UInt8) : EStateM Err HmacState Unit :=
  set ({ alg, mac := H.mac alg key, mac_length := H.mac_length alg key, fed := [], ready := true } : HmacState)

/-- One update for each piece. -/
def updates : List (List UInt8) → EStateM Err HmacState Unit
  | [] => return
  | piece :: pieces => do
    update noFault piece
    updates pieces

/-- Every piece is one that an update takes. -/
def Fits (pieces : List (List UInt8)) : Prop := ∀ piece ∈ pieces, piece.length ≤ maxUpdate

lemma fits_cons {piece : List UInt8} :
    Fits (piece :: pieces) ↔ piece.length ≤ maxUpdate ∧ Fits pieces := List.forall_mem_cons

lemma wp_updates (h : st.ready = true) :
    wp (updates pieces) (fun _ st' => st' = { st with fed := st.fed ++ pieces.flatten } ∧ Fits pieces)
      (fun _ _ => ¬ Fits pieces) st := by
  induction pieces generalizing st with
  | nil =>
    exact ⟨by simp, by simp [Fits]⟩
  | cons piece pieces ih =>
    unfold updates update
    rw [wp_bind]
    refine wp_seq_ensure (fun hle => ?_) fun hlong hfits => hlong (fits_cons.mp hfits).1
    refine wp_ensured h ?_
    refine wp_ensured rfl ?_
    rw [wp_set]
    refine wp_mono (fun _ st' hst => ?_) (fun _ _ hnot hfits => hnot (fits_cons.mp hfits).2) (ih h)
    exact ⟨by rw [hst.1, List.flatten_cons, List.append_assoc], fits_cons.mpr ⟨hle, hst.2⟩⟩

variable {R : Err → HmacState → Prop}

/-- **One HMAC** of a state that was initialised or reset. -/
lemma wp_updates_digest (h : st.ready = true) (hfed : st.fed = [])
    {Q : List UInt8 → HmacState → Prop} {k : List UInt8 → EStateM Err HmacState (List UInt8)}
    (hok : Fits pieces → ∀ st', st'.mac = st.mac → wp (k (st.mac pieces.flatten)) Q R st')
    (herr : ∀ e st', ¬ Fits pieces → R e st') :
    wp (do updates pieces; k (← digest noFault)) Q R st := by
  refine wp_seq (wp_updates h) (fun _ st' hst => ?_) fun e st' hnot => herr e st' hnot
  obtain ⟨rfl, hfits⟩ := hst
  unfold digest
  rw [wp_bind]
  refine wp_ensured h ?_
  rw [wp_bind, wp_set]
  refine wp_ensured rfl ?_
  rw [wp_pure, hfed]
  exact hok hfits _ rfl

lemma wp_reset_bind {α : Type} {Q : α → HmacState → Prop}
    {k : EStateM Err HmacState α} (h : wp k Q R { st with fed := [], ready := true, intact := true }) :
    wp (do reset noFault; k) Q R st := by
  unfold reset
  rw [wp_bind, wp_update]
  refine wp_ensured rfl ?_
  exact h

end HmacState

open HmacState

/-! ### The PRF -/

/-- What `s2n_p_hash` feeds for the label and the seeds. -/
def pHashInput (label seedA : List UInt8) (seedB seedC : Option (List UInt8)) : List (List UInt8) :=
  label :: seedA :: match seedB with
    | none => []
    | some seedB => seedB :: seedC.toList

/-- The loop of `s2n_p_hash`: `output` is the part that is still to be written. -/
def pHashLoop (alg : HmacAlg) (input : List (List UInt8)) :
    (fuel : ℕ) → (digest0 output : List UInt8) → EStateM Err HmacState (List UInt8)
  | 0, _, output => return output
  | fuel + 1, digest0, output => do
    if output.length = 0 then return []
    else
      reset noFault
      updates (digest0 :: input)
      let digest1 ← digest noFault
      let bytesToXor := min output.length alg.digestSize
      reset noFault
      updates [digest0]
      let digest0 ← digest noFault
      let rest ← pHashLoop alg input fuel digest0 (output.drop bytesToXor)
      return List.zipWith (· ^^^ ·) (output.take bytesToXor) digest1 ++ rest

/-- `s2n_p_hash`: each round writes a byte at least, so that the size of the output bounds their number. -/
def pHash (H : Hmac) (alg : HmacAlg) (secret : List UInt8) (input : List (List UInt8)) (out : List UInt8) :
    EStateM Err HmacState (List UInt8) := do
  init H alg secret
  updates input
  let digest0 ← digest noFault
  let out ← pHashLoop alg input out.length digest0 out
  reset noFault
  return out

/-- The fields of a connection for the PRF. All suites use one of two hashes. -/
structure PrfConn where
  actualProtocolVersion : ℕ
  prfAlg : HmacAlg
  isTls : actualProtocolVersion = tls10 ∨ actualProtocolVersion = tls11 ∨ actualProtocolVersion = tls12
  prfAlg_valid : prfAlg = .sha256 ∨ prfAlg = .sha384

/-- `s2n_prf_custom`; the size of the half is computed in a `uint32_t`. -/
def prfCustom (H : Hmac) (c : PrfConn) (secret label seedA : List UInt8) (seedB seedC : Option (List UInt8)) (n : ℕ) :
    EStateM Err HmacState (List UInt8) := do
  let out := List.replicate n 0
  let input := pHashInput label seedA seedB seedC
  if c.actualProtocolVersion = tls12 then pHash H c.prfAlg secret input out
  else
    let half := (secret.length + 1) % 2 ^ 32 / 2
    let out ← pHash H .md5 (secret.take half) input out
    pHash H .sha1 ((secret.drop (secret.length - half)).take half) input out

/-- `s2n_prf`, but for SSLv3 and FIPS mode. -/
def prf (H : Hmac) (c : PrfConn) (secret label : List UInt8) (seedA seedB seedC : Option (List UInt8)) (n : ℕ) :
    EStateM Err HmacState (List UInt8) :=
  match seedA with
  | none => throw .prfInvalidSeed
  | some seedA => do
    ensure (seedC.isSome = true → seedB.isSome = true) .prfInvalidSeed
    prfCustom H c secret label seedA seedB seedC n

/-- `A(i)` of RFC 5246, section 5. -/
def rfcA (mac : List UInt8 → List UInt8) (seed : List UInt8) : ℕ → List UInt8
  | 0 => seed
  | i + 1 => mac (rfcA mac seed i)

/-- The blocks of `P_hash` from the `i`-th on. -/
def rfcBlocks (mac : List UInt8 → List UInt8) (seed : List UInt8) (i count : ℕ) : List UInt8 :=
  (List.range count).flatMap fun j => mac (rfcA mac seed (i + j + 1) ++ seed)

/-- `P_hash` of RFC 5246, as many bytes as are needed; a block has one at least. -/
def rfcPHash (mac : List UInt8 → List UInt8) (seed : List UInt8) (n : ℕ) : List UInt8 :=
  (rfcBlocks mac seed 0 n).take n

/-- The PRF of RFC 5246, and that of RFC 4346 for the older versions. -/
def rfcPrf (H : Hmac) (c : PrfConn) (secret seed : List UInt8) (n : ℕ) : List UInt8 :=
  if c.actualProtocolVersion = tls12 then rfcPHash (H.mac c.prfAlg secret) seed n
  else
    let half := (secret.length + 1) / 2
    List.zipWith (· ^^^ ·) (rfcPHash (H.mac .md5 (secret.take half)) seed n)
      (rfcPHash (H.mac .sha1 (secret.drop (secret.length - half))) seed n)

lemma rfcBlocks_succ (mac : List UInt8 → List UInt8) (seed : List UInt8) (i count : ℕ) :
    rfcBlocks mac seed i (count + 1) = mac (rfcA mac seed (i + 1) ++ seed) ++ rfcBlocks mac seed (i + 1) count := by
  simp [rfcBlocks, List.range_succ_eq_map, List.flatMap_map, Nat.add_right_comm i 1, Nat.add_assoc]

lemma zipWith_append_right {α β γ : Type} (f : α → β → γ) (as : List α) (bs cs : List β) :
    List.zipWith f as (bs ++ cs) =
      List.zipWith f (as.take bs.length) bs ++ List.zipWith f (as.drop bs.length) cs := by
  induction bs generalizing as with
  | nil => simp
  | cons b bs ih => cases as <;> simp [ih]

variable {alg : HmacAlg}

/-- **The loop of `s2n_p_hash`** writes one block after the other over the output. -/
lemma wp_pHashLoop {input : List (List UInt8)}
    (hlen : ∀ m, (mac m).length = alg.digestSize) (hpos : 0 < alg.digestSize) (hfits : Fits input) (fuel i : ℕ)
    {output : List UInt8} (hmac : st.mac = mac) (hfuel : output.length ≤ fuel) :
    wp (pHashLoop alg input fuel (rfcA mac input.flatten (i + 1)) output)
      (fun out st' => out = List.zipWith (· ^^^ ·) output (rfcBlocks mac input.flatten i fuel) ∧ st'.mac = mac)
      noError st := by
  induction fuel generalizing i st output with
  | zero =>
    rw [pHashLoop, wp_pure, List.length_eq_zero_iff.mp (Nat.le_zero.mp hfuel)]
    exact ⟨by simp, hmac⟩
  | succ fuel ih =>
    have hdigest : (rfcA mac input.flatten (i + 1)).length ≤ maxUpdate := by
      rw [rfcA, hlen]
      exact alg.digestSize_le.trans (by decide)
    rw [pHashLoop, wp_ite]
    refine ⟨fun hnil => ?_, fun hne => ?_⟩
    · rw [wp_pure, List.length_eq_zero_iff.mp hnil]
      exact ⟨by simp, hmac⟩
    refine wp_reset_bind (wp_updates_digest rfl rfl (fun _ st₁ h₁ => ?_) fun _ _ hnot =>
      hnot (fits_cons.mpr ⟨hdigest, hfits⟩))
    refine wp_reset_bind (wp_updates_digest rfl rfl (fun _ st₂ h₂ => ?_) fun _ _ hnot =>
      hnot (fits_cons.mpr ⟨hdigest, by simp [Fits]⟩))
    have hst₂ : st₂.mac = mac := h₂.trans (h₁.trans hmac)
    rw [show st₁.mac = mac from h₁.trans hmac, List.flatten_cons, List.flatten_nil, List.append_nil]
    refine wp_then (ih (i + 1) hst₂ (by rw [List.length_drop]; omega)) fun rest st' hrest => ?_
    obtain ⟨rfl, hst'⟩ := hrest
    refine ⟨?_, hst'⟩
    have htake : output.take (min output.length alg.digestSize) = output.take alg.digestSize := by
      simp [min_comm]
    have hdrop : output.drop (min output.length alg.digestSize) = output.drop alg.digestSize := by
      rcases le_total output.length alg.digestSize with h | h
      · simp [h]
      · rw [min_eq_right h]
    rw [rfcBlocks_succ, zipWith_append_right, hlen, htake, hdrop, List.flatten_cons]
    rw [show ({ st with fed := [], ready := true, intact := true } : HmacState).mac = mac from hmac]

lemma rfcBlocks_length (hlen : ∀ m, (mac m).length = d) (seed : List UInt8)
    (i count : ℕ) : (rfcBlocks mac seed i count).length = count * d := by
  simp [rfcBlocks, hlen]

lemma rfcPHash_length (hlen : ∀ m, (mac m).length = d) (hpos : 0 < d)
    (seed : List UInt8) (n : ℕ) : (rfcPHash mac seed n).length = n := by
  rw [rfcPHash, List.length_take, rfcBlocks_length hlen]
  exact Nat.min_eq_left (Nat.le_mul_of_pos_right n hpos)

/-- **`s2n_p_hash`** writes `P_hash` over the output. -/
lemma wp_pHash (H : Hmac) (hpos : 0 < alg.digestSize) (secret : List UInt8)
    (input : List (List UInt8)) (out : List UInt8) (st : HmacState) :
    wp (pHash H alg secret input out)
      (fun o _ => o = List.zipWith (· ^^^ ·) out (rfcPHash (H.mac alg secret) input.flatten out.length) ∧ Fits input)
      (fun _ _ => ¬ Fits input) st := by
  unfold pHash HmacState.init
  refine wp_updates_digest rfl rfl (fun hfits st₁ h₁ => ?_) fun _ _ hnot => hnot
  refine wp_sure_then (wp_pHashLoop (H.mac_length alg secret) hpos hfits out.length 0 h₁ le_rfl) fun o st₂ ho => ?_
  have hle : out.length ≤ (rfcBlocks (H.mac alg secret) input.flatten 0 out.length).length := by
    rw [rfcBlocks_length (H.mac_length alg secret)]
    exact Nat.le_mul_of_pos_right _ hpos
  refine wp_reset_bind ?_
  rw [wp_pure, ho.1, rfcPHash, List.zipWith_eq_zipWith_take_min, Nat.min_eq_left hle, List.take_length]
  exact ⟨rfl, hfits⟩

lemma zipWith_xor_zeros (bs : List UInt8) : List.zipWith (· ^^^ ·) (List.replicate bs.length 0) bs = bs := by
  induction bs with
  | nil => rfl
  | cons b bs ih => simp [List.replicate_succ, ih]

lemma wp_prfCustom (H : Hmac) (c : PrfConn) (secret label seedA : List UInt8)
    (seedB seedC : Option (List UInt8)) (n : ℕ)
    (st : HmacState) {half : ℕ} (hhalf : (secret.length + 1) % 2 ^ 32 / 2 = half) :
    wp (prfCustom H c secret label seedA seedB seedC n)
      (fun o _ => (o = if c.actualProtocolVersion = tls12 then
          rfcPHash (H.mac c.prfAlg secret) (pHashInput label seedA seedB seedC).flatten n
        else List.zipWith (· ^^^ ·)
          (rfcPHash (H.mac .md5 (secret.take half)) (pHashInput label seedA seedB seedC).flatten n)
          (rfcPHash (H.mac .sha1 ((secret.drop (secret.length - half)).take half))
            (pHashInput label seedA seedB seedC).flatten n)) ∧ Fits (pHashInput label seedA seedB seedC))
      (fun _ _ => ¬ Fits (pHashInput label seedA seedB seedC)) st := by
  have hfirst : ∀ alg secret (st : HmacState), 0 < alg.digestSize →
      wp (pHash H alg secret (pHashInput label seedA seedB seedC)
      (List.replicate n 0)) (fun o _ => o = rfcPHash (H.mac alg secret) (pHashInput label seedA seedB seedC).flatten n ∧
        Fits (pHashInput label seedA seedB seedC)) (fun _ _ => ¬ Fits (pHashInput label seedA seedB seedC)) st := by
    intro alg secret st hpos
    refine wp_mono_ok (fun o _ ho => ⟨?_, ho.2⟩) (wp_pHash H hpos secret _ _ st)
    have hzeros := zipWith_xor_zeros (rfcPHash (H.mac alg secret) (pHashInput label seedA seedB seedC).flatten n)
    rw [rfcPHash_length (H.mac_length alg secret) hpos] at hzeros
    rw [ho.1, List.length_replicate, hzeros]
  unfold prfCustom
  rw [wp_ite, hhalf]
  refine ⟨fun h => ?_, fun h => ?_⟩
  · rw [if_pos h]
    exact hfirst _ _ _ (by rcases c.prfAlg_valid with h | h <;> rw [h] <;> decide)
  · rw [if_neg h]
    refine wp_then (hfirst .md5 _ _ (by decide)) fun o st' ho => ?_
    obtain ⟨rfl, -⟩ := ho
    have hmd5 := wp_pHash H (show 0 < HmacAlg.sha1.digestSize by decide)
      ((secret.drop (secret.length - half)).take half)
      (pHashInput label seedA seedB seedC)
      (rfcPHash (H.mac .md5 (secret.take half)) (pHashInput label seedA seedB seedC).flatten n) st'
    rwa [rfcPHash_length (H.mac_length .md5 _) (by decide)] at hmd5

/-- The seeds that the PRF takes, and what an update takes of them. -/
def PrfAccepts (label : List UInt8) (seedA seedB seedC : Option (List UInt8)) : Prop :=
  seedA.isSome = true ∧ (seedC.isSome = true → seedB.isSome = true) ∧
    Fits (label :: (seedA.toList ++ (seedB.toList ++ seedC.toList)))

lemma wp_prf (H : Hmac) (c : PrfConn) (secret label : List UInt8) (seedA seedB seedC : Option (List UInt8)) (n : ℕ)
    (st : HmacState) {half : ℕ} (hhalf : (secret.length + 1) % 2 ^ 32 / 2 = half) {seed : List UInt8}
    (hseed : label ++ (seedA.getD [] ++ (seedB.getD [] ++ seedC.getD [])) = seed) :
    wp (prf H c secret label seedA seedB seedC n)
      (fun o _ => (o = if c.actualProtocolVersion = tls12 then rfcPHash (H.mac c.prfAlg secret) seed n
        else List.zipWith (· ^^^ ·) (rfcPHash (H.mac .md5 (secret.take half)) seed n)
          (rfcPHash (H.mac .sha1 ((secret.drop (secret.length - half)).take half)) seed n)) ∧
        PrfAccepts label seedA seedB seedC)
      (fun _ _ => ¬ PrfAccepts label seedA seedB seedC) st := by
  cases seedA with
  | none => exact fun h => nomatch h.1
  | some a =>
    refine wp_seq_ensure (fun hseeds => ?_) fun hnot h => hnot h.2.1
    have hinput : pHashInput label a seedB seedC = label :: ([a] ++ (seedB.toList ++ seedC.toList)) := by
      cases seedB <;> cases seedC <;> simp_all [pHashInput]
    have hflat : (pHashInput label a seedB seedC).flatten = seed := by
      rw [hinput, ← hseed]
      cases seedB <;> cases seedC <;> simp
    have h := wp_prfCustom H c secret label a seedB seedC n st hhalf
    rw [hflat] at h
    refine wp_mono (fun o _ ho => ⟨ho.1, rfl, hseeds, hinput ▸ ho.2⟩) (fun _ _ hnot hacc => hnot ?_) h
    rw [hinput]
    exact hacc.2.2

/-- **The PRF is that of the RFC** if an update of the HMAC takes the label and each seed and no seed is left out
before another one, and fails otherwise. Before TLS1.2 the halves of a secret with the largest size of a `uint32_t`
are not computed. -/
theorem prf_gives_rfcPrf (H : Hmac) (c : PrfConn) (secret label : List UInt8) (seedA seedB seedC : Option (List UInt8))
    (n : ℕ) (st : HmacState) (hsecret : c.actualProtocolVersion = tls12 ∨ secret.length < 2 ^ 32 - 1) :
    Gives (outcome (prf H c secret label seedA seedB seedC n) st) (PrfAccepts label seedA seedB seedC)
      (rfcPrf H c secret (label ++ (seedA.getD [] ++ (seedB.getD [] ++ seedC.getD []))) n) := by
  refine gives_of_wp (wp_mono_ok (fun o _ ho => ⟨ho.1.trans ?_, ho.2⟩)
    (wp_prf H c secret label seedA seedB seedC n st rfl rfl))
  rw [rfcPrf]
  by_cases hver : c.actualProtocolVersion = tls12
  · rw [if_pos hver, if_pos hver]
  · have hlen := hsecret.resolve_left hver
    have hhalf : (secret.length + 1) % 2 ^ 32 / 2 = (secret.length + 1) / 2 := by omega
    rw [hhalf, List.take_of_length_le (l := secret.drop _) (by rw [List.length_drop]; omega)]

def prfConn : PrfConn := ⟨tls12, .sha256, .inr (.inr rfl), sha256_valid⟩

def zeroHmac : Hmac := ⟨CryptoLib.zeros.hkdfExtract, CryptoLib.zeros.hkdfExtract_length⟩

theorem prf_gives_rfcPrf_short : outcome (prf zeroHmac prfConn [1, 2, 3] [4] (some [5]) (some [6]) none 100) .new =
    .ok (rfcPrf zeroHmac prfConn [1, 2, 3] [4, 5, 6] 100) :=
  (prf_gives_rfcPrf zeroHmac prfConn [1, 2, 3] [4] (some [5]) (some [6]) none 100 .new (.inl rfl)).1
    ⟨rfl, by decide, by simp [Fits, maxUpdate]⟩

lemma prf_fails_of_long {H : Hmac} {c : PrfConn} {secret label : List UInt8} {seedA seedB seedC : Option (List UInt8)}
    {n : ℕ} {st : HmacState} (h : maxUpdate < label.length) :
    ∃ e, outcome (prf H c secret label seedA seedB seedC n) st = .error e := by
  refine (gives_of_wp (wp_prf H c secret label seedA seedB seedC n st rfl rfl)).2 fun hacc => ?_
  have hle := hacc.2.2 _ List.mem_cons_self
  omega

/-- A label of 17536 bytes is refused. -/
theorem prf_long_label_refused :
    ∃ e, outcome (prf zeroHmac prfConn [] (List.replicate 17536 0) (some []) none none 1) .new = .error e :=
  prf_fails_of_long (by rw [List.length_replicate]; decide)

/-! ### HKDF -/

inductive ByteOrder
  | little | big
  deriving DecidableEq, Repr

/-- The byte at the address of a `uint32_t`. -/
def firstByte : ByteOrder → ℕ → UInt8
  | .little, i => UInt8.ofNat i
  | .big, i => UInt8.ofNat (i / 2 ^ 24)

/-- The loop of `s2n_custom_hkdf_expand`, with the rounds that are left. What was copied so far is `output`. -/
def hkdfExpandLoop (host : ByteOrder) (H : Hmac) (alg : HmacAlg) (prk info : List UInt8) (size : ℕ) :
    (rounds currRound : ℕ) → (prev output : List UInt8) → EStateM Err HmacState (List UInt8)
  | 0, _, _, output => return output
  | rounds + 1, currRound, prev, output => do
    init H alg prk
    updates ((if currRound ≠ 1 then [prev] else []) ++ [info, [firstByte host currRound]])
    let prev ← digest noFault
    let catLen := if output.length + alg.digestSize > size then size - output.length else alg.digestSize
    reset noFault
    hkdfExpandLoop host H alg prk info size rounds (currRound + 1) prev (output ++ prev.take catLen)

def maxHkdfRounds : ℕ := 255

/-- `s2n_custom_hkdf_expand`; the buffer for `prev` is not read in the first round. -/
def customHkdfExpand (host : ByteOrder) (H : Hmac) (alg : HmacAlg) (prk info : List UInt8) (size : ℕ) :
    EStateM Err HmacState (List UInt8) := do
  let hashLen := alg.digestSize
  ensure (hashLen > 0) .safety
  let totalRounds := size / hashLen + if size % hashLen = 0 then 0 else 1
  ensure (totalRounds > 0) .hkdfOutputSize
  ensure (totalRounds ≤ maxHkdfRounds) .hkdfOutputSize
  hkdfExpandLoop host H alg prk info size totalRounds 1 [] []

def customHkdfExtract (H : Hmac) (alg : HmacAlg) (salt key : List UInt8) (prkSize : ℕ) :
    EStateM Err HmacState (List UInt8) := do
  ensure (alg.digestSize ≤ prkSize) .hkdfOutputSize
  init H alg salt
  updates [key]
  let prk ← digest noFault
  reset noFault
  return prk

/-- `s2n_custom_hkdf`; `MAX_DIGEST_SIZE` is 64. -/
def customHkdf (host : ByteOrder) (H : Hmac) (alg : HmacAlg) (salt key info : List UInt8) (size : ℕ) :
    EStateM Err HmacState (List UInt8) := do
  let prk ← customHkdfExtract H alg salt key 64
  customHkdfExpand host H alg prk info size

def tls13LabelPrefix : List UInt8 := [116, 108, 115, 49, 51, 32]

/-- What `s2n_hkdf_expand_label` writes to the stuffer over `hkdf_label_buf`. -/
def writeHkdfLabel (label context : List UInt8) (size : ℕ) : StufferM Unit := do
  Stuffer.writeUint .ample 2 size
  Stuffer.writeUint .ample 1 (label.length + 6)
  Stuffer.writeBytes .ample tls13LabelPrefix
  Stuffer.writeBytes .ample label
  Stuffer.writeUint .ample 1 context.length
  Stuffer.writeBytes .ample context

def hkdfLabelBuf : Blob := ⟨fun _ => 0, 514, false, by decide, by decide⟩

/-- `s2n_hkdf_expand_label` with the custom HKDF; `S2N_MAX_HKDF_EXPAND_LABEL_LENGTH` is 249. -/
def hkdfExpandLabel (host : ByteOrder) (H : Hmac) (alg : HmacAlg) (secret label context : List UInt8) (size : ℕ) :
    EStateM Err HmacState (List UInt8) := do
  ensure (label.length ≤ 249) .safety
  let (_, hkdfLabel) ← onLocal (writeHkdfLabel label context size) (Stuffer.init hkdfLabelBuf)
  customHkdfExpand host H alg secret hkdfLabel.unread size

/-- `T(i)` of RFC 5869, section 2.3, with the bytes that stand for the numbers of the rounds. -/
def hkdfT (mac : List UInt8 → List UInt8) (info : List UInt8) (byte : ℕ → UInt8) : ℕ → List UInt8
  | 0 => []
  | i + 1 => mac (hkdfT mac info byte i ++ (info ++ [byte (i + 1)]))

/-- The first bytes of `T(1) ++ T(2) ++ ...`, for blocks of `d` bytes. -/
def hkdfOkm (mac : List UInt8 → List UInt8) (d : ℕ) (info : List UInt8) (byte : ℕ → UInt8) (size : ℕ) : List UInt8 :=
  ((List.range ((size + d - 1) / d)).flatMap fun j => hkdfT mac info byte (j + 1)).take size

/-- The HkdfLabel of RFC 8446, section 7.1. -/
def rfcHkdfLabel (label context : List UInt8) (size : ℕ) : List UInt8 :=
  beBytes 2 size ++ (beBytes 1 (label.length + 6) ++
    (tls13LabelPrefix ++ (label ++ (beBytes 1 context.length ++ context))))

/-! #### What the loop computes -/

section Expand

variable {host : ByteOrder} {H : Hmac} {prk info : List UInt8} {size : ℕ}

lemma take_append_take_append {as bs cs : List UInt8} (h : as.length ≤ size) :
    (as ++ bs.take (if as.length + bs.length > size then size - as.length else bs.length) ++ cs).take size =
      (as ++ (bs ++ cs)).take size := by
  split
  · rename_i hlt
    have htake : as ++ bs.take (size - as.length) = (as ++ bs).take size := by
      rw [List.take_append, List.take_of_length_le h]
    have hlen : size ≤ (as ++ bs).length := by rw [List.length_append]; omega
    have hlen' : size ≤ ((as ++ bs).take size).length := by rw [List.length_take]; omega
    rw [htake, ← List.append_assoc, List.take_append_of_le_length hlen', List.take_append_of_le_length hlen,
      List.take_take, Nat.min_self]
  · rw [List.take_length, List.append_assoc]

/-- **The loop of `s2n_custom_hkdf_expand`** appends one block after the other, up to the size of the output. -/
lemma wp_hkdfExpandLoop (hinfo : info.length ≤ maxUpdate) (rounds i : ℕ) {output : List UInt8}
    (hout : output.length ≤ size) :
    wp (hkdfExpandLoop host H alg prk info size rounds (i + 1) (hkdfT (H.mac alg prk) info (firstByte host) i) output)
      (fun o _ => o = (output ++
        (List.range rounds).flatMap fun j => hkdfT (H.mac alg prk) info (firstByte host) (i + j + 1)).take size)
      noError st := by
  induction rounds generalizing i st output with
  | zero =>
    rw [hkdfExpandLoop]
    simp [List.take_of_length_le hout]
  | succ rounds ih =>
    have hflat : ((if i + 1 ≠ 1 then [hkdfT (H.mac alg prk) info (firstByte host) i] else []) ++
        [info, [firstByte host (i + 1)]]).flatten =
          hkdfT (H.mac alg prk) info (firstByte host) i ++ (info ++ [firstByte host (i + 1)]) := by
      cases i <;> simp [hkdfT]
    have hprev : (hkdfT (H.mac alg prk) info (firstByte host) (i + 1)).length = alg.digestSize := H.mac_length _ _ _
    rw [hkdfExpandLoop]
    unfold HmacState.init
    refine wp_updates_digest rfl rfl (fun _ st' _ => wp_reset_bind ?_) fun _ _ hnot => hnot ?_
    · rw [hflat]
      refine wp_mono_ok (fun o _ ho => ?_) (ih (i + 1) ?_)
      · rw [ho, ← hprev]
        refine (take_append_take_append hout).trans ?_
        rw [List.range_succ_eq_map, List.flatMap_cons, List.flatMap_map]
        simp only [Nat.add_zero, Nat.add_right_comm i 1, Nat.succ_eq_add_one, Nat.add_assoc]
      · rw [List.length_append, List.length_take]
        split <;> omega
    · intro piece hpiece
      have hT : (hkdfT (H.mac alg prk) info (firstByte host) i).length ≤ maxUpdate := by
        cases i with
        | zero => exact Nat.zero_le _
        | succ i => rw [hkdfT, H.mac_length]; exact alg.digestSize_le.trans (by decide)
      rcases List.mem_append.mp hpiece with h | h
      · split at h
        · rwa [List.mem_singleton.mp h]
        · cases h
      · rcases List.mem_pair.mp h with rfl | rfl
        · exact hinfo
        · exact Nat.one_le_ofNat

/-- The sizes that HKDF can produce. -/
def HkdfSize (alg : HmacAlg) (size : ℕ) : Prop := 1 ≤ size ∧ size ≤ 255 * alg.digestSize

/-- The number of rounds that the code computes is that of the RFC. -/
lemma hkdfRounds_eq (hd : 0 < d) (size : ℕ) : (size / d + if size % d = 0 then 0 else 1) = (size + d - 1) / d := by
  have hdiv := Nat.div_add_mod size d
  have hlt := Nat.mod_lt size hd
  split
  · rw [Nat.add_zero]
    exact (Nat.div_eq_of_lt_le (by rw [Nat.mul_comm]; omega) (by rw [Nat.succ_mul, Nat.mul_comm]; omega)).symm
  · rename_i h
    refine (Nat.div_eq_of_lt_le ?_ ?_).symm
    · rw [Nat.succ_mul, Nat.mul_comm]
      omega
    · rw [Nat.succ_mul, Nat.succ_mul, Nat.mul_comm]
      omega

lemma wp_customHkdfExpand (st : HmacState) :
    wp (customHkdfExpand host H alg prk info size)
      (fun o _ => o = hkdfOkm (H.mac alg prk) alg.digestSize info (firstByte host) size ∧
        HkdfSize alg size ∧ info.length ≤ maxUpdate)
      (fun _ _ => ¬ (HkdfSize alg size ∧ info.length ≤ maxUpdate)) st := by
  unfold customHkdfExpand HkdfSize
  refine wp_seq_ensure (fun hpos => ?_) fun hzero h => ?_
  swap
  · obtain ⟨⟨h₁, h₂⟩, -⟩ := h
    omega
  rw [hkdfRounds_eq hpos]
  refine wp_seq_ensure (fun hrounds => ?_) fun hnone h => hnone (Nat.div_pos (by omega) hpos)
  have hone : 1 ≤ size := by
    by_contra hnot
    rw [Nat.div_eq_of_lt (by omega)] at hrounds
    exact absurd hrounds (lt_irrefl _)
  refine wp_seq_ensure (fun hmax => ?_) fun hmany h => hmany ?_
  swap
  · exact Nat.le_of_lt_succ ((Nat.div_lt_iff_lt_mul hpos).mpr (by unfold maxHkdfRounds; omega))
  have hle : size ≤ 255 * alg.digestSize := by
    have := (Nat.div_lt_iff_lt_mul hpos).mp (Nat.lt_succ_of_le hmax)
    unfold maxHkdfRounds at this
    omega
  by_cases hinfo : info.length ≤ maxUpdate
  · refine wp_sure (fun o _ ho => ⟨?_, ⟨hone, hle⟩, hinfo⟩)
      (wp_hkdfExpandLoop hinfo _ 0 (Nat.zero_le _))
    rw [ho, hkdfOkm, List.nil_append]
    simp only [Nat.zero_add]
  · -- the first round feeds the info
    obtain ⟨rounds, hr⟩ := Nat.exists_eq_succ_of_ne_zero (Nat.pos_iff_ne_zero.mp hrounds)
    rw [hr, hkdfExpandLoop]
    unfold HmacState.init
    exact wp_updates_digest rfl rfl (fun hfits => absurd (hfits info (by simp)) hinfo) fun _ _ _ h => hinfo h.2

lemma wp_customHkdf (salt key : List UInt8) (st : HmacState) :
    wp (customHkdf host H alg salt key info size)
      (fun o _ => o = hkdfOkm (H.mac alg (H.mac alg salt key)) alg.digestSize info (firstByte host) size ∧
        key.length ≤ maxUpdate ∧ HkdfSize alg size ∧ info.length ≤ maxUpdate)
      (fun _ _ => ¬ (key.length ≤ maxUpdate ∧ HkdfSize alg size ∧ info.length ≤ maxUpdate)) st := by
  unfold customHkdf customHkdfExtract HmacState.init
  rw [wp_bind]
  refine wp_ensured alg.digestSize_le ?_
  refine wp_updates_digest rfl rfl (fun hfits st' _ => wp_reset_bind ?_) fun _ _ hnot h =>
    hnot (by simpa [Fits] using h.1)
  rw [wp_pure, List.flatten_singleton]
  exact wp_mono (fun _ _ ho => ⟨ho.1, hfits _ (by simp), ho.2⟩) (fun _ _ hnot h => hnot h.2) (wp_customHkdfExpand _)

lemma wp_hkdfExpandLabel (label context : List UInt8) (st : HmacState) :
    wp (hkdfExpandLabel host H alg prk label context size)
      (fun o _ => o = hkdfOkm (H.mac alg prk) alg.digestSize (rfcHkdfLabel label context size) (firstByte host) size ∧
        HkdfSize alg size ∧ label.length ≤ 249 ∧ label.length + context.length ≤ 504)
      (fun _ _ => ¬ (HkdfSize alg size ∧ label.length ≤ 249 ∧ label.length + context.length ≤ 504)) st := by
  unfold hkdfExpandLabel
  refine wp_seq_ensure (fun hlabel => ?_) fun hnot h => hnot h.2.1
  rw [wp_bind, wp_onLocal]
  unfold writeHkdfLabel Stuffer.writeUint
  have hlen : (rfcHkdfLabel label context size).length = 10 + label.length + context.length := by
    simp [rfcHkdfLabel, tls13LabelPrefix]
    omega
  have hfull : ∀ n, 514 < n → n ≤ 10 + label.length + context.length →
      ¬ (HkdfSize alg size ∧ label.length ≤ 249 ∧ label.length + context.length ≤ 504) := fun n h₁ h₂ h => by omega
  have h₀ : Stuffer.Holds (Stuffer.init hkdfLabelBuf) 514 [] := .init _
  refine wp_seq (h₀.writeBytes _ _) (fun _ u₁ h₁ => ?_) fun _ _ h => hfull _ h (by simp; omega)
  refine wp_seq (h₁.writeBytes _ _) (fun _ u₂ h₂ => ?_) fun _ _ h => hfull _ h (by simp; omega)
  refine wp_seq (h₂.writeBytes _ _) (fun _ u₃ h₃ => ?_) fun _ _ h => hfull _ h (by simp [tls13LabelPrefix]; omega)
  refine wp_seq (h₃.writeBytes _ _) (fun _ u₄ h₄ => ?_) fun _ _ h => hfull _ h (by simp [tls13LabelPrefix]; omega)
  refine wp_seq (h₄.writeBytes _ _) (fun _ u₅ h₅ => ?_) fun _ _ h => hfull _ h (by simp [tls13LabelPrefix]; omega)
  refine wp_mono (fun _ u h => ?_) (fun _ _ h => hfull _ h (by simp [tls13LabelPrefix]; omega)) (h₅.writeBytes _ _)
  have hun : u.unread = rfcHkdfLabel label context size := by
    rw [h.unread]
    simp [rfcHkdfLabel]
  have hroom := h.length_le
  rw [← h.unread, hun, hlen] at hroom
  dsimp only
  rw [hun]
  refine wp_mono (fun _ _ ho => ⟨ho.1, ho.2.1, hlabel, by omega⟩) (fun _ _ hnot h => hnot ⟨h.1, ?_⟩)
    (wp_customHkdfExpand st)
  rw [hlen]
  exact (show 10 + label.length + context.length ≤ 514 by omega).trans (by decide)

end Expand

/-- The output of RFC 5869 for a key. -/
def rfcOkm (H : Hmac) (alg : HmacAlg) (prk info : List UInt8) (size : ℕ) : List UInt8 :=
  hkdfOkm (H.mac alg prk) alg.digestSize info UInt8.ofNat size

/-- The functions of the library produce what the RFCs say, for any HMAC, and refuse what has no meaning there. -/
def HkdfAgrees (host : ByteOrder) (alg : HmacAlg) (salt key prk info label context : List UInt8) (size : ℕ) : Prop :=
  ∀ (H : Hmac) (st : HmacState),
    Gives (outcome (customHkdf host H alg salt key info size) st) (HkdfSize alg size)
      (rfcOkm H alg (H.mac alg salt key) info size) ∧
    Gives (outcome (customHkdfExpand host H alg prk info size) st) (HkdfSize alg size) (rfcOkm H alg prk info size) ∧
    Gives (outcome (hkdfExpandLabel host H alg prk label context size) st)
      (HkdfSize alg size ∧ label.length ≤ 249 ∧ context.length ≤ 255)
      (rfcOkm H alg prk (rfcHkdfLabel label context size) size)

/-- The hash that shows the last byte of its message. -/
def lastByteHmac : Hmac where
  mac alg _ message := List.replicate alg.digestSize (message.getLast?.getD 0)
  mac_length _ _ _ := List.length_replicate

lemma hkdfOkm_lastByte {prk info : List UInt8} {size : ℕ} (byte : ℕ → UInt8) (h : HkdfSize alg size) :
    (hkdfOkm (lastByteHmac.mac alg prk) alg.digestSize info byte size).head? = some (byte 1) := by
  obtain ⟨hone, hmax⟩ := h
  have hpos : 0 < alg.digestSize := by
    by_contra hnot
    omega
  obtain ⟨rounds, hr⟩ := Nat.exists_eq_succ_of_ne_zero
    (Nat.pos_iff_ne_zero.mp (Nat.div_pos (show alg.digestSize ≤ size + alg.digestSize - 1 by omega) hpos))
  obtain ⟨n, rfl⟩ := Nat.exists_eq_succ_of_ne_zero (Nat.pos_iff_ne_zero.mp hone)
  obtain ⟨d, hd⟩ := Nat.exists_eq_succ_of_ne_zero (Nat.pos_iff_ne_zero.mp hpos)
  rw [hkdfOkm, hr, List.range_succ_eq_map]
  simp [hkdfT, lastByteHmac, hd, List.replicate_succ]

/-- **HKDF is that of the RFCs** on a host that stores the low byte first, for inputs that an update of the HMAC takes
and contexts with a length of one byte. -/
theorem hkdfAgrees_iff (host : ByteOrder) (alg : HmacAlg) (salt key prk info label context : List UInt8) (size : ℕ) :
    HkdfAgrees host alg salt key prk info label context size ↔
      (HkdfSize alg size → host = .little ∧ key.length ≤ maxUpdate ∧ info.length ≤ maxUpdate ∧
        (label.length ≤ 249 → context.length ≤ 255 ∨ 504 < label.length + context.length)) := by
  unfold HkdfAgrees
  simp only [(gives_of_wp (wp_customHkdf _ _ _)).iff, (gives_of_wp (wp_customHkdfExpand _)).iff,
    (gives_of_wp (wp_hkdfExpandLabel _ _ _)).iff]
  constructor
  · intro h hsize
    obtain ⟨⟨h₁, -⟩, ⟨h₂, hokm⟩, h₃, -⟩ := h lastByteHmac .new
    obtain ⟨hkey, -, hinfo⟩ := h₁.mpr hsize
    refine ⟨?_, hkey, hinfo, fun hlabel => ?_⟩
    · cases host with
      | little => rfl
      | big =>
        have heads := congrArg List.head? (hokm ⟨hsize, hinfo⟩)
        rw [rfcOkm, hkdfOkm_lastByte _ hsize, hkdfOkm_lastByte _ hsize] at heads
        exact absurd heads (by decide)
    · by_contra hnot
      push Not at hnot
      exact absurd (h₃.mp ⟨hsize, hlabel, hnot.2⟩).2.2 (not_le.mpr hnot.1)
  · intro h H st
    by_cases hsize : HkdfSize alg size
    · obtain ⟨rfl, hkey, hinfo, hcontext⟩ := h hsize
      refine ⟨⟨by simp [hsize, hkey, hinfo], fun _ => rfl⟩, ⟨by simp [hsize, hinfo], fun _ => rfl⟩, ?_, fun _ => rfl⟩
      constructor
      · exact fun ⟨h₁, h₂, h₃⟩ => ⟨h₁, h₂, by have := hcontext h₂; omega⟩
      · exact fun ⟨h₁, h₂, h₃⟩ => ⟨h₁, h₂, by omega⟩
    · simp [hsize]

/-- On a host that stores the high byte first, every round feeds a zero. -/
theorem hkdf_big_endian_differs : ¬ HkdfAgrees .big .sha256 [] [] [] [] [] [] 32 := by
  intro h
  have hokm := (h lastByteHmac .new).2.1
  rw [(gives_of_wp (wp_customHkdfExpand _)).iff] at hokm
  have hsize : HkdfSize .sha256 32 := ⟨by decide, by decide⟩
  have heads := congrArg List.head? (hokm.2 ⟨hsize, by decide⟩)
  exact absurd heads (by decide)

end S2nTls
