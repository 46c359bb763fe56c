import S2nTls.Crypto.Sequence
import S2nTls.Lib.Calls
import S2nTls.Utils.Random

/-!
The generator of random bytes (`crypto/s2n_drbg.c`) is CTR_DRBG of SP 800-90A without derivation function: for any block
function and any entropy, what it returns and the key and the counter after each call are those of the standard. The
counters of the blocks of one request are distinct. Between two requests key and counter are replaced by outputs of the
block function, which need not be new.
-/

namespace S2nTls.Drbg

open Lib S2nTls.Random

/-- AES of one of the two modes, as a function of key and block. -/
structure BlockCipher where
  keySize : ℕ
  keySize_valid : keySize = 16 ∨ keySize = 32
  encrypt : (key block : List UInt8) → List UInt8
  encrypt_length : ∀ key block, (encrypt key block).length = drbgBlockSize

def BlockCipher.seedSize (E : BlockCipher) : ℕ := drbgBlockSize + E.keySize

/-- The bytes that `s2n_get_seed_entropy` and `s2n_get_mix_entropy` will return, call by call. -/
abbrev Entropy := ℕ → ℕ → UInt8

def BlockCipher.draw (E : BlockCipher) (x : Entropy) : List UInt8 := (List.range E.seedSize).map (x 0)

/-- `struct s2n_drbg`. The entropy, and the key and the counter of each block of each request, are not in the source. -/
structure S2nDrbg where
  entropy : Entropy
  key : List UInt8 := []
  v : List UInt8 := []
  requests : List (List (List UInt8 × List UInt8)) := []

abbrev DrbgM : Type → Type := EStateM Err S2nDrbg

/-- `s2n_increment_drbg_counter`: as for a sequence number, but the last number is followed by zero. -/
def incrementDrbgCounter (counter : List UInt8) : List UInt8 :=
  (SequenceNumber.incrementLoop counter.reverse).2.reverse

/-- The key and the counter of each block that the loop of `s2n_drbg_bits` encrypts. -/
def drbgBlocks : ℕ → DrbgM (List (List UInt8 × List UInt8))
  | 0 => return []
  | n + 1 => do
    modify fun d => { d with v := incrementDrbgCounter d.v }
    let d ← get
    return (d.key, d.v) :: (← drbgBlocks n)

section Cipher

variable (E : BlockCipher)

def encryptBlocks (blocks : List (List UInt8 × List UInt8)) : List UInt8 :=
  blocks.flatMap fun block => E.encrypt block.1 block.2

/-- `s2n_drbg_bits`, with the blocks. -/
def drbgBits (size : ℕ) : DrbgM (List UInt8 × List (List UInt8 × List UInt8)) := do
  let blockAlignedSize := size - size % drbgBlockSize
  let blocks ← drbgBlocks (blockAlignedSize / drbgBlockSize)
  if size ≤ blockAlignedSize then return (encryptBlocks E blocks, blocks)
  else
    let spare ← drbgBlocks 1
    return (encryptBlocks E blocks ++ (encryptBlocks E spare).take (size - blockAlignedSize), blocks ++ spare)

def drbgUpdate (providedData : List UInt8) : DrbgM Unit := do
  ensure (providedData.length = E.seedSize) .safety
  let temp ← drbgBits E E.seedSize
  let temp := List.zipWith (· ^^^ ·) temp.1 providedData
  modify fun d => { d with key := temp.take E.keySize, v := (temp.drop E.keySize).take drbgBlockSize }

/-- `s2n_drbg_mix_in_entropy`, with the entropy that `s2n_drbg_seed` and `s2n_drbg_mix` draw. -/
def drbgMixInEntropy (ps : List UInt8) : DrbgM Unit := do
  let entropy := E.draw (← get).entropy
  modify fun d => { d with entropy := fun n => d.entropy (n + 1) }
  ensure (ps.length ≤ entropy.length) .safety
  drbgUpdate E (List.zipWith (· ^^^ ·) entropy ps ++ entropy.drop ps.length)

def zeros : List UInt8 := List.replicate E.seedSize 0

/-- The personalization string is cut to the size of the seed, or filled with zeros. -/
def drbgInstantiate (personalization : List UInt8) : DrbgM Unit := do
  modify fun d => { d with key := List.replicate E.keySize 0, v := List.replicate drbgBlockSize 0 }
  drbgMixInEntropy E ((personalization ++ zeros E).take E.seedSize)

def drbgGenerate (size : ℕ) : DrbgM (List UInt8) := do
  ensure (size ≤ drbgGenerateLimit) .drbgRequestSize
  drbgMixInEntropy E (zeros E)
  let out ← drbgBits E size
  modify fun d => { d with requests := out.2 :: d.requests }
  drbgUpdate E (zeros E)
  return out.1

/-- The loop of `s2n_get_custom_random_data`. -/
def inPieces {σ : Type} (generate : ℕ → EStateM Err σ (List UInt8)) : List ℕ → EStateM Err σ (List UInt8)
  | [] => return []
  | size :: sizes => do
    let out ← generate size
    return out ++ (← inPieces generate sizes)

inductive Call
  | generate (size : ℕ) | custom (size : ℕ)

/-- A call of `s2n_drbg_generate` or `s2n_get_custom_random_data`, for any generator. -/
def Call.exec {σ : Type} (generate : ℕ → EStateM Err σ (List UInt8)) : Call → EStateM Err σ (List UInt8)
  | .generate size => generate size
  | .custom size => inPieces generate (slices size size)

/-! ### The standard -/

/-- The state of CTR_DRBG; `V` is taken modulo `2 ^ 128`. -/
structure CtrDrbg where
  key : List UInt8
  v : ℕ
  entropy : Entropy

def counters (key : List UInt8) (v n : ℕ) : List (List UInt8 × List UInt8) :=
  (List.range n).map fun i => (key, beBytes drbgBlockSize (v + i + 1))

/-- The leftmost bytes of the blocks of `V + 1`, `V + 2` and so on. -/
def ctrBits (key : List UInt8) (v size : ℕ) : List UInt8 :=
  (encryptBlocks E (counters key v ((size + 15) / 16))).take size

def ctrUpdate (provided : List UInt8) (s : CtrDrbg) : CtrDrbg :=
  let temp := List.zipWith (· ^^^ ·) (ctrBits E s.key s.v E.seedSize) provided
  { s with key := temp.take E.keySize, v := beNat (temp.drop E.keySize) }

/-- CTR_DRBG_Reseed_algorithm, with an input to be mixed in; from zeros it is CTR_DRBG_Instantiate_algorithm. -/
def ctrReseed (input : List UInt8) (s : CtrDrbg) : CtrDrbg :=
  { ctrUpdate E (List.zipWith (· ^^^ ·) (E.draw s.entropy) input) s with entropy := fun n => s.entropy (n + 1) }

def ctrInstantiate (personalization : List UInt8) (x : Entropy) : CtrDrbg :=
  ctrReseed E ((personalization ++ zeros E).take E.seedSize) ⟨List.replicate E.keySize 0, 0, x⟩

/-- CTR_DRBG_Generate_algorithm with prediction resistance. -/
def ctrGenerate (size : ℕ) : EStateM Err CtrDrbg (List UInt8) := do
  ensure (size ≤ drbgGenerateLimit) .drbgRequestSize
  modify (ctrReseed E (zeros E))
  let s ← get
  set (ctrUpdate E (zeros E) { s with v := s.v + (size + 15) / 16 })
  return ctrBits E s.key s.v size

/-! ### Refinement -/

structure Refines (d : S2nDrbg) (s : CtrDrbg) : Prop where
  key : d.key = s.key
  v : d.v = beBytes drbgBlockSize s.v
  entropy : d.entropy = s.entropy
  distinct : ∀ request ∈ d.requests, request.Nodup

variable {E} {d : S2nDrbg} {s : CtrDrbg} {v : ℕ}

lemma incrementDrbgCounter_beBytes (v : ℕ) :
    incrementDrbgCounter (beBytes drbgBlockSize v) = beBytes drbgBlockSize (v + 1) := by
  have hlen : (incrementDrbgCounter (beBytes drbgBlockSize v)).length = drbgBlockSize := by
    simp [incrementDrbgCounter, SequenceNumber.incrementLoop_length]
  have hvalue : beNat (incrementDrbgCounter (beBytes drbgBlockSize v)) = (v + 1) % 256 ^ drbgBlockSize := by
    obtain ⟨hlt, hmax⟩ := SequenceNumber.incrementLoop_spec (beBytes drbgBlockSize v).reverse
      (fun h => by simpa [drbgBlockSize] using congrArg List.length h)
    rw [List.reverse_reverse, beNat_beBytes, List.length_reverse, beBytes_length] at hlt hmax
    unfold incrementDrbgCounter drbgBlockSize at *
    by_cases h : v % 256 ^ 16 + 1 < 256 ^ 16
    · rw [(hlt h).2]
      omega
    · rw [(hmax (by omega)).2]
      omega
  have hback := beBytes_beNat (incrementDrbgCounter (beBytes drbgBlockSize v))
  have hnext := beBytes_beNat (beBytes drbgBlockSize (v + 1))
  rw [hlen, hvalue] at hback
  rw [beBytes_length, beNat_beBytes, hback] at hnext
  exact hnext

variable (key : List UInt8)

lemma counters_succ (v n : ℕ) :
    counters key v (n + 1) = (key, beBytes drbgBlockSize (v + 1)) :: counters key (v + 1) n := by
  simp [counters, List.range_succ_eq_map, Nat.add_right_comm v 1, Nat.add_assoc]

lemma wp_drbgBlocks (n : ℕ) : ∀ {d : S2nDrbg} {v : ℕ}, d.v = beBytes drbgBlockSize v →
    wp (drbgBlocks n) (fun blocks d' => blocks = counters d.key v n ∧
      d' = { d with v := beBytes drbgBlockSize (v + n) })
      noError d := by
  induction n with
  | zero =>
    intro d v hv
    rw [drbgBlocks, wp_pure, Nat.add_zero, ← hv]
    exact ⟨rfl, rfl⟩
  | succ n ih =>
    intro d v hv
    rw [drbgBlocks, wp_update, wp_read, hv, incrementDrbgCounter_beBytes]
    refine wp_then (ih rfl) fun blocks d' hd' => ?_
    rw [wp_pure, counters_succ, hd'.1, hd'.2, Nat.add_assoc, Nat.add_comm 1]
    exact ⟨rfl, rfl⟩

lemma encryptBlocks_append (xs ys : List (List UInt8 × List UInt8)) :
    encryptBlocks E (xs ++ ys) = encryptBlocks E xs ++ encryptBlocks E ys := List.flatMap_append

lemma encryptBlocks_length (blocks : List (List UInt8 × List UInt8)) :
    (encryptBlocks E blocks).length = blocks.length * 16 := by
  simp [encryptBlocks, E.encrypt_length, drbgBlockSize]

lemma ctrBits_length (v size : ℕ) : (ctrBits E key v size).length = size := by
  rw [ctrBits, List.length_take, encryptBlocks_length, counters, List.length_map, List.length_range]
  omega

lemma wp_drbgBits (hv : d.v = beBytes drbgBlockSize v) (size : ℕ) :
    wp (drbgBits E size) (fun out d' => out = (ctrBits E d.key v size, counters d.key v ((size + 15) / 16)) ∧
      d' = { d with v := beBytes drbgBlockSize (v + (size + 15) / 16) }) noError d := by
  have hlen : (encryptBlocks E (counters d.key v (size / 16))).length = size - size % 16 := by
    rw [encryptBlocks_length, counters, List.length_map, List.length_range]
    omega
  have hdiv : (size - size % drbgBlockSize) / drbgBlockSize = size / 16 := by unfold drbgBlockSize; omega
  unfold drbgBits
  dsimp only
  rw [hdiv, show drbgBlockSize = 16 from rfl]
  refine wp_then (wp_drbgBlocks _ hv) fun blocks d₁ h₁ => ?_
  obtain ⟨rfl, rfl⟩ := h₁
  rw [wp_ite]
  refine ⟨fun hle => ?_, fun hlt => ?_⟩
  · rw [wp_pure, ctrBits, show (size + 15) / 16 = size / 16 by omega, List.take_of_length_le (by omega)]
    exact ⟨rfl, rfl⟩
  · refine wp_then (wp_drbgBlocks 1 rfl) fun spare d₂ h₂ => ?_
    obtain ⟨rfl, rfl⟩ := h₂
    have hsize : (size + 15) / 16 = size / 16 + 1 := by omega
    have hlast : counters d.key v (size / 16 + 1) = counters d.key v (size / 16) ++
        counters d.key (v + size / 16) 1 := by
      simp [counters, List.range_succ]
    have hout : ctrBits E d.key v size = encryptBlocks E (counters d.key v (size / 16)) ++
        (encryptBlocks E (counters d.key (v + size / 16) 1)).take (size - (size - size % 16)) := by
      rw [ctrBits, hsize, hlast, encryptBlocks_append, List.take_append, hlen, List.take_of_length_le (by omega)]
    rw [wp_pure, hout, hsize, hlast]
    exact ⟨rfl, rfl⟩

lemma wp_drbgUpdate (h : Refines d s) {provided : List UInt8} (hlen : provided.length = E.seedSize) :
    wp (drbgUpdate E provided) (fun _ d' => Refines d' (ctrUpdate E provided s)) noError d := by
  unfold drbgUpdate
  refine wp_ensured hlen ?_
  refine wp_then (wp_drbgBits h.v _) fun temp d₁ h₁ => ?_
  obtain ⟨rfl, rfl⟩ := h₁
  rw [wp_modify]
  dsimp only
  rw [h.key]
  refine ⟨rfl, ?_, h.entropy, h.distinct⟩
  have hback := beBytes_beNat ((List.zipWith (· ^^^ ·) (ctrBits E s.key s.v E.seedSize) provided).drop E.keySize)
  rw [List.length_drop, List.length_zipWith, ctrBits_length, hlen, Nat.min_self, BlockCipher.seedSize,
    Nat.add_sub_cancel] at hback
  dsimp only [ctrUpdate, BlockCipher.seedSize]
  rw [List.take_of_length_le, hback]
  rw [← hback, beBytes_length]

lemma wp_drbgMixInEntropy (h : Refines d s) {ps : List UInt8} (hlen : ps.length = E.seedSize) :
    wp (drbgMixInEntropy E ps) (fun _ d' => Refines d' (ctrReseed E ps s)) noError d := by
  have hdraw : (E.draw d.entropy).length = E.seedSize := by simp [BlockCipher.draw]
  unfold drbgMixInEntropy
  rw [wp_read, wp_update]
  refine wp_ensured (by rw [hlen, hdraw]) ?_
  rw [List.drop_of_length_le (by rw [hlen, hdraw]), List.append_nil]
  have hnext : Refines { d with entropy := fun n => d.entropy (n + 1) }
      { s with entropy := fun n => s.entropy (n + 1) } :=
    ⟨h.key, h.v, congrArg (fun x n => x (n + 1)) h.entropy, h.distinct⟩
  have hmixed : (List.zipWith (· ^^^ ·) (E.draw d.entropy) ps).length = E.seedSize := by
    rw [List.length_zipWith, hdraw, hlen, Nat.min_self]
  have hupdate := wp_drbgUpdate hnext hmixed
  rw [ctrReseed, ← h.entropy]
  rw [← h.entropy] at hupdate
  exact hupdate

lemma length_zeros : (zeros E).length = E.seedSize := List.length_replicate

lemma counters_nodup (v : ℕ) {n : ℕ} (hn : n ≤ drbgGenerateLimit) : (counters key v n).Nodup := by
  refine List.pairwise_map.mpr (List.Pairwise.imp_of_mem (fun {i j} hi hj hne heq => hne ?_) List.nodup_range)
  have hvalue := congrArg (fun block => beNat block.2) heq
  simp only [beNat_beBytes, drbgBlockSize] at hvalue
  unfold drbgGenerateLimit at hn
  rw [List.mem_range] at hi hj
  omega

lemma generate_endsAs (h : Refines d s) (size : ℕ) : EndsAs Refines (drbgGenerate E size) (ctrGenerate E size) d s := by
  unfold EndsAs drbgGenerate ctrGenerate
  refine wp_seq_ensure (fun hsize => ?_) fun hsize => wp_seq_ensure (fun hle => absurd hle hsize) fun _ => ⟨rfl, h⟩
  refine wp_sure_then (wp_drbgMixInEntropy h length_zeros) fun _ d₁ h₁ => ?_
  refine wp_sure_then (wp_drbgBits h₁.v size) fun out d₂ h₂ => ?_
  obtain ⟨rfl, rfl⟩ := h₂
  rw [wp_update]
  have hnext : Refines
      { d₁ with
        v := beBytes drbgBlockSize ((ctrReseed E (zeros E) s).v + (size + 15) / 16)
        requests := counters d₁.key (ctrReseed E (zeros E) s).v ((size + 15) / 16) :: d₁.requests }
      { ctrReseed E (zeros E) s with v := (ctrReseed E (zeros E) s).v + (size + 15) / 16 } := by
    refine ⟨h₁.key, rfl, h₁.entropy, fun request hmem => ?_⟩
    obtain rfl | hmem := List.mem_cons.mp hmem
    · exact counters_nodup _ _ (by unfold drbgGenerateLimit at hsize ⊢; omega)
    · exact h₁.distinct request hmem
  refine wp_sure_then (wp_drbgUpdate hnext length_zeros) fun _ d₃ h₃ => ?_
  rw [wp_pure]
  refine wp_ensured hsize ?_
  rw [wp_update, wp_read, wp_bind, wp_set, wp_pure, h₁.key]
  exact ⟨rfl, h₃⟩

lemma inPieces_endsAs (sizes : List ℕ) : ∀ {d : S2nDrbg} {s : CtrDrbg}, Refines d s →
    EndsAs Refines (inPieces (drbgGenerate E) sizes) (inPieces (ctrGenerate E) sizes) d s := by
  induction sizes with
  | nil => exact fun h => ⟨rfl, h⟩
  | cons size sizes ih =>
    exact fun h => (generate_endsAs h size).bind fun out d' s' h' => (ih h').bind fun _ _ _ h'' => ⟨rfl, h''⟩

/-- **The generator refines CTR_DRBG**, and the blocks of one request are encrypted from distinct counters. -/
theorem drbg_refines_ctrDrbg (E : BlockCipher) (x : Entropy) (personalization : List UInt8) (calls : List Call) :
    let d := finalState (drbgInstantiate E personalization) { entropy := x }
    let s := ctrInstantiate E personalization x
    outcome (drbgInstantiate E personalization) { entropy := x } = .ok () ∧
      (runCalls (Call.exec (drbgGenerate E)) calls d).1 = (runCalls (Call.exec (ctrGenerate E)) calls s).1 ∧
      Refines (runCalls (Call.exec (drbgGenerate E)) calls d).2 (runCalls (Call.exec (ctrGenerate E)) calls s).2 := by
  have hstart : Refines ⟨x, List.replicate E.keySize 0, List.replicate drbgBlockSize 0, []⟩
      ⟨List.replicate E.keySize 0, 0, x⟩ :=
    ⟨rfl, (by decide : List.replicate 16 (0 : UInt8) = beBytes 16 0), rfl, fun _ h => nomatch h⟩
  have hlen : ((personalization ++ zeros E).take E.seedSize).length = E.seedSize := by simp [length_zeros]
  obtain ⟨hok, hfirst⟩ : outcome (drbgInstantiate E personalization) { entropy := x } = .ok () ∧
      Refines (finalState (drbgInstantiate E personalization) { entropy := x })
        (ctrInstantiate E personalization x) := by
    refine outcome_of_wp (P := fun d => Refines d (ctrInstantiate E personalization x)) ?_
    unfold drbgInstantiate
    rw [wp_update]
    exact wp_sure (fun _ _ h => ⟨rfl, h⟩) (wp_drbgMixInEntropy hstart hlen)
  refine ⟨hok, runCalls_refines (P := fun _ _ => True) (fun call d s h _ => ?_) calls _ _ hfirst (allMeet_true calls _)⟩
  cases call with
  | generate size => exact (generate_endsAs h size).outcome_eq
  | custom size => exact (inPieces_endsAs _ h).outcome_eq

end Cipher

/-- A block function whose blocks are all zero. -/
def zeroCipher : BlockCipher := ⟨16, .inl rfl, fun _ _ => List.replicate drbgBlockSize 0, fun _ _ => rfl⟩

/-- Two requests use the same key and the same counter. -/
theorem drbg_counter_repeats : ∃ block,
    (runCalls (Call.exec (drbgGenerate zeroCipher)) [.generate 16, .generate 16]
      (finalState (drbgInstantiate zeroCipher []) { entropy := fun _ _ => 0 })).2.requests = [[block], [block]] :=
  ⟨(List.replicate 16 0, beBytes 16 1), by decide +kernel⟩

end S2nTls.Drbg
