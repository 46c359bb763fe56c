import S2nTls.Lib.Memory
import S2nTls.Lib.Wp
import S2nTls.Utils.Error

/-!
Decryption with an RSA key (`crypto/s2n_pkey_evp.c`, `utils/s2n_safety.c`).

The padding is removed without a branch on the plaintext: masks that are all ones or all zeros
decide whether the plaintext is copied over the output or the output stays as it was.
-/

namespace S2nTls

open Lib

variable {src : List UInt8}

/-! ### Constant-time functions -/

/-- `(((0xFFFF & x) - 1) >> 8) & 0xFF`: all ones for zero, zero for every other byte. -/
def zeroMask (x : UInt8) : UInt8 := ((((0xFFFF &&& x.toUInt32) - 1) >>> 8) &&& 0xFF).toUInt8

def constantTimeCopyOrDont (dest src : List UInt8) (dont : UInt8) : List UInt8 :=
  List.zipWith (fun old new => old ^^^ ((old ^^^ new) &&& zeroMask dont)) dest src

/-- `s2n_constant_time_pkcs1_unpad_or_dont`, with the length of `dst` as `expectlen`; `expectlen + 3` is a
`uint32_t`. -/
def constantTimePkcs1UnpadOrDont (dst src : List UInt8) : List UInt8 :=
  if src.length < dst.length + 3 then dst
  else
    let startOfData := src.length - dst.length
    let dontCopy := src.getD 0 0 ||| (src.getD 1 0 ^^^ 2) ||| src.getD (startOfData - 1) 0
    let padding := (src.drop 2).take (startOfData - 1 - 2)
    constantTimeCopyOrDont dst (src.drop startOfData)
      (padding.foldl (fun d x => d ||| zeroMask x) dontCopy)

lemma zeroMask_zero : zeroMask 0 = 0xff := by decide

lemma zeroMask_eq_zero_iff (x : UInt8) : zeroMask x = 0 ↔ x ≠ 0 := by
  have h : ∀ n : Fin 256, zeroMask (UInt8.ofFin n) = 0 ↔ UInt8.ofFin n ≠ 0 := by decide +kernel
  exact h x.toFin

lemma xor_xor_and_mask (old new : UInt8) : old ^^^ ((old ^^^ new) &&& 0xff) = new := by
  have h : (0xff : UInt8) = -1 := by decide
  rw [h, UInt8.and_neg_one, ← UInt8.xor_assoc, UInt8.xor_self, UInt8.zero_xor]

lemma copyOrDont_zero {dest : List UInt8} (h : dest.length = src.length) :
    constantTimeCopyOrDont dest src 0 = src := by
  unfold constantTimeCopyOrDont
  simp only [zeroMask_zero, xor_xor_and_mask]
  induction dest generalizing src with
  | nil => simp_all [List.eq_nil_of_length_eq_zero h.symm]
  | cons x xs ih =>
    cases src with
    | nil => simp at h
    | cons y ys => simpa using ih (by simpa using h)

lemma copyOrDont_of_ne {dest : List UInt8} (h : dest.length = src.length) {dont : UInt8}
    (hd : dont ≠ 0) : constantTimeCopyOrDont dest src dont = dest := by
  unfold constantTimeCopyOrDont
  simp only [(zeroMask_eq_zero_iff dont).mpr hd, UInt8.and_zero, UInt8.xor_zero]
  induction dest generalizing src with
  | nil => rfl
  | cons x xs ih =>
    cases src with
    | nil => simp at h
    | cons y ys => simpa using ih (by simpa using h)

/-- `src` is `data` with the padding of PKCS#1 v1.5 for encryption. -/
def Pkcs1Pads (src data : List UInt8) : Prop :=
  ∃ padding, src = 0 :: 2 :: (padding ++ 0 :: data) ∧ 0 ∉ padding

lemma or_eq_zero_iff (x y : UInt8) : x ||| y = 0 ↔ x = 0 ∧ y = 0 := by
  simp [← UInt8.toBitVec_inj]

lemma foldl_zeroMask_eq_zero_iff (bs : List UInt8) (d : UInt8) :
    bs.foldl (fun d x => d ||| zeroMask x) d = 0 ↔ d = 0 ∧ 0 ∉ bs := by
  induction bs generalizing d with
  | nil => simp
  | cons x xs ih =>
    rw [List.foldl_cons, ih, or_eq_zero_iff, zeroMask_eq_zero_iff, List.mem_cons, not_or, and_assoc, ne_comm]

/-- The parts of a plaintext that is long enough for `n` bytes of data. -/
lemma eq_of_pkcs1_length {n : ℕ} (h : n + 3 ≤ src.length) :
    src = src.getD 0 0 :: src.getD 1 0 :: ((src.drop 2).take (src.length - n - 1 - 2) ++
      src.getD (src.length - n - 1) 0 :: src.drop (src.length - n)) := by
  match src, h with
  | x :: y :: rest, h =>
    obtain ⟨k, hk⟩ : ∃ k, rest.length = k + (n + 1) :=
      ⟨rest.length - (n + 1), by simp only [List.length_cons] at h; omega⟩
    have hlen : (x :: y :: rest).length - n = k + 1 + 2 := by
      simp only [List.length_cons, hk]
      omega
    have hlt : k < rest.length := by omega
    rw [hlen]
    simp [hlt]

/-- A padded plaintext is copied without its padding. -/
lemma unpadOrDont_of_pads {dst data : List UInt8} (h : Pkcs1Pads src data)
    (hlen : data.length = dst.length) : constantTimePkcs1UnpadOrDont dst src = data := by
  obtain ⟨padding, rfl, h0⟩ := h
  have hsrc : (0 :: 2 :: (padding ++ 0 :: data)).length = padding.length + 3 + dst.length := by
    simp only [List.length_cons, List.length_append, hlen]
    omega
  unfold constantTimePkcs1UnpadOrDont
  rw [hsrc, if_neg (by omega), Nat.add_sub_cancel]
  have hdata : (0 :: 2 :: (padding ++ 0 :: data)).drop (padding.length + 3) = data := by
    simp [List.drop_append]
  have hdont : ((List.drop 2 (0 :: 2 :: (padding ++ 0 :: data))).take
      (padding.length + 3 - 1 - 2)).foldl (fun d x => d ||| zeroMask x)
        ((0 :: 2 :: (padding ++ 0 :: data)).getD 0 0 |||
          ((0 :: 2 :: (padding ++ 0 :: data)).getD 1 0 ^^^ 2) |||
          (0 :: 2 :: (padding ++ 0 :: data)).getD (padding.length + 3 - 1) 0) = 0 := by
    rw [foldl_zeroMask_eq_zero_iff]
    exact ⟨by simp, by simpa using h0⟩
  simp only [hdata]
  rw [hdont]
  exact copyOrDont_zero hlen.symm

lemma unpadOrDont_of_not_pads {dst : List UInt8}
    (h : ∀ data : List UInt8, data.length = dst.length → ¬ Pkcs1Pads src data) :
    constantTimePkcs1UnpadOrDont dst src = dst := by
  unfold constantTimePkcs1UnpadOrDont
  split
  · rfl
  · rename_i hlen
    have hlen' : dst.length + 3 ≤ src.length := by omega
    refine copyOrDont_of_ne (by simp; omega) fun hzero => ?_
    obtain ⟨hends, hpad⟩ := (foldl_zeroMask_eq_zero_iff _ _).mp hzero
    rw [or_eq_zero_iff, or_eq_zero_iff] at hends
    obtain ⟨⟨hfirst, hsecond⟩, hlast⟩ := hends
    have hsecond : src.getD 1 0 = 2 := by simpa using hsecond
    refine h (src.drop (src.length - dst.length)) (by simp; omega) ⟨_, ?_, hpad⟩
    have hsrc := eq_of_pkcs1_length hlen'
    rwa [hfirst, hsecond, hlast] at hsrc

/-- **Unpadding** copies the last bytes of a plaintext with the expected padding, and nothing of any other. -/
theorem pkcs1UnpadOrDont_eq_iff (dst src out : List UInt8) :
    constantTimePkcs1UnpadOrDont dst src = out ↔
      ((∃ data : List UInt8, data.length = dst.length ∧ Pkcs1Pads src data) ∧
        out = src.drop (src.length - dst.length)) ∨
      ((¬ ∃ data : List UInt8, data.length = dst.length ∧ Pkcs1Pads src data) ∧ out = dst) := by
  by_cases h : ∃ data : List UInt8, data.length = dst.length ∧ Pkcs1Pads src data
  · obtain ⟨data, hlen, hpads⟩ := h
    have hlast : src.drop (src.length - dst.length) = data := by
      obtain ⟨padding, rfl, -⟩ := hpads
      have hsplit : 0 :: 2 :: (padding ++ 0 :: data) = (0 :: 2 :: (padding ++ [0])) ++ data := by simp
      rw [hsplit, List.length_append, hlen, Nat.add_sub_cancel, List.drop_left]
    rw [unpadOrDont_of_pads hpads hlen, hlast]
    simp only [show ∃ data : List UInt8, data.length = dst.length ∧ Pkcs1Pads src data from ⟨data, hlen, hpads⟩,
      true_and, not_true_eq_false, false_and, or_false]
    exact eq_comm
  · rw [unpadOrDont_of_not_pads fun data hlen hpads => h ⟨data, hlen, hpads⟩]
    simp only [h, false_and, not_false_eq_true, true_and, false_or]
    exact eq_comm

lemma unpadOrDont_length (dst src : List UInt8) :
    (constantTimePkcs1UnpadOrDont dst src).length = dst.length := by
  unfold constantTimePkcs1UnpadOrDont
  split
  · rfl
  · simp only [constantTimeCopyOrDont, List.length_zipWith, List.length_drop]
    omega

/-! ### Decryption -/

/-- An RSA private key, with what libcrypto and the random generator do during a decryption. -/
structure RsaKey where
  isRsa : Bool := true
  /-- `s2n_pkey_size` -/
  size : ℕ
  /-- Whether the context of the decryption cannot be set up. -/
  contextFault : Bool := false
  /-- `EVP_PKEY_decrypt` without padding. -/
  raw : List UInt8 → Option (List UInt8)
  randomFault : Bool := false
  /-- What `s2n_get_public_random_data` writes, also if it fails. -/
  random : ℕ → UInt8 := fun _ => 0

/-- `s2n_pkey_evp_decrypt`, on the output. -/
def pkeyEvpDecrypt (key : RsaKey) (encrypted : List UInt8) : EStateM Err (List UInt8) Unit := do
  ensure (key.isRsa = true) .unimplemented
  let out ← get
  ensure (out.length ≤ 4096) .noMem
  ensure (key.size ≤ 4096) .noMem
  ensure (key.contextFault = false) .pkeyCtxInit
  match key.raw encrypted with
  | none => throw .decrypt
  | some buffer =>
    ensure (buffer.length = key.size) .sizeMismatch
    modify fun out => slice key.random 0 out.length
    ensure (key.randomFault = false) .drbg
    modify fun out => constantTimePkcs1UnpadOrDont out buffer

/-- What the decryption of `encrypted` puts into an output of `n` bytes, if it succeeds. -/
def RsaKey.plaintext (key : RsaKey) (n : ℕ) (encrypted : List UInt8) : Option (List UInt8) :=
  if key.isRsa = true ∧ n ≤ 4096 ∧ key.size ≤ 4096 ∧ key.contextFault = false ∧
      key.randomFault = false then
    ((key.raw encrypted).filter fun buffer => buffer.length = key.size).map fun buffer =>
      constantTimePkcs1UnpadOrDont (slice key.random 0 n) buffer
  else none

/-- A decryption succeeds if there is a plaintext, whatever the output held; bytes are never
written past its end. -/
lemma wp_pkeyEvpDecrypt (key : RsaKey) (encrypted out : List UInt8) :
    wp (pkeyEvpDecrypt key encrypted)
      (fun _ out' => key.plaintext out.length encrypted = some out' ∧ out'.length = out.length)
      (fun _ out' => key.plaintext out.length encrypted = none ∧ out'.length = out.length) out := by
  unfold pkeyEvpDecrypt RsaKey.plaintext
  refine wp_seq_ensure (fun h₁ => ?_) (fun h => by simp [h])
  rw [wp_read]
  refine wp_seq_ensure (fun h₂ => ?_) (fun h => by simp [h])
  refine wp_seq_ensure (fun h₃ => ?_) (fun h => by simp [h])
  refine wp_seq_ensure (fun h₄ => ?_) (fun h => by simp [h])
  cases hraw : key.raw encrypted with
  | none => simp
  | some buffer =>
    refine wp_seq_ensure (fun h₅ => ?_) (fun h => by simp [h])
    rw [wp_update]
    refine wp_seq_ensure (fun h₆ => ?_) (fun h => by simp [h])
    rw [wp_modify]
    simp [h₁, h₂, h₃, h₄, h₅, h₆, unpadOrDont_length]

end S2nTls
