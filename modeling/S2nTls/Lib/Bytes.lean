import Mathlib.Data.List.Induction
import Mathlib.Tactic.Ring

/-!
Numbers in network order: the big-endian value of a byte string, and the byte string of a given
width whose value a number has modulo the power of 256 that fits there.
-/

namespace S2nTls.Lib

/-- The value of a byte string read in network order. -/
def beNat (bs : List UInt8) : ℕ := bs.foldl (fun acc b => 256 * acc + b.toNat) 0

/-- The lowest `width` bytes of `n` in network order. -/
def beBytes : (width n : ℕ) → List UInt8
  | 0, _ => []
  | w + 1, n => beBytes w (n / 256) ++ [UInt8.ofNat n]

@[simp] lemma beNat_nil : beNat [] = 0 := rfl

variable (bs : List UInt8)

lemma beNat_concat (b : UInt8) : beNat (bs ++ [b]) = 256 * beNat bs + b.toNat := by
  simp [beNat]

@[simp] lemma beBytes_length (w n : ℕ) : (beBytes w n).length = w := by
  induction w generalizing n with
  | zero => rfl
  | succ w ih => simp [beBytes, ih]

lemma beNat_lt : beNat bs < 256 ^ bs.length := by
  induction bs using List.reverseRecOn with
  | nil => simp
  | append_singleton bs b ih =>
    have hb := b.toNat_lt
    rw [beNat_concat, List.length_append, List.length_singleton, pow_succ]
    omega

/-- Encoding loses what does not fit. -/
lemma beNat_beBytes (w n : ℕ) : beNat (beBytes w n) = n % 256 ^ w := by
  induction w generalizing n with
  | zero => simp [beBytes, Nat.mod_one]
  | succ w ih =>
    rw [beBytes, beNat_concat, ih, pow_succ, Nat.mul_comm (256 ^ w) 256, Nat.mod_mul]
    simp only [UInt8.toNat_ofNat']
    omega

lemma beBytes_beNat : beBytes bs.length (beNat bs) = bs := by
  induction bs using List.reverseRecOn with
  | nil => rfl
  | append_singleton bs b ih =>
    have hb := b.toNat_lt
    have hdiv : (256 * beNat bs + b.toNat) / 256 = beNat bs := by omega
    rw [beNat_concat, List.length_append, List.length_singleton, beBytes, hdiv, ih]
    congr 2
    apply UInt8.toNat_inj.mp
    simp only [UInt8.toNat_ofNat']
    omega

/-- Bytes whose number is a `uint16_t`. -/
abbrev ShortBytes := { bytes : List UInt8 // bytes.length < 2 ^ 16 }

def ShortBytes.empty : ShortBytes := ⟨[], by decide⟩

end S2nTls.Lib
