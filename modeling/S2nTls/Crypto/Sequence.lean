import S2nTls.Lib.Bytes
import S2nTls.Lib.Wp
import S2nTls.Utils.Error

/-!
The sequence numbers of the record layer (`crypto/s2n_sequence.c`): eight bytes in network order,
incremented in place with carries.
-/

namespace S2nTls

open Lib

/-- A sequence number: `S2N_TLS_SEQUENCE_NUM_LEN` bytes. -/
structure SequenceNumber where
  bytes : List UInt8
  bytes_length : bytes.length = 8

namespace SequenceNumber

/-- The number the bytes stand for. -/
def value (s : SequenceNumber) : ℕ := beNat s.bytes

lemma value_lt (s : SequenceNumber) : s.value < 2 ^ 64 := by
  have h := beNat_lt s.bytes
  rw [s.bytes_length] at h
  exact h

lemma ext_value {s t : SequenceNumber} (h : s.value = t.value) : s = t := by
  have hb : s.bytes = t.bytes := by
    rw [← beBytes_beNat s.bytes, ← beBytes_beNat t.bytes, s.bytes_length, t.bytes_length]
    exact congrArg (beBytes 8) h
  cases s
  cases t
  simp_all

def ofNat (n : ℕ) : SequenceNumber := ⟨beBytes 8 n, beBytes_length 8 n⟩

lemma value_ofNat {n : ℕ} (h : n < 2 ^ 64) : (ofNat n).value = n := by
  unfold value ofNat
  rw [beNat_beBytes]
  exact Nat.mod_eq_of_lt (by omega)

def zero : SequenceNumber := ofNat 0

/-- The loop of `s2n_increment_sequence_number`, on the bytes from the last to the first: the
byte is incremented, and the loop goes on while it wraps. It fails when the first byte wraps,
after having changed them all. -/
def incrementLoop : List UInt8 → Except Err Unit × List UInt8
  | [] => (.ok (), [])
  | b :: bs =>
    if b + 1 ≠ 0 then (.ok (), (b + 1) :: bs)
    else match bs with
      | [] => (.error .recordLimit, [b + 1])
      | b' :: bs' => ((incrementLoop (b' :: bs')).1, (b + 1) :: (incrementLoop (b' :: bs')).2)

lemma incrementLoop_length (bs : List UInt8) : (incrementLoop bs).2.length = bs.length := by
  fun_induction incrementLoop bs with
  | case1 => rfl
  | case2 => simp
  | case3 => simp
  | case4 b h b' bs' ih => simpa using ih

/-- `s2n_increment_sequence_number`. -/
def increment : EStateM Err SequenceNumber Unit := fun s =>
  let r := incrementLoop s.bytes.reverse
  let s' : SequenceNumber :=
    ⟨r.2.reverse, by rw [List.length_reverse, incrementLoop_length, List.length_reverse, s.bytes_length]⟩
  match r.1 with
  | .ok () => .ok () s'
  | .error e => .error e s'

lemma toNat_succ_of_ne_zero {b : UInt8} (h : b + 1 ≠ 0) : (b + 1).toNat = b.toNat + 1 := by
  have h' : (b + 1).toNat ≠ 0 := fun h0 => h (UInt8.toNat_inj.mp h0)
  have := b.toNat_lt
  rw [UInt8.toNat_add] at h' ⊢
  simp only [UInt8.reduceToNat] at h' ⊢
  omega

lemma eq_255_of_succ_eq_zero {b : UInt8} (h : b + 1 = 0) : b = 255 := by
  have h' := congrArg UInt8.toNat h
  have := b.toNat_lt
  rw [UInt8.toNat_add] at h'
  apply UInt8.toNat_inj.mp
  simp only [UInt8.reduceToNat] at h' ⊢
  omega

/-- What the loop does to the number: it adds one, or fails on the largest number and leaves
zero. -/
lemma incrementLoop_spec (bs : List UInt8) (hne : bs ≠ []) :
    let v := beNat bs.reverse
    (v + 1 < 256 ^ bs.length → (incrementLoop bs).1 = .ok () ∧ beNat (incrementLoop bs).2.reverse = v + 1) ∧
    (v + 1 = 256 ^ bs.length →
      (incrementLoop bs).1 = .error .recordLimit ∧ beNat (incrementLoop bs).2.reverse = 0) := by
  -- the loop stops at the first byte that does not wrap; one that wraps is 255 and becomes 0
  fun_induction incrementLoop bs with
  | case1 => exact absurd rfl hne
  | case2 b bs h =>
    have hb := toNat_succ_of_ne_zero h
    have hlt := beNat_lt bs.reverse
    have hb' := (b + 1).toNat_lt
    rw [List.length_reverse] at hlt
    simp only [List.reverse_cons, beNat_concat, List.length_cons, pow_succ, hb]
    rw [hb] at hb'
    refine ⟨fun _ => ⟨trivial, by omega⟩, fun hv => ?_⟩
    omega
  | case3 b h =>
    obtain rfl := eq_255_of_succ_eq_zero (not_not.mp h)
    exact ⟨fun hv => absurd hv (by decide), fun _ => ⟨rfl, by decide⟩⟩
  | case4 b h b' bs' ih =>
    obtain rfl := eq_255_of_succ_eq_zero (not_not.mp h)
    obtain ⟨ih₁, ih₂⟩ := ih (by simp)
    have hlen : (255 :: b' :: bs').length = (b' :: bs').length + 1 := rfl
    have hv : beNat (255 :: b' :: bs').reverse = 256 * beNat (b' :: bs').reverse + 255 := by
      rw [List.reverse_cons, beNat_concat]
      rfl
    have hr : ∀ l : List UInt8, beNat ((255 + 1) :: l).reverse = 256 * beNat l.reverse := by
      intro l
      rw [List.reverse_cons, beNat_concat]
      rfl
    simp only [hlen, hv, hr, pow_succ]
    refine ⟨fun hlt => ?_, fun heq => ?_⟩
    · obtain ⟨ho, hn⟩ := ih₁ (by omega)
      exact ⟨ho, by rw [hn]; ring⟩
    · obtain ⟨ho, hn⟩ := ih₂ (by omega)
      exact ⟨ho, by rw [hn]⟩

lemma reverse_ne_nil (s : SequenceNumber) : s.bytes.reverse ≠ [] := by
  intro h0
  have := congrArg List.length h0
  rw [List.length_reverse, s.bytes_length] at this
  exact absurd this (by decide)

/-- Below the largest number, incrementing adds exactly one. -/
theorem increment_of_lt {s : SequenceNumber} (h : s.value + 1 < 2 ^ 64) :
    increment.run s = .ok () (ofNat (s.value + 1)) := by
  obtain ⟨ho, hn⟩ := (incrementLoop_spec s.bytes.reverse s.reverse_ne_nil).1 (by
    rw [List.reverse_reverse, List.length_reverse, s.bytes_length]
    exact h)
  rw [List.reverse_reverse] at hn
  simp only [increment, EStateM.run, ho]
  congr 1
  apply ext_value
  rw [value_ofNat h]
  exact hn

/-- **The wrap.** On the largest number incrementing fails, and leaves zero behind. -/
theorem increment_of_max {s : SequenceNumber} (h : s.value + 1 = 2 ^ 64) :
    increment.run s = .error .recordLimit zero := by
  obtain ⟨ho, hn⟩ := (incrementLoop_spec s.bytes.reverse s.reverse_ne_nil).2 (by
    rw [List.reverse_reverse, List.length_reverse, s.bytes_length]
    exact h)
  simp only [increment, EStateM.run, ho]
  congr 1
  apply ext_value
  unfold zero
  rw [value_ofNat (by decide)]
  exact hn

end SequenceNumber

end S2nTls
