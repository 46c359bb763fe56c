import S2nTls.Stuffer.Queue

/-!
Reading as parsing. What a program reads off a stuffer is what a parser takes from the front of a
byte string; `Reads` says so for the runs in which the program succeeds. The value it returns may
be an abstraction away from the parsed one, as a block of memory is from its bytes.
-/

namespace S2nTls

open Lib

variable {bs : List UInt8} {width : ℕ}

/-! ### Parsers -/

/-- A parser takes a value from the front of a byte string. -/
abbrev Parser (β : Type) := StateT (List UInt8) Option β

def Parser.bytes (n : ℕ) : Parser (List UInt8) := fun bs =>
  if n ≤ bs.length then some (bs.take n, bs.drop n) else none

/-- The next number of `width` bytes. -/
def Parser.uint (width : ℕ) : Parser ℕ := do return beNat (← Parser.bytes width)

variable {n : ℕ}

lemma Parser.bytes_append {a : List UInt8} (b : List UInt8) (h : a.length = n) :
    Parser.bytes n (a ++ b) = some (a, b) := by
  subst h
  simp [Parser.bytes]

lemma Parser.bytes_eq_some {a b : List UInt8} :
    Parser.bytes n bs = some (a, b) ↔ bs = a ++ b ∧ a.length = n := by
  constructor
  · intro h
    unfold Parser.bytes at h
    split at h
    · rename_i hle
      obtain ⟨rfl, rfl⟩ := Prod.mk.inj (Option.some.inj h)
      simpa using hle
    · cases h
  · rintro ⟨rfl, hlen⟩
    exact Parser.bytes_append b hlen

lemma Parser.bind_run {α β : Type} {p : Parser α} {q : α → Parser β} {rest : List UInt8} {a : α}
    (h : p bs = some (a, rest)) : (p >>= q) bs = q a rest := by
  show (p bs).bind _ = _
  rw [h]
  rfl

lemma Parser.bind_eq_some {α β : Type} {p : Parser α} {q : α → Parser β} {r : β × List UInt8} :
    (p >>= q) bs = some r ↔ ∃ a rest, p bs = some (a, rest) ∧ q a rest = some r := by
  constructor
  · intro h
    obtain ⟨⟨a, rest⟩, ha, hr⟩ := Option.bind_eq_some_iff.mp h
    exact ⟨a, rest, ha, hr⟩
  · rintro ⟨a, rest, ha, hr⟩
    rw [Parser.bind_run ha, hr]

lemma Parser.uint_append (b : List UInt8) (h : n < 256 ^ width) :
    Parser.uint width (beBytes width n ++ b) = some (n, b) := by
  unfold Parser.uint
  rw [Parser.bind_run (Parser.bytes_append b (beBytes_length width n)), beNat_beBytes, Nat.mod_eq_of_lt h]
  rfl

namespace Stuffer

variable {α β γ δ : Type}

/-- **Reading is parsing.** On a stuffer with memory, if `m` succeeds then `p` parses what is unread
into the value that `abs` sees in the one `m` returns, and leaves what `m` leaves unread. -/
def Reads (abs : α → β) (m : StufferM α) (p : Parser β) : Prop :=
  ∀ t : Stuffer, t.blob.isNull = false →
    wp m (fun a u => p t.unread = some (abs a, u.unread) ∧ u.blob = t.blob) (fun _ _ => True) t

variable {abs : α → β} {rest : List UInt8}

lemma Reads.pure {a : α} {b : β} (h : abs a = b) :
    Reads abs (pure a) (pure b) := fun t _ => by
  subst h
  rw [wp_pure]
  exact ⟨rfl, rfl⟩

lemma Reads.bind {abs' : γ → δ} {m : StufferM α} {f : α → StufferM γ} {p : Parser β}
    {q : β → Parser δ} (hm : Reads abs m p) (hf : ∀ a, Reads abs' (f a) (q (abs a))) :
    Reads abs' (m >>= f) (p >>= q) := by
  intro t ht
  refine wp_tried (hm t ht) fun a u hu => ?_
  refine wp_try (fun c w hw => ?_) (hf a u (by rw [hu.2]; exact ht))
  exact ⟨by rw [Parser.bind_run hu.1]; exact hw.1, hw.2.trans hu.2⟩

lemma Reads.failWith {e : Err} {m : StufferM α} {p : Parser β} (h : Reads abs m p) :
    Reads abs (failWith e m) p := fun t ht => by
  rw [wp_failWith]
  exact wp_try (fun _ _ hu => hu) (h t ht)

lemma reads_readBytes (n : ℕ) : Reads id (readBytes n) (Parser.bytes n) := by
  intro t ht
  by_cases h : n ≤ t.dataAvailable
  · rw [wp_readBytes_of_le ht h]
    exact ⟨by simp [Parser.bytes, h], rfl⟩
  · rw [wp_readBytes_of_lt h]
    trivial

lemma reads_readUint (width : ℕ) : Reads id (readUint width) (Parser.uint width) :=
  (reads_readBytes width).bind fun _ => Reads.pure rfl

lemma wp_rawRead_bytes (n : ℕ) {t : Stuffer} (ht : t.blob.isNull = false) {R : Err → Stuffer → Prop} :
    wp (rawRead n) (fun o u => u.blob = t.blob ∧ ∀ off ∈ o,
      Parser.bytes n t.unread = some (slice t.blob.data off n, u.unread)) R t := by
  by_cases h : n ≤ t.dataAvailable
  · rw [wp_of_ok (a := some t.readCursor) (t := (t.advanceRead n h).taint)
      (by simp [rawRead, EStateM.run, h, ht])]
    refine ⟨rfl, fun off hoff => ?_⟩
    obtain rfl : t.readCursor = off := by simpa using hoff
    simp [Parser.bytes, h, ← take_unread h]
  · rw [wp_of_ok (a := none) (t := t) (by simp [rawRead, EStateM.run, h])]
    exact ⟨rfl, fun off hoff => by simp at hoff⟩

/-! ### Reading what is there -/

section Wp

variable {t : Stuffer} {R : Err → Stuffer → Prop} (hnull : t.blob.isNull = false)

include hnull

lemma wp_readBytes_of_bytes {Q : List UInt8 → Stuffer → Prop}
    (h : Parser.bytes n t.unread = some (bs, rest))
    (hok : ∀ u, u.unread = rest → u.blob = t.blob → Q bs u) : wp (readBytes n) Q R t := by
  obtain ⟨hun, rfl⟩ := Parser.bytes_eq_some.mp h
  exact wp_readBytes_append hun hnull fun u hu hblob _ => hok u hu hblob

lemma wp_readUint_of_uint {Q : ℕ → Stuffer → Prop}
    (h : Parser.uint width t.unread = some (n, rest))
    (hok : ∀ u, u.unread = rest → u.blob = t.blob → Q n u) : wp (readUint width) Q R t := by
  obtain ⟨bs, r, hbs, hn⟩ := Parser.bind_eq_some.mp h
  obtain ⟨rfl, rfl⟩ : beNat bs = n ∧ r = rest := by
    have heq : (beNat bs, r) = (n, rest) := Option.some.inj hn
    exact Prod.mk.inj heq
  unfold readUint
  rw [wp_bind]
  exact wp_readBytes_of_bytes hnull hbs fun u hu hblob => by rw [wp_pure]; exact hok u hu hblob

lemma wp_rawRead_of_bytes {Q : Option ℕ → Stuffer → Prop}
    (h : Parser.bytes n t.unread = some (bs, rest))
    (hok : ∀ off u, slice t.blob.data off n = bs → u.unread = rest → u.blob = t.blob →
      Q (some off) u) : wp (rawRead n) Q R t := by
  have hle : n ≤ t.dataAvailable := by
    have hlen := congrArg List.length (Parser.bytes_eq_some.mp h).1
    rw [unread_length, List.length_append, (Parser.bytes_eq_some.mp h).2] at hlen
    omega
  rw [wp_of_ok (a := some t.readCursor) (t := (t.advanceRead n hle).taint)
    (by simp [rawRead, EStateM.run, hle, hnull])]
  obtain ⟨rfl, rfl⟩ : t.unread.take n = bs ∧ t.unread.drop n = rest := by
    simpa [Parser.bytes, hle] using h
  exact hok _ _ (take_unread hle).symm (unread_advanceRead hle) rfl

end Wp

/-! ### Reading what may be there -/

/-- The reader takes the next `n` bytes, if they are there. -/
def ReadsNext {α : Type} (n : ℕ) (g : List UInt8 → α) (r : StufferM α) : Prop :=
  ∀ t, wp r (fun a u => n ≤ t.unread.length ∧ a = g (t.unread.take n) ∧ u.unread = t.unread.drop n)
    (fun _ _ => t.unread.length < n) t

lemma readsNext_readBytes (hn : 0 < n) : ReadsNext n id (readBytes n) := by
  intro t
  rw [unread_length]
  by_cases h : n ≤ t.dataAvailable
  · rw [wp_readBytes_of_le (isNull_eq_false_of_pos (by omega)) h]
    exact ⟨h, rfl, unread_advanceRead h⟩
  · rw [wp_readBytes_of_lt h]
    omega

lemma readsNext_readUint (hn : 0 < n) : ReadsNext n beNat (readUint n) := by
  intro t
  refine wp_then (readsNext_readBytes hn t) fun bs u hu => ?_
  rw [wp_pure]
  exact ⟨hu.1, congrArg beNat hu.2.1, hu.2.2⟩

lemma ReadsNext.seq {σ : Type} {g : List UInt8 → α} {r : StufferM α} (h : ReadsNext n g r) {t : Stuffer}
    {f : α × Stuffer → EStateM Err σ β} {s : σ} {Q : β → σ → Prop} {R : Err → σ → Prop}
    (hok : ∀ u, n ≤ t.unread.length → u.unread = t.unread.drop n → wp (f (g (t.unread.take n), u)) Q R s)
    (herr : t.unread.length < n → ∀ e, R e s) : wp (onLocal r t >>= f) Q R s := by
  rw [wp_bind, wp_onLocal]
  refine wp_mono (fun a u hu => ?_) (fun e _ hlt => herr hlt e) (h t)
  obtain ⟨hle, rfl, hun⟩ := hu
  exact hok u hle hun

/-! ### Reading from a stuffer that is part of a state -/

section Zoom

variable {σ β : Type} {get : σ → Stuffer} {set : Stuffer → σ → σ} {s : σ}
  {Q : β → σ → Prop} {R : Err → σ → Prop}

lemma wp_seq_zoom_readUint {f : ℕ → EStateM Err σ β} (hnull : (get s).blob.isNull = false)
    (h : (get s).unread = beBytes width n ++ rest) (hn : n < 256 ^ width)
    (hok : ∀ u, u.blob.isNull = false → u.unread = rest → wp (f n) Q R (set u s)) :
    wp (zoom get set (readUint width) >>= f) Q R s := by
  rw [wp_bind, wp_zoom]
  refine wp_readUint_of_uint hnull (h ▸ Parser.uint_append rest hn) fun u hu hblob => ?_
  exact hok u (hblob ▸ hnull) hu

lemma wp_seq_zoom_readBytes {f : List UInt8 → EStateM Err σ β} (hnull : (get s).blob.isNull = false)
    (h : (get s).unread = bs ++ rest) (hn : bs.length = n)
    (hok : ∀ u, u.blob.isNull = false → u.unread = rest → wp (f bs) Q R (set u s)) :
    wp (zoom get set (readBytes n) >>= f) Q R s := by
  rw [wp_bind, wp_zoom]
  refine wp_readBytes_of_bytes hnull (h ▸ Parser.bytes_append rest hn) fun u hu hblob => ?_
  exact hok u (hblob ▸ hnull) hu

end Zoom

end Stuffer

end S2nTls
