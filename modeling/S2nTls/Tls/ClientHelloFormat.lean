import S2nTls.Tls.ClientHello

/-!
The format of a ClientHello, and what the server reads of a message: its fields, and the extensions
that it knows.
-/

namespace S2nTls

open Lib Stuffer

variable {bs : List UInt8}

/-! ### The format of the message -/

structure ClientHelloMsg where
  legacyVersion : List UInt8
  random : List UInt8
  sessionId : List UInt8
  cipherSuites : List UInt8
  compressionMethods : List UInt8
  extensions : List (ℕ × List UInt8)
  deriving DecidableEq

/-- The message as it stands on the wire. -/
def decodeClientHello : Parser ClientHelloMsg := do
  let legacyVersion ← Parser.bytes 2
  let random ← Parser.bytes tlsRandomDataLen
  let sessionIdLen ← Parser.uint 1
  let sessionId ← Parser.bytes sessionIdLen
  let cipherSuitesLength ← Parser.uint 2
  let cipherSuites ← Parser.bytes cipherSuitesLength
  let compressionMethodsLen ← Parser.uint 1
  let compressionMethods ← Parser.bytes compressionMethodsLen
  let extensions ← decodeExtensionList
  return ⟨legacyVersion, random, sessionId, cipherSuites, compressionMethods, extensions⟩

/-! ### What is accepted has the format -/

section Format

variable {rest : List UInt8} {width n : ℕ}

lemma Parser.uint_eq_some (h : Parser.uint width bs = some (n, rest)) : bs = beBytes width n ++ rest := by
  obtain ⟨a, rest', ha, hpure⟩ := Parser.bind_eq_some.mp h
  obtain ⟨rfl, hlen⟩ := Parser.bytes_eq_some.mp ha
  obtain ⟨rfl, rfl⟩ := Prod.mk.inj (Option.some.inj hpure)
  rw [← hlen, beBytes_beNat]

lemma Parser.uint_lt (h : Parser.uint width bs = some (n, rest)) : n < 256 ^ width := by
  obtain ⟨a, rest', ha, hpure⟩ := Parser.bind_eq_some.mp h
  obtain ⟨-, rfl⟩ := Parser.bytes_eq_some.mp ha
  obtain ⟨rfl, -⟩ := Prod.mk.inj (Option.some.inj hpure)
  exact beNat_lt a

lemma encode_of_decodeExtension {e : ℕ × List UInt8}
    (h : decodeExtension bs = some (e, rest)) : bs = encodeExtension e ++ rest := by
  obtain ⟨ty, r₁, hty, h⟩ := Parser.bind_eq_some.mp h
  obtain ⟨size, r₂, hsize, h⟩ := Parser.bind_eq_some.mp h
  obtain ⟨data, r₃, hdata, h⟩ := Parser.bind_eq_some.mp h
  obtain ⟨rfl, rfl⟩ := Prod.mk.inj (Option.some.inj h)
  obtain ⟨rfl, rfl⟩ := Parser.bytes_eq_some.mp hdata
  rw [Parser.uint_eq_some hty, Parser.uint_eq_some hsize, encodeExtension, List.append_assoc, List.append_assoc]

lemma encode_of_decodeExtensions {fuel : ℕ} : ∀ {bs : List UInt8} {exts : List (ℕ × List UInt8)},
    bs.length ≤ fuel → decodeExtensions fuel bs = some exts → bs = exts.flatMap encodeExtension := by
  induction fuel with
  | zero =>
    intro bs exts hlen h
    obtain rfl := List.length_eq_zero_iff.mp (Nat.le_zero.mp hlen)
    obtain rfl := Option.some.inj h
    rfl
  | succ fuel ih =>
    intro bs exts hlen h
    unfold decodeExtensions at h
    split at h
    · rename_i hnil
      obtain rfl := Option.some.inj h
      exact hnil
    · obtain ⟨⟨e, rest⟩, he, h⟩ := Option.bind_eq_some_iff.mp h
      obtain ⟨exts', hexts, h⟩ := Option.bind_eq_some_iff.mp h
      obtain rfl := Option.some.inj h
      have hbs := encode_of_decodeExtension he
      have hrest : rest.length ≤ fuel := by
        have hbytes := congrArg List.length hbs
        rw [List.length_append, encodeExtension, List.length_append, List.length_append, beBytes_length] at hbytes
        omega
      rw [List.flatMap_cons, ← ih hrest hexts, hbs]

/-- A list that is not empty stands there with its size. -/
lemma encode_of_decodeExtensionList {exts : List (ℕ × List UInt8)}
    (h : decodeExtensionList bs = some (exts, rest)) (hne : exts ≠ []) :
    exts.flatMap encodeExtension ++ rest <:+ bs := by
  unfold decodeExtensionList at h
  split at h
  · obtain ⟨rfl, -⟩ := Prod.mk.inj (Option.some.inj h)
    exact absurd rfl hne
  · rename_i total bs' huint
    obtain ⟨⟨body, rest'⟩, hbody, h⟩ := Option.bind_eq_some_iff.mp h
    obtain ⟨exts', hexts, h⟩ := Option.bind_eq_some_iff.mp h
    obtain ⟨rfl, rfl⟩ := Prod.mk.inj (Option.some.inj h)
    obtain ⟨rfl, rfl⟩ := Parser.bytes_eq_some.mp hbody
    rw [← encode_of_decodeExtensions le_rfl hexts, Parser.uint_eq_some huint]
    exact List.suffix_append _ _

lemma suffix_of_bytes {a : List UInt8} (h : Parser.bytes n bs = some (a, rest)) : rest <:+ bs := by
  obtain ⟨rfl, -⟩ := Parser.bytes_eq_some.mp h
  exact List.suffix_append _ _

lemma suffix_of_uint (h : Parser.uint width bs = some (n, rest)) : rest <:+ bs := by
  rw [Parser.uint_eq_some h]
  exact List.suffix_append _ _

/-- The start and the end of a message. -/
lemma decodeClientHello_cases {msg : ClientHelloMsg} (h : decodeClientHello bs = some (msg, rest)) :
    msg.legacyVersion.length = 2 ∧
      ∃ tail, tail <:+ bs ∧ decodeExtensionList tail = some (msg.extensions, rest) := by
  obtain ⟨_, r₁, h₁, h⟩ := Parser.bind_eq_some.mp h
  obtain ⟨_, r₂, h₂, h⟩ := Parser.bind_eq_some.mp h
  obtain ⟨_, r₃, h₃, h⟩ := Parser.bind_eq_some.mp h
  obtain ⟨_, r₄, h₄, h⟩ := Parser.bind_eq_some.mp h
  obtain ⟨_, r₅, h₅, h⟩ := Parser.bind_eq_some.mp h
  obtain ⟨_, r₆, h₆, h⟩ := Parser.bind_eq_some.mp h
  obtain ⟨_, r₇, h₇, h⟩ := Parser.bind_eq_some.mp h
  obtain ⟨_, r₈, h₈, h⟩ := Parser.bind_eq_some.mp h
  obtain ⟨exts, r₉, h₉, h⟩ := Parser.bind_eq_some.mp h
  obtain ⟨rfl, rfl⟩ := Prod.mk.inj (Option.some.inj h)
  have hvectors : r₈ <:+ bs :=
    (suffix_of_bytes h₈).trans <| (suffix_of_uint h₇).trans <| (suffix_of_bytes h₆).trans <|
      (suffix_of_uint h₅).trans <| (suffix_of_bytes h₄).trans <| (suffix_of_uint h₃).trans <|
        (suffix_of_bytes h₂).trans (suffix_of_bytes h₁)
  exact ⟨(Parser.bytes_eq_some.mp h₁).2, r₈, hvectors, h₉⟩

/-- **The extensions of a message** and what follows them are the end of it. -/
lemma suffix_of_decodeClientHello {msg : ClientHelloMsg}
    (h : decodeClientHello bs = some (msg, rest)) (hne : msg.extensions ≠ []) :
    msg.extensions.flatMap encodeExtension ++ rest <:+ bs := by
  obtain ⟨-, tail, htail, hexts⟩ := decodeClientHello_cases h
  exact (encode_of_decodeExtensionList hexts hne).trans htail

end Format

/-! ### What the code parses -/

section Parse

variable {t : Stuffer}

/-- The fields that were parsed are those of the message; unknown extensions are left out. -/
structure ParsedAs (h : ClientHello) (msg : ClientHelloMsg) : Prop where
  legacyVersion : h.legacyVersion = versionByte msg.legacyVersion
  sessionId : h.sessionId.bytes = msg.sessionId
  cipherSuites : h.cipherSuites.bytes = msg.cipherSuites
  compressionMethods : h.compressionMethods.bytes = msg.compressionMethods
  extensions : h.extensions.map ParsedExtension.pair = knownExtensions msg.extensions

lemma reads_readVector (n : ℕ) : Reads Blob.bytes (readVector n) (Parser.bytes n) := by
  intro t ht
  unfold readVector
  refine wp_tried (wp_rawRead_bytes n ht (R := fun _ _ => True)) fun o u hu => ?_
  cases o with
  | none => exact trivial
  | some off =>
    have hbytes := hu.2 off rfl
    rw [wp_read, wp_pure]
    refine ⟨?_, hu.1⟩
    rw [hu.1, Blob.bytes_sub (le_size_of_bytes hbytes)]
    exact hbytes

/-- What was read is gone from the memory, what follows it is not. -/
lemma wp_eraseAndReadBytes (n : ℕ) (ht : t.blob.isNull = false) : wp (eraseAndReadBytes n)
      (fun bs u => Parser.bytes n t.unread = some (bs, u.unread) ∧ u.blob.isNull = false)
      anyError t := by
  unfold eraseAndReadBytes
  rw [wp_read, wp_bind]
  by_cases hle : n ≤ t.dataAvailable
  · rw [wp_readBytes_of_le ht hle, wp_update, wp_pure]
    refine ⟨?_, ht⟩
    have hrest : slice (overwrite t.blob.data t.readCursor (List.replicate n 0)) (t.readCursor + n)
        (t.advanceRead n hle).dataAvailable = (t.advanceRead n hle).unread :=
      slice_overwrite_of_disjoint (.inr (by rw [List.length_replicate]))
    rw [unread_advanceRead] at hrest
    refine (if_pos (by rwa [unread_length])).trans ?_
    rw [← hrest]
    rfl
  · rw [wp_readBytes_of_lt hle]
    trivial

lemma wp_clientHelloParseVectors (legacyVersion : List UInt8) {random : List UInt8}
    (ht : t.blob.isNull = false) (hversion : Parser.bytes 2 bs = some (legacyVersion, random ++ t.unread))
    (hrandom : random.length = tlsRandomDataLen) :
    wp (clientHelloParseVectors (versionByte legacyVersion))
      (fun h u => ∃ msg, decodeClientHello bs = some (msg, u.unread) ∧ msg.legacyVersion = legacyVersion ∧
        msg.random = random ∧ ParsedAs h msg)
      anyError t := by
  unfold clientHelloParseVectors
  refine wp_tried (reads_readUint 1 t ht) fun sessionIdLen t₁ h₁ => ?_
  have ht₁ : t₁.blob.isNull = false := h₁.2 ▸ ht
  refine wp_checked fun _ => ?_
  refine wp_tried (reads_readVector sessionIdLen t₁ ht₁) fun sessionId t₂ h₂ => ?_
  have ht₂ : t₂.blob.isNull = false := h₂.2 ▸ ht₁
  refine wp_tried (reads_readUint 2 t₂ ht₂) fun cipherSuitesLength t₃ h₃ => ?_
  have ht₃ : t₃.blob.isNull = false := h₃.2 ▸ ht₂
  refine wp_checked fun _ => ?_
  refine wp_checked fun _ => ?_
  refine wp_tried (reads_readVector cipherSuitesLength t₃ ht₃) fun cipherSuites t₄ h₄ => ?_
  have ht₄ : t₄.blob.isNull = false := h₄.2 ▸ ht₃
  refine wp_tried (reads_readUint 1 t₄ ht₄) fun compressionMethodsLen t₅ h₅ => ?_
  have ht₅ : t₅.blob.isNull = false := h₅.2 ▸ ht₄
  refine wp_tried (reads_readVector compressionMethodsLen t₅ ht₅) fun compressionMethods t₆ h₆ => ?_
  have ht₆ : t₆.blob.isNull = false := h₆.2 ▸ ht₅
  refine wp_tried (wp_extensionListParse ht₆) fun extensions t₇ h₇ => ?_
  obtain ⟨-, exts, hexts, hparsed⟩ := h₇
  rw [wp_pure]
  refine ⟨⟨legacyVersion, random, sessionId.bytes, cipherSuites.bytes, compressionMethods.bytes, exts⟩, ?_, rfl, rfl,
    ⟨rfl, rfl, rfl, rfl, hparsed⟩⟩
  rw [id_eq] at h₁ h₃ h₅
  unfold decodeClientHello
  rw [Parser.bind_run hversion, Parser.bind_run (Parser.bytes_append _ hrandom), Parser.bind_run h₁.1,
    Parser.bind_run h₂.1, Parser.bind_run h₃.1, Parser.bind_run h₄.1, Parser.bind_run h₅.1, Parser.bind_run h₆.1,
    Parser.bind_run hexts]
  rfl

/-- **The parser of the code reads the format.** -/
lemma wp_clientHelloParseRaw (ht : t.blob.isNull = false) : wp clientHelloParseRaw
      (fun r u => ∃ msg, decodeClientHello t.unread = some (msg, u.unread) ∧ r.1 = msg.legacyVersion ∧
        r.2.1 = msg.random ∧ ParsedAs r.2.2 msg)
      anyError t := by
  unfold clientHelloParseRaw
  refine wp_tried (reads_readBytes 2 t ht) fun version t₁ h₁ => ?_
  have ht₁ : t₁.blob.isNull = false := h₁.2 ▸ ht
  refine wp_tried (wp_eraseAndReadBytes tlsRandomDataLen ht₁) fun random t₂ h₂ => ?_
  obtain ⟨hrandom, hlen⟩ := Parser.bytes_eq_some.mp h₂.1
  have hversion : Parser.bytes 2 t.unread = some (version, random ++ t₂.unread) := hrandom ▸ h₁.1
  refine wp_tried (wp_clientHelloParseVectors version h₂.2 hversion hlen) fun h t₃ h₃ => ?_
  obtain ⟨msg, hmsg, hv, hr, hparsed⟩ := h₃
  rw [wp_pure]
  exact ⟨msg, hmsg, hv.symm, hr.symm, hparsed⟩

end Parse

end S2nTls
