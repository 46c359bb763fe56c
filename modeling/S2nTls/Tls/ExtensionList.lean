import S2nTls.Stuffer.Stuffer

/-!
Extension lists (`tls/extensions/s2n_extension_list.c`, `s2n_extension_type.c`): how a list on the
wire is split into extensions, and how the handlers of a list of extension types are run on it.

The connection is a parameter: `ExtensionAccess` says where it keeps its version and its three
bit fields. An extension is recorded under the number it has on the wire; since
`s2n_supported_extensions` has no number twice, this is as good as the index into that table.
-/

namespace S2nTls

open Lib Stuffer

/-! ### Numbers of extensions -/

namespace Extension

def serverName : ℕ := 0
def maxFragLen : ℕ := 1
def statusRequest : ℕ := 5
def supportedGroups : ℕ := 10
def ecPointFormats : ℕ := 11
def signatureAlgorithms : ℕ := 13
def alpn : ℕ := 16
def sctList : ℕ := 18
def ems : ℕ := 23
def sessionTicket : ℕ := 35
def preSharedKey : ℕ := 41
def earlyData : ℕ := 42
def supportedVersions : ℕ := 43
def cookie : ℕ := 44
def pskKeyExchangeModes : ℕ := 45
def certAuthorities : ℕ := 47
def keyShare : ℕ := 51
def quicTransportParameters : ℕ := 0x39
def npn : ℕ := 13172
def pqKemParameters : ℕ := 0xFE01
def renegotiationInfo : ℕ := 65281

end Extension

open Extension in
def supportedExtensions : List ℕ :=
  [renegotiationInfo, pqKemParameters, serverName, maxFragLen, statusRequest, supportedGroups,
    ecPointFormats, signatureAlgorithms, alpn, sctList, sessionTicket, supportedVersions, keyShare,
    cookie, quicTransportParameters, pskKeyExchangeModes, preSharedKey, earlyData, ems, npn,
    certAuthorities]

/-! ### Parsing -/

/-- The `n` bytes of a block from offset `off` on, as a block. -/
def Blob.sub (b : Blob) (off n : ℕ) : Blob :=
  ⟨fun i => b.data (off + i), min n b.size, false, fun h => Bool.noConfusion h,
    lt_of_le_of_lt (Nat.min_le_right _ _) b.size_lt⟩

/-- `s2n_parsed_extension` of an extension that is there. Its `wire_index` is its place in the
list. -/
structure ParsedExtension where
  extensionType : ℕ
  extension : Blob

def extensionParse (parsed : List ParsedExtension) : StufferM (List ParsedExtension) := do
  let extensionType ← failWith .badMessage (readUint 2)
  let extensionSize ← failWith .badMessage (readUint 2)
  match ← rawRead extensionSize with
  | none => throw .badMessage
  | some off =>
    if extensionType ∈ supportedExtensions then
      ensure (∀ e ∈ parsed, e.extensionType ≠ extensionType) .duplicateExtension
      return parsed ++ [⟨extensionType, (← get).blob.sub off extensionSize⟩]
    else
      -- an unknown extension is passed over
      return parsed

/-- The loop of `s2n_extension_list_parse`. Every extension takes at least its four bytes of
header, so the bytes that are there bound the number of rounds. -/
def extensionListParseLoop : (fuel : ℕ) → List ParsedExtension → StufferM (List ParsedExtension)
  | 0, parsed => return parsed
  | fuel + 1, parsed => do
    if (← get).dataAvailable = 0 then return parsed
    else extensionListParseLoop fuel (← extensionParse parsed)

/-- The part of `s2n_extension_list_parse` that knows the size of the list. -/
def extensionListBody (total : ℕ) : StufferM (List ParsedExtension) := do
  match ← rawRead total with
  | none => throw .badMessage
  | some off =>
    let raw := (← get).blob.sub off total
    let (parsed, _) ← onLocal (extensionListParseLoop total []) (Stuffer.initWritten raw)
    return parsed

/-- `s2n_extension_list_parse`. A list whose length cannot be read is an empty one. -/
def extensionListParse : StufferM (List ParsedExtension) := do
  let total ← attempt (readUint 2)
  extensionListBody (total.toOption.getD 0)

/-! ### Sending -/

def encodeExtension (e : ℕ × List UInt8) : List UInt8 :=
  beBytes 2 e.1 ++ beBytes 2 e.2.length ++ e.2

/-- The bytes of an extension list: its size, and type, size and data of every extension. -/
def encodeExtensionList (exts : List (ℕ × List UInt8)) : List UInt8 :=
  let body := exts.flatMap encodeExtension
  beBytes 2 body.length ++ body

/-- The type and the size fit their fields. -/
def EncodableExtension (e : ℕ × List UInt8) : Prop := e.1 < 2 ^ 16 ∧ e.2.length < 2 ^ 16

instance (e : ℕ × List UInt8) : Decidable (EncodableExtension e) := by
  unfold EncodableExtension; infer_instance

/-! ### Processing -/

/-- The bit fields of a connection: which extensions were sent as requests, and which were
received as requests and as responses. -/
structure ExtensionBits where
  requestsSent : ℕ → Bool
  requestsReceived : ℕ → Bool
  responsesReceived : ℕ → Bool

/-- What the processing of extensions reads and writes of a connection. -/
structure ExtensionAccess (σ : Type) where
  version : σ → ℕ
  bits : σ → ExtensionBits
  setBits : ExtensionBits → σ → σ

/-- The receiving half of `s2n_extension_type`. -/
structure ExtensionType (σ : Type) where
  ianaValue : ℕ
  isResponse : Bool
  minimumVersion : ℕ
  recv : Stuffer → EStateM Err σ Unit
  ifMissing : EStateM Err σ Unit

/-- `s2n_parsed_extensions_list`, with the extensions whose `processed` flag is set. -/
structure ParsedExtensionsList where
  parsed : List ParsedExtension
  processed : List ℕ := []

def extensionErrorIfMissing {σ : Type} : EStateM Err σ Unit := throw .missingExtension

def extensionNoopIfMissing {σ : Type} : EStateM Err σ Unit := return

section Process

variable {σ : Type} (access : ExtensionAccess σ)

/-- The bits after the extension `x` was received. -/
def ExtensionBits.receive (b : ExtensionBits) (x : ExtensionType σ) : ExtensionBits :=
  if x.isResponse then { b with responsesReceived := Function.update b.responsesReceived x.ianaValue true }
  else { b with requestsReceived := Function.update b.requestsReceived x.ianaValue true }

def extensionRecv (x : ExtensionType σ) (t : Stuffer) : EStateM Err σ Unit := do
  let c ← get
  ensure (x.isResponse = true → (access.bits c).requestsSent x.ianaValue = true) .unsupportedExtension
  if access.version c < x.minimumVersion then return
  else
    x.recv t
    modify fun c => access.setBits ((access.bits c).receive x) c

/-- The sending half of `s2n_extension_type`. -/
structure ExtensionSender (σ : Type) where
  ianaValue : ℕ
  isResponse : Bool
  minimumVersion : ℕ
  shouldSend : σ → Bool
  send : σ → List UInt8

/-- The bits after the extension `x` was sent. -/
def ExtensionBits.sent (b : ExtensionBits) (x : ExtensionSender σ) : ExtensionBits :=
  if x.isResponse then b
  else { b with requestsSent := Function.update b.requestsSent x.ianaValue true }

/-- `s2n_extension_send`: the data of the extension, if it is sent. Its size must fit two bytes. -/
def extensionSend (x : ExtensionSender σ) :
    EStateM Err σ (Option ShortBytes) := do
  let c ← get
  if x.isResponse = true ∧ (access.bits c).requestsReceived x.ianaValue = false then return none
  else if access.version c < x.minimumVersion then return none
  else if x.shouldSend c = false then return none
  else if h : (x.send c).length < 2 ^ 16 then
    modify fun c => access.setBits ((access.bits c).sent x) c
    return some ⟨x.send c, h⟩
  else throw .sizeMismatch

def extensionIsMissing (x : ExtensionType σ) : EStateM Err σ Unit := do
  let c ← get
  if x.isResponse = true ∧ (access.bits c).requestsSent x.ianaValue = false then return
  else if access.version c < x.minimumVersion then return
  else x.ifMissing

/-- `s2n_extension_process_impl` on an extension that was not yet processed. -/
def extensionProcessImpl (x : ExtensionType σ) (parsed : List ParsedExtension) :
    EStateM Err σ Unit :=
  match parsed.find? fun e => e.extensionType = x.ianaValue with
  | none => extensionIsMissing access x
  | some e => extensionRecv access x (Stuffer.initWritten e.extension)

def extensionProcess (x : ExtensionType σ) (l : ParsedExtensionsList) :
    EStateM Err σ ParsedExtensionsList := do
  ensure (x.ianaValue ∈ supportedExtensions) .unrecognizedExtension
  if x.ianaValue ∈ l.processed then return l
  else
    extensionProcessImpl access x l.parsed
    return { l with processed := x.ianaValue :: l.processed }

def extensionListProcess : List (ExtensionType σ) → ParsedExtensionsList → EStateM Err σ Unit
  | [], _ => return
  | x :: xs, l => do extensionListProcess xs (← extensionProcess access x l)

section Wp

variable {access : ExtensionAccess σ} {c : σ} {R : Err → σ → Prop} {x : ExtensionSender σ}
  {Q : Option ShortBytes → σ → Prop}

lemma wp_extensionSend_none (hshould : x.shouldSend c = false) (hQ : Q none c) :
    wp (extensionSend access x) Q R c := by
  unfold extensionSend
  rw [wp_read, if_pos hshould]
  split
  · exact hQ
  · split
    · exact hQ
    · exact hQ

lemma wp_extensionSend_some (hrequest : x.isResponse = true → (access.bits c).requestsReceived x.ianaValue = true)
    (hversion : x.minimumVersion ≤ access.version c) (hshould : x.shouldSend c = true)
    (hQ : ∀ hlen, Q (some ⟨x.send c, hlen⟩) (access.setBits ((access.bits c).sent x) c))
    (hR : 2 ^ 16 ≤ (x.send c).length → R .sizeMismatch c) : wp (extensionSend access x) Q R c := by
  unfold extensionSend
  rw [wp_read, if_neg (fun h => Bool.false_ne_true (h.2.symm.trans (hrequest h.1))),
    if_neg (Nat.not_lt.mpr hversion), if_neg (by rw [hshould]; exact Bool.noConfusion)]
  split
  · rw [wp_update]
    exact hQ _
  · rename_i hlong
    exact hR (Nat.le_of_not_lt hlong)

variable {Q : Unit → σ → Prop}

lemma wp_extensionRecv {x : ExtensionType σ} {t : Stuffer}
    (hrequest : x.isResponse = true → (access.bits c).requestsSent x.ianaValue = true)
    (hversion : x.minimumVersion ≤ access.version c)
    (h : wp (x.recv t) (fun _ c' => Q () (access.setBits ((access.bits c').receive x) c')) R c) :
    wp (extensionRecv access x t) Q R c := by
  unfold extensionRecv
  rw [wp_read]
  refine wp_ensured hrequest ?_
  rw [if_neg (Nat.not_lt.mpr hversion), wp_bind]
  exact wp_mono_ok (fun _ c' hc' => (wp_modify _).mpr hc') h

lemma wp_extensionIsMissing_noop {x : ExtensionType σ}
    (hnoop : x.ifMissing = extensionNoopIfMissing) (hQ : Q () c) :
    wp (extensionIsMissing access x) Q R c := by
  unfold extensionIsMissing
  rw [wp_read, hnoop]
  split
  · exact hQ
  · split
    · exact hQ
    · exact hQ

end Wp

/-- Handlers that keep an invariant. -/
structure ExtensionType.Respects (I : σ → Prop) (x : ExtensionType σ) : Prop where
  recv : ∀ t, Keeps I (x.recv t)
  ifMissing : Keeps I x.ifMissing

variable {I : σ → Prop}

lemma extensionProcessImpl_keeps (hbits : ∀ b c, I c → I (access.setBits b c))
    {x : ExtensionType σ} (hx : x.Respects I) (parsed : List ParsedExtension) :
    Keeps I (extensionProcessImpl access x parsed) := by
  unfold extensionProcessImpl
  split
  · exact Keeps.read fun _ => Keeps.ite (Keeps.pure _) (Keeps.ite (Keeps.pure _) hx.ifMissing)
  · exact Keeps.read fun _ => (Keeps.ensure _ _).bind fun _ => Keeps.ite (Keeps.pure _)
      ((hx.recv _).bind fun _ => .modify fun c hc => hbits _ c hc)

variable {xs : List (ExtensionType σ)}

/-- **Processing a list keeps what every handler keeps**, those aside that have already been
processed. -/
theorem extensionListProcess_keeps (hbits : ∀ b c, I c → I (access.setBits b c))
    (l : ParsedExtensionsList)
    (hx : ∀ x ∈ xs, x.ianaValue ∉ l.processed → x.Respects I) :
    Keeps I (extensionListProcess access xs l) := by
  induction xs generalizing l with
  | nil => exact .pure _
  | cons x xs ih =>
    intro c hc
    have hproc : wp (extensionProcess access x l)
        (fun l' t => I t ∧ l.processed ⊆ l'.processed) (fun _ => I) c := by
      refine wp_guard hc fun _ => ?_
      split
      · exact ⟨hc, List.Subset.refl _⟩
      · rename_i hnew
        exact wp_then (extensionProcessImpl_keeps access hbits (hx x List.mem_cons_self hnew) _ c hc)
          fun _ t ht => ⟨ht, List.subset_cons_self _ _⟩
    refine wp_then hproc fun l' t ht => ?_
    exact ih l' (fun y hy hp => hx y (List.mem_cons_of_mem _ hy) fun hmem => hp (ht.2 hmem)) t ht.1

/-- A handler that maintains an invariant. -/
structure ExtensionType.Upholds (I : σ → Prop) (x : ExtensionType σ) : Prop where
  recv : ∀ t, Maintains I (x.recv t)
  ifMissing : Maintains I x.ifMissing

variable (hbits : ∀ b c, I c → I (access.setBits b c))

include hbits

lemma extensionProcessImpl_maintains {x : ExtensionType σ} (hx : x.Upholds I) (parsed : List ParsedExtension) :
    Maintains I (extensionProcessImpl access x parsed) := by
  unfold extensionProcessImpl
  split
  · exact Maintains.read fun _ =>
      .ite (Keeps.pure _).maintains (.ite (Keeps.pure _).maintains hx.ifMissing)
  · exact Maintains.read fun _ => (Keeps.ensure _ _).maintains.bind fun _ =>
      .ite (Keeps.pure _).maintains
        ((hx.recv _).bind fun _ => (Keeps.modify fun c hc => hbits _ c hc).maintains)

lemma extensionProcess_maintains {x : ExtensionType σ} (hx : x.Upholds I) (l : ParsedExtensionsList) :
    Maintains I (extensionProcess access x l) := by
  intro c hc
  refine wp_checked fun _ => ?_
  split
  · exact hc
  · exact wp_then (extensionProcessImpl_maintains access hbits hx _ c hc) fun _ _ ht => ht

/-- **Processing a list maintains what every handler upholds.** -/
theorem extensionListProcess_maintains (hxs : ∀ x ∈ xs, x.Upholds I) (l : ParsedExtensionsList) :
    Maintains I (extensionListProcess access xs l) := by
  induction xs generalizing l with
  | nil => exact (Keeps.pure _).maintains
  | cons x xs ih =>
    intro c hc
    refine wp_then (extensionProcess_maintains access hbits (hxs x List.mem_cons_self) l c hc) fun l' t ht => ?_
    exact ih (fun y hy => hxs y (List.mem_cons_of_mem _ hy)) l' t ht

/-- **Every handler has its turn**, in a state that those before it leave. -/
theorem extensionListProcess_reaches {J K : σ → Prop} {before after : List (ExtensionType σ)} {x : ExtensionType σ}
    (l : ParsedExtensionsList) (hnodup : ((before ++ x :: after).map ExtensionType.ianaValue).Nodup)
    (hnew : ∀ y ∈ x :: after, y.ianaValue ∉ l.processed) (hbefore : ∀ y ∈ before, y.Upholds I)
    (hx : ∀ c, I c → wp (extensionProcessImpl access x l.parsed) (fun _ => J) anyError c)
    (hafter : ∀ l' : ParsedExtensionsList, l'.parsed = l.parsed → (∀ y ∈ after, y.ianaValue ∉ l'.processed) →
      ∀ c, J c → wp (extensionListProcess access after l') (fun _ => K) anyError c) :
    ∀ c, I c → wp (extensionListProcess access (before ++ x :: after) l) (fun _ => K) anyError c := by
  -- who has had its turn is not in what comes
  have hcons : ∀ {y : ExtensionType σ} {ys : List (ExtensionType σ)} {l : ParsedExtensionsList},
      ((y :: ys).map ExtensionType.ianaValue).Nodup → (∀ z ∈ ys, z.ianaValue ∉ l.processed) →
      ∀ z ∈ ys, z.ianaValue ∉ y.ianaValue :: l.processed := by
    intro y ys l hnodup hnew z hz
    refine List.not_mem_cons_of_ne_of_not_mem (fun heq => ?_) (hnew z hz)
    exact (List.nodup_cons.1 hnodup).1 (heq ▸ List.mem_map_of_mem hz)
  induction before generalizing l with
  | nil =>
    intro c hc
    have hnew' := List.forall_mem_cons.1 hnew
    have hproc : wp (extensionProcess access x l)
        (fun l' t => J t ∧ l'.parsed = l.parsed ∧ ∀ y ∈ after, y.ianaValue ∉ l'.processed) anyError c := by
      refine wp_checked fun _ => ?_
      rw [if_neg hnew'.1]
      exact wp_then (hx c hc) fun _ _ ht => ⟨ht, rfl, hcons hnodup hnew'.2⟩
    exact wp_then hproc fun l' t ht => hafter l' ht.2.1 ht.2.2 t ht.1
  | cons y before ih =>
    intro c hc
    have hbefore' := List.forall_mem_cons.1 hbefore
    have hproc : wp (extensionProcess access y l)
        (fun l' t => I t ∧ l'.parsed = l.parsed ∧ ∀ z ∈ x :: after, z.ianaValue ∉ l'.processed) anyError c := by
      refine wp_checked fun _ => ?_
      split
      · exact ⟨hc, rfl, hnew⟩
      · refine wp_then (extensionProcessImpl_maintains access hbits hbefore'.1 _ c hc) fun _ t ht => ⟨ht, rfl, ?_⟩
        exact hcons (hnodup.sublist ((List.sublist_append_right before _).cons_cons y |>.map _)) hnew
    refine wp_then hproc fun l' t ht => ?_
    obtain ⟨ht, hparsed, hnew'⟩ := ht
    exact ih l' (List.nodup_cons.1 hnodup).2 hnew' hbefore'.2 (hparsed ▸ hx)
      (fun l'' h => hafter l'' (h.trans hparsed)) t ht

end Process

end S2nTls
