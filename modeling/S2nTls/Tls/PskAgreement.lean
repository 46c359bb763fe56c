import Mathlib.Algebra.Order.BigOperators.Group.List
import S2nTls.Stuffer.Written
import S2nTls.Tls.Psk

/-!
Which PSK the two ends use.

However the server chooses, it keeps the place of an identity in the list that it was sent, next to a
PSK of that identity. The client looks up that place in the list of all its PSKs. So both ends have the
same PSK exactly if the client has offered all of them, which it does not after a HelloRetryRequest if
there are PSKs with different hashes.
-/

namespace S2nTls

open Lib Stuffer

variable {rest : List UInt8} {ids : List Identity} {s : PskSelecting}

/-! ### Reading the list -/

/-- An identity that fits its field. -/
def ValidIdentity (id : Identity) : Prop := 0 < id.identity.length ∧ id.identity.length < 2 ^ 16

/-- The identities of a list that can be sent. -/
structure ValidIdentities (ids : List Identity) : Prop where
  valid : ∀ id ∈ ids, ValidIdentity id
  length_lt : ids.length < 2 ^ 16 - 1

/-- The list on the wire holds these identities. -/
structure HoldsIdentities (ids : List Identity) (list : OfferedPskList) : Prop where
  isNull : list.wireData.blob.isNull = false
  written : list.wireData.written = encodeIdentities ids

/-- The list was read up to its `wire_index`. -/
structure ReadUpTo (ids : List Identity) (list : OfferedPskList) : Prop extends HoldsIdentities ids list where
  unread : list.wireData.unread = encodeIdentities (ids.drop list.wireIndex)

/-- `psk` is what stands at its place in the list. -/
def OfferedIn (ids : List Identity) (psk : OfferedPsk) : Prop :=
  ∃ id, ids[psk.wireIndex]? = some id ∧ psk.identity.bytes = id.identity

lemma encodeIdentities_cons (id : Identity) (ids : List Identity) :
    encodeIdentities (id :: ids) = beBytes 2 id.identity.length ++
      (id.identity ++ (beBytes 4 id.obfuscatedTicketAge.toNat ++ encodeIdentities ids)) := by
  rw [encodeIdentities, List.flatMap_cons, encodeIdentity, List.append_assoc, List.append_assoc]
  rfl

lemma encodeIdentities_eq_nil : encodeIdentities ids = [] ↔ ids = [] := by
  constructor
  · intro h
    cases ids with
    | nil => rfl
    | cons id ids =>
      rw [encodeIdentities_cons] at h
      simp [beBytes] at h
  · rintro rfl
    rfl

lemma hasNext_eq_true : s.hasNext = true ↔ s.list.wireData.unread ≠ [] := by
  unfold PskSelecting.hasNext
  rw [Ne, unread_eq_nil]
  exact decide_eq_true_iff.trans Nat.pos_iff_ne_zero

lemma wp_readObfuscatedTicketAge (pskType : PskType) {t : Stuffer} {age : UInt32}
    (hnull : t.blob.isNull = false) (hun : t.unread = beBytes 4 age.toNat ++ rest) :
    wp (readObfuscatedTicketAge pskType) (fun _ u => u.unread = rest ∧ u.writtenView = t.writtenView)
      noError t := by
  cases pskType with
  | external =>
    have hbytes : Parser.bytes 4 t.unread = some (beBytes 4 age.toNat, rest) := by
      rw [hun]
      exact Parser.bytes_append rest (beBytes_length _ _)
    exact wp_then (wp_skipRead_view hbytes) fun _ u hu => hu
  | resumption =>
    have huint : Parser.uint 4 t.unread = some (age.toNat, rest) := by
      rw [hun]
      exact Parser.uint_append rest age.toNat_lt
    exact wp_mono_ok (fun _ u hu => ⟨hu.1.2, hu.2⟩) (wp_readUint_view hnull huint)

lemma ReadUpTo.drop_eq (h : ReadUpTo ids s.list) (hnext : s.hasNext = true) :
    ∃ id, ids[s.list.wireIndex]? = some id ∧ ids.drop s.list.wireIndex = id :: ids.drop (s.list.wireIndex + 1) := by
  have hne : ids.drop s.list.wireIndex ≠ [] := fun hnil =>
    hasNext_eq_true.mp hnext (h.unread.trans (encodeIdentities_eq_nil.mpr hnil))
  have hlt : s.list.wireIndex < ids.length := by
    by_contra hge
    exact hne (List.drop_eq_nil_of_le (Nat.le_of_not_lt hge))
  exact ⟨ids[s.list.wireIndex], List.getElem?_eq_getElem hlt, List.drop_eq_getElem_cons hlt⟩

/-- **The next identity** is the one at the place that was reached. -/
lemma wp_offeredPskListNext (hids : ValidIdentities ids) (h : ReadUpTo ids s.list) :
    wp offeredPskListNext
      (fun psk s' => s'.conn = s.conn ∧ ReadUpTo ids s'.list ∧ psk.wireIndex = s.list.wireIndex ∧
        s'.list.wireIndex = s.list.wireIndex + 1 ∧ OfferedIn ids psk)
      (fun _ s' => s' = s) s := by
  unfold offeredPskListNext
  refine wp_guard rfl fun hnext => ?_
  obtain ⟨id, hid, hdrop⟩ := h.drop_eq hnext
  have hvalid := hids.valid id (List.mem_of_getElem? hid)
  have hlt : s.list.wireIndex < 65535 := by
    obtain ⟨hlt, -⟩ := List.getElem?_eq_some_iff.mp hid
    have := hids.length_lt
    omega
  have hun := h.unread
  rw [hdrop, encodeIdentities_cons] at hun
  rw [wp_failWith]
  unfold offeredPskListReadNext onWireData
  rw [wp_bind, wp_zoom]
  have hsize := congrArg (Parser.uint 2) hun
  rw [Parser.uint_append _ hvalid.2] at hsize
  refine wp_sure (fun n u hu => ?_) (wp_readUint_view h.isNull hsize)
  obtain ⟨⟨rfl, hu⟩, hview⟩ := hu
  have hblob : u.blob = s.list.wireData.blob := congrArg Prod.fst hview
  refine wp_ensured hvalid.1 ?_
  have hbytes := congrArg (Parser.bytes id.identity.length) hu
  rw [Parser.bytes_append _ rfl] at hbytes
  rw [wp_bind, wp_zoom]
  refine wp_sure (fun o v hv => ?_) (wp_rawRead_view (hblob ▸ h.isNull) hbytes)
  obtain ⟨⟨off, rfl, hslice, hv⟩, hview'⟩ := hv
  have hblob' : v.blob = u.blob := congrArg Prod.fst hview'
  rw [wp_read, wp_bind, wp_zoom]
  refine wp_sure (fun age w hw => ?_)
    (wp_readObfuscatedTicketAge s.conn.pskType (hblob' ▸ hblob ▸ h.isNull) hv)
  obtain ⟨hw, hview''⟩ := hw
  have hwritten := written_eq_of_view (hview''.trans (hview'.trans hview))
  have hblob'' : w.blob = s.list.wireData.blob := congrArg Prod.fst (hview''.trans (hview'.trans hview))
  refine wp_ensured hlt ?_
  refine ⟨rfl, ⟨⟨hblob''.symm ▸ h.isNull, hwritten.trans h.written⟩, hw⟩, rfl, rfl, id, hid, ?_⟩
  have hle : id.identity.length ≤ w.blob.size := hblob''.trans hblob.symm ▸ le_size_of_bytes hbytes
  rw [Blob.bytes_sub hle, hblob''.trans hblob.symm, hslice]

lemma wp_offeredPskListReread (h : ReadUpTo ids s.list) :
    wp offeredPskListReread (fun _ s' => s'.conn = s.conn ∧ ReadUpTo ids s'.list ∧ s'.list.wireIndex = 0)
      noError s := by
  unfold offeredPskListReread onWireData reread
  exact ⟨rfl, ⟨⟨h.isNull, h.written⟩, (unread_eq_written rfl).trans h.written⟩, rfl⟩

/-! ### Selecting -/

/-- **An invariant of the selection.** `J n` holds while `n` is the place of the identity that is read next, and `O n`
of the identity that is read there. -/
structure SelectInv (env : PskEnv) (J : ℕ → PskSelecting → Prop) (O : ℕ → OfferedPsk → Prop) : Prop where
  next : ∀ {n s}, J n s → wp offeredPskListNext (fun psk t => J (n + 1) t ∧ O n psk) (fun _ t => ∃ n, J n t) s
  reread : ∀ {n s}, J n s → wp offeredPskListReread (fun _ => J 0) (fun _ t => ∃ n, J n t) s
  forget : ∀ {n s}, J n s → J n { s with conn := { s.conn with chosenPsk := none } }
  take : ∀ {n s psk} {serverPsk : PreSharedKey}, J (n + 1) s → O n psk → psk.identity.bytes = serverPsk.identity →
    J (n + 1) { s with conn := { s.conn with chosenPsk := some serverPsk, chosenPskWireIndex := n } }
  choose : ∀ {n s k psk}, J n s → O k psk →
    wp (onPskServer (offeredPskListChoosePsk env psk)) (fun _ t => ∃ n, J n t) (fun _ t => ∃ n, J n t) s

section SelectInv

variable {env : PskEnv} {J : ℕ → PskSelecting → Prop} {O : ℕ → OfferedPsk → Prop} (h : SelectInv env J O)

include h

lemma SelectInv.keeps_forget :
    Keeps (fun s => ∃ n, J n s) (onPskServer (modify fun c => { c with chosenPsk := none })) := by
  rintro s ⟨n, hs⟩
  unfold onPskServer
  exact ⟨n, h.forget hs⟩

lemma SelectInv.wp_compareIdentities (serverPsk : PreSharedKey) (fuel : ℕ) : ∀ {n : ℕ} {s : PskSelecting}, J n s →
    wp (compareIdentities serverPsk fuel n) (fun _ t => ∃ n, J n t) (fun _ t => ∃ n, J n t) s := by
  induction fuel with
  | zero => exact fun hs => ⟨_, hs⟩
  | succ fuel ih =>
    intro n s hs
    unfold compareIdentities
    rw [wp_read, wp_ite]
    refine ⟨fun _ => ⟨n, hs⟩, fun _ => ?_⟩
    refine wp_then (h.next hs) fun psk t ht => ?_
    rw [wp_bind]
    unfold onPskServer
    rw [wp_zoom, wp_modify]
    refine ih ?_
    split
    · rename_i hsame
      exact h.take ht.1 ht.2 hsame.1
    · exact ht.1

lemma SelectInv.keeps_compareServerPsks (psks : List PreSharedKey) :
    Keeps (fun s => ∃ n, J n s) (compareServerPsks psks) := by
  induction psks with
  | nil => exact .pure ()
  | cons psk psks ih =>
    rintro s ⟨n, hs⟩
    unfold compareServerPsks
    refine wp_then (h.reread hs) fun _ t ht => ?_
    rw [wp_read]
    exact wp_then (h.wp_compareIdentities psk _ ht) fun _ u hu => ih u hu

lemma SelectInv.keeps_tryTickets (left : ℕ) : Keeps (fun s => ∃ n, J n s) (tryTickets env left) := by
  induction left with
  | zero => exact .throw _
  | succ left ih =>
    rintro s ⟨n, hs⟩
    unfold tryTickets
    rw [wp_read, wp_ite]
    refine ⟨fun _ => ⟨n, hs⟩, fun _ => ?_⟩
    refine wp_then (h.next hs) fun psk t ht => ?_
    rw [wp_bind, wp_attempt]
    exact wp_mono (fun _ _ hu => hu) (fun _ u hu => ih u hu) (h.choose ht.1 ht.2)

lemma SelectInv.wp_offeredAt (i : ℕ) : ∀ {n : ℕ} {s : PskSelecting}, J n s →
    wp (offeredAt i) (fun psk t => ∃ n k, J n t ∧ O k psk) (fun _ t => ∃ n, J n t) s := by
  induction i with
  | zero => exact fun hs => wp_mono_ok (fun _ _ ht => ⟨_, _, ht⟩) (h.next hs)
  | succ i ih => exact fun hs => wp_then (h.next hs) fun _ _ ht => ih ht.1

lemma SelectInv.keeps_applicationChoices (choices : List (Option ℕ)) :
    Keeps (fun s => ∃ n, J n s) (applicationChoices env choices) := by
  induction choices with
  | nil => exact .pure ()
  | cons choice rest ih =>
    refine .bind (.attempt ?_) fun _ => ih
    cases choice with
    | none => exact h.keeps_forget
    | some i =>
      rintro s ⟨n, hs⟩
      refine wp_then (h.reread hs) fun _ t ht => ?_
      refine wp_then (h.wp_offeredAt i ht) fun psk u hu => ?_
      obtain ⟨_, _, hu, hpsk⟩ := hu
      exact h.choose hu hpsk

/-- **However the server selects**, the invariant holds afterwards. -/
lemma SelectInv.keeps_selectPsk (pskType : PskType) : Keeps (fun s => ∃ n, J n s) (selectPsk env pskType) := by
  unfold selectPsk
  match env.pskSelectionCb with
  | some (choices, ok) => exact (h.keeps_applicationChoices choices).bind fun _ => .ensure _ _
  | none =>
    cases pskType with
    | external =>
      exact h.keeps_forget.bind fun _ => Keeps.read fun _ => (h.keeps_compareServerPsks _).bind fun _ =>
        Keeps.read fun _ => Keeps.ensure _ _
    | resumption => exact h.keeps_forget.bind fun _ => h.keeps_tryTickets _

end SelectInv

/-! ### Choosing -/

section Choosing

variable {c : PskServer} {psk : OfferedPsk} (env : PskEnv)

/-- The PSK that the server has chosen is the one of its place in the list. -/
def Chosen (names : List (List UInt8)) (c : PskServer) : Prop :=
  ∀ psk, c.chosenPsk = some psk → names[c.chosenPskWireIndex]? = some psk.identity

def identityNames (ids : List Identity) : List (List UInt8) := ids.map Identity.identity

lemma OfferedIn.name (h : OfferedIn ids psk) : (identityNames ids)[psk.wireIndex]? = some psk.identity.bytes := by
  obtain ⟨id, hid, hbytes⟩ := h
  rw [identityNames, List.getElem?_map, hid, hbytes]
  rfl

lemma Chosen.of_none {names : List (List UInt8)} (h : c.chosenPsk = none) : Chosen names c := fun psk hpsk => by
  rw [h] at hpsk
  cases hpsk

lemma keeps_decryptTicket (names : List (List UInt8)) (identity : List UInt8) :
    Keeps (Chosen names) (decryptTicket env identity) := by
  unfold decryptTicket
  cases env.decrypt identity with
  | failed => exact .throw _
  | wiped => exact (Keeps.modify fun c _ => Chosen.of_none rfl).bind fun _ => .throw _
  | restored psk => exact .modify fun c _ => Chosen.of_none rfl

lemma keeps_chooseKnownPsk (h : OfferedIn ids psk) : Keeps (Chosen (identityNames ids)) (chooseKnownPsk env psk) := by
  intro c hc
  unfold chooseKnownPsk
  rw [wp_read]
  cases hfind : c.pskList.find? fun known => known.identity = psk.identity.bytes with
  | none => exact Keeps.throw _ c hc
  | some known =>
    have hname : known.identity = psk.identity.bytes := by simpa using List.find?_some hfind
    refine wp_guard hc fun _ => ?_
    rintro _ ⟨⟩
    rw [hname]
    exact h.name

lemma keeps_offeredPskListChoosePsk (h : OfferedIn ids psk) :
    Keeps (Chosen (identityNames ids)) (offeredPskListChoosePsk env psk) :=
  Keeps.read fun _ => (Keeps.ite (keeps_decryptTicket env _ _) (Keeps.pure ())).bind fun _ =>
    keeps_chooseKnownPsk env h

/-- **The server while it chooses**: the list is read up to its place, and what is chosen stands at its
place. -/
structure Selecting (ids : List Identity) (s : PskSelecting) : Prop where
  read : ReadUpTo ids s.list
  chosen : Chosen (identityNames ids) s.conn

lemma keeps_onPskServer {α : Type} {m : EStateM Err PskServer α} (h : Keeps (Chosen (identityNames ids)) m) :
    Keeps (Selecting ids) (onPskServer m) := by
  intro s hs
  unfold onPskServer
  rw [wp_zoom]
  exact wp_always (fun _ hc => ⟨hs.read, hc⟩) (h s.conn hs.chosen)

variable (hids : ValidIdentities ids)
include hids

/-- The selection keeps to the places of the list. -/
lemma selectInv_selecting : SelectInv env (fun n s => Selecting ids s ∧ s.list.wireIndex = n)
    (fun n psk => OfferedIn ids psk ∧ psk.wireIndex = n) where
  next := by
    rintro _ s ⟨hs, rfl⟩
    refine wp_mono (fun psk t ht => ?_) (fun _ t (ht : t = s) => ⟨_, ht ▸ hs, rfl⟩)
      (wp_offeredPskListNext hids hs.read)
    obtain ⟨hconn, hread, hindex, hnext, hoffered⟩ := ht
    exact ⟨⟨⟨hread, hconn ▸ hs.chosen⟩, hnext⟩, hoffered, hindex⟩
  reread := by
    rintro _ s ⟨hs, -⟩
    refine wp_sure (fun _ t ht => ?_) (wp_offeredPskListReread hs.read)
    exact ⟨⟨ht.2.1, ht.1 ▸ hs.chosen⟩, ht.2.2⟩
  forget hs := ⟨⟨hs.1.read, Chosen.of_none rfl⟩, hs.2⟩
  take hs hpsk hsame := by
    refine ⟨⟨hs.1.read, ?_⟩, hs.2⟩
    rintro _ ⟨⟩
    rw [← hsame, ← hpsk.2]
    exact hpsk.1.name
  choose hs hpsk := wp_always (fun _ ht => ⟨_, ht, rfl⟩)
    (keeps_onPskServer (keeps_offeredPskListChoosePsk env hpsk.1) _ hs.1)

lemma keeps_recvIdentityList {b : Blob} (hnull : b.isNull = false) (hbytes : b.bytes = encodeIdentities ids) :
    Keeps (Chosen (identityNames ids)) (recvIdentityList env (Stuffer.initWritten b)) := by
  intro c hc
  have hread : ReadUpTo ids ⟨Stuffer.initWritten b, 0⟩ := ⟨⟨hnull, hbytes⟩, hbytes⟩
  rw [wp_recvIdentityList]
  refine wp_mono (fun _ s hs => ?_) (fun _ _ hs => ?_)
    ((selectInv_selecting env hids).keeps_selectPsk c.pskType ⟨c, ⟨Stuffer.initWritten b, 0⟩⟩ ⟨0, ⟨hread, hc⟩, rfl⟩)
  · obtain ⟨_, hs, -⟩ := hs
    exact Keeps.ensure _ _ s.conn hs.chosen
  · obtain ⟨_, hs, -⟩ := hs
    exact hs.chosen

lemma keeps_recvIdentities {extension : Stuffer} (hnull : extension.blob.isNull = false)
    (hlen : (encodeIdentities ids).length < 2 ^ 16)
    (hun : extension.unread = beBytes 2 (encodeIdentities ids).length ++ (encodeIdentities ids ++ rest)) :
    Keeps (Chosen (identityNames ids)) (recvIdentities env extension) := by
  intro c hc
  have hsize := congrArg (Parser.uint 2) hun
  rw [Parser.uint_append _ hlen] at hsize
  unfold recvIdentities
  rw [wp_bind, wp_onLocal]
  refine wp_sure (fun n t ht => ?_) (wp_readUint_view hnull hsize)
  obtain ⟨⟨rfl, ht⟩, hview⟩ := ht
  have hblob : t.blob = extension.blob := congrArg Prod.fst hview
  have hbytes := congrArg (Parser.bytes (encodeIdentities ids).length) ht
  rw [Parser.bytes_append _ rfl] at hbytes
  rw [wp_bind, wp_onLocal]
  refine wp_sure (fun o u hu => ?_) (wp_rawRead_view (hblob ▸ hnull) hbytes)
  obtain ⟨⟨off, rfl, hslice, -⟩, hview'⟩ := hu
  have hblob' : u.blob = t.blob := congrArg Prod.fst hview'
  have hids' : (u.blob.sub off (encodeIdentities ids).length).bytes = encodeIdentities ids := by
    rw [Blob.bytes_sub (hblob' ▸ le_size_of_bytes hbytes), hblob', hslice]
  exact (keeps_recvIdentityList env hids rfl hids').bind (fun _ => .pure _) c hc

omit hids in
lemma frames_recvBindersOfChosen (extension : Stuffer) :
    Frames (fun c : PskServer => c) (recvBindersOfChosen env extension) := by
  refine .read fun c => ?_
  cases c.chosenPsk with
  | none => exact .pure _
  | some psk =>
    refine .bind (.runLocal _ _) fun _ => .bind (.runLocal _ _) fun data => ?_
    obtain ⟨data, extension⟩ := data
    cases data with
    | none => exact .throw _
    | some off =>
      exact .read fun _ => .checked <| .checked <|
        .bind (.runLocal _ _) fun _ => .pure _

/-- **After the extension was received**, what the server has chosen stands at its place in the list. -/
lemma keeps_clientPskRecv {extension : Stuffer} (hnull : extension.blob.isNull = false)
    (hlen : (encodeIdentities ids).length < 2 ^ 16)
    (hun : extension.unread = beBytes 2 (encodeIdentities ids).length ++ (encodeIdentities ids ++ rest)) :
    Keeps (Chosen (identityNames ids)) (clientPskRecv env extension) := by
  have hchecks : Frames (fun c : PskServer => c) clientPskChecks :=
    Frames.read fun _ => .checked <| .checked <|
      .checked <| Frames.ensure _ _
  refine (hchecks.keeps _).bind fun _ => Keeps.read fun _ => Keeps.ite ?_ (Keeps.pure ())
  intro c hc
  unfold recvPsks
  rw [wp_bind, wp_attempt]
  refine wp_mono (fun extension c' hc' => ?_) (fun _ c' _ => ?_) (keeps_recvIdentities env hids hnull hlen hun c hc)
  · exact (frames_recvBindersOfChosen env extension).keeps _ c' hc'
  · exact Chosen.of_none rfl

end Choosing

/-! ### What the client sends -/

section Sending

variable {c : PskClient} {clock : ℕ → Option UInt64} {binder : PreSharedKey → List UInt8} {psks : List PreSharedKey}

lemma names_offeredIdentities {pskType : PskType} : ∀ {i : ℕ} {ids : List Identity},
    offeredIdentities pskType clock i psks = .ok ids → identityNames ids = psks.map PreSharedKey.identity := by
  induction psks with
  | nil =>
    rintro i _ ⟨⟩
    rfl
  | cons psk psks ih =>
    intro i ids h
    unfold offeredIdentities at h
    cases hclock : clock i with
    | none => simp [hclock] at h
    | some now =>
      simp only [hclock] at h
      obtain ⟨age, -, h⟩ := exists_ok_of_bind h
      obtain ⟨rest, hrest, h⟩ := exists_ok_of_bind h
      obtain rfl := Except.ok.inj h
      rw [List.map_cons, ← ih hrest]
      rfl

lemma encodeIdentities_length_le : ∀ {ids : List Identity},
    identityNames ids = psks.map PreSharedKey.identity →
      (encodeIdentities ids).length ≤ (psks.map offeredPskSize).sum := by
  induction psks with
  | nil =>
    intro ids h
    obtain rfl := List.map_eq_nil_iff.mp h
    exact Nat.zero_le _
  | cons psk psks ih =>
    intro ids h
    obtain ⟨id, rest, rfl, hid, hrest⟩ := List.map_eq_cons_iff.mp h
    have hle := ih hrest
    have hlen : id.identity.length = psk.identity.length := congrArg List.length hid
    rw [encodeIdentities_cons, List.map_cons, List.sum_cons, offeredPskSize]
    simp only [List.length_append, beBytes_length]
    omega

lemma length_le_encodeIdentities (ids : List Identity) : ids.length ≤ (encodeIdentities ids).length := by
  induction ids with
  | nil => exact Nat.zero_le _
  | cons id ids ih =>
    rw [encodeIdentities_cons, List.length_cons]
    simp only [List.length_append, beBytes_length]
    omega

lemma identity_length_le {id : Identity} {ids : List Identity} (h : id ∈ ids) :
    id.identity.length ≤ (encodeIdentities ids).length := by
  induction ids with
  | nil => cases h
  | cons id' ids ih =>
    rw [encodeIdentities_cons]
    simp only [List.length_append, beBytes_length]
    rcases List.mem_cons.mp h with rfl | h
    · omega
    · have := ih h
      omega

lemma length_le_offeredPsksSize (psks : List PreSharedKey) : psks.length ≤ offeredPsksSize psks := by
  unfold offeredPsksSize
  induction psks with
  | nil => exact Nat.zero_le _
  | cons psk psks ih =>
    rw [List.length_cons, List.map_cons, List.sum_cons, offeredPskSize]
    omega

lemma offered_size_le (c : PskClient) : (c.offered.map offeredPskSize).sum ≤ 65527 := by
  have hsub : (c.offered.map offeredPskSize).Sublist (c.pskList.psks.map offeredPskSize) :=
    (List.filter_sublist).map _
  have hfits := c.pskList.fits
  unfold offeredPsksSize at hfits
  have hle := hsub.sum_le_sum fun _ _ => Nat.zero_le _
  omega

lemma validIdentities {ids : List Identity} (h : identityNames ids = c.offered.map PreSharedKey.identity) :
    ValidIdentities ids := by
  have hlen := (encodeIdentities_length_le h).trans (offered_size_le c)
  refine ⟨fun id hid => ⟨?_, ?_⟩, ?_⟩
  · have hmem : id.identity ∈ c.offered.map PreSharedKey.identity := h ▸ List.mem_map_of_mem hid
    obtain ⟨psk, hpsk, heq⟩ := List.mem_map.mp hmem
    rw [← heq]
    exact List.length_pos_iff.mpr (c.pskList.nonempty psk (List.mem_of_mem_filter hpsk))
  · have := identity_length_le hid
    omega
  · have := length_le_encodeIdentities ids
    omega

lemma exists_of_clientPskSend {body : List UInt8} (h : clientPskSend clock binder c = .ok body) :
    ∃ ids rest, identityNames ids = c.offered.map PreSharedKey.identity ∧
      body = beBytes 2 (encodeIdentities ids).length ++ (encodeIdentities ids ++ rest) := by
  obtain ⟨ids, hids, h⟩ := exists_ok_of_bind h
  exact ⟨ids, _, names_offeredIdentities hids, (Except.ok.inj h).symm⟩

end Sending

/-! ### Agreement -/

section Agreement

variable {psks : PskList} {prf : HmacAlg} {client : PskClient} {server server' : PskServer}

/-- `server'` is `server` after it has received the extension that `client` sends. -/
def Answers (client : PskClient) (server server' : PskServer) : Prop :=
  clientPskShouldSend client = true ∧ ∃ clock binder env body,
    clientPskSend clock binder client = .ok body.1 ∧
      (clientPskRecv env (arrived body)).run server = .ok () server'

def sentIndex (i : ℕ) : ShortBytes := ⟨beBytes 2 i, by simp⟩

/-- If the server has chosen a PSK, the client takes the one of the same identity. -/
def AgreesWith (client : PskClient) (server : PskServer) : Prop :=
  ∀ psk, server.chosenPsk = some psk → client.bits.responsesReceived Extension.keyShare = true →
    ∃ psk' client', EStateM.run (PskClient.serverPskRecv (arrived ⟨serverPskSend server, by simp [serverPskSend]⟩))
      client = .ok () client' ∧ client'.chosenPsk = some psk' ∧ psk'.identity = psk.identity

/-- The client rejects every index outside of the identities that it has sent. -/
def RejectsOthers (client : PskClient) : Prop :=
  clientPskShouldSend client = true → ∀ i < 2 ^ 16, client.offered.length ≤ i →
    ∃ e client', EStateM.run (PskClient.serverPskRecv (arrived (sentIndex i))) client = .error e client'

/-- A client with these PSKs at its first ClientHello. -/
structure FirstHello (psks : PskList) (client : PskClient) : Prop where
  pskList : client.pskList = psks
  first : client.isHelloRetryHandshake = false

/-- A client with these PSKs at its second ClientHello, with a cipher suite of hash `prf`. -/
structure SecondHello (psks : PskList) (prf : HmacAlg) (client : PskClient) : Prop where
  pskList : client.pskList = psks
  second : client.isHelloRetryHandshake = true
  prfAlg : client.prfAlg = prf

/-- **Agreement on the PSK**, in both ClientHellos. A server starts without a PSK, and keeps what it has
chosen for the first one until it receives the second one. -/
structure PskAgrees (psks : PskList) (prf : HmacAlg) : Prop where
  first : ∀ client server server', FirstHello psks client → server.chosenPsk = none →
    Answers client server server' → AgreesWith client server'
  second : ∀ client₁ client₂ server₁ server₁' server₂ server₂', FirstHello psks client₁ →
    SecondHello psks prf client₂ → server₁.chosenPsk = none → Answers client₁ server₁ server₁' →
    server₂.chosenPsk = server₁'.chosenPsk → server₂.chosenPskWireIndex = server₁'.chosenPskWireIndex →
    Answers client₂ server₂ server₂' → AgreesWith client₂ server₂'
  range : ∀ client, FirstHello psks client ∨ SecondHello psks prf client → RejectsOthers client

lemma wp_serverPskRecv (client : PskClient) {i : ℕ} (hi : i < 2 ^ 16) :
    wp (PskClient.serverPskRecv (arrived (sentIndex i)))
      (fun _ client' => ∃ psk, client.pskList.psks[i]? = some psk ∧ client'.chosenPsk = some psk)
      (fun _ _ => client.bits.responsesReceived Extension.keyShare = true → client.pskList.psks[i]? = none)
      client := by
  have hindex : Parser.uint 2 (arrived (sentIndex i)).unread = some (i, []) := by
    have happend : Parser.uint 2 (beBytes 2 i ++ []) = some (i, []) := Parser.uint_append [] hi
    rwa [List.append_nil] at happend
  unfold PskClient.serverPskRecv
  refine wp_seq_ensure (fun _ => ?_) fun hnot hkey => absurd hkey hnot
  rw [wp_update, wp_bind, wp_onLocal]
  refine wp_sure (fun n t ht => ?_) (wp_readUint_view rfl hindex)
  obtain ⟨⟨rfl, -⟩, -⟩ := ht
  rw [wp_read]
  cases hpsk : client.pskList.psks[n]? with
  | none => exact (wp_throw _).mpr fun _ => rfl
  | some psk => exact (wp_modify _).mpr ⟨psk, rfl, rfl⟩

lemma Answers.chosen (h : Answers client server server')
    (hchosen : Chosen (client.offered.map PreSharedKey.identity) server) :
    Chosen (client.offered.map PreSharedKey.identity) server' := by
  obtain ⟨-, clock, binder, env, body, hsend, hrecv⟩ := h
  obtain ⟨ids, rest, hnames, hbody⟩ := exists_of_clientPskSend hsend
  rw [← hnames] at hchosen ⊢
  have hlen := (encodeIdentities_length_le hnames).trans (offered_size_le client)
  have hkeeps := keeps_clientPskRecv env (validIdentities hnames) rfl (lt_of_le_of_lt hlen (by decide))
    ((unread_arrived body).trans hbody) server hchosen
  exact (wp_of_ok hrecv).mp hkeeps

lemma agreesWith_of_chosen (hall : client.offered = client.pskList.psks)
    (h : Chosen (client.offered.map PreSharedKey.identity) server) : AgreesWith client server := by
  intro psk hpsk hkey
  have hname := h psk hpsk
  rw [hall, List.getElem?_map] at hname
  obtain ⟨psk', hpsk', hidentity⟩ := Option.map_eq_some_iff.mp hname
  have hindex : server.chosenPskWireIndex < 2 ^ 16 := by
    have hlt : server.chosenPskWireIndex < client.pskList.psks.length := (List.getElem?_eq_some_iff.mp hpsk').1
    have hle := length_le_offeredPsksSize client.pskList.psks
    have hfits := client.pskList.fits
    omega
  obtain ⟨hok, herror⟩ := wp_iff_run.mp (wp_serverPskRecv client hindex)
  cases hrun : EStateM.run (PskClient.serverPskRecv (arrived (sentIndex server.chosenPskWireIndex))) client with
  | ok _ client' =>
    obtain ⟨found, hfound, hchosen⟩ := hok _ _ hrun
    obtain rfl : found = psk' := Option.some.inj (hfound.symm.trans hpsk')
    exact ⟨found, client', hrun, hchosen, hidentity⟩
  | error e client' => exact absurd (hpsk'.symm.trans (herror _ _ hrun hkey)) (Option.some_ne_none _)

lemma offered_of_first (h : FirstHello psks client) : client.offered = client.pskList.psks := by
  unfold PskClient.offered
  rw [h.first]
  exact List.filter_eq_self.mpr fun _ _ => rfl

variable (h : SecondHello psks prf client)

include h

lemma mem_offered_of_second {psk : PreSharedKey} :
    psk ∈ client.offered ↔ psk ∈ psks.psks ∧ psk.hmacAlg = prf := by
  unfold PskClient.offered
  rw [List.mem_filter, h.second, h.prfAlg, h.pskList]
  simp [eq_comm]

lemma offered_of_second :
    client.offered = client.pskList.psks ↔ ∀ psk ∈ psks.psks, psk.hmacAlg = prf := by
  constructor
  · intro hall psk hpsk
    rw [← h.pskList, ← hall] at hpsk
    exact ((mem_offered_of_second h).mp hpsk).2
  · intro hall
    refine List.filter_eq_self.mpr fun psk hpsk => ?_
    rw [h.prfAlg, hall psk (h.pskList ▸ hpsk)]
    simp

lemma shouldSend_of_second :
    clientPskShouldSend client = true ↔ ∃ psk ∈ psks.psks, psk.hmacAlg = prf := by
  unfold clientPskShouldSend
  rw [h.second, h.prfAlg, h.pskList, if_neg Bool.noConfusion, List.any_eq_true]
  exact exists_congr fun psk => and_congr_right fun _ => decide_eq_true_iff.trans eq_comm
omit h

lemma rejectsOthers_of_all (hall : client.offered = client.pskList.psks) : RejectsOthers client := by
  intro _ i hi hle
  obtain ⟨hok, -⟩ := wp_iff_run.mp (wp_serverPskRecv client hi)
  cases hrun : EStateM.run (PskClient.serverPskRecv (arrived (sentIndex i))) client with
  | ok _ client' =>
    obtain ⟨found, hfound, -⟩ := hok _ _ hrun
    have hlt := (List.getElem?_eq_some_iff.mp hfound).1
    rw [hall] at hle
    exact absurd hle (Nat.not_le_of_lt hlt)
  | error e client' => exact ⟨e, client', rfl⟩

/-- The first index after those that were sent is rejected only if there are no more PSKs. -/
lemma all_of_rejectsOthers (hkey : client.bits.responsesReceived Extension.keyShare = true)
    (hsend : clientPskShouldSend client = true) (h : RejectsOthers client) :
    client.offered = client.pskList.psks := by
  have hsub : client.offered.Sublist client.pskList.psks := List.filter_sublist
  have hindex : client.offered.length < 2 ^ 16 := by
    have hlen := hsub.length_le
    have hle := length_le_offeredPsksSize client.pskList.psks
    have hfits := client.pskList.fits
    omega
  obtain ⟨e, client', hrun⟩ := h hsend _ hindex le_rfl
  have hnone := (wp_iff_run.mp (wp_serverPskRecv client hindex)).2 _ _ hrun hkey
  exact hsub.eq_of_length_le (List.getElem?_eq_none_iff.mp hnone)

/-- **Both ends use the same PSK** exactly if the client, after a HelloRetryRequest, has no PSK to leave
out: all have the hash of the cipher suite, or none has it and no PSK is offered. -/
theorem psk_agrees_iff (psks : PskList) (prf : HmacAlg) :
    PskAgrees psks prf ↔ ((∃ psk ∈ psks.psks, psk.hmacAlg = prf) → ∀ psk ∈ psks.psks, psk.hmacAlg = prf) := by
  constructor
  · intro h hex
    -- a client at its second ClientHello that has received a key share
    let client : PskClient := ⟨psks, .external, true, prf, none, 0, .unknown,
      ⟨fun _ => true, fun _ => true, fun _ => true⟩⟩
    have hsecond : SecondHello psks prf client := ⟨rfl, rfl, rfl⟩
    have hall := all_of_rejectsOthers rfl ((shouldSend_of_second hsecond).mpr hex) (h.range client (.inr hsecond))
    exact (offered_of_second hsecond).mp hall
  · intro h
    refine ⟨fun client server server' hfirst hnone hanswers => ?_, ?_, ?_⟩
    · exact agreesWith_of_chosen (offered_of_first hfirst) (hanswers.chosen (Chosen.of_none hnone))
    · intro client₁ client₂ server₁ server₁' server₂ server₂' hfirst hsecond hnone hanswers₁ hpsk hindex hanswers₂
      have hall := (offered_of_second hsecond).mpr (h ((shouldSend_of_second hsecond).mp hanswers₂.1))
      have hsame : client₂.offered = client₁.offered := by
        rw [hall, offered_of_first hfirst, hsecond.pskList, hfirst.pskList]
      -- what is kept from the first ClientHello stands at its place in the second one too
      have hkept : Chosen (client₂.offered.map PreSharedKey.identity) server₂ := by
        intro psk hchosen
        rw [hsame, hindex]
        exact hanswers₁.chosen (Chosen.of_none hnone) psk (hpsk ▸ hchosen)
      exact agreesWith_of_chosen hall (hanswers₂.chosen hkept)
    · rintro client (hfirst | hsecond)
      · exact rejectsOthers_of_all (offered_of_first hfirst)
      · intro hsend
        exact rejectsOthers_of_all ((offered_of_second hsecond).mpr (h ((shouldSend_of_second hsecond).mp hsend))) hsend

/-- A client with a PSK of each hash. -/
def mixedClient : PskClient where
  pskList := {
    psks := [⟨[65], [1], .sha384, 0, 0, by decide⟩, ⟨[66], [2], .sha256, 0, 0, by decide⟩]
    fits := by decide
    nodup := by decide
    nonempty := by decide }
  pskType := .external
  prfAlg := .sha256
  bits := ⟨fun _ => true, fun _ => true, fun _ => true⟩

/-- A server that has the second PSK, with a ClientHello of 40 bytes. -/
def mixedServer : PskServer where
  pskList := [⟨[66], [2], .sha256, 0, 0, by decide⟩]
  pskType := .external
  pskKeMode := .pskDheKe
  useTickets := false
  bits := ⟨fun _ => true, fun _ => true, fun _ => true⟩
  parsed := [⟨Extension.preSharedKey, Blob.zero⟩]
  io := arrived ⟨List.replicate 40 0, by decide⟩

/-- **Each end takes another PSK**: after a HelloRetryRequest the client offers `B` alone, the server
chooses the first identity, and the client takes its first PSK, `A`. -/
theorem psk_of_another_identity :
    ∃ server₁ server₂ client, Answers mixedClient mixedServer server₁ ∧
      Answers { mixedClient with isHelloRetryHandshake := true } server₁ server₂ ∧
      (PskClient.serverPskRecv (arrived ⟨serverPskSend server₂, by simp [serverPskSend]⟩)).run
        { mixedClient with isHelloRetryHandshake := true } = .ok () client ∧
      server₂.chosenPsk.map PreSharedKey.identity = some [66] ∧
      client.chosenPsk.map PreSharedKey.identity = some [65] := by
  let env : PskEnv := ⟨fun _ => .failed, fun _ _ => true, fun _ _ _ => true, none⟩
  let body₁ : ShortBytes :=
    ⟨[0, 14, 0, 1, 65, 0, 0, 0, 0, 0, 1, 66, 0, 0, 0, 0, 0, 34, 0, 32] ++ List.replicate 32 0, by decide⟩
  let body₂ : ShortBytes :=
    ⟨[0, 7, 0, 1, 66, 0, 0, 0, 0, 0, 33, 32] ++ List.replicate 32 0, by decide⟩
  -- the binder of the PSK that is not chosen is not looked at
  let binder : PreSharedKey → List UInt8 := fun psk => if psk.hmacAlg = .sha256 then List.replicate 32 0 else []
  let server₁ := finalState (clientPskRecv env (arrived body₁)) mixedServer
  let server₂ := finalState (clientPskRecv env (arrived body₂)) server₁
  have hfirst : Answers mixedClient mixedServer server₁ :=
    ⟨rfl, fun _ => some 0, binder, env, body₁, by decide +kernel, run_of_succeeds (by decide +kernel)⟩
  have hsecond : Answers { mixedClient with isHelloRetryHandshake := true } server₁ server₂ :=
    ⟨rfl, fun _ => some 0, binder, env, body₂, by decide +kernel, run_of_succeeds (by decide +kernel)⟩
  exact ⟨server₁, server₂, _, hfirst, hsecond, run_of_succeeds (by decide +kernel), by decide +kernel,
    by decide +kernel⟩

end Agreement

end S2nTls
