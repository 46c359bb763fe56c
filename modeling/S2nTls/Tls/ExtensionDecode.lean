import S2nTls.Stuffer.Reads
import S2nTls.Tls.ExtensionList

/-!
What `s2n_extension_list_parse` makes of the bytes it is given: the extensions of the list in their
order, without those it does not know.
-/

namespace S2nTls

open Lib Stuffer

variable {exts : List (ℕ × List UInt8)} {t : Stuffer} {n : ℕ}

/-! ### The format -/

/-- The next extension: its type and its data. -/
def decodeExtension : Parser (ℕ × List UInt8) := do
  let extensionType ← Parser.uint 2
  let size ← Parser.uint 2
  let data ← Parser.bytes size
  return (extensionType, data)

/-- The extensions that fill a byte string. No extension is empty, so the length of the string
bounds their number. -/
def decodeExtensions : (fuel : ℕ) → List UInt8 → Option (List (ℕ × List UInt8))
  | 0, _ => some []
  | fuel + 1, bs =>
    if bs = [] then some []
    else do
      let (e, rest) ← decodeExtension bs
      return e :: (← decodeExtensions fuel rest)

/-- An extension list; one whose size is not there is empty. -/
def decodeExtensionList : Parser (List (ℕ × List UInt8)) := fun bs =>
  match Parser.uint 2 bs with
  | none => some ([], bs)
  | some (total, rest) => do
    let (body, rest) ← Parser.bytes total rest
    return (← decodeExtensions total body, rest)

variable {e : ℕ × List UInt8}

lemma decodeExtension_encode (h : EncodableExtension e) (rest : List UInt8) :
    decodeExtension (encodeExtension e ++ rest) = some (e, rest) := by
  have htype : e.1 < 256 ^ 2 := h.1
  have hsize : e.2.length < 256 ^ 2 := h.2
  unfold decodeExtension encodeExtension
  rw [List.append_assoc, List.append_assoc, Parser.bind_run (Parser.uint_append _ htype),
    Parser.bind_run (Parser.uint_append _ hsize),
    Parser.bind_run (Parser.bytes_append (a := e.2) _ rfl)]
  rfl

lemma decodeExtensions_encode (h : ∀ e ∈ exts, EncodableExtension e) {fuel : ℕ} (hfuel : exts.length ≤ fuel) :
    decodeExtensions fuel (exts.flatMap encodeExtension) = some exts := by
  induction exts generalizing fuel with
  | nil => cases fuel <;> rfl
  | cons e exts ih =>
    obtain ⟨fuel, rfl⟩ : ∃ k, fuel = k + 1 := ⟨fuel - 1, by simp at hfuel; omega⟩
    have hne : (e :: exts).flatMap encodeExtension ≠ [] := by simp [encodeExtension, beBytes]
    have hrest := ih (fun x hx => h x (List.mem_cons_of_mem _ hx)) (by simpa using hfuel)
    have hfirst := decodeExtension_encode (h e List.mem_cons_self) (exts.flatMap encodeExtension)
    rw [decodeExtensions, if_neg hne, List.flatMap_cons, hfirst]
    simp [hrest]

lemma length_le_flatMap_encode (exts : List (ℕ × List UInt8)) :
    exts.length ≤ (exts.flatMap encodeExtension).length := by
  induction exts with
  | nil => simp
  | cons e exts ih =>
    rw [List.flatMap_cons, List.length_append, List.length_cons]
    have : 1 ≤ (encodeExtension e).length := by simp [encodeExtension]; omega
    omega

/-- **Decoding inverts encoding.** -/
theorem decodeExtensionList_encode (h : ∀ e ∈ exts, EncodableExtension e)
    (hlen : (exts.flatMap encodeExtension).length < 2 ^ 16) (rest : List UInt8) :
    decodeExtensionList (encodeExtensionList exts ++ rest) = some (exts, rest) := by
  unfold decodeExtensionList encodeExtensionList
  have hlen : (exts.flatMap encodeExtension).length < 256 ^ 2 := hlen
  rw [List.append_assoc, Parser.uint_append _ hlen]
  simp only [Parser.bytes_append rest rfl, Option.bind_eq_bind, Option.bind_some,
    decodeExtensions_encode h (length_le_flatMap_encode exts), pure]

/-! ### What the code parses -/

/-- What is seen of a parsed extension: its type and its data. -/
def ParsedExtension.pair (e : ParsedExtension) : ℕ × List UInt8 := (e.extensionType, e.extension.bytes)

lemma Blob.bytes_sub {b : Blob} {off : ℕ} (h : n ≤ b.size) : (b.sub off n).bytes = slice b.data off n := by
  have hmin : min n b.size = n := Nat.min_eq_left h
  simp [Blob.bytes, Blob.sub, hmin, slice]

/-- What arrives of the data of an extension. -/
def arrived (body : ShortBytes) : Stuffer :=
  Stuffer.initWritten (Blob.ofList body.1 (lt_trans body.2 (by decide)))

lemma unread_arrived (body : ShortBytes) : (arrived body).unread = body.1 :=
  Blob.bytes_ofList _ _

/-- The known extensions of a list. -/
def knownExtensions (exts : List (ℕ × List UInt8)) : List (ℕ × List UInt8) :=
  exts.filter fun e => e.1 ∈ supportedExtensions

lemma lookup_knownExtensions (hn : n ∈ supportedExtensions) (exts : List (ℕ × List UInt8)) :
    (knownExtensions exts).lookup n = exts.lookup n := by
  unfold knownExtensions
  induction exts with
  | nil => rfl
  | cons e exts ih =>
    obtain ⟨k, body⟩ := e
    by_cases hk : k ∈ supportedExtensions
    · rw [List.filter_cons_of_pos (by simpa using hk), List.lookup_cons, List.lookup_cons, ih]
    · have hne : (n == k) = false := beq_false_of_ne (by rintro rfl; exact hk hn)
      rw [List.filter_cons_of_neg (by simpa using hk), List.lookup_cons, hne, ih]

variable (parsed : List ParsedExtension)

lemma find_parsed (n : ℕ) :
    (parsed.find? fun e => e.extensionType = n).map (·.extension.bytes) =
      (parsed.map ParsedExtension.pair).lookup n := by
  induction parsed with
  | nil => rfl
  | cons e parsed ih =>
    by_cases he : e.extensionType = n
    · simp [ParsedExtension.pair, he]
    · have hne : (n == e.extensionType) = false := beq_false_of_ne (Ne.symm he)
      simpa [ParsedExtension.pair, he, hne, List.lookup_cons] using ih

lemma le_size_of_bytes {r : List UInt8 × List UInt8} (h : Parser.bytes n t.unread = some r) : n ≤ t.blob.size := by
  unfold Parser.bytes at h
  split at h
  · rename_i hle
    rw [unread_length] at hle
    have h₁ := t.write_le_high
    have h₂ := t.high_le_size
    unfold Stuffer.dataAvailable at hle
    omega
  · cases h

lemma wp_extensionParse (ht : t.blob.isNull = false) : wp (extensionParse parsed)
      (fun parsed' u => u.blob = t.blob ∧ ∃ e, decodeExtension t.unread = some (e, u.unread) ∧
        parsed'.map ParsedExtension.pair = parsed.map ParsedExtension.pair ++ knownExtensions [e])
      anyError t := by
  unfold extensionParse
  refine wp_tried ((reads_readUint 2).failWith (e := .badMessage) t ht) fun ty u hu => ?_
  have hu₂ : u.blob.isNull = false := by rw [hu.2]; exact ht
  refine wp_tried ((reads_readUint 2).failWith (e := .badMessage) u hu₂) fun size w hw => ?_
  have hw₂ : w.blob.isNull = false := by rw [hw.2]; exact hu₂
  refine wp_tried (wp_rawRead_bytes size hw₂ (R := fun _ _ => True)) fun o x hx => ?_
  cases o with
  | none => exact trivial
  | some off =>
    have hbytes := hx.2 off rfl
    have hdec : decodeExtension t.unread = some ((ty, slice w.blob.data off size), x.unread) := by
      unfold decodeExtension
      rw [Parser.bind_run hu.1, Parser.bind_run hw.1]
      exact Parser.bind_run hbytes
    dsimp only
    split
    · rename_i hknown
      refine wp_checked fun _ => ?_
      rw [wp_read, wp_pure]
      refine ⟨hx.1.trans (hw.2.trans hu.2), _, hdec, ?_⟩
      have hsize : size ≤ x.blob.size := by rw [hx.1]; exact le_size_of_bytes hbytes
      have hpair : (x.blob.sub off size).bytes = slice w.blob.data off size := by
        rw [Blob.bytes_sub hsize, hx.1]
      simp [knownExtensions, hknown, ParsedExtension.pair, hpair]
    · rename_i hunknown
      rw [wp_pure]
      exact ⟨hx.1.trans (hw.2.trans hu.2), _, hdec, by simp [knownExtensions, hunknown]⟩

lemma wp_extensionListParseLoop (fuel : ℕ) (parsed : List ParsedExtension) (ht : t.blob.isNull = false) :
    wp (extensionListParseLoop fuel parsed)
      (fun parsed' _ => ∃ exts, decodeExtensions fuel t.unread = some exts ∧
        parsed'.map ParsedExtension.pair = parsed.map ParsedExtension.pair ++ knownExtensions exts)
      anyError t := by
  induction fuel generalizing parsed t with
  | zero => exact ⟨[], rfl, by simp [knownExtensions]⟩
  | succ fuel ih =>
    unfold extensionListParseLoop
    rw [wp_read]
    split
    · rename_i hnone
      have hnil : t.unread = [] := unread_eq_nil.mpr hnone
      exact ⟨[], by rw [hnil]; rfl, by simp [knownExtensions]⟩
    · rename_i hsome
      have hne : t.unread ≠ [] := fun h => hsome (unread_eq_nil.mp h)
      refine wp_tried (wp_extensionParse parsed ht) fun parsed' u hu => ?_
      obtain ⟨hblob, e, hdec, hmap⟩ := hu
      refine wp_try (fun p w hw => ?_) (ih parsed' (by rw [hblob]; exact ht))
      obtain ⟨exts, hexts, hp⟩ := hw
      refine ⟨e :: exts, ?_, ?_⟩
      · rw [decodeExtensions, if_neg hne, hdec]
        simp [hexts]
      · rw [hp, hmap, List.append_assoc, knownExtensions, knownExtensions, ← List.filter_append]
        rfl

lemma wp_extensionListBody (total : ℕ) (ht : t.blob.isNull = false) : wp (extensionListBody total)
      (fun parsed u => u.blob = t.blob ∧ ∃ body exts, Parser.bytes total t.unread = some (body, u.unread) ∧
        decodeExtensions total body = some exts ∧
        parsed.map ParsedExtension.pair = knownExtensions exts)
      anyError t := by
  unfold extensionListBody
  refine wp_tried (wp_rawRead_bytes total ht (R := fun _ _ => True)) fun o u hu => ?_
  cases o with
  | none => exact trivial
  | some off =>
    have hbytes := hu.2 off rfl
    have hsize : total ≤ u.blob.size := by rw [hu.1]; exact le_size_of_bytes hbytes
    have hraw : (Stuffer.initWritten (u.blob.sub off total)).unread = slice t.blob.data off total := by
      rw [unread_initWritten, Blob.bytes_sub hsize, hu.1]
    rw [wp_read, wp_bind, wp_onLocal]
    refine wp_try (fun parsed x hx => ?_)
      (wp_extensionListParseLoop total [] (t := Stuffer.initWritten (u.blob.sub off total)) rfl)
    obtain ⟨exts, hexts, hparsed⟩ := hx
    rw [hraw] at hexts
    rw [wp_pure]
    exact ⟨hu.1, _, exts, hbytes, hexts, by simpa using hparsed⟩

/-- **The parser of the code reads the format.** -/
theorem wp_extensionListParse (ht : t.blob.isNull = false) : wp extensionListParse
      (fun parsed u => u.blob = t.blob ∧ ∃ exts, decodeExtensionList t.unread = some (exts, u.unread) ∧
        parsed.map ParsedExtension.pair = knownExtensions exts)
      anyError t := by
  unfold extensionListParse readUint
  rw [wp_bind, wp_attempt, wp_bind]
  -- whether the size of the list can be read
  by_cases hle : 2 ≤ t.dataAvailable
  · have huint : Parser.uint 2 t.unread = some (beNat (t.unread.take 2), (t.advanceRead 2 hle).unread) := by
      have hbytes : Parser.bytes 2 t.unread = some (t.unread.take 2, t.unread.drop 2) := by
        simp [Parser.bytes, hle]
      rw [Parser.uint, Parser.bind_run hbytes, unread_advanceRead]
      rfl
    rw [wp_readBytes_of_le ht hle, wp_pure]
    refine wp_try (fun parsed u hu => ?_)
      (wp_extensionListBody (beNat (t.unread.take 2)) (t := t.advanceRead 2 hle) ht)
    obtain ⟨hblob, body, exts, hbody, hexts, hparsed⟩ := hu
    refine ⟨hblob, exts, ?_, hparsed⟩
    simp only [decodeExtensionList, huint, hbody, Option.bind_eq_bind, Option.bind_some, hexts, pure]
  · have huint : Parser.uint 2 t.unread = none := by
      have hbytes : Parser.bytes 2 t.unread = none := by simp [Parser.bytes, hle]
      show (Parser.bytes 2 t.unread).bind _ = none
      rw [hbytes]
      rfl
    rw [wp_readBytes_of_lt hle]
    refine wp_try (fun parsed u hu => ?_) (wp_extensionListBody 0 ht)
    obtain ⟨hblob, body, exts, hbody, hexts, hparsed⟩ := hu
    obtain ⟨rfl, hunread⟩ : [] = body ∧ t.unread = u.unread := by
      simpa [Parser.bytes, eq_comm] using hbody
    obtain rfl : [] = exts := by simpa [decodeExtensions] using hexts
    exact ⟨hblob, [], by rw [decodeExtensionList, huint, hunread], hparsed⟩

/-! ### What is accepted -/

variable {parsed : List ParsedExtension}

lemma wp_extensionParse_ok
    (ht : t.blob.isNull = false) {rest : List UInt8}
    (hdec : decodeExtension t.unread = some (e, rest))
    (hnew : e.1 ∈ supportedExtensions → ∀ x ∈ parsed, x.extensionType ≠ e.1) :
    wp (extensionParse parsed)
      (fun parsed' u => u.blob = t.blob ∧ u.unread = rest ∧
        parsed'.map ParsedExtension.pair = parsed.map ParsedExtension.pair ++ knownExtensions [e])
      noError t := by
  have hsound := wp_extensionParse parsed ht
  have hok : wp (extensionParse parsed) (fun _ _ => True) noError t := by
    unfold decodeExtension at hdec
    obtain ⟨ty, r₁, hty, hdec⟩ := Parser.bind_eq_some.mp hdec
    obtain ⟨size, r₂, hsize, hdec⟩ := Parser.bind_eq_some.mp hdec
    obtain ⟨data, r₃, hdata, hdec⟩ := Parser.bind_eq_some.mp hdec
    obtain ⟨rfl, rfl⟩ : (ty, data) = e ∧ r₃ = rest := Prod.mk.inj (Option.some.inj hdec)
    unfold extensionParse
    rw [wp_bind, wp_failWith]
    refine wp_readUint_of_uint ht hty fun u hu hublob => ?_
    rw [wp_bind, wp_failWith]
    subst hu
    have hunull : u.blob.isNull = false := by rw [hublob]; exact ht
    refine wp_readUint_of_uint hunull hsize fun w hw hwblob => ?_
    rw [wp_bind]
    subst hw
    refine wp_rawRead_of_bytes (by rw [hwblob]; exact hunull) hdata fun off x _ _ _ => ?_
    dsimp only
    split
    · rename_i hknown
      refine wp_ensured (hnew hknown) ?_
      rw [wp_read, wp_pure]
      trivial
    · trivial
  refine wp_mono (fun parsed' u hu => ?_) (fun _ _ h => h.2) (wp_and hsound hok)
  obtain ⟨⟨hblob, e', hdec', hmap⟩, -⟩ := hu
  obtain ⟨rfl, hrest⟩ : e' = e ∧ u.unread = rest := by
    rw [hdec] at hdec'
    exact (Prod.mk.inj (Option.some.inj hdec')).imp Eq.symm Eq.symm
  exact ⟨hblob, hrest, hmap⟩

lemma knownExtensions_cons (e : ℕ × List UInt8) (exts : List (ℕ × List UInt8)) :
    knownExtensions (e :: exts) = knownExtensions [e] ++ knownExtensions exts := by
  rw [knownExtensions, knownExtensions, knownExtensions, ← List.filter_append]
  rfl

lemma wp_extensionListParseLoop_ok (fuel : ℕ) (ht : t.blob.isNull = false)
    (hdec : decodeExtensions fuel t.unread = some exts)
    (hnodup : ((parsed.map ParsedExtension.pair ++ knownExtensions exts).map Prod.fst).Nodup) :
    wp (extensionListParseLoop fuel parsed) (fun _ _ => True) noError t := by
  induction fuel generalizing parsed t exts with
  | zero => trivial
  | succ fuel ih =>
    unfold extensionListParseLoop
    rw [wp_read]
    split
    · trivial
    · rename_i hsome
      have hne : t.unread ≠ [] := fun h => hsome (unread_eq_nil.mp h)
      rw [decodeExtensions, if_neg hne] at hdec
      obtain ⟨⟨e, rest⟩, he, hdec⟩ := Option.bind_eq_some_iff.mp hdec
      obtain ⟨exts', hexts, hdec⟩ := Option.bind_eq_some_iff.mp hdec
      obtain rfl : e :: exts' = exts := Option.some.inj hdec
      refine wp_then (wp_extensionParse_ok ht he fun hknown x hx heq => ?_)
        fun parsed' u hu => ?_
      · -- a second extension of this type
        rw [List.map_append, List.nodup_append] at hnodup
        refine hnodup.2.2 x.extensionType ?_ e.1 ?_ heq
        · exact List.mem_map.mpr ⟨x.pair, List.mem_map_of_mem hx, rfl⟩
        · exact List.mem_map_of_mem (by simp [knownExtensions, hknown])
      · obtain ⟨hblob, rfl, hparsed⟩ := hu
        refine ih (by rw [hblob]; exact ht) hexts ?_
        rw [hparsed, List.append_assoc, ← knownExtensions_cons]
        exact hnodup

/-- **Every list without duplicates is accepted.** -/
theorem wp_extensionListParse_ok (ht : t.blob.isNull = false) {rest : List UInt8}
    (hdec : decodeExtensionList t.unread = some (exts, rest))
    (hnodup : ((knownExtensions exts).map Prod.fst).Nodup) :
    wp extensionListParse
      (fun parsed u => u.blob = t.blob ∧ u.unread = rest ∧
        parsed.map ParsedExtension.pair = knownExtensions exts)
      noError t := by
  have hbody : ∀ {u : Stuffer} {total : ℕ} {body : List UInt8}, u.blob = t.blob →
      Parser.bytes total u.unread = some (body, rest) → decodeExtensions total body = some exts →
      wp (extensionListBody total) (fun _ _ => True) noError u := by
    intro u total body hu hbytes hexts
    have hunull : u.blob.isNull = false := by rw [hu]; exact ht
    unfold extensionListBody
    rw [wp_bind]
    refine wp_rawRead_of_bytes hunull hbytes fun off w hoff _ hwblob => ?_
    have hsize : total ≤ w.blob.size := by rw [hwblob]; exact le_size_of_bytes hbytes
    dsimp only
    rw [wp_read, wp_bind, wp_onLocal]
    have hloop : decodeExtensions total (Stuffer.initWritten (w.blob.sub off total)).unread = some exts := by
      rw [unread_initWritten, Blob.bytes_sub hsize, hwblob, hoff, hexts]
    have hnodup' : ((([] : List ParsedExtension).map ParsedExtension.pair ++
        knownExtensions exts).map Prod.fst).Nodup := hnodup
    exact wp_mono_ok (fun _ _ _ => trivial)
      (wp_extensionListParseLoop_ok total rfl hloop hnodup')
  have hok : wp extensionListParse (fun _ _ => True) noError t := by
    unfold extensionListParse
    rw [wp_bind, wp_attempt]
    unfold decodeExtensionList at hdec
    cases huint : Parser.uint 2 t.unread with
    | none =>
      rw [huint] at hdec
      obtain ⟨rfl, hrest⟩ : [] = exts ∧ t.unread = rest := Prod.mk.inj (Option.some.inj hdec)
      have hlt : ¬ 2 ≤ t.dataAvailable := by
        intro hle
        have hbytes : Parser.bytes 2 t.unread = some (t.unread.take 2, t.unread.drop 2) := by
          simp [Parser.bytes, hle]
        rw [Parser.uint, Parser.bind_run hbytes] at huint
        cases huint
      unfold readUint
      rw [wp_bind, wp_readBytes_of_lt hlt]
      have hempty : Parser.bytes 0 t.unread = some ([], rest) := by
        rw [hrest]
        exact Parser.bytes_append (a := []) rest rfl
      exact hbody rfl hempty rfl
    | some r =>
      rw [huint] at hdec
      obtain ⟨⟨body, rest'⟩, hbytes, hdec⟩ := Option.bind_eq_some_iff.mp hdec
      obtain ⟨exts', hexts, hdec⟩ := Option.bind_eq_some_iff.mp hdec
      obtain ⟨rfl, rfl⟩ : exts' = exts ∧ rest' = rest := Prod.mk.inj (Option.some.inj hdec)
      refine wp_readUint_of_uint ht huint fun u hu hblob => ?_
      exact hbody hblob (by rw [hu]; exact hbytes) hexts
  refine wp_mono (fun parsed u hu => ?_) (fun _ _ h => h.2) (wp_and (wp_extensionListParse ht) hok)
  obtain ⟨⟨hblob, exts', hdec', hparsed⟩, -⟩ := hu
  obtain ⟨rfl, hrest⟩ : exts' = exts ∧ u.unread = rest := by
    rw [hdec] at hdec'
    exact (Prod.mk.inj (Option.some.inj hdec')).imp Eq.symm Eq.symm
  exact ⟨hblob, hrest, hparsed⟩

end S2nTls
