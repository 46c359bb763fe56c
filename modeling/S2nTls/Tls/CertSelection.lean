import S2nTls.Stuffer.Fixed
import S2nTls.Tls.Alpn
import S2nTls.Tls.CertStore
import S2nTls.Utils.MapRefinement

/-!
Which certificate a server uses for the name that a client sends.

A certificate is registered for its names, one after the other. For one name and one type of key there may be several;
the callback decides between the one that holds the name and the next, and without it the first one keeps the name.
The table of the configuration is a table of these winners, by names. What the client sends is looked up there as far
as the first zero byte.
-/

namespace S2nTls

open Lib Stuffer

/-! ### What the certificates say -/

/-- The names of a certificate: those for DNS, the common names only if there are none. -/
def CertChainAndKey.names (cert : CertChainAndKey) : List (List UInt8) :=
  ((if cert.dnsNames = [] then cert.commonNames else cert.dnsNames).filter fun name => name ≠ []).map charToLower

/-- The names of all certificates, with the certificates. -/
def registrations (certs : List CertChainAndKey) : List (List UInt8 × CertChainAndKey) :=
  certs.flatMap fun cert => cert.names.map fun name => (name, cert)

/-- The certificates for a name and a type, in the order in which they were added. -/
def contenders (regs : List (List UInt8 × CertChainAndKey)) (name : List UInt8) (type : PkeyType) : List CertRef :=
  regs.filterMap fun reg => if reg.1 = name ∧ reg.2.pkeyType = type then some reg.2.ref else none

/-- The one of several certificates for a name that is used: the callback decides, or else it is the first one. -/
def winner (tiebreak : Option CertTiebreak) (name : List UInt8) : List CertRef → Option CertRef
  | [] => none
  | first :: rest =>
    match tiebreak with
    | none => some first
    | some cb => some (rest.foldl (fun held ref => (cb held ref name).getD held) first)

/-- The certificates that are registered for a name. -/
def registered (tiebreak : Option CertTiebreak) (regs : List (List UInt8 × CertChainAndKey)) (name : List UInt8) :
    CertsByType := fun type => winner tiebreak name (contenders regs name type)

/-- The default certificates, the first ones of their types. -/
def defaultCerts (certs : List CertChainAndKey) : CertsByType := fun type =>
  (certs.find? fun cert => cert.pkeyType = type).map (·.ref)

/-- The name with its first label replaced by `*`, if it has more than one. -/
def wildcardOf (name : List UInt8) : Option (List UInt8) :=
  if 46 ∈ name then some (42 :: name.dropWhile (· ≠ 46)) else none

/-- The certificates that are registered for the name with a wildcard. -/
def registeredWildcard (tiebreak : Option CertTiebreak) (regs : List (List UInt8 × CertChainAndKey))
    (name : List UInt8) : CertsByType := fun type =>
  (wildcardOf name).bind fun wildcard => registered tiebreak regs wildcard type

/-- **The certificate for a name.** -/
def certFor (tiebreak : Option CertTiebreak) (certs : List CertChainAndKey) (name : List UInt8) : CertsByType :=
  fun type => (registered tiebreak (registrations certs) (charToLower name) type).or
    ((registeredWildcard tiebreak (registrations certs) (charToLower name) type).or (defaultCerts certs type))

/-- The certificates that the policy allowed. -/
def storedCerts (calls : List AddCall) : List CertChainAndKey := (calls.filter (·.valid)).map (·.cert)

/-! ### One more certificate -/

/-- What becomes of the certificate that holds a name. -/
def settle (tiebreak : Option CertTiebreak) (name : List UInt8) (held : Option CertRef) (ref : CertRef) : CertRef :=
  match held with
  | none => ref
  | some held =>
    match tiebreak with
    | none => held
    | some cb => (cb held ref name).getD held

variable {regs : List (List UInt8 × CertChainAndKey)} {name : List UInt8} {cert : CertChainAndKey}

section Registered

variable {tiebreak : Option CertTiebreak}

lemma winner_concat (refs : List CertRef) (ref : CertRef) :
    winner tiebreak name (refs ++ [ref]) = some (settle tiebreak name (winner tiebreak name refs) ref) := by
  cases refs with
  | nil => cases tiebreak <;> rfl
  | cons first rest =>
    cases tiebreak with
    | none => rfl
    | some cb => simp [winner, settle]

lemma contenders_concat (name' : List UInt8) (type : PkeyType) :
    contenders (regs ++ [(name, cert)]) name' type =
      contenders regs name' type ++ if name = name' ∧ cert.pkeyType = type then [cert.ref] else [] := by
  unfold contenders
  rw [List.filterMap_append]
  congr 1
  split <;> simp_all

lemma registered_concat_self :
    registered tiebreak (regs ++ [(name, cert)]) name = Function.update (registered tiebreak regs name) cert.pkeyType
      (some (settle tiebreak name (registered tiebreak regs name cert.pkeyType) cert.ref)) := by
  funext type
  unfold registered
  rw [contenders_concat]
  by_cases htype : cert.pkeyType = type
  · subst htype
    rw [if_pos ⟨rfl, rfl⟩, winner_concat, Function.update_self]
  · rw [if_neg (fun h => htype h.2), List.append_nil, Function.update_of_ne (Ne.symm htype)]

lemma registered_concat_ne {name' : List UInt8} (hne : name ≠ name') :
    registered tiebreak (regs ++ [(name, cert)]) name' = registered tiebreak regs name' := by
  funext type
  unfold registered
  rw [contenders_concat, if_neg (fun h => hne h.1), List.append_nil]

/-- Nothing is registered for a name that no certificate has. -/
lemma registered_of_forall_ne (h : ∀ reg ∈ regs, reg.1 ≠ name) : registered tiebreak regs name = CertsByType.zero := by
  funext type
  have hnil : contenders regs name type = [] := by
    unfold contenders
    rw [List.filterMap_eq_nil_iff]
    exact fun reg hreg => if_neg fun hname => h reg hreg hname.1
  unfold registered
  rw [hnil]
  rfl

lemma exists_registered (h : ∃ reg ∈ regs, reg.1 = name) : ∃ type, registered tiebreak regs name type ≠ none := by
  obtain ⟨reg, hreg, rfl⟩ := h
  refine ⟨reg.2.pkeyType, ?_⟩
  have hmem : reg.2.ref ∈ contenders regs reg.1 reg.2.pkeyType :=
    List.mem_filterMap.mpr ⟨reg, hreg, if_pos ⟨rfl, rfl⟩⟩
  unfold registered
  cases hrefs : contenders regs reg.1 reg.2.pkeyType with
  | nil =>
    rw [hrefs] at hmem
    cases hmem
  | cons first rest =>
    intro hnone
    cases tiebreak <;> cases hnone

end Registered

/-! ### The memory of the certificates of a name -/

lemma refOf_addressOf (ref : Option CertRef) : refOf (addressOf ref) = ref := by
  cases ref with
  | none => rfl
  | some ref => exact dif_pos ref.property

lemma ofNat_beNat_beBytes (address : UInt64) : UInt64.ofNat (beNat (beBytes 8 address.toNat)) = address := by
  have hlt := address.toNat_lt
  rw [beNat_beBytes, Nat.mod_eq_of_lt (by omega), UInt64.ofNat_toNat]

lemma CertsByType.ofBytes_toBytes (certs : CertsByType) : CertsByType.ofBytes certs.toBytes = certs := by
  funext type
  have hpart : (certs.toBytes.drop (8 * type.index)).take 8 = beBytes 8 (addressOf (certs type)).toNat := by
    cases type <;> simp [CertsByType.toBytes, PkeyType.index, List.drop_append, List.drop_of_length_le,
      List.take_of_length_le]
  rw [CertsByType.ofBytes, hpart, ofNat_beNat_beBytes, refOf_addressOf]

lemma CertsByType.toBytes_ne_nil (certs : CertsByType) : certs.toBytes ≠ [] := by
  intro hnil
  have hlen := congrArg List.length hnil
  simp [CertsByType.toBytes] at hlen

/-! ### The table of the winners -/

/-- **The table has the winners** of the registrations. -/
structure S2nMap.HasWinners (env : CertStoreEnv) (regs : List (List UInt8 × CertChainAndKey)) (m : S2nMap)
    (f : Mapping) : Prop where
  represents : m.Represents env.hash f
  immutable : m.immutable = true
  lookup : ∀ name value, f.lookup name = some value ↔
    (∃ reg ∈ regs, reg.1 = name) ∧ value = (registered env.certTiebreakCb regs name).toBytes
  card_le : f.keys.card ≤ regs.length
  -- the table begins with one place and is doubled
  capacity : ∃ k, m.capacity = 2 ^ k

/-- With no more names than this the table needs less than 4 GiB. -/
def maxNames : ℕ := 2 ^ 25 + 1

variable {env : CertStoreEnv} {certs : List CertChainAndKey}

section Table

variable {m : S2nMap} {f : Mapping} {key value : List UInt8}

lemma wp_mapAssign (h : m.Represents env.hash f) (hmem : key ∈ f) (hkey : key ≠ []) (hvalue : value ≠ []) :
    wp (mapAssign env.hash key value)
      (fun _ m' => m'.Represents env.hash (f.insert key value) ∧ m'.immutable = m.immutable ∧ m'.capacity = m.capacity)
      noError m := by
  obtain ⟨i, hi, hat⟩ := h.mem_iff.mp hmem
  have hpos := h.capacity_pos
  unfold mapAssign
  rw [wp_bind, wp_mapSlot hpos, wp_read, wp_bind, wp_probeLoop h.backed _ _ (Nat.mod_lt _ hpos),
    h.placed.probe_eq_found hi hat]
  refine wp_taken rfl ?_
  rw [wp_setTableEntry h.backed hi]
  exact ⟨h.overwrite hkey hvalue hi hat, rfl, rfl⟩

lemma wp_mapAdd_new (h : m.Represents env.hash f) (hnot : key ∉ f) (hkey : key ≠ []) (hvalue : value ≠ [])
    (hfits : m.GrowthFits) (himmutable : m.immutable = false) (depth : ℕ) :
    wp (mapAdd env.hash (depth + 1) key value) (fun _ m' => m'.Represents env.hash (f.insert key value) ∧
      (m'.capacity = m.capacity ∨ m'.capacity = m.capacity * 2)) noError m := by
  refine wp_mono (fun _ m' hm' => ?_) (fun _ m' hm' => hnot hm'.2.1)
    (wp_mapAddWith himmutable hkey hvalue (wp_growIfFull h himmutable hfits depth))
  obtain ⟨-, m₁, hcap, -, hwrites⟩ := hm'
  rw [← hwrites.capacity] at hcap
  exact ⟨hwrites.represents, hcap⟩

lemma S2nMap.HasWinners.growthFits (h : m.HasWinners env regs f) (hfew : regs.length < maxNames) : m.GrowthFits := by
  have hsize := h.represents.size
  have hcard := h.card_le
  obtain ⟨k, hk⟩ := h.capacity
  unfold maxNames at hfew
  intro hfull
  have hlt : 2 ^ k < 2 ^ 26 := by omega
  have hle : 2 ^ k ≤ 2 ^ 25 :=
    Nat.pow_le_pow_right (by decide) (Nat.le_of_lt_succ ((Nat.pow_lt_pow_iff_right (by decide)).mp hlt))
  unfold mapEntrySize
  omega

lemma S2nMap.HasWinners.insert (h : m.HasWinners env regs f) {m' : S2nMap}
    (hrep : m'.Represents env.hash
      (f.insert name (registered env.certTiebreakCb (regs ++ [(name, cert)]) name).toBytes))
    (himmutable : m'.immutable = true) (hcap : m'.capacity = m.capacity ∨ m'.capacity = m.capacity * 2) :
    m'.HasWinners env (regs ++ [(name, cert)])
      (f.insert name (registered env.certTiebreakCb (regs ++ [(name, cert)]) name).toBytes) where
  represents := hrep
  immutable := himmutable
  lookup name' value := by
    by_cases hname : name = name'
    · subst hname
      rw [Finmap.lookup_insert, Option.some_inj]
      constructor
      · rintro rfl
        exact ⟨⟨_, List.mem_append_right _ (List.mem_singleton.mpr rfl), rfl⟩, rfl⟩
      · exact fun hv => hv.2.symm
    · rw [Finmap.lookup_insert_of_ne _ (Ne.symm hname), h.lookup, registered_concat_ne hname]
      simp [hname]
  card_le := by
    rw [keys_insert, List.length_append]
    exact (Finset.card_insert_le _ _).trans (Nat.succ_le_succ h.card_le)
  capacity := by
    obtain ⟨k, hk⟩ := h.capacity
    rw [hk] at hcap
    exact hcap.elim (fun heq => ⟨k, heq⟩) fun heq => ⟨k + 1, heq⟩

/-- A registration that changes nothing. -/
lemma S2nMap.HasWinners.keep (h : m.HasWinners env regs f)
    (hmem : ∃ reg ∈ regs, reg.1 = name) (hsame : registered env.certTiebreakCb (regs ++ [(name, cert)]) name =
      registered env.certTiebreakCb regs name) : m.HasWinners env (regs ++ [(name, cert)]) f where
  represents := h.represents
  immutable := h.immutable
  lookup name' value := by
    rw [h.lookup]
    by_cases hname : name = name'
    · subst hname
      rw [hsame]
      simp [hmem]
    · rw [registered_concat_ne hname]
      simp [hname]
  card_le := h.card_le.trans (by simp)
  capacity := h.capacity

end Table

/-! ### Adding certificates -/

section Adding

variable {c : CertConfig}

/-- A configuration whose table has the winners of the registrations. -/
def CertConfig.HasWinners (env : CertStoreEnv) (regs : List (List UInt8 × CertChainAndKey)) (c : CertConfig) : Prop :=
  ∃ f, c.domainNameToCertMap.HasWinners env regs f

/-- The other fields are as they were. -/
structure SameDefaults (c c' : CertConfig) : Prop where
  defaults : c'.defaultCertsByType = c.defaultCertsByType
  explicit : c'.defaultCertsAreExplicit = c.defaultCertsAreExplicit
  ownership : c'.certOwnership = c.certOwnership

lemma SameDefaults.refl (c : CertConfig) : SameDefaults c c := ⟨rfl, rfl, rfl⟩

lemma SameDefaults.trans {c c' c'' : CertConfig} (h : SameDefaults c c') (h' : SameDefaults c' c'') :
    SameDefaults c c'' :=
  ⟨h'.defaults.trans h.defaults, h'.explicit.trans h.explicit, h'.ownership.trans h.ownership⟩

lemma wp_onMap {α : Type} {m : MapM α} {Q : α → CertConfig → Prop} {R : MapFail → CertConfig → Prop} :
    wp (onMap m) Q R c ↔ wp m (fun a map => Q a { c with domainNameToCertMap := map })
      (fun e map => R e { c with domainNameToCertMap := map }) c.domainNameToCertMap := wp_zoom _ _ _

/-- The registration of a certificate for one name. An empty one is not a name. -/
lemma wp_configUpdateDomainNameToCertMap (hc : c.HasWinners env regs) (hfew : regs.length < maxNames)
    (cert : CertChainAndKey) (hname : name ≠ []) :
    wp (configUpdateDomainNameToCertMap env cert name)
      (fun _ c' => c'.HasWinners env (regs ++ [(name, cert)]) ∧ SameDefaults c c') noError c := by
  obtain ⟨f, hf⟩ := hc
  have hself : registered env.certTiebreakCb (regs ++ [(name, cert)]) name = _ := registered_concat_self
  unfold configUpdateDomainNameToCertMap
  rw [if_neg hname, wp_bind, wp_onMap]
  refine wp_sure (fun found map hfound => ?_) (wp_mapLookup hf.represents hf.immutable)
  obtain ⟨rfl, rfl⟩ := hfound
  cases hlookup : f.lookup name with
  | none =>
    have hnot : name ∉ f := Finmap.lookup_eq_none.mp hlookup
    have hzero : registered env.certTiebreakCb regs name = CertsByType.zero := by
      refine registered_of_forall_ne fun reg hreg heq => ?_
      have hsome := (hf.lookup name _).mpr ⟨⟨reg, hreg, heq⟩, rfl⟩
      rw [hlookup] at hsome
      cases hsome
    rw [hzero] at hself
    rw [wp_bind, wp_onMap, mapUnlock, wp_modify, wp_bind, wp_onMap]
    refine wp_sure (fun _ map hmap => ?_)
      (wp_mapAdd_new (hf.represents.setImmutable false) hnot hname (CertsByType.toBytes_ne_nil _)
        (hf.growthFits hfew) rfl env.depth)
    refine ⟨⟨_, hf.insert ?_ rfl hmap.2⟩, ⟨rfl, rfl, rfl⟩⟩
    rw [hself]
    exact hmap.1.setImmutable true
  | some bytes =>
    obtain ⟨hmem, rfl⟩ := (hf.lookup name bytes).mp hlookup
    have hin : name ∈ f := Finmap.mem_of_lookup_eq_some hlookup
    dsimp only
    rw [CertsByType.ofBytes_toBytes]
    -- the value that is written is the one after the registration
    have hassign : ∀ ref, settle env.certTiebreakCb name (registered env.certTiebreakCb regs name cert.pkeyType)
        cert.ref = ref →
        wp (onMap (mapAssign env.hash name
            (CertsByType.toBytes (Function.update (registered env.certTiebreakCb regs name) cert.pkeyType (some ref)))))
          (fun _ c' => c'.HasWinners env (regs ++ [(name, cert)]) ∧ SameDefaults c c') noError c := by
      rintro ref rfl
      rw [wp_onMap, ← hself]
      refine wp_sure (fun _ map hmap => ?_)
        (wp_mapAssign hf.represents hin hname (CertsByType.toBytes_ne_nil _))
      exact ⟨⟨_, hf.insert hmap.1 (hmap.2.1.trans hf.immutable) (.inl hmap.2.2)⟩, ⟨rfl, rfl, rfl⟩⟩
    -- nothing is written if the certificate keeps its name
    have hkeep : ∀ held, registered env.certTiebreakCb regs name cert.pkeyType = some held →
        settle env.certTiebreakCb name (some held) cert.ref = held →
        c.HasWinners env (regs ++ [(name, cert)]) ∧ SameDefaults c c := by
      intro held hheld hsettle
      refine ⟨⟨f, hf.keep hmem ?_⟩, .refl c⟩
      rw [hself, hheld, hsettle, ← hheld, Function.update_eq_self]
    cases hheld : registered env.certTiebreakCb regs name cert.pkeyType with
    | none => exact hassign _ (by rw [hheld]; rfl)
    | some held =>
      cases hcb : env.certTiebreakCb with
      | none => exact hkeep held hheld (by rw [hcb]; rfl)
      | some cb =>
        rw [hheld, hcb] at hassign
        dsimp only
        cases hwinner : cb held cert.ref name with
        | none => exact hkeep held hheld (by rw [hcb]; simp [settle, hwinner])
        | some ref => exact hassign ref (by simp [settle, hwinner])

variable (cert : CertChainAndKey) (names : List (List UInt8))

lemma wp_forM_configUpdate :
    ∀ {c : CertConfig} {regs : List (List UInt8 × CertChainAndKey)}, c.HasWinners env regs →
    regs.length + names.length ≤ maxNames →
    wp (forM names (configUpdateDomainNameToCertMap env cert))
      (fun _ c' => c'.HasWinners env (regs ++ (names.filter fun name => name ≠ []).map fun name => (name, cert)) ∧
        SameDefaults c c') noError c := by
  induction names with
  | nil =>
    intro c regs hc _
    exact ⟨by simpa using hc, .refl c⟩
  | cons name names ih =>
    intro c regs hc hfew
    rw [List.length_cons] at hfew
    by_cases hname : name = []
    · subst hname
      unfold configUpdateDomainNameToCertMap
      exact ih hc (by omega)
    · refine wp_sure_then (wp_configUpdateDomainNameToCertMap hc (by omega) cert hname) fun _ c' hc' => ?_
      refine wp_sure (fun _ c'' hc'' => ?_)
        (ih hc'.1 (by rw [List.length_append, List.length_singleton]; omega))
      rw [List.filter_cons_of_pos (by simpa using hname), List.map_cons, List.append_cons]
      exact ⟨hc''.1, hc'.2.trans hc''.2⟩

lemma filter_map_charToLower :
    (names.map charToLower).filter (fun name => name ≠ []) = (names.filter fun name => name ≠ []).map charToLower := by
  rw [List.filter_map]
  congr 2
  funext name
  simp [charToLower]

lemma wp_configBuildDomainNameToCertMap (hc : c.HasWinners env regs) (cert : CertChainAndKey)
    (hfew : regs.length + (cert.dnsNames.length + cert.commonNames.length) ≤ maxNames) :
    wp (configBuildDomainNameToCertMap env cert)
      (fun _ c' => c'.HasWinners env (regs ++ cert.names.map fun name => (name, cert)) ∧ SameDefaults c c')
      noError c := by
  unfold configBuildDomainNameToCertMap CertChainAndKey.names
  by_cases hdns : cert.dnsNames = []
  · have hlen : cert.cnNames.length ≤ cert.commonNames.length := by
      rw [CertChainAndKey.cnNames, List.length_map]
      exact List.length_filter_le _ _
    have hcn := wp_forM_configUpdate cert cert.cnNames hc (by omega)
    rw [CertChainAndKey.cnNames, filter_map_charToLower, List.filter_filter] at hcn
    simp only [Bool.and_self] at hcn
    rw [if_pos (by rw [CertChainAndKey.sanNames, hdns]; rfl), if_pos hdns]
    exact hcn
  · have hlen : cert.sanNames.length = cert.dnsNames.length := List.length_map _
    have hsan := wp_forM_configUpdate cert cert.sanNames hc (by omega)
    rw [CertChainAndKey.sanNames, filter_map_charToLower] at hsan
    rw [if_neg (by rw [hlen, List.length_eq_zero_iff]; exact hdns), if_neg hdns]
    exact hsan

def nameCount (certs : List CertChainAndKey) : ℕ :=
  (certs.map fun cert => cert.dnsNames.length + cert.commonNames.length).sum

lemma length_names_le : cert.names.length ≤ cert.dnsNames.length + cert.commonNames.length := by
  rw [CertChainAndKey.names, List.length_map]
  refine (List.length_filter_le _ _).trans ?_
  split <;> omega

lemma length_registrations_le (certs : List CertChainAndKey) : (registrations certs).length ≤ nameCount certs := by
  induction certs with
  | nil => exact le_rfl
  | cons cert certs ih =>
    have hnames := length_names_le cert
    rw [registrations, List.flatMap_cons, List.length_append, List.length_map]
    exact Nat.add_le_add hnames ih

lemma registrations_concat (certs : List CertChainAndKey) (cert : CertChainAndKey) :
    registrations (certs ++ [cert]) = registrations certs ++ cert.names.map fun name => (name, cert) := by
  simp [registrations]

lemma nameCount_concat (certs : List CertChainAndKey) (cert : CertChainAndKey) :
    nameCount (certs ++ [cert]) = nameCount certs + (cert.dnsNames.length + cert.commonNames.length) := by
  simp [nameCount]

lemma defaultCerts_concat (certs : List CertChainAndKey) (cert : CertChainAndKey) :
    defaultCerts (certs ++ [cert]) = if defaultCerts certs cert.pkeyType = none then
        Function.update (defaultCerts certs) cert.pkeyType (some cert.ref)
      else defaultCerts certs := by
  have hfind : ∀ type, defaultCerts (certs ++ [cert]) type =
      (defaultCerts certs type).or (if cert.pkeyType = type then some cert.ref else none) := by
    intro type
    unfold defaultCerts
    rw [List.find?_append]
    cases certs.find? fun cert => cert.pkeyType = type with
    | some first => rfl
    | none => by_cases htype : cert.pkeyType = type <;> simp [htype]
  funext type
  rw [hfind]
  by_cases htype : cert.pkeyType = type
  · subst htype
    cases hdefault : defaultCerts certs cert.pkeyType with
    | none => simp
    | some first => simp [hdefault]
  · rw [if_neg htype]
    split
    · rw [Function.update_of_ne (Ne.symm htype)]
      cases defaultCerts certs type <;> rfl
    · cases defaultCerts certs type <;> rfl

structure CertConfig.Stores (env : CertStoreEnv) (certs : List CertChainAndKey) (c : CertConfig) : Prop where
  winners : c.HasWinners env (registrations certs)
  defaults : c.defaultCertsByType = defaultCerts certs
  explicit : c.defaultCertsAreExplicit = false
  ownership : c.certOwnership ≠ .libOwned

lemma CertConfig.stores_new (env : CertStoreEnv) : CertConfig.new.Stores env [] where
  winners := by
    refine ⟨∅, (represents_emptyTable Nat.one_pos (by decide)).setImmutable true, rfl, fun name value => ?_,
      by simp, 0, rfl⟩
    simp [registrations]
  defaults := rfl
  explicit := rfl
  ownership := by decide

/-- **A certificate is added** if the policy allows it; otherwise nothing changes. -/
lemma wp_configAddCertChainAndKeyToStore (hc : c.Stores env certs) (cert : CertChainAndKey) (valid : Bool)
    (hfew : nameCount (certs ++ [cert]) ≤ maxNames) :
    wp (configAddCertChainAndKeyToStore env cert valid)
      (fun _ c' => valid = true ∧ c'.Stores env (certs ++ [cert])) (fun _ c' => valid = false ∧ c' = c) c := by
  have hlen := length_registrations_le certs
  rw [nameCount_concat] at hfew
  unfold configAddCertChainAndKeyToStore configAddCertChainAndKeyImpl
  refine wp_ensured hc.ownership ?_
  simp only [bind_assoc]
  refine wp_seq_ensure (fun hvalid => ?_) fun hvalid => ⟨by simpa using hvalid, rfl⟩
  refine wp_sure_then (wp_configBuildDomainNameToCertMap hc.winners cert (by omega)) fun _ c' hc' => ?_
  obtain ⟨hwinners, hsame⟩ := hc'
  rw [← registrations_concat] at hwinners
  have hdefaults : c'.defaultCertsByType = defaultCerts certs := hsame.defaults.trans hc.defaults
  have hexplicit : c'.defaultCertsAreExplicit = false := hsame.explicit.trans hc.explicit
  have hownership : c'.certOwnership ≠ .libOwned := by
    rw [hsame.ownership]
    exact hc.ownership
  have happ : CertOwnership.appOwned ≠ .libOwned := by decide
  rw [wp_read, wp_bind]
  refine wp_taken hexplicit ?_
  have hconcat := defaultCerts_concat certs cert
  rw [wp_ite]
  refine ⟨fun hnone => ?_, fun hsome => ?_⟩
  · rw [hdefaults] at hnone
    rw [if_pos hnone] at hconcat
    exact ⟨hvalid, hwinners, by rw [hconcat, ← hdefaults], hexplicit, happ⟩
  · rw [wp_ensure]
    rw [hdefaults] at hsome
    rw [if_neg hsome] at hconcat
    exact ⟨fun _ => ⟨hvalid, hwinners, hdefaults.trans hconcat.symm, hexplicit, happ⟩,
      fun hnot => absurd hownership hnot⟩

lemma stores_runCalls (calls : List AddCall) : ∀ {c : CertConfig} {certs : List CertChainAndKey}, c.Stores env certs →
    nameCount certs + nameCount (calls.map (·.cert)) ≤ maxNames →
    CertConfig.Stores env (certs ++ storedCerts calls) (runCalls (fun call : AddCall =>
      configAddCertChainAndKeyToStore env call.cert call.valid) calls c).2 := by
  induction calls with
  | nil =>
    intro c certs hc _
    simpa [runCalls, storedCerts] using hc
  | cons call calls ih =>
    intro c certs hc hfew
    have hcount : nameCount ((call :: calls).map (·.cert)) =
        call.cert.dnsNames.length + call.cert.commonNames.length + nameCount (calls.map (·.cert)) := by
      simp [nameCount]
    have hstep := wp_configAddCertChainAndKeyToStore hc call.cert call.valid (by rw [nameCount_concat]; omega)
    rw [runCalls]
    cases hvalid : call.valid with
    | true =>
      have hnext : (finalState (configAddCertChainAndKeyToStore env call.cert call.valid) c).Stores env
          (certs ++ [call.cert]) :=
        finalState_of_wp (wp_mono (fun _ _ h => h.2) (fun _ _ h => absurd (hvalid.symm.trans h.1) (by decide)) hstep)
      have hall := ih hnext (by rw [nameCount_concat]; omega)
      simpa [storedCerts, hvalid] using hall
    | false =>
      have hnext : (finalState (configAddCertChainAndKeyToStore env call.cert call.valid) c).Stores env certs :=
        finalState_of_wp (wp_mono (fun _ _ h => absurd (hvalid.symm.trans h.1) (by decide))
          (fun _ c' h => by rw [h.2]; exact hc) hstep)
      have hall := ih hnext (by omega)
      simpa [storedCerts, hvalid] using hall

/-- **Every history** of calls leaves a configuration with the certificates that were allowed. -/
lemma stores_after (env : CertStoreEnv) (calls : List AddCall) (hfew : nameCount (calls.map (·.cert)) ≤ maxNames) :
    (CertConfig.after env calls).Stores env (storedCerts calls) := by
  have hall := stores_runCalls calls (CertConfig.stores_new env) (by simpa [nameCount] using hfew)
  rwa [List.nil_append] at hall

end Adding

/-! ### The name that is looked up -/

section Name

variable {t : Stuffer}

/-- The extension data has a list with a name as its first entry. -/
structure SendsServerName (t : Stuffer) (name : List UInt8) : Prop where
  notNull : t.blob.isNull = false
  unread : ∃ listSize rest, listSize < 2 ^ 16 ∧ listSize ≤ 3 + name.length + rest.length ∧
    t.unread = beBytes 2 listSize ++ (beBytes 1 0 ++ (beBytes 2 name.length ++ (name ++ rest)))

variable (h : SendsServerName t name)

include h

variable (hlen : name.length ≤ maxServerName)

include hlen

lemma wp_clientServerNameParse
    {R : Err → Stuffer → Prop} : wp clientServerNameParse (fun sent _ => sent = name) R t := by
  obtain ⟨hnull, listSize, rest, hsize, hle, hun⟩ := h
  have hshort : name.length < 256 ^ 2 := lt_of_le_of_lt hlen (by decide)
  unfold clientServerNameParse
  rw [wp_bind]
  refine wp_readUint_of_uint hnull (by rw [hun]; exact Parser.uint_append _ hsize) fun u₁ hu₁ hblob₁ => ?_
  have havail₁ : u₁.dataAvailable = 3 + name.length + rest.length := by
    rw [← unread_length, hu₁]
    simp only [List.length_append, beBytes_length]
    omega
  refine wp_ensured (havail₁ ▸ hle) ?_
  rw [wp_bind]
  refine wp_readUint_of_uint (hblob₁ ▸ hnull) (by rw [hu₁]; exact Parser.uint_append _ (by decide))
    fun u₂ hu₂ hblob₂ => ?_
  refine wp_ensured rfl ?_
  rw [wp_bind]
  refine wp_readUint_of_uint (hblob₂ ▸ hblob₁ ▸ hnull) (by rw [hu₂]; exact Parser.uint_append _ hshort)
    fun u₃ hu₃ hblob₃ => ?_
  have havail₃ : name.length ≤ u₃.dataAvailable := by
    rw [← unread_length, hu₃, List.length_append]
    omega
  refine wp_ensured havail₃ ?_
  have hnull₃ : u₃.blob.isNull = false := by rw [hblob₃, hblob₂, hblob₁, hnull]
  rw [wp_bind]
  refine wp_rawRead_of_bytes hnull₃ (by rw [hu₃]; exact Parser.bytes_append _ rfl) fun off u₄ hslice _ hblob₄ => ?_
  rw [wp_read, wp_pure, hblob₄]
  exact hslice

lemma serverName_recv :
    clientServerNameRecv t SniConn.new =
      { SniConn.new with serverName := name ++ List.replicate (maxServerName + 1 - name.length) 0 } := by
  obtain ⟨u, hrun⟩ : ∃ u, clientServerNameParse.run t = .ok name u := by
    obtain ⟨sent, u, hrun, rfl⟩ := exists_ok_of_wp (wp_clientServerNameParse h hlen)
    exact ⟨u, hrun⟩
  unfold clientServerNameRecv
  rw [if_neg (by decide), hrun]
  dsimp only
  rw [if_neg (not_lt.mpr hlen), SniConn.new, List.drop_replicate]

lemma normalizedName_recv :
    (clientServerNameRecv t SniConn.new).normalizedName = charToLower (cString name) := by
  rw [serverName_recv h hlen, SniConn.normalizedName]
  rw [Nat.succ_sub hlen, List.replicate_succ, cString_append_zero]

end Name

/-! ### The wildcard -/

section Wildcard

lemma wp_skipToCharLoop (target : UInt8) (fuel : ℕ) : ∀ {t : Stuffer}, t.dataAvailable ≤ fuel → ∀ {R},
    wp (skipToCharLoop target fuel) (fun _ u => u.unread = t.unread.dropWhile (· ≠ target)) R t := by
  induction fuel with
  | zero =>
    intro t hle R
    have hnil : t.unread = [] := unread_eq_nil.mpr (Nat.le_zero.mp hle)
    rw [skipToCharLoop, wp_pure, hnil, List.dropWhile_nil]
  | succ fuel ih =>
    intro t hle R
    rw [skipToCharLoop, wp_read]
    cases hun : t.unread with
    | nil =>
      rw [if_pos (.inl (unread_eq_nil.mp hun)), wp_pure, hun, List.dropWhile_nil]
    | cons b rest =>
      have hpos : 0 < t.dataAvailable := by
        rw [← unread_length, hun]
        exact Nat.succ_pos _
      have hfirst : t.blob.data t.readCursor = b := by
        have htake := take_unread (n := 1) (t := t) hpos
        rw [hun] at htake
        simpa [slice] using htake.symm
      rw [hfirst]
      by_cases hb : b = target
      · rw [if_pos (.inr hb), wp_pure, hun, List.dropWhile_cons_of_neg (by simpa using hb)]
      · rw [if_neg (by simp only [hb, or_false]; omega), wp_bind, wp_skipRead]
        refine ⟨fun h => ?_, fun hnot => absurd hpos hnot⟩
        have hrest : (t.advanceRead 1 h).unread = rest := by rw [unread_advanceRead, hun, List.drop_one, List.tail_cons]
        rw [List.dropWhile_cons_of_pos (by simpa using hb), ← hrest]
        exact ih (by rw [dataAvailable_advanceRead]; omega)

variable (malloc : ℕ → Bool)

lemma wp_copy_all {src dst : Stuffer} {size : ℕ} {bs : List UInt8} (h : Holds dst size bs)
    (hroom : bs.length + src.dataAvailable ≤ size) {R : Err → Stuffer × Stuffer → Prop} :
    wp (copy malloc src.dataAvailable) (fun _ p => p.2.unread = bs ++ src.unread) R (src, dst) := by
  have hread : (skipRead src.dataAvailable).run src = .ok () (src.advanceRead _ le_rfl) := dif_pos le_rfl
  have hfits : ¬ size < bs.length + src.unread.length := by
    rw [unread_length]
    omega
  obtain ⟨_, dst', hwrite, hdst⟩ := exists_ok_of_wp
    (wp_mono (fun _ _ hu => hu) (fun _ _ hfull => hfits hfull) (h.writeBytes malloc src.unread))
  have hrun : (copy malloc src.dataAvailable).run (src, dst) = .ok () (src.advanceRead _ le_rfl, dst') := by
    unfold unread at hwrite
    simp only [EStateM.run] at hread hwrite
    simp only [EStateM.run, copy, hread, hwrite]
  exact (wp_of_ok hrun).mpr hdst.unread

lemma wildcardOf_eq (name : List UInt8) :
    (wildcardOf name).getD [] = if name.dropWhile (· ≠ 46) = [] then [] else 42 :: name.dropWhile (· ≠ 46) := by
  have hmem : name.dropWhile (· ≠ 46) = [] ↔ 46 ∉ name := by
    rw [List.dropWhile_eq_nil_iff]
    constructor
    · intro hall hdot
      simpa using hall 46 hdot
    · intro hdot b hb
      exact decide_eq_true fun hb46 => hdot (hb46 ▸ hb)
  unfold wildcardOf
  by_cases hdot : 46 ∈ name
  · rw [if_pos hdot, if_neg (fun hnil => hmem.mp hnil hdot)]
    rfl
  · rw [if_neg hdot, if_pos (hmem.mpr hdot)]
    rfl

/-- **The name with a wildcard** that a server makes. -/
lemma wildcardHostname_eq (name : List UInt8) (h : name.length ≤ maxServerName) :
    wildcardHostname malloc name h = .ok ((wildcardOf name).getD []) := by
  have hwp : ∀ R, wp (createWildcardHostname malloc) (fun _ p => p.2.unread = (wildcardOf name).getD []) R
      (initWritten (Blob.ofList name (length_lt_of_le_maxServerName h)), init wildcardBlob) := by
    intro R
    have hsize : wildcardBlob.size = maxServerName + 1 := List.length_replicate
    have hholds := Holds.init wildcardBlob
    rw [hsize] at hholds
    generalize init wildcardBlob = dst at hholds ⊢
    unfold createWildcardHostname skipToChar
    rw [wp_bind, wp_zoom]
    refine wp_sure (fun _ u hu => ?_) (wp_skipToCharLoop 46 _ le_rfl)
    rw [unread_initWritten, Blob.bytes_ofList] at hu
    rw [wp_read, wildcardOf_eq, ← hu]
    by_cases hend : u.dataAvailable = 0
    · rw [if_pos hend, wp_pure, if_pos (unread_eq_nil.mpr hend)]
      exact hholds.unread
    · rw [if_neg hend, if_neg (fun hnil => hend (unread_eq_nil.mp hnil))]
      have hle : u.dataAvailable ≤ maxServerName := by
        rw [← unread_length, hu]
        exact (List.dropWhile_sublist _).length_le.trans h
      rw [wp_bind, wp_zoom]
      refine wp_mono (fun _ dst' hdst => ?_) (fun _ _ hfull => ?_) (hholds.writeBytes malloc (beBytes 1 42))
      · rw [wp_read]
        dsimp only
        exact wp_copy_all malloc hdst (by rw [List.nil_append, beBytes_length]; omega)
      · exact absurd hfull (by decide)
  obtain ⟨_, p, hrun, hp⟩ := exists_ok_of_wp (hwp fun _ _ => False)
  unfold wildcardHostname
  rw [hrun]
  exact congrArg Except.ok hp

end Wildcard

/-! ### The certificate -/

section Selection

open Classical in
/-- The certificates of the most specific name for which there are any. -/
noncomputable def mostSpecific (certs wildcard fallback : CertsByType) : CertsByType :=
  if ∃ type, certs type ≠ none then certs else if ∃ type, wildcard type ≠ none then wildcard else fallback

/-- If there are certificates, they have all types that the others have. -/
def Covers (certs others : CertsByType) : Prop :=
  (∃ type, certs type ≠ none) → ∀ type, certs type = none → others type = none

/-- **The most specific name decides for each type** if its certificates have all types that there are for less
specific ones. -/
lemma mostSpecific_eq_iff (certs wildcard fallback : CertsByType) :
    (∀ type, mostSpecific certs wildcard fallback type = (certs type).or ((wildcard type).or (fallback type))) ↔
      Covers certs (fun type => (wildcard type).or (fallback type)) ∧
        ((∀ type, certs type = none) → Covers wildcard fallback) := by
  -- a list of choices equals its first one if the others are not needed
  have hfirst : ∀ a b : Option CertRef, a = a.or b ↔ (a = none → b = none) := by
    rintro (_ | a) (_ | b) <;> simp
  unfold mostSpecific
  by_cases hcerts : ∃ type, certs type ≠ none
  · rw [if_pos hcerts]
    have hnot : ¬ ∀ type, certs type = none := fun hnone => hcerts.elim fun type h => h (hnone type)
    simp only [hfirst, Covers, hcerts, true_implies, hnot, false_implies, and_true]
  · have hnone : ∀ type, certs type = none := fun type => by
      by_contra h
      exact hcerts ⟨type, h⟩
    by_cases hwildcard : ∃ type, wildcard type ≠ none
    · simp [hfirst, Covers, hnone, hwildcard]
    · have hwnone : ∀ type, wildcard type = none := fun type => by
        by_contra h
        exact hwildcard ⟨type, h⟩
      simp [Covers, hnone, hwnone]

variable {config : CertConfig} {c : SniConn}

lemma exists_registered_iff {tiebreak : Option CertTiebreak} {regs : List (List UInt8 × CertChainAndKey)} :
    (∃ type, registered tiebreak regs name type ≠ none) ↔ ∃ reg ∈ regs, reg.1 = name := by
  refine ⟨fun h => ?_, exists_registered⟩
  by_contra hnot
  obtain ⟨type, htype⟩ := h
  rw [registered_of_forall_ne fun reg hreg heq => hnot ⟨reg, hreg, heq⟩] at htype
  exact htype rfl

open Classical in
lemma wp_findCertMatches (hstores : config.Stores env certs) (name : List UInt8)
    (store : CertsByType → SniConn → SniConn) :
    wp (findCertMatches env config name store) (fun _ c' => c' =
      if ∃ type, registered env.certTiebreakCb (registrations certs) name type ≠ none then
        store (registered env.certTiebreakCb (registrations certs) name) c
      else c) noError c := by
  obtain ⟨f, hf⟩ := hstores.winners
  unfold findCertMatches
  rw [wp_bind, wp_onLocal]
  refine wp_sure (fun found map hfound => ?_) (wp_mapLookup hf.represents hf.immutable)
  obtain ⟨rfl, rfl⟩ := hfound
  rw [exists_registered_iff]
  cases hlookup : f.lookup name with
  | none =>
    have hnot : ¬ ∃ reg ∈ registrations certs, reg.1 = name := by
      intro hreg
      have hsome := (hf.lookup name _).mpr ⟨hreg, rfl⟩
      rw [hlookup] at hsome
      cases hsome
    rw [wp_pure, if_neg hnot]
  | some bytes =>
    obtain ⟨hreg, rfl⟩ := (hf.lookup name bytes).mp hlookup
    rw [wp_modify, if_pos hreg, CertsByType.ofBytes_toBytes]

variable (tiebreak : Option CertTiebreak)

lemma registered_nil (certs : List CertChainAndKey) :
    registered tiebreak (registrations certs) [] = CertsByType.zero := by
  refine registered_of_forall_ne fun reg hreg hnil => ?_
  obtain ⟨cert, -, hname⟩ := List.mem_flatMap.mp hreg
  obtain ⟨name, hmem, rfl⟩ := List.mem_map.mp hname
  obtain ⟨name', hmem', rfl⟩ := List.mem_map.mp hmem
  have hne : name' ≠ [] := by simpa using (List.mem_filter.mp hmem').2
  exact hne (List.map_eq_nil_iff.mp hnil)

lemma mostSpecific_nil (certs : List CertChainAndKey) (fallback : CertsByType) :
    mostSpecific (registered tiebreak (registrations certs) [])
      (registeredWildcard tiebreak (registrations certs) []) fallback = fallback := by
  unfold mostSpecific
  rw [registered_nil, if_neg (fun h => h.elim fun _ hne => hne rfl), if_neg (fun h => h.elim fun _ hne => hne rfl)]

/-- **What a server takes** for the name that it looks up. -/
lemma wp_connFindNameMatchingCerts (hstores : config.Stores env certs) (malloc : ℕ → Bool)
    (hlen : c.normalizedName.length ≤ maxServerName) (hexact : c.exactSniMatchExists = false)
    (hwc : c.wcSniMatchExists = false) :
    wp (connFindNameMatchingCerts env malloc config)
      (fun _ c' => ∀ type, getCompatibleCertChainAndKey config c' type =
        mostSpecific (registered env.certTiebreakCb (registrations certs) c.normalizedName)
          (registeredWildcard env.certTiebreakCb (registrations certs) c.normalizedName) (defaultCerts certs) type)
      noError c := by
  have hnone : ∀ type, getCompatibleCertChainAndKey config c type = defaultCerts certs type := by
    intro type
    rw [getCompatibleCertChainAndKey, hexact, hwc, if_neg (by decide), if_neg (by decide), hstores.defaults]
  unfold connFindNameMatchingCerts
  rw [wp_read]
  by_cases hreceived : c.receivedServerName = false
  · have hnil : c.normalizedName = [] := by
      unfold SniConn.normalizedName cString
      unfold SniConn.receivedServerName at hreceived
      cases hname : c.serverName with
      | nil => rfl
      | cons b rest =>
        rw [hname] at hreceived
        have hb : b = 0 := by simpa using hreceived
        subst hb
        rfl
    rw [if_pos hreceived, wp_pure, hnil, mostSpecific_nil]
    exact hnone
  · rw [if_neg hreceived, dif_pos hlen]
    refine wp_sure_then (wp_findCertMatches hstores c.normalizedName _) fun _ c₁ hc₁ => ?_
    rw [wp_read]
    unfold mostSpecific
    by_cases hfound : ∃ type, registered env.certTiebreakCb (registrations certs) c.normalizedName type ≠ none
    · rw [if_pos hfound] at hc₁
      subst hc₁
      rw [if_pos rfl, if_pos hfound]
      exact fun _ => rfl
    · rw [if_neg hfound] at hc₁
      subst hc₁
      rw [if_neg (by rw [hexact]; decide), if_neg hfound, wildcardHostname_eq]
      unfold registeredWildcard
      cases hwildcard : wildcardOf c₁.normalizedName with
      | none =>
        rw [if_neg (fun h => h.elim fun _ hne => hne rfl)]
        exact hnone
      | some wildcard =>
        obtain ⟨b, rest, rfl⟩ : ∃ b rest, wildcard = b :: rest := by
          unfold wildcardOf at hwildcard
          split at hwildcard <;> cases hwildcard
          exact ⟨_, _, rfl⟩
        refine wp_sure_then (wp_findCertMatches hstores (b :: rest) _) fun _ c₂ hc₂ => ?_
        rw [markServerNameUsed, wp_modify, hc₂]
        dsimp only [Option.bind_some]
        by_cases hwild : ∃ type, registered env.certTiebreakCb (registrations certs) (b :: rest) type ≠ none
        · rw [if_pos hwild, if_pos hwild]
          intro type
          rw [getCompatibleCertChainAndKey, hexact]
          rfl
        · rw [if_neg hwild, if_neg hwild]
          exact hnone

/-- A name that is registered has certificates of all types that there are for the less specific choices. -/
def CoversTypes (tiebreak : Option CertTiebreak) (certs : List CertChainAndKey) (name : List UInt8) : Prop :=
  Covers (registered tiebreak (registrations certs) (charToLower name)) (fun type =>
      (registeredWildcard tiebreak (registrations certs) (charToLower name) type).or (defaultCerts certs type)) ∧
    ((∀ type, registered tiebreak (registrations certs) (charToLower name) type = none) →
      Covers (registeredWildcard tiebreak (registrations certs) (charToLower name)) (defaultCerts certs))

lemma cString_ne (hzero : 0 ∈ name) : charToLower (cString name) ≠ charToLower name := by
  intro heq
  have hlen : (cString name).length = name.length := by
    have := congrArg List.length heq
    rwa [charToLower, charToLower, List.length_map, List.length_map] at this
  have hself : cString name = name := (List.takeWhile_prefix _).eq_of_length hlen
  exact cString_eq_self_iff.mp hself hzero

lemma sendsServerName_of_bytes (hlen : name.length ≤ maxServerName) :
    ∃ t, SendsServerName t name := by
  let bytes := beBytes 2 (3 + name.length) ++ (beBytes 1 0 ++ (beBytes 2 name.length ++ (name ++ [])))
  have hbytes : bytes.length < 2 ^ 32 := by
    have hmax : maxServerName = 255 := rfl
    simp only [bytes, List.length_append, beBytes_length, List.length_nil]
    omega
  have hmax : maxServerName = 255 := rfl
  refine ⟨initWritten (Blob.ofList bytes hbytes), rfl, 3 + name.length, [], by omega, le_rfl, ?_⟩
  rw [unread_initWritten, Blob.bytes_ofList]

/-- **The certificate for the name that a client sends.** After every history of calls with which a configuration gets
certificates, a server uses the certificate that is registered for the name, or for the name with a wildcard, or the
default one, and it takes no other name for this one, if and only if the name has no zero byte, and the certificates
for it have all types that the less specific choices have. -/
theorem certForServerName_iff (env : CertStoreEnv) (malloc : ℕ → Bool) (calls : List AddCall)
    (hfew : nameCount (calls.map (·.cert)) ≤ maxNames) {t : Stuffer} {name : List UInt8}
    (hsent : SendsServerName t name)
    (hlen : name.length ≤ maxServerName) :
    ∃ c', (connFindNameMatchingCerts env malloc (CertConfig.after env calls)).run
        (clientServerNameRecv t SniConn.new) = .ok () c' ∧
      ((∀ type, getCompatibleCertChainAndKey (CertConfig.after env calls) c' type =
          certFor env.certTiebreakCb (storedCerts calls) name type) ∧
        (∀ (u : Stuffer) (other : List UInt8), SendsServerName u other → other.length ≤ maxServerName → 0 ∉ other →
          (clientServerNameRecv u SniConn.new).normalizedName = (clientServerNameRecv t SniConn.new).normalizedName →
          charToLower other = charToLower name) ↔
      0 ∉ name ∧ CoversTypes env.certTiebreakCb (storedCerts calls) name) := by
  have hname := normalizedName_recv hsent hlen
  have hle : (cString name).length ≤ maxServerName := (length_cString_le name).trans hlen
  have hrecv := serverName_recv hsent hlen
  obtain ⟨_, c', hrun, hc'⟩ := exists_ok_of_wp (wp_connFindNameMatchingCerts (stores_after env calls hfew) malloc
    (c := clientServerNameRecv t SniConn.new) (by rw [hname, charToLower, List.length_map]; exact hle)
    (by rw [hrecv]; rfl) (by rw [hrecv]; rfl))
  refine ⟨c', hrun, ?_⟩
  rw [hname]
  rw [hname] at hc'
  by_cases hzero : 0 ∈ name
  · -- the name before the zero byte is taken for this one
    refine ⟨fun h => ?_, fun h => absurd hzero h.1⟩
    obtain ⟨u, hu⟩ := sendsServerName_of_bytes hle
    have hshort := h.2 u (cString name) hu hle (cString_eq_self_iff.mp (cString_cString name))
      (by rw [normalizedName_recv hu hle, cString_cString])
    exact absurd hshort (cString_ne hzero)
  · have hself : cString name = name := cString_eq_self_iff.mpr hzero
    rw [hself] at hc' ⊢
    have hothers : ∀ (u : Stuffer) (other : List UInt8), SendsServerName u other → other.length ≤ maxServerName →
        0 ∉ other → (clientServerNameRecv u SniConn.new).normalizedName = charToLower name →
        charToLower other = charToLower name := by
      intro u other hu hlen' hzero' heq
      rw [normalizedName_recv hu hlen', cString_eq_self_iff.mpr hzero'] at heq
      exact heq
    simp only [hc', certFor, hzero, not_false_eq_true, true_and]
    rw [and_iff_left hothers, mostSpecific_eq_iff]
    rfl

end Selection

def certNamed (ref : CertRef) (type : PkeyType) (name : List UInt8) : CertChainAndKey := ⟨ref, type, [name], []⟩

/-- Three certificates: one for `b.c`, one for `*.C`, and another one for `B.c` that the callback prefers. -/
def threeCerts : List AddCall :=
  [⟨certNamed ⟨1, by decide⟩ .rsa [98, 46, 99], true⟩, ⟨certNamed ⟨2, by decide⟩ .rsa [42, 46, 67], true⟩,
    ⟨certNamed ⟨3, by decide⟩ .rsa [66, 46, 99], true⟩]

/-- The names `B.C` and `a.C`: the last one that was added for the first name, the wildcard for the second. -/
theorem certForServerName_iff_three :
    (∀ name, name = [66, 46, 67] ∨ name = [97, 46, 67] → ∃ t c', SendsServerName t name ∧
      (connFindNameMatchingCerts ⟨fun _ => 0, 0, some fun _ ref _ => some ref⟩ (fun _ => true)
        (CertConfig.after ⟨fun _ => 0, 0, some fun _ ref _ => some ref⟩ threeCerts)).run
        (clientServerNameRecv t SniConn.new) = .ok () c' ∧
      getCompatibleCertChainAndKey (CertConfig.after ⟨fun _ => 0, 0, some fun _ ref _ => some ref⟩ threeCerts) c' .rsa =
        certFor (some fun _ ref _ => some ref) (storedCerts threeCerts) name .rsa) ∧
    certFor (some fun _ ref _ => some ref) (storedCerts threeCerts) [66, 46, 67] .rsa = some ⟨3, by decide⟩ ∧
    certFor (some fun _ ref _ => some ref) (storedCerts threeCerts) [97, 46, 67] .rsa = some ⟨2, by decide⟩ := by
  refine ⟨fun name hname => ?_, by decide, by decide⟩
  have hlen : name.length ≤ maxServerName := by
    rcases hname with rfl | rfl <;> decide
  have hzero : 0 ∉ name := by
    rcases hname with rfl | rfl <;> decide
  obtain ⟨t, ht⟩ := sendsServerName_of_bytes hlen
  obtain ⟨c', hrun, hiff⟩ := certForServerName_iff ⟨fun _ => 0, 0, some fun _ ref _ => some ref⟩
    (fun _ => true) threeCerts
    (by decide) ht hlen
  refine ⟨t, c', ht, hrun, (hiff.mpr ⟨hzero, ?_⟩).1 .rsa⟩
  -- all certificates have the same type
  rcases hname with rfl | rfl
  · refine ⟨fun _ type htype => ?_, fun hnone => absurd (hnone .rsa) (by decide)⟩
    cases type with
    | rsa => exact absurd htype (by decide)
    | ecdsa => decide
    | rsaPss => decide
  · refine ⟨fun hsome => ?_, fun _ _ type htype => ?_⟩
    · obtain ⟨type, htype⟩ := hsome
      cases type <;> exact absurd (by decide) htype
    · cases type with
      | rsa => exact absurd htype (by decide)
      | ecdsa => decide
      | rsaPss => decide

/-- A default certificate of some type for `b`, and a certificate for `a`. -/
def twoCerts (type : PkeyType) : List AddCall :=
  [⟨certNamed ⟨2, by decide⟩ type [98], true⟩, ⟨certNamed ⟨1, by decide⟩ .rsa [97], true⟩]

/-- **A name with a zero byte gets the certificate of the name before it**, though that is not its name. And a name with
a certificate of another type only gets none, though there is a default one. -/
theorem certForServerName_differs :
    (∃ t c', SendsServerName t [97, 0, 120] ∧
      (connFindNameMatchingCerts ⟨fun _ => 0, 0, none⟩ (fun _ => true) (CertConfig.after ⟨fun _ => 0, 0, none⟩
        (twoCerts .rsa))).run (clientServerNameRecv t SniConn.new) = .ok () c' ∧
      getCompatibleCertChainAndKey (CertConfig.after ⟨fun _ => 0, 0, none⟩ (twoCerts .rsa)) c' .rsa =
        some ⟨1, by decide⟩ ∧
      certFor none (storedCerts (twoCerts .rsa)) [97, 0, 120] .rsa = some ⟨2, by decide⟩) ∧
    ∃ t c', SendsServerName t [97] ∧
      (connFindNameMatchingCerts ⟨fun _ => 0, 0, none⟩ (fun _ => true) (CertConfig.after ⟨fun _ => 0, 0, none⟩
        (twoCerts .ecdsa))).run (clientServerNameRecv t SniConn.new) = .ok () c' ∧
      getCompatibleCertChainAndKey (CertConfig.after ⟨fun _ => 0, 0, none⟩ (twoCerts .ecdsa)) c' .ecdsa = none ∧
      certFor none (storedCerts (twoCerts .ecdsa)) [97] .ecdsa = some ⟨2, by decide⟩ := by
  refine ⟨⟨initWritten (Blob.ofList [0, 6, 0, 0, 3, 97, 0, 120] (by decide)), _, ⟨rfl, 6, [], ?_⟩,
    run_of_succeeds (by decide +kernel), by decide +kernel, by decide⟩,
    initWritten (Blob.ofList [0, 4, 0, 0, 1, 97] (by decide)), _, ⟨rfl, 4, [], ?_⟩,
    run_of_succeeds (by decide +kernel), by decide +kernel, by decide⟩
  · decide
  · decide

end S2nTls
