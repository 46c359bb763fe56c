import S2nTls.Tls.Parameters
import Mathlib

/-!
The names of handshake types.

`s2n_connection_get_handshake_type_name` keeps the names it has computed in one table of the process, at the
handshake type alone; what the upper four flags mean depends on the version of the connection.
-/

namespace S2nTls

def tls12HandshakeTypeNames : List String :=
  ["NEGOTIATED|", "FULL_HANDSHAKE|", "CLIENT_AUTH|", "NO_CLIENT_CERT|", "TLS12_PERFECT_FORWARD_SECRECY|",
    "OCSP_STATUS|", "WITH_SESSION_TICKET|", "WITH_NPN|"]

def tls13HandshakeTypeNames : List String :=
  ["NEGOTIATED|", "FULL_HANDSHAKE|", "CLIENT_AUTH|", "NO_CLIENT_CERT|", "HELLO_RETRY_REQUEST|",
    "MIDDLEBOX_COMPAT|", "WITH_EARLY_DATA|", "EARLY_CLIENT_CCS|"]

def handshakeTypeNames (protocolVersion : ℕ) : List String :=
  if protocolVersion < tls13 then tls12HandshakeTypeNames else tls13HandshakeTypeNames

/-- What a call reads of its connection. -/
structure NameCall where
  handshakeType : Fin 256
  protocolVersion : ℕ

/-- `handshake_type_str`: each entry up to its terminator. -/
abbrev HandshakeTypeStr := Fin 256 → List Char

/-- The loop over the names from the `i`-th on; `p` is what the entry holds. -/
def copyNames (handshakeType : ℕ) : List String → ℕ → ℕ → List Char → List Char
  | [], _, _, p => p
  | name :: names, i, remaining, p =>
    if handshakeType.testBit i then
      let copied := name.toList.take remaining
      copyNames handshakeType names (i + 1) (remaining - copied.length) (p ++ copied)
    else copyNames handshakeType names (i + 1) remaining p

def computeName (names : List String) (handshakeType : Fin 256) : List Char :=
  let p := copyNames handshakeType names 0 142 []
  if p.getLast? = some '|' then p.dropLast else p

def connectionGetHandshakeTypeName (call : NameCall) (table : HandshakeTypeStr) : List Char × HandshakeTypeStr :=
  if call.handshakeType = 0 then ("INITIAL".toList, table)
  else if table call.handshakeType ≠ [] then (table call.handshakeType, table)
  else
    let name := computeName (handshakeTypeNames call.protocolVersion) call.handshakeType
    (name, Function.update table call.handshakeType name)

/-- The table after a sequence of calls. -/
def tableAfter (history : List NameCall) : HandshakeTypeStr :=
  history.foldl (fun table call => (connectionGetHandshakeTypeName call table).2) fun _ => []

/-! ### The names of the flags -/

/-- The names of the flags that are set, from the `i`-th on, without the separator at their end. -/
def flagNames (names : List String) (i : ℕ) (t : Fin 256) : List (List Char) :=
  ((names.zipIdx i).filter fun name => t.val.testBit name.2).map fun name => name.1.toList.dropLast

def joinedNames (names : List String) (t : Fin 256) : List Char := ['|'].intercalate (flagNames names 0 t)

lemma copyNames_eq (t : Fin 256) {names : List String} {i remaining : ℕ} (p : List Char)
    (hends : ∀ name ∈ names, name.toList = name.toList.dropLast ++ ['|'])
    (hroom : (names.map String.length).sum ≤ remaining) :
    copyNames t names i remaining p = p ++ ((flagNames names i t).map (· ++ ['|'])).flatten := by
  induction names generalizing i remaining p with
  | nil => exact (List.append_nil _).symm
  | cons name names ih =>
    rw [List.map_cons, List.sum_cons, ← String.length_toList] at hroom
    obtain ⟨hend, hends⟩ := List.forall_mem_cons.mp hends
    have htake : name.toList.take remaining = name.toList := List.take_of_length_le (by omega)
    simp only [copyNames, flagNames, List.zipIdx_cons, List.filter_cons, htake] at ih ⊢
    split
    · rw [ih _ hends (by omega), List.map_cons, List.map_cons, List.flatten_cons, ← hend, List.append_assoc]
    · exact ih _ hends (by omega)

lemma flatten_append_bar : ∀ {names : List (List Char)}, names ≠ [] →
    (names.map (· ++ ['|'])).flatten = ['|'].intercalate names ++ ['|']
  | [name], _ => by simp
  | name :: next :: names, _ => by
    rw [List.map_cons, List.flatten_cons, flatten_append_bar (List.cons_ne_nil _ _), List.intercalate_cons_cons]
    simp only [List.append_assoc]

lemma computeName_eq (version : ℕ) (t : Fin 256) :
    computeName (handshakeTypeNames version) t = joinedNames (handshakeTypeNames version) t := by
  obtain ⟨hends, hroom⟩ : (∀ name ∈ handshakeTypeNames version, name.toList = name.toList.dropLast ++ ['|']) ∧
      ((handshakeTypeNames version).map String.length).sum ≤ 142 := by
    unfold handshakeTypeNames
    split <;> decide +kernel
  unfold computeName joinedNames
  rw [copyNames_eq t _ hends hroom]
  by_cases hnone : flagNames (handshakeTypeNames version) 0 t = []
  · rw [hnone]
    rfl
  · simp [flatten_append_bar hnone]

/-- The handshake types below 16 have one name for all versions, the others have two. -/
lemma joinedNames_agree : ∀ t : Fin 256,
    (joinedNames tls12HandshakeTypeNames t = joinedNames tls13HandshakeTypeNames t ↔ t < 16) ∧
      (t ≠ 0 → joinedNames tls12HandshakeTypeNames t ≠ [] ∧ joinedNames tls13HandshakeTypeNames t ≠ []) := by
  decide +kernel

lemma joinedNames_ne_nil (version : ℕ) {t : Fin 256} (ht : t ≠ 0) :
    joinedNames (handshakeTypeNames version) t ≠ [] := by
  unfold handshakeTypeNames
  split
  · exact ((joinedNames_agree t).2 ht).1
  · exact ((joinedNames_agree t).2 ht).2

lemma joinedNames_eq_iff (version version' : ℕ) (t : Fin 256) :
    joinedNames (handshakeTypeNames version) t = joinedNames (handshakeTypeNames version') t ↔
      t < 16 ∨ (version < tls13 ↔ version' < tls13) := by
  have hagree := (joinedNames_agree t).1
  unfold handshakeTypeNames
  split_ifs with h h' h' <;> simp [h, h', hagree, eq_comm.trans hagree]

/-! ### The table -/

/-- Which call made the entry of the table for a handshake type. -/
def firstWith (t : Fin 256) (history : List NameCall) : Option NameCall :=
  history.find? fun call => call.handshakeType = t

lemma getName_table {t : Fin 256} (ht : t ≠ 0) (call : NameCall) (table : HandshakeTypeStr) :
    (connectionGetHandshakeTypeName call table).2 t = if call.handshakeType = t ∧ table t = []
      then joinedNames (handshakeTypeNames call.protocolVersion) t else table t := by
  unfold connectionGetHandshakeTypeName
  by_cases hcall : call.handshakeType = t
  · subst hcall
    by_cases hnew : table call.handshakeType = [] <;> simp [ht, hnew, computeName_eq]
  · simp only [hcall, false_and, if_false]
    split_ifs
    · rfl
    · rfl
    · exact Function.update_of_ne (Ne.symm hcall) _ _

/-- **An entry was made by the first call with its handshake type.** -/
lemma tableAfter_eq {t : Fin 256} (ht : t ≠ 0) (history : List NameCall) :
    tableAfter history t = (firstWith t history).elim [] fun call =>
      joinedNames (handshakeTypeNames call.protocolVersion) t := by
  induction history using List.reverseRecOn with
  | nil => rfl
  | append_singleton history call ih =>
    rw [tableAfter, List.foldl_append]
    show (connectionGetHandshakeTypeName call (tableAfter history)).2 t = _
    rw [getName_table ht, ih, firstWith, firstWith, List.find?_append]
    cases history.find? fun call => call.handshakeType = t with
    | some first => simp [joinedNames_ne_nil _ ht]
    | none => by_cases hcall : call.handshakeType = t <;> simp [hcall]

/-- A call returns the name for its own version unless it is made before the handshake has a type, or the upper
flags meant something else to the first call with this type. -/
theorem handshakeTypeName_iff (history : List NameCall) (call : NameCall) :
    (connectionGetHandshakeTypeName call (tableAfter history)).1 =
        joinedNames (handshakeTypeNames call.protocolVersion) call.handshakeType ↔
      call.handshakeType ≠ 0 ∧ (call.handshakeType < 16 ∨ ∀ first ∈ firstWith call.handshakeType history,
        (first.protocolVersion < tls13 ↔ call.protocolVersion < tls13)) := by
  obtain ⟨t, version⟩ := call
  by_cases ht : t = 0
  · subst ht
    simp [connectionGetHandshakeTypeName, joinedNames, flagNames]
  · have htable := tableAfter_eq ht history
    unfold connectionGetHandshakeTypeName
    cases hfirst : firstWith t history with
    | none =>
      rw [hfirst] at htable
      simp [ht, htable, computeName_eq]
    | some first =>
      rw [hfirst] at htable
      simp [ht, htable, joinedNames_ne_nil, joinedNames_eq_iff]

/-- A connection with TLS1.3 gets the name that was computed for one with TLS1.2. -/
theorem handshakeTypeName_of_other_version :
    (connectionGetHandshakeTypeName ⟨19, tls13⟩ (tableAfter [⟨19, tls12⟩])).1 =
        "NEGOTIATED|FULL_HANDSHAKE|TLS12_PERFECT_FORWARD_SECRECY".toList ∧
      joinedNames tls13HandshakeTypeNames 19 = "NEGOTIATED|FULL_HANDSHAKE|HELLO_RETRY_REQUEST".toList := by
  decide +kernel

end S2nTls
