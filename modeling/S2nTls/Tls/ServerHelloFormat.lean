import S2nTls.Tls.ExtensionDecode
import S2nTls.Tls.ServerHello

/-!
The format of a ServerHello. The message of `s2n_server_hello_send` and the fields that
`s2n_server_hello_parse` reads are both related to it.
-/

namespace S2nTls

open Lib Stuffer

/-! ### The format of the message -/

structure ServerHelloMsg where
  legacyVersion : List UInt8
  random : List UInt8
  sessionId : List UInt8
  cipherSuite : List UInt8
  extensions : List (ℕ × List UInt8)

/-- The message as it stands on the wire. -/
def decodeServerHello : Parser ServerHelloMsg := do
  let legacyVersion ← Parser.bytes 2
  let random ← Parser.bytes tlsRandomDataLen
  let sessionIdLen ← Parser.uint 1
  let sessionId ← Parser.bytes sessionIdLen
  let cipherSuite ← Parser.bytes 2
  let _compressionMethod ← Parser.uint 1
  let extensions ← decodeExtensionList
  return ⟨legacyVersion, random, sessionId, cipherSuite, extensions⟩

namespace ServerHelloMsg

/-- The data of the supported_versions extension. -/
def supportedVersions (h : ServerHelloMsg) : Option (List UInt8) :=
  h.extensions.lookup Extension.supportedVersions

/-- What the client decodes the legacy version to. -/
def legacy (h : ServerHelloMsg) : ℕ := versionOf h.legacyVersion % 256

end ServerHelloMsg

lemma versionOf_take (bs : List UInt8) : versionOf (bs.take 2) = versionOf bs := by
  unfold versionOf
  match bs with
  | [] | [_] => rfl
  | a :: b :: rest => rfl

/-- The bytes of a message. An empty list of extensions is left out. -/
def encodeServerHello (h : ServerHelloMsg) : List UInt8 :=
  h.legacyVersion ++ h.random ++ beBytes 1 h.sessionId.length ++ h.sessionId ++ h.cipherSuite ++
    beBytes 1 0 ++ if h.extensions = [] then [] else encodeExtensionList h.extensions

structure EncodableServerHello (h : ServerHelloMsg) : Prop where
  legacyVersion : h.legacyVersion.length = 2
  random : h.random.length = tlsRandomDataLen
  sessionId : h.sessionId.length < 256
  cipherSuite : h.cipherSuite.length = 2
  extensions : ∀ e ∈ h.extensions, EncodableExtension e
  size : (h.extensions.flatMap encodeExtension).length < 2 ^ 16

lemma decodeExtensionList_nil : decodeExtensionList [] = some ([], []) := rfl

/-- **Decoding inverts encoding.** -/
theorem decodeServerHello_encode {h : ServerHelloMsg} (henc : EncodableServerHello h) :
    decodeServerHello (encodeServerHello h) = some (h, []) := by
  have hexts : decodeExtensionList
      (if h.extensions = [] then [] else encodeExtensionList h.extensions) = some (h.extensions, []) := by
    split
    · rename_i hnil
      rw [hnil]
      exact decodeExtensionList_nil
    · simpa using decodeExtensionList_encode henc.extensions henc.size []
  unfold decodeServerHello encodeServerHello
  simp only [List.append_assoc]
  rw [Parser.bind_run (Parser.bytes_append _ henc.legacyVersion),
    Parser.bind_run (Parser.bytes_append _ henc.random),
    Parser.bind_run (Parser.uint_append _ (by simpa using henc.sessionId)),
    Parser.bind_run (Parser.bytes_append _ rfl),
    Parser.bind_run (Parser.bytes_append _ henc.cipherSuite),
    Parser.bind_run (Parser.uint_append _ (by decide)), Parser.bind_run hexts]
  rfl

end S2nTls
