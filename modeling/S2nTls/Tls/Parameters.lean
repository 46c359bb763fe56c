import Mathlib.Tactic.Common

/-!
Numbers of the protocol (`tls/s2n_tls_parameters.h`) and the two ends of a connection.
-/

namespace S2nTls

inductive Mode
  | server | client
  deriving DecidableEq, Repr

def Mode.peer : Mode → Mode
  | .server => .client
  | .client => .server

@[simp] lemma Mode.peer_peer (m : Mode) : m.peer.peer = m := by cases m <;> rfl

/-! ### Versions and record types -/

/-- Protocol versions are the two decimal digits of the wire format. -/
def versionUnknown : ℕ := 0
def sslv2 : ℕ := 20
def sslv3 : ℕ := 30
def tls10 : ℕ := 31
def tls11 : ℕ := 32
def tls12 : ℕ := 33
def tls13 : ℕ := 34

/-- Content types of records, as they stand on the wire. -/
abbrev ContentType := UInt8

def tlsChangeCipherSpec : ContentType := 20
def tlsAlert : ContentType := 21
def tlsHandshake : ContentType := 22
def tlsApplicationData : ContentType := 23

/-! ### Types of handshake messages -/

/-- The first byte of a handshake message. -/
abbrev HandshakeMsg := UInt8

def tlsHelloRequest : HandshakeMsg := 0
def tlsClientHello : HandshakeMsg := 1
def tlsServerHello : HandshakeMsg := 2
def tlsServerNewSessionTicket : HandshakeMsg := 4
def tlsEndOfEarlyData : HandshakeMsg := 5
def tlsEncryptedExtensions : HandshakeMsg := 8
def tlsCertificate : HandshakeMsg := 11
def tlsServerKey : HandshakeMsg := 12
def tlsCertReq : HandshakeMsg := 13
def tlsServerHelloDone : HandshakeMsg := 14
def tlsCertVerify : HandshakeMsg := 15
def tlsClientKey : HandshakeMsg := 16
def tlsFinished : HandshakeMsg := 20
def tlsServerCertStatus : HandshakeMsg := 22
def tlsKeyUpdate : HandshakeMsg := 24
def tlsNpn : HandshakeMsg := 67

def maximumHandshakeMessageLength : ℕ := 64 * 1024

end S2nTls
