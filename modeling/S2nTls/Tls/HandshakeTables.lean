import S2nTls.Tls.Parameters

/-!
The state machines of the handshake (`tls/s2n_handshake_io.c`, `tls/s2n_handshake_type.h`): which
messages a handshake of a given type consists of, and who writes each of them.

In the source the rows of the tables are arrays of 32 entries, and what a row does not list is
zero, which is `CLIENT_HELLO`; so is every entry of a row that is not listed at all.
-/

namespace S2nTls

inductive MessageType
  | clientHello | serverHello | serverCert | serverNewSessionTicket | serverCertStatus | serverKey
  | serverCertReq | serverHelloDone | clientCert | clientKey | clientCertVerify
  | clientChangeCipherSpec | clientNpn | clientFinished | serverChangeCipherSpec | serverFinished
  | encryptedExtensions | serverCertVerify | helloRetryMsg | endOfEarlyData | applicationData
  deriving DecidableEq, Repr

/-- `s2n_state_machine`: a handshake starts with the tables of TLS1.2. -/
inductive StateMachine
  | initial | tls12 | tls13
  deriving DecidableEq, Repr

/-! ### The flags of a handshake type -/

namespace HandshakeType

/-- `s2n_handshake_type_flag`. -/
def initial : ℕ := 0
def negotiated : ℕ := 1
def fullHandshake : ℕ := 2
def clientAuth : ℕ := 4
def noClientCert : ℕ := 8

/-- `s2n_tls12_handshake_type_flag`. -/
def tls12PerfectForwardSecrecy : ℕ := 16
def ocspStatus : ℕ := 32
def withSessionTicket : ℕ := 64
def withNpn : ℕ := 128

/-- `s2n_tls13_handshake_type_flag`. -/
def helloRetryRequest : ℕ := 16
def middleboxCompat : ℕ := 32
def withEarlyData : ℕ := 64
def earlyClientCcs : ℕ := 128

end HandshakeType

section Tables

open HandshakeType

/-- `handshakes`: the rows of SSLv3 to TLS1.2. -/
def handshakes : List (ℕ × List MessageType) :=
  [(initial,
     [.clientHello, .serverHello]),
   (negotiated,
     [.clientHello, .serverHello, .serverChangeCipherSpec, .serverFinished,
      .clientChangeCipherSpec, .clientFinished, .applicationData]),
   (negotiated ||| withNpn,
     [.clientHello, .serverHello, .serverChangeCipherSpec, .serverFinished,
      .clientChangeCipherSpec, .clientNpn, .clientFinished, .applicationData]),
   (negotiated ||| withSessionTicket,
     [.clientHello, .serverHello, .serverNewSessionTicket, .serverChangeCipherSpec,
      .serverFinished, .clientChangeCipherSpec, .clientFinished, .applicationData]),
   (negotiated ||| withSessionTicket ||| withNpn,
     [.clientHello, .serverHello, .serverNewSessionTicket, .serverChangeCipherSpec,
      .serverFinished, .clientChangeCipherSpec, .clientNpn, .clientFinished, .applicationData]),
   (negotiated ||| fullHandshake,
     [.clientHello, .serverHello, .serverCert, .serverHelloDone, .clientKey,
      .clientChangeCipherSpec, .clientFinished, .serverChangeCipherSpec, .serverFinished,
      .applicationData]),
   (negotiated ||| fullHandshake ||| withNpn,
     [.clientHello, .serverHello, .serverCert, .serverHelloDone, .clientKey,
      .clientChangeCipherSpec, .clientNpn, .clientFinished, .serverChangeCipherSpec,
      .serverFinished, .applicationData]),
   (negotiated ||| fullHandshake ||| withSessionTicket,
     [.clientHello, .serverHello, .serverCert, .serverHelloDone, .clientKey,
      .clientChangeCipherSpec, .clientFinished, .serverNewSessionTicket, .serverChangeCipherSpec,
      .serverFinished, .applicationData]),
   (negotiated ||| fullHandshake ||| withSessionTicket ||| withNpn,
     [.clientHello, .serverHello, .serverCert, .serverHelloDone, .clientKey,
      .clientChangeCipherSpec, .clientNpn, .clientFinished, .serverNewSessionTicket,
      .serverChangeCipherSpec, .serverFinished, .applicationData]),
   (negotiated ||| fullHandshake ||| tls12PerfectForwardSecrecy,
     [.clientHello, .serverHello, .serverCert, .serverKey, .serverHelloDone, .clientKey,
      .clientChangeCipherSpec, .clientFinished, .serverChangeCipherSpec, .serverFinished,
      .applicationData]),
   (negotiated ||| fullHandshake ||| tls12PerfectForwardSecrecy ||| withNpn,
     [.clientHello, .serverHello, .serverCert, .serverKey, .serverHelloDone, .clientKey,
      .clientChangeCipherSpec, .clientNpn, .clientFinished, .serverChangeCipherSpec,
      .serverFinished, .applicationData]),
   (negotiated ||| fullHandshake ||| tls12PerfectForwardSecrecy ||| withSessionTicket,
     [.clientHello, .serverHello, .serverCert, .serverKey, .serverHelloDone, .clientKey,
      .clientChangeCipherSpec, .clientFinished, .serverNewSessionTicket, .serverChangeCipherSpec,
      .serverFinished, .applicationData]),
   (negotiated ||| fullHandshake ||| tls12PerfectForwardSecrecy ||| withSessionTicket ||| withNpn,
     [.clientHello, .serverHello, .serverCert, .serverKey, .serverHelloDone, .clientKey,
      .clientChangeCipherSpec, .clientNpn, .clientFinished, .serverNewSessionTicket,
      .serverChangeCipherSpec, .serverFinished, .applicationData]),
   (negotiated ||| fullHandshake ||| ocspStatus,
     [.clientHello, .serverHello, .serverCert, .serverCertStatus, .serverHelloDone, .clientKey,
      .clientChangeCipherSpec, .clientFinished, .serverChangeCipherSpec, .serverFinished,
      .applicationData]),
   (negotiated ||| fullHandshake ||| ocspStatus ||| withNpn,
     [.clientHello, .serverHello, .serverCert, .serverCertStatus, .serverHelloDone, .clientKey,
      .clientChangeCipherSpec, .clientNpn, .clientFinished, .serverChangeCipherSpec,
      .serverFinished, .applicationData]),
   (negotiated ||| fullHandshake ||| ocspStatus ||| withSessionTicket,
     [.clientHello, .serverHello, .serverCert, .serverCertStatus, .serverHelloDone, .clientKey,
      .clientChangeCipherSpec, .clientFinished, .serverNewSessionTicket, .serverChangeCipherSpec,
      .serverFinished, .applicationData]),
   (negotiated ||| fullHandshake ||| ocspStatus ||| withSessionTicket ||| withNpn,
     [.clientHello, .serverHello, .serverCert, .serverCertStatus, .serverHelloDone, .clientKey,
      .clientChangeCipherSpec, .clientNpn, .clientFinished, .serverNewSessionTicket,
      .serverChangeCipherSpec, .serverFinished, .applicationData]),
   (negotiated ||| fullHandshake ||| tls12PerfectForwardSecrecy ||| ocspStatus,
     [.clientHello, .serverHello, .serverCert, .serverCertStatus, .serverKey, .serverHelloDone,
      .clientKey, .clientChangeCipherSpec, .clientFinished, .serverChangeCipherSpec,
      .serverFinished, .applicationData]),
   (negotiated ||| fullHandshake ||| tls12PerfectForwardSecrecy ||| ocspStatus ||| withNpn,
     [.clientHello, .serverHello, .serverCert, .serverCertStatus, .serverKey, .serverHelloDone,
      .clientKey, .clientChangeCipherSpec, .clientNpn, .clientFinished, .serverChangeCipherSpec,
      .serverFinished, .applicationData]),
   (negotiated ||| fullHandshake ||| tls12PerfectForwardSecrecy ||| ocspStatus ||| withSessionTicket,
     [.clientHello, .serverHello, .serverCert, .serverCertStatus, .serverKey, .serverHelloDone,
      .clientKey, .clientChangeCipherSpec, .clientFinished, .serverNewSessionTicket,
      .serverChangeCipherSpec, .serverFinished, .applicationData]),
   (negotiated ||| fullHandshake ||| tls12PerfectForwardSecrecy ||| ocspStatus ||| withSessionTicket ||| withNpn,
     [.clientHello, .serverHello, .serverCert, .serverCertStatus, .serverKey, .serverHelloDone,
      .clientKey, .clientChangeCipherSpec, .clientNpn, .clientFinished, .serverNewSessionTicket,
      .serverChangeCipherSpec, .serverFinished, .applicationData]),
   (negotiated ||| fullHandshake ||| clientAuth,
     [.clientHello, .serverHello, .serverCert, .serverCertReq, .serverHelloDone, .clientCert,
      .clientKey, .clientCertVerify, .clientChangeCipherSpec, .clientFinished,
      .serverChangeCipherSpec, .serverFinished, .applicationData]),
   (negotiated ||| fullHandshake ||| clientAuth ||| withNpn,
     [.clientHello, .serverHello, .serverCert, .serverCertReq, .serverHelloDone, .clientCert,
      .clientKey, .clientCertVerify, .clientChangeCipherSpec, .clientNpn, .clientFinished,
      .serverChangeCipherSpec, .serverFinished, .applicationData]),
   (negotiated ||| fullHandshake ||| clientAuth ||| noClientCert,
     [.clientHello, .serverHello, .serverCert, .serverCertReq, .serverHelloDone, .clientCert,
      .clientKey, .clientChangeCipherSpec, .clientFinished, .serverChangeCipherSpec,
      .serverFinished, .applicationData]),
   (negotiated ||| fullHandshake ||| clientAuth ||| noClientCert ||| withNpn,
     [.clientHello, .serverHello, .serverCert, .serverCertReq, .serverHelloDone, .clientCert,
      .clientKey, .clientChangeCipherSpec, .clientNpn, .clientFinished, .serverChangeCipherSpec,
      .serverFinished, .applicationData]),
   (negotiated ||| fullHandshake ||| clientAuth ||| withSessionTicket,
     [.clientHello, .serverHello, .serverCert, .serverCertReq, .serverHelloDone, .clientCert,
      .clientKey, .clientCertVerify, .clientChangeCipherSpec, .clientFinished,
      .serverNewSessionTicket, .serverChangeCipherSpec, .serverFinished, .applicationData]),
   (negotiated ||| fullHandshake ||| clientAuth ||| withSessionTicket ||| withNpn,
     [.clientHello, .serverHello, .serverCert, .serverCertReq, .serverHelloDone, .clientCert,
      .clientKey, .clientCertVerify, .clientChangeCipherSpec, .clientNpn, .clientFinished,
      .serverNewSessionTicket, .serverChangeCipherSpec, .serverFinished, .applicationData]),
   (negotiated ||| fullHandshake ||| clientAuth ||| noClientCert ||| withSessionTicket,
     [.clientHello, .serverHello, .serverCert, .serverCertReq, .serverHelloDone, .clientCert,
      .clientKey, .clientChangeCipherSpec, .clientFinished, .serverNewSessionTicket,
      .serverChangeCipherSpec, .serverFinished, .applicationData]),
   (negotiated ||| fullHandshake ||| clientAuth ||| noClientCert ||| withSessionTicket ||| withNpn,
     [.clientHello, .serverHello, .serverCert, .serverCertReq, .serverHelloDone, .clientCert,
      .clientKey, .clientChangeCipherSpec, .clientNpn, .clientFinished, .serverNewSessionTicket,
      .serverChangeCipherSpec, .serverFinished, .applicationData]),
   (negotiated ||| fullHandshake ||| tls12PerfectForwardSecrecy ||| clientAuth,
     [.clientHello, .serverHello, .serverCert, .serverKey, .serverCertReq, .serverHelloDone,
      .clientCert, .clientKey, .clientCertVerify, .clientChangeCipherSpec, .clientFinished,
      .serverChangeCipherSpec, .serverFinished, .applicationData]),
   (negotiated ||| fullHandshake ||| tls12PerfectForwardSecrecy ||| clientAuth ||| withNpn,
     [.clientHello, .serverHello, .serverCert, .serverKey, .serverCertReq, .serverHelloDone,
      .clientCert, .clientKey, .clientCertVerify, .clientChangeCipherSpec, .clientNpn,
      .clientFinished, .serverChangeCipherSpec, .serverFinished, .applicationData]),
   (negotiated ||| fullHandshake ||| tls12PerfectForwardSecrecy ||| clientAuth ||| noClientCert,
     [.clientHello, .serverHello, .serverCert, .serverKey, .serverCertReq, .serverHelloDone,
      .clientCert, .clientKey, .clientChangeCipherSpec, .clientFinished, .serverChangeCipherSpec,
      .serverFinished, .applicationData]),
   (negotiated ||| fullHandshake ||| tls12PerfectForwardSecrecy ||| clientAuth ||| noClientCert ||| withNpn,
     [.clientHello, .serverHello, .serverCert, .serverKey, .serverCertReq, .serverHelloDone,
      .clientCert, .clientKey, .clientChangeCipherSpec, .clientNpn, .clientFinished,
      .serverChangeCipherSpec, .serverFinished, .applicationData]),
   (negotiated ||| fullHandshake ||| tls12PerfectForwardSecrecy ||| clientAuth ||| withSessionTicket,
     [.clientHello, .serverHello, .serverCert, .serverKey, .serverCertReq, .serverHelloDone,
      .clientCert, .clientKey, .clientCertVerify, .clientChangeCipherSpec, .clientFinished,
      .serverNewSessionTicket, .serverChangeCipherSpec, .serverFinished, .applicationData]),
   (negotiated ||| fullHandshake ||| tls12PerfectForwardSecrecy ||| clientAuth ||| withSessionTicket ||| withNpn,
     [.clientHello, .serverHello, .serverCert, .serverKey, .serverCertReq, .serverHelloDone,
      .clientCert, .clientKey, .clientCertVerify, .clientChangeCipherSpec, .clientNpn,
      .clientFinished, .serverNewSessionTicket, .serverChangeCipherSpec, .serverFinished,
      .applicationData]),
   (negotiated ||| fullHandshake ||| tls12PerfectForwardSecrecy ||| clientAuth ||| noClientCert ||| withSessionTicket,
     [.clientHello, .serverHello, .serverCert, .serverKey, .serverCertReq, .serverHelloDone,
      .clientCert, .clientKey, .clientChangeCipherSpec, .clientFinished, .serverNewSessionTicket,
      .serverChangeCipherSpec, .serverFinished, .applicationData]),
   (negotiated ||| fullHandshake ||| tls12PerfectForwardSecrecy ||| clientAuth ||| noClientCert |||
     withSessionTicket ||| withNpn,
     [.clientHello, .serverHello, .serverCert, .serverKey, .serverCertReq, .serverHelloDone,
      .clientCert, .clientKey, .clientChangeCipherSpec, .clientNpn, .clientFinished,
      .serverNewSessionTicket, .serverChangeCipherSpec, .serverFinished, .applicationData]),
   (negotiated ||| fullHandshake ||| ocspStatus ||| clientAuth,
     [.clientHello, .serverHello, .serverCert, .serverCertStatus, .serverCertReq, .serverHelloDone,
      .clientCert, .clientKey, .clientCertVerify, .clientChangeCipherSpec, .clientFinished,
      .serverChangeCipherSpec, .serverFinished, .applicationData]),
   (negotiated ||| fullHandshake ||| ocspStatus ||| clientAuth ||| withNpn,
     [.clientHello, .serverHello, .serverCert, .serverCertStatus, .serverCertReq, .serverHelloDone,
      .clientCert, .clientKey, .clientCertVerify, .clientChangeCipherSpec, .clientNpn,
      .clientFinished, .serverChangeCipherSpec, .serverFinished, .applicationData]),
   (negotiated ||| fullHandshake ||| ocspStatus ||| clientAuth ||| noClientCert,
     [.clientHello, .serverHello, .serverCert, .serverCertStatus, .serverCertReq, .serverHelloDone,
      .clientCert, .clientKey, .clientChangeCipherSpec, .clientFinished, .serverChangeCipherSpec,
      .serverFinished, .applicationData]),
   (negotiated ||| fullHandshake ||| ocspStatus ||| clientAuth ||| noClientCert ||| withNpn,
     [.clientHello, .serverHello, .serverCert, .serverCertStatus, .serverCertReq, .serverHelloDone,
      .clientCert, .clientKey, .clientChangeCipherSpec, .clientNpn, .clientFinished,
      .serverChangeCipherSpec, .serverFinished, .applicationData]),
   (negotiated ||| fullHandshake ||| ocspStatus ||| clientAuth ||| withSessionTicket,
     [.clientHello, .serverHello, .serverCert, .serverCertStatus, .serverCertReq, .serverHelloDone,
      .clientCert, .clientKey, .clientCertVerify, .clientChangeCipherSpec, .clientFinished,
      .serverNewSessionTicket, .serverChangeCipherSpec, .serverFinished, .applicationData]),
   (negotiated ||| fullHandshake ||| ocspStatus ||| clientAuth ||| withSessionTicket ||| withNpn,
     [.clientHello, .serverHello, .serverCert, .serverCertStatus, .serverCertReq, .serverHelloDone,
      .clientCert, .clientKey, .clientCertVerify, .clientChangeCipherSpec, .clientNpn,
      .clientFinished, .serverNewSessionTicket, .serverChangeCipherSpec, .serverFinished,
      .applicationData]),
   (negotiated ||| fullHandshake ||| ocspStatus ||| clientAuth ||| noClientCert ||| withSessionTicket,
     [.clientHello, .serverHello, .serverCert, .serverCertStatus, .serverCertReq, .serverHelloDone,
      .clientCert, .clientKey, .clientChangeCipherSpec, .clientFinished, .serverNewSessionTicket,
      .serverChangeCipherSpec, .serverFinished, .applicationData]),
   (negotiated ||| fullHandshake ||| ocspStatus ||| clientAuth ||| noClientCert ||| withSessionTicket ||| withNpn,
     [.clientHello, .serverHello, .serverCert, .serverCertStatus, .serverCertReq, .serverHelloDone,
      .clientCert, .clientKey, .clientChangeCipherSpec, .clientNpn, .clientFinished,
      .serverNewSessionTicket, .serverChangeCipherSpec, .serverFinished, .applicationData]),
   (negotiated ||| fullHandshake ||| tls12PerfectForwardSecrecy ||| ocspStatus ||| clientAuth,
     [.clientHello, .serverHello, .serverCert, .serverCertStatus, .serverKey, .serverCertReq,
      .serverHelloDone, .clientCert, .clientKey, .clientCertVerify, .clientChangeCipherSpec,
      .clientFinished, .serverChangeCipherSpec, .serverFinished, .applicationData]),
   (negotiated ||| fullHandshake ||| tls12PerfectForwardSecrecy ||| ocspStatus ||| clientAuth ||| withNpn,
     [.clientHello, .serverHello, .serverCert, .serverCertStatus, .serverKey, .serverCertReq,
      .serverHelloDone, .clientCert, .clientKey, .clientCertVerify, .clientChangeCipherSpec,
      .clientNpn, .clientFinished, .serverChangeCipherSpec, .serverFinished, .applicationData]),
   (negotiated ||| fullHandshake ||| tls12PerfectForwardSecrecy ||| ocspStatus ||| clientAuth ||| noClientCert,
     [.clientHello, .serverHello, .serverCert, .serverCertStatus, .serverKey, .serverCertReq,
      .serverHelloDone, .clientCert, .clientKey, .clientChangeCipherSpec, .clientFinished,
      .serverChangeCipherSpec, .serverFinished, .applicationData]),
   (negotiated ||| fullHandshake ||| tls12PerfectForwardSecrecy ||| ocspStatus ||| clientAuth |||
     noClientCert ||| withNpn,
     [.clientHello, .serverHello, .serverCert, .serverCertStatus, .serverKey, .serverCertReq,
      .serverHelloDone, .clientCert, .clientKey, .clientChangeCipherSpec, .clientNpn,
      .clientFinished, .serverChangeCipherSpec, .serverFinished, .applicationData]),
   (negotiated ||| fullHandshake ||| tls12PerfectForwardSecrecy ||| ocspStatus ||| clientAuth ||| withSessionTicket,
     [.clientHello, .serverHello, .serverCert, .serverCertStatus, .serverKey, .serverCertReq,
      .serverHelloDone, .clientCert, .clientKey, .clientCertVerify, .clientChangeCipherSpec,
      .clientFinished, .serverNewSessionTicket, .serverChangeCipherSpec, .serverFinished,
      .applicationData]),
   (negotiated ||| fullHandshake ||| tls12PerfectForwardSecrecy ||| ocspStatus ||| clientAuth |||
     withSessionTicket ||| withNpn,
     [.clientHello, .serverHello, .serverCert, .serverCertStatus, .serverKey, .serverCertReq,
      .serverHelloDone, .clientCert, .clientKey, .clientCertVerify, .clientChangeCipherSpec,
      .clientNpn, .clientFinished, .serverNewSessionTicket, .serverChangeCipherSpec,
      .serverFinished, .applicationData]),
   (negotiated ||| fullHandshake ||| tls12PerfectForwardSecrecy ||| ocspStatus ||| clientAuth ||| noClientCert |||
     withSessionTicket,
     [.clientHello, .serverHello, .serverCert, .serverCertStatus, .serverKey, .serverCertReq,
      .serverHelloDone, .clientCert, .clientKey, .clientChangeCipherSpec, .clientFinished,
      .serverNewSessionTicket, .serverChangeCipherSpec, .serverFinished, .applicationData]),
   (negotiated ||| fullHandshake ||| tls12PerfectForwardSecrecy ||| ocspStatus ||| clientAuth ||| noClientCert |||
     withSessionTicket ||| withNpn,
     [.clientHello, .serverHello, .serverCert, .serverCertStatus, .serverKey, .serverCertReq,
      .serverHelloDone, .clientCert, .clientKey, .clientChangeCipherSpec, .clientNpn,
      .clientFinished, .serverNewSessionTicket, .serverChangeCipherSpec, .serverFinished,
      .applicationData])]

def tls13Handshakes : List (ℕ × List MessageType) :=
  [(initial,
     [.clientHello, .serverHello]),
   (middleboxCompat ||| earlyClientCcs,
     [.clientHello, .clientChangeCipherSpec, .serverHello]),
   (helloRetryRequest,
     [.clientHello, .helloRetryMsg]),
   (helloRetryRequest ||| middleboxCompat ||| earlyClientCcs,
     [.clientHello, .clientChangeCipherSpec, .helloRetryMsg]),
   (negotiated,
     [.clientHello, .serverHello, .encryptedExtensions, .serverFinished, .clientFinished,
      .applicationData]),
   (negotiated ||| withEarlyData,
     [.clientHello, .serverHello, .encryptedExtensions, .serverFinished, .endOfEarlyData,
      .clientFinished, .applicationData]),
   (negotiated ||| middleboxCompat,
     [.clientHello, .serverHello, .serverChangeCipherSpec, .encryptedExtensions, .serverFinished,
      .clientChangeCipherSpec, .clientFinished, .applicationData]),
   (negotiated ||| middleboxCompat ||| earlyClientCcs,
     [.clientHello, .clientChangeCipherSpec, .serverHello, .serverChangeCipherSpec,
      .encryptedExtensions, .serverFinished, .clientFinished, .applicationData]),
   (negotiated ||| middleboxCompat ||| withEarlyData,
     [.clientHello, .serverHello, .serverChangeCipherSpec, .encryptedExtensions, .serverFinished,
      .clientChangeCipherSpec, .endOfEarlyData, .clientFinished, .applicationData]),
   (negotiated ||| middleboxCompat ||| earlyClientCcs ||| withEarlyData,
     [.clientHello, .clientChangeCipherSpec, .serverHello, .serverChangeCipherSpec,
      .encryptedExtensions, .serverFinished, .endOfEarlyData, .clientFinished, .applicationData]),
   (negotiated ||| helloRetryRequest,
     [.clientHello, .helloRetryMsg, .clientHello, .serverHello, .encryptedExtensions,
      .serverFinished, .clientFinished, .applicationData]),
   (negotiated ||| helloRetryRequest ||| middleboxCompat,
     [.clientHello, .helloRetryMsg, .serverChangeCipherSpec, .clientChangeCipherSpec, .clientHello,
      .serverHello, .encryptedExtensions, .serverFinished, .clientFinished, .applicationData]),
   (negotiated ||| helloRetryRequest ||| middleboxCompat ||| earlyClientCcs,
     [.clientHello, .clientChangeCipherSpec, .helloRetryMsg, .serverChangeCipherSpec, .clientHello,
      .serverHello, .encryptedExtensions, .serverFinished, .clientFinished, .applicationData]),
   (negotiated ||| fullHandshake,
     [.clientHello, .serverHello, .encryptedExtensions, .serverCert, .serverCertVerify,
      .serverFinished, .clientFinished, .applicationData]),
   (negotiated ||| fullHandshake ||| middleboxCompat,
     [.clientHello, .serverHello, .serverChangeCipherSpec, .encryptedExtensions, .serverCert,
      .serverCertVerify, .serverFinished, .clientChangeCipherSpec, .clientFinished,
      .applicationData]),
   (negotiated ||| fullHandshake ||| middleboxCompat ||| earlyClientCcs,
     [.clientHello, .clientChangeCipherSpec, .serverHello, .serverChangeCipherSpec,
      .encryptedExtensions, .serverCert, .serverCertVerify, .serverFinished, .clientFinished,
      .applicationData]),
   (negotiated ||| fullHandshake ||| helloRetryRequest,
     [.clientHello, .helloRetryMsg, .clientHello, .serverHello, .encryptedExtensions, .serverCert,
      .serverCertVerify, .serverFinished, .clientFinished, .applicationData]),
   (negotiated ||| fullHandshake ||| helloRetryRequest ||| middleboxCompat,
     [.clientHello, .helloRetryMsg, .serverChangeCipherSpec, .clientChangeCipherSpec, .clientHello,
      .serverHello, .encryptedExtensions, .serverCert, .serverCertVerify, .serverFinished,
      .clientFinished, .applicationData]),
   (negotiated ||| fullHandshake ||| helloRetryRequest ||| middleboxCompat ||| earlyClientCcs,
     [.clientHello, .clientChangeCipherSpec, .helloRetryMsg, .serverChangeCipherSpec, .clientHello,
      .serverHello, .encryptedExtensions, .serverCert, .serverCertVerify, .serverFinished,
      .clientFinished, .applicationData]),
   (negotiated ||| fullHandshake ||| helloRetryRequest ||| clientAuth,
     [.clientHello, .helloRetryMsg, .clientHello, .serverHello, .encryptedExtensions,
      .serverCertReq, .serverCert, .serverCertVerify, .serverFinished, .clientCert,
      .clientCertVerify, .clientFinished, .applicationData]),
   (negotiated ||| fullHandshake ||| helloRetryRequest ||| clientAuth ||| middleboxCompat,
     [.clientHello, .helloRetryMsg, .serverChangeCipherSpec, .clientChangeCipherSpec, .clientHello,
      .serverHello, .encryptedExtensions, .serverCertReq, .serverCert, .serverCertVerify,
      .serverFinished, .clientCert, .clientCertVerify, .clientFinished, .applicationData]),
   (negotiated ||| fullHandshake ||| helloRetryRequest ||| clientAuth ||| middleboxCompat ||| earlyClientCcs,
     [.clientHello, .clientChangeCipherSpec, .helloRetryMsg, .serverChangeCipherSpec, .clientHello,
      .serverHello, .encryptedExtensions, .serverCertReq, .serverCert, .serverCertVerify,
      .serverFinished, .clientCert, .clientCertVerify, .clientFinished, .applicationData]),
   (negotiated ||| fullHandshake ||| helloRetryRequest ||| clientAuth ||| noClientCert,
     [.clientHello, .helloRetryMsg, .clientHello, .serverHello, .encryptedExtensions,
      .serverCertReq, .serverCert, .serverCertVerify, .serverFinished, .clientCert,
      .clientFinished, .applicationData]),
   (negotiated ||| fullHandshake ||| helloRetryRequest ||| clientAuth ||| noClientCert ||| middleboxCompat,
     [.clientHello, .helloRetryMsg, .serverChangeCipherSpec, .clientChangeCipherSpec, .clientHello,
      .serverHello, .encryptedExtensions, .serverCertReq, .serverCert, .serverCertVerify,
      .serverFinished, .clientCert, .clientFinished, .applicationData]),
   (negotiated ||| fullHandshake ||| helloRetryRequest ||| clientAuth ||| noClientCert ||| middleboxCompat |||
     earlyClientCcs,
     [.clientHello, .clientChangeCipherSpec, .helloRetryMsg, .serverChangeCipherSpec, .clientHello,
      .serverHello, .encryptedExtensions, .serverCertReq, .serverCert, .serverCertVerify,
      .serverFinished, .clientCert, .clientFinished, .applicationData]),
   (negotiated ||| fullHandshake ||| clientAuth,
     [.clientHello, .serverHello, .encryptedExtensions, .serverCertReq, .serverCert,
      .serverCertVerify, .serverFinished, .clientCert, .clientCertVerify, .clientFinished,
      .applicationData]),
   (negotiated ||| fullHandshake ||| clientAuth ||| middleboxCompat,
     [.clientHello, .serverHello, .serverChangeCipherSpec, .encryptedExtensions, .serverCertReq,
      .serverCert, .serverCertVerify, .serverFinished, .clientChangeCipherSpec, .clientCert,
      .clientCertVerify, .clientFinished, .applicationData]),
   (negotiated ||| fullHandshake ||| clientAuth ||| middleboxCompat ||| earlyClientCcs,
     [.clientHello, .clientChangeCipherSpec, .serverHello, .serverChangeCipherSpec,
      .encryptedExtensions, .serverCertReq, .serverCert, .serverCertVerify, .serverFinished,
      .clientCert, .clientCertVerify, .clientFinished, .applicationData]),
   (negotiated ||| fullHandshake ||| clientAuth ||| noClientCert,
     [.clientHello, .serverHello, .encryptedExtensions, .serverCertReq, .serverCert,
      .serverCertVerify, .serverFinished, .clientCert, .clientFinished, .applicationData]),
   (negotiated ||| fullHandshake ||| clientAuth ||| noClientCert ||| middleboxCompat,
     [.clientHello, .serverHello, .serverChangeCipherSpec, .encryptedExtensions, .serverCertReq,
      .serverCert, .serverCertVerify, .serverFinished, .clientChangeCipherSpec, .clientCert,
      .clientFinished, .applicationData]),
   (negotiated ||| fullHandshake ||| clientAuth ||| noClientCert ||| middleboxCompat ||| earlyClientCcs,
     [.clientHello, .clientChangeCipherSpec, .serverHello, .serverChangeCipherSpec,
      .encryptedExtensions, .serverCertReq, .serverCert, .serverCertVerify, .serverFinished,
      .clientCert, .clientFinished, .applicationData])]

end Tables

/-- `ACTIVE_HANDSHAKES`: the messages that the row of a handshake type lists. -/
def StateMachine.row (m : StateMachine) (handshakeType : ℕ) : List MessageType :=
  match m with
  | .tls13 => (tls13Handshakes.lookup handshakeType).getD []
  | _ => (handshakes.lookup handshakeType).getD []

/-- An entry of a row; beyond the listed messages it is zero. -/
def StateMachine.message (m : StateMachine) (handshakeType messageNumber : ℕ) : MessageType :=
  (m.row handshakeType).getD messageNumber .clientHello

/-! ### Actions -/

/-- The writer of a message: one end, both, or none if the state machine has no such message. -/
inductive Writer
  | only (m : Mode) | both | none
  deriving DecidableEq, Repr

/-- `struct s2n_handshake_action`, without the handlers. -/
structure Action where
  recordType : ContentType
  messageType : HandshakeMsg
  writer : Writer
  deriving DecidableEq, Repr

def Action.zero : Action := ⟨0, 0, .none⟩

def stateMachine : MessageType → Action
  | .clientHello => ⟨tlsHandshake, tlsClientHello, .only .client⟩
  | .serverHello => ⟨tlsHandshake, tlsServerHello, .only .server⟩
  | .serverNewSessionTicket => ⟨tlsHandshake, tlsServerNewSessionTicket, .only .server⟩
  | .serverCert => ⟨tlsHandshake, tlsCertificate, .only .server⟩
  | .serverCertStatus => ⟨tlsHandshake, tlsServerCertStatus, .only .server⟩
  | .serverKey => ⟨tlsHandshake, tlsServerKey, .only .server⟩
  | .serverCertReq => ⟨tlsHandshake, tlsCertReq, .only .server⟩
  | .serverHelloDone => ⟨tlsHandshake, tlsServerHelloDone, .only .server⟩
  | .clientCert => ⟨tlsHandshake, tlsCertificate, .only .client⟩
  | .clientKey => ⟨tlsHandshake, tlsClientKey, .only .client⟩
  | .clientCertVerify => ⟨tlsHandshake, tlsCertVerify, .only .client⟩
  | .clientChangeCipherSpec => ⟨tlsChangeCipherSpec, 0, .only .client⟩
  | .clientNpn => ⟨tlsHandshake, tlsNpn, .only .client⟩
  | .clientFinished => ⟨tlsHandshake, tlsFinished, .only .client⟩
  | .serverChangeCipherSpec => ⟨tlsChangeCipherSpec, 0, .only .server⟩
  | .serverFinished => ⟨tlsHandshake, tlsFinished, .only .server⟩
  | .applicationData => ⟨tlsApplicationData, 0, .both⟩
  | .encryptedExtensions | .serverCertVerify | .helloRetryMsg | .endOfEarlyData => .zero

def tls13StateMachine : MessageType → Action
  | .clientHello => ⟨tlsHandshake, tlsClientHello, .only .client⟩
  | .serverHello => ⟨tlsHandshake, tlsServerHello, .only .server⟩
  | .helloRetryMsg => ⟨tlsHandshake, tlsServerHello, .only .server⟩
  | .encryptedExtensions => ⟨tlsHandshake, tlsEncryptedExtensions, .only .server⟩
  | .serverCertReq => ⟨tlsHandshake, tlsCertReq, .only .server⟩
  | .serverCert => ⟨tlsHandshake, tlsCertificate, .only .server⟩
  | .serverCertVerify => ⟨tlsHandshake, tlsCertVerify, .only .server⟩
  | .serverFinished => ⟨tlsHandshake, tlsFinished, .only .server⟩
  | .clientCert => ⟨tlsHandshake, tlsCertificate, .only .client⟩
  | .clientCertVerify => ⟨tlsHandshake, tlsCertVerify, .only .client⟩
  | .clientFinished => ⟨tlsHandshake, tlsFinished, .only .client⟩
  | .endOfEarlyData => ⟨tlsHandshake, tlsEndOfEarlyData, .only .client⟩
  | .clientChangeCipherSpec => ⟨tlsChangeCipherSpec, 0, .only .client⟩
  | .serverChangeCipherSpec => ⟨tlsChangeCipherSpec, 0, .only .server⟩
  | .applicationData => ⟨tlsApplicationData, 0, .both⟩
  | .serverNewSessionTicket | .serverCertStatus | .serverKey | .serverHelloDone | .clientKey
  | .clientNpn => .zero

/-- `ACTIVE_STATE_MACHINE`. -/
def StateMachine.action (m : StateMachine) : MessageType → Action :=
  match m with
  | .tls13 => tls13StateMachine
  | _ => stateMachine

end S2nTls
