import S2nTls.Tls.SequenceUse
import S2nTls.Tls.RecordRoundTrip
import S2nTls.Tls.CertChainValidated
import S2nTls.Tls.Downgrade
import S2nTls.Tls.ClientKeyRun
import S2nTls.Tls.PostHandshakeStream
import S2nTls.Tls.PskBinder
import S2nTls.Stuffer.Safety
import S2nTls.Tls.EarlyDataResume
import S2nTls.Tls.AsyncSign
import S2nTls.Tls.QuicRun
import S2nTls.Tls.RecordSwitch
import S2nTls.Tls.VersionSelection
import S2nTls.Tls.CertSelection
import S2nTls.Tls.CipherSelection
import S2nTls.Tls.TicketKeyChoice
import S2nTls.Tls.EarlyDataLimit
import S2nTls.Tls.SetSession
import S2nTls.Crypto.Kdf
import S2nTls.Crypto.Drbg
import S2nTls.Utils.ForkLock
import S2nTls.Utils.ForkMixing
import S2nTls.Tls.KtlsIo
import S2nTls.Tls.HandshakeName
