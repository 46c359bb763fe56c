import S2nTls.Tls.Connection

/-!
Limits of early data (`tls/s2n_early_data.c`, `tls/s2n_early_data_io.c`).
-/

namespace S2nTls

open Lib

variable {K : Type}

def Conn.isEarlyDataIo (c : Conn K) : Bool :=
  c.currentMessageType != .applicationData &&
    (c.earlyData.expected || (c.mode == .client && c.earlyData.state == .requested) ||
      c.earlyData.state == .accepted || c.earlyData.state == .endOfEarlyData)

/-- `s2n_early_data_get_server_max_size`. -/
def Conn.serverMaxEarlyDataSize (c : Conn K) : UInt32 :=
  c.earlyData.serverMaxOverride.getD c.config.serverMaxEarlyDataSize

def Conn.maxEarlyDataSize (c : Conn K) : UInt32 :=
  match c.earlyData.psks with
  | [] =>
    if c.mode = .server ∧ c.handshake.handshakeType.testBit 0 = false then c.serverMaxEarlyDataSize
    else 0
  | psk :: _ =>
    if c.mode = .server ∧ psk.isResumption = true then
      min psk.maxEarlyDataSize c.serverMaxEarlyDataSize
    else psk.maxEarlyDataSize

def remainingEarlyDataSize : ConnM K ℕ := do
  let c ← get
  match c.earlyData.state with
  | .notRequested | .rejected | .endOfEarlyData => return 0
  | .unknown | .requested | .accepted =>
    ensure (c.earlyData.bytes ≤ c.maxEarlyDataSize.toNat) .maxEarlyDataSize
    return c.maxEarlyDataSize.toNat - c.earlyData.bytes

/-- `s2n_early_data_validate_send`. Its parameter `bytes_to_send` is a `uint32_t`. -/
def earlyDataValidateSend (bytesToSend : ℕ) : ConnM K Unit := do
  let c ← get
  when (c.isEarlyDataIo = true) do
    ensure (c.earlyData.expected = true) .earlyDataNotAllowed
    ensure (c.mode = .client) .earlyDataNotAllowed
    ensure (c.earlyData.state = .requested ∨ c.earlyData.state = .accepted) .earlyDataNotAllowed
    let allowed ← remainingEarlyDataSize
    ensure (bytesToSend % 2 ^ 32 ≤ allowed) .maxEarlyDataSize

/-- `s2n_early_data_record_bytes`, for a number that is not negative. -/
def earlyDataRecordBytes (dataLen : ℕ) : ConnM K Unit := do
  let c ← get
  when (c.isEarlyDataIo = true) do
    if 2 ^ 64 - 1 - c.earlyData.bytes < dataLen then
      modify fun c => { c with earlyData := { c.earlyData with bytes := 2 ^ 64 - 1 } }
      throw .integerOverflow
    else
      modify fun c => { c with earlyData := { c.earlyData with bytes := c.earlyData.bytes + dataLen } }
      ensure (c.earlyData.bytes + dataLen ≤ c.maxEarlyDataSize.toNat) .maxEarlyDataSize

end S2nTls
