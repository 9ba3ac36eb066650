import EvseIso15118.Octets

namespace EvseIso15118

/-- `secc_state_t`. -/
inductive SeccState
  | idle
  | slacInit
  | slacMatching
  | slacMatched
  | tcpConnected
  | tlsHandshake
  | sessionSetup
  | serviceDiscovery
  | paymentSelection
  | authorization
  | chargeParameter
  | cableCheck
  | precharge
  | powerDelivery
  | currentDemand
  | weldingDetection
  | sessionStop
  | error
  deriving DecidableEq

/-- `transport_mode_t`. -/
inductive TransportMode
  | slac
  | tls
  | nonTls
  deriving DecidableEq

def TransportMode.toInt : TransportMode → ℤ
  | .slac => 0
  | .tls => 1
  | .nonTls => 2

/-- `recv_buffer[2048]` with `recv_buffer_len`. -/
@[ext]
structure RecvBuffer where
  bytes : List Byte
  len : ℕ
  bytes_length : bytes.length = 2048
  len_le : len ≤ 2048

namespace RecvBuffer

def empty : RecvBuffer where
  bytes := List.replicate 2048 0
  len := 0
  bytes_length := List.length_replicate
  len_le := Nat.zero_le _

/-- The bytes received and not yet consumed. -/
def pending (b : RecvBuffer) : List Byte := b.bytes.take b.len

/-- `memcpy(&recv_buffer[recv_buffer_len], chunk, len); recv_buffer_len += len`. -/
def push (b : RecvBuffer) (chunk : List Byte) (h : b.len + chunk.length ≤ 2048) : RecvBuffer where
  bytes := overwrite b.bytes b.len chunk
  len := b.len + chunk.length
  bytes_length := by rw [overwrite_length (by rw [b.bytes_length]; exact h), b.bytes_length]
  len_le := h

/-- `recv_buffer_len -= offset; memmove(recv_buffer, &recv_buffer[offset], recv_buffer_len)`. -/
def shift (b : RecvBuffer) (offset : ℕ) : RecvBuffer where
  bytes := overwrite b.bytes 0 ((b.bytes.drop offset).take (b.len - offset))
  len := b.len - offset
  bytes_length := by
    rw [overwrite_length (by simp [b.bytes_length]), b.bytes_length]
  len_le := by
    have := b.len_le
    omega

/-- `recv_buffer_len = 0`. -/
def clear (b : RecvBuffer) : RecvBuffer := { b with len := 0, len_le := Nat.zero_le _ }

@[simp] theorem pending_length (b : RecvBuffer) : b.pending.length = b.len := by
  simp [pending, b.bytes_length, b.len_le]

@[simp] theorem pending_empty : empty.pending = [] := rfl

@[simp] theorem push_len (b : RecvBuffer) (chunk : List Byte) (h) :
    (b.push chunk h).len = b.len + chunk.length := rfl

@[simp] theorem pending_push (b : RecvBuffer) (chunk : List Byte) (h) :
    (b.push chunk h).pending = b.pending ++ chunk := by
  rw [pending, push, take_overwrite (by rw [b.bytes_length]; exact h)]
  rfl

@[simp] theorem pending_clear (b : RecvBuffer) : b.clear.pending = [] := rfl

theorem clear_bytes (b : RecvBuffer) : b.clear.bytes = b.bytes := rfl

@[simp] theorem pending_shift (b : RecvBuffer) (offset : ℕ) :
    (b.shift offset).pending = b.pending.drop offset := by
  have hlen := b.len_le
  have hb := b.bytes_length
  have hl : ((b.bytes.drop offset).take (b.len - offset)).length = b.len - offset := by
    simp [hb]
    omega
  have hfit : 0 + ((b.bytes.drop offset).take (b.len - offset)).length ≤ b.bytes.length := by
    rw [hl]
    omega
  have ht := take_overwrite hfit
  rw [hl, Nat.zero_add, List.take_zero, List.nil_append] at ht
  rw [pending, shift, ht, pending, List.drop_take]

theorem shift_bytes (b : RecvBuffer) (offset : ℕ) :
    (b.shift offset).bytes = overwrite b.bytes 0 (b.pending.drop offset) := by
  rw [pending, List.drop_take]
  rfl

/-- Reads of the array below `recv_buffer_len` are reads of the pending bytes. -/
theorem take_drop_bytes (b : RecvBuffer) {start n : ℕ} (h : start + n ≤ b.len) :
    (b.bytes.drop start).take n = (b.pending.drop start).take n := by
  rw [pending, List.drop_take, List.take_take, Nat.min_eq_left (by omega)]

end RecvBuffer

/-- The fields `secc_context_t` and `secc_session_t` both begin with. -/
structure SeccHead where
  clientFd : ℤ
  state : SeccState
  sessionId : UInt32
  evccId : Octets 8
  evccIdLen : ℤ
  transportMode : TransportMode

/-- `secc_context_t`. -/
structure SeccContext extends SeccHead where
  recv : RecvBuffer

/-- The context of a session that `secc_session_init` has set up. -/
def SeccContext.initial : SeccContext where
  clientFd := -1
  state := .idle
  sessionId := 1
  evccId := fun _ => 0
  evccIdLen := 0
  transportMode := .tls
  recv := .empty

end EvseIso15118
