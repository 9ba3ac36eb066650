import EvseIso15118.Octets
import EvseIso15118.Reassembly

namespace EvseIso15118

/-- `v2gtp_header_t`. -/
structure V2gtpHeader where
  payloadType : UInt16
  payloadLength : UInt32
  deriving DecidableEq

/-- Bytes 2-3 and 4-7; the version bytes 0-1 are not looked at. -/
def headerOf (buf : List Byte) : V2gtpHeader where
  payloadType := be16 (byteAt buf 2) (byteAt buf 3)
  payloadLength := be32 (byteAt buf 4) (byteAt buf 5) (byteAt buf 6) (byteAt buf 7)

/-- `v2gtp_parse_header`; the return value -1, for a null pointer, is `none`. -/
def v2gtpParseHeader (buf : Option (List Byte)) : Option V2gtpHeader := buf.map headerOf

theorem headerOf_append {a : List Byte} (h : 8 ≤ a.length) (b : List Byte) :
    headerOf (a ++ b) = headerOf a := by
  simp only [headerOf]
  repeat rw [byteAt_append_left b (by omega)]

/-- `8 + payload_length`, over the integers. -/
def frameTotal (s : List Byte) : Option ℕ :=
  if 8 ≤ s.length then some (8 + (headerOf s).payloadLength.toNat) else none

def v2gtpFormat : Reassembly.Format Byte where
  total := frameTotal
  total_pos := by
    intro s k h
    unfold frameTotal at h
    split_ifs at h
    cases h
    omega
  total_append := by
    intro s k h t
    unfold frameTotal at h ⊢
    split_ifs at h with hs
    rw [if_pos (by simp; omega), headerOf_append hs]
    exact h

/-- A well-formed frame that fits the 2048-byte receive buffer. -/
structure V2gtpFrame where
  payloadType : UInt16
  payload : List Byte
  fits : 8 + payload.length ≤ 2048

namespace V2gtpFrame

def toBytes (f : V2gtpFrame) : List Byte :=
  [0x01, 0xFE] ++ be16Bytes f.payloadType ++ be32Bytes (UInt32.ofNat f.payload.length) ++ f.payload

@[simp] theorem toBytes_length (f : V2gtpFrame) : f.toBytes.length = 8 + f.payload.length := by
  simp [toBytes, be16Bytes, be32Bytes]
  omega

theorem payload_lt (f : V2gtpFrame) : f.payload.length < 2 ^ 32 := by
  have := f.fits
  omega

theorem headerOf_toBytes (f : V2gtpFrame) : headerOf f.toBytes =
    { payloadType := f.payloadType, payloadLength := UInt32.ofNat f.payload.length } := by
  rw [toBytes, be16Bytes, be32Bytes]
  simp only [headerOf, byteAt, List.cons_append, List.nil_append, List.getD_cons_succ,
    List.getD_cons_zero]
  rw [be16_be16Bytes, be32_be32Bytes]

theorem drop_toBytes (f : V2gtpFrame) : f.toBytes.drop 8 = f.payload := rfl

theorem payloadLength_toNat (f : V2gtpFrame) :
    (headerOf f.toBytes).payloadLength.toNat = f.payload.length := by
  rw [headerOf_toBytes]
  exact Nat.mod_eq_of_lt f.payload_lt

theorem isFrame_toBytes (f : V2gtpFrame) : v2gtpFormat.IsFrame f.toBytes := by
  have h : frameTotal f.toBytes = some f.toBytes.length := by
    rw [frameTotal, if_pos (by simp), payloadLength_toNat, toBytes_length]
  exact h

end V2gtpFrame

def streamOf (fs : List V2gtpFrame) : List Byte := (fs.map V2gtpFrame.toBytes).flatten

theorem isFrame_of_mem {fs : List V2gtpFrame} {f : List Byte}
    (h : f ∈ fs.map V2gtpFrame.toBytes) : v2gtpFormat.IsFrame f := by
  obtain ⟨g, -, rfl⟩ := List.mem_map.mp h
  exact g.isFrame_toBytes

end EvseIso15118
