import EvseIso15118.SdpHandler
import EvseIso15118.TcpReading
import EvseIso15118.V2gtpHandler

namespace EvseIso15118

/-- `(a << 24) | (b << 16) | (c << 8) | d`: each byte is promoted to `int` first. -/
def intOfBytes (a b c d : Byte) : ℤ :=
  ((a.toBitVec.setWidth 32 <<< 24) ||| (b.toBitVec.setWidth 32 <<< 16) |||
    (c.toBitVec.setWidth 32 <<< 8) ||| d.toBitVec.setWidth 32).toInt

/-- Conversion of an `int` to `uint32_t`. -/
def toUInt32 (x : ℤ) : UInt32 := ⟨BitVec.ofInt 32 x⟩

theorem toUInt32_intOfBytes (a b c d : Byte) : toUInt32 (intOfBytes a b c d) = be32 a b c d := by
  rw [toUInt32, intOfBytes, BitVec.ofInt_toInt]
  rfl

theorem be32Bytes_be32 (a b c d : Byte) : be32Bytes (be32 a b c d) = [a, b, c, d] := by
  have ha := a.toNat_lt
  have hb := b.toNat_lt
  have hc := c.toNat_lt
  have hd := d.toNat_lt
  have hbyte : ∀ n : ℕ, n &&& 255 = n % 256 := fun n => Nat.and_two_pow_sub_one_eq_mod n 8
  simp only [be32Bytes, List.cons.injEq, and_true]
  refine ⟨?_, ?_, ?_, ?_⟩
  all_goals
    apply UInt8.toNat_inj.mp
    simp only [UInt32.toNat_toUInt8, UInt32.toNat_and, UInt32.toNat_shiftRight, be32_toNat,
      UInt32.reduceToNat, hbyte, Nat.shiftRight_eq_div_pow, Nat.reduceMod, Nat.reducePow]
    omega

/-- `payload_len` of `sdp_parse_request`. -/
def sdpPayloadLen (data : List Byte) : UInt32 :=
  toUInt32 (intOfBytes (byteAt data 4) (byteAt data 5) (byteAt data 6) (byteAt data 7))

/-- `payload_length` of `tls_read`. -/
def tlsPayloadLength (buf : List Byte) : UInt32 :=
  toUInt32 (intOfBytes (byteAt buf 4) (byteAt buf 5) (byteAt buf 6) (byteAt buf 7))

/-- `total_message_len` of `tls_read`. -/
def totalMessageLen (buf : List Byte) : UInt32 := 8 + tlsPayloadLength buf

theorem sdpPayloadLen_eq (data : List Byte) : sdpPayloadLen data = (headerOf data).payloadLength :=
  toUInt32_intOfBytes _ _ _ _

theorem tlsPayloadLength_eq (buf : List Byte) :
    tlsPayloadLength buf = (headerOf buf).payloadLength := toUInt32_intOfBytes _ _ _ _

/-- What `sdp_parse_request` makes of its length. -/
theorem sdpParseRequest_isSome_iff (data : List Byte) (len : ℤ) :
    (sdpParseRequest data len).isSome ↔ 10 ≤ len ∧ byteAt data 0 = 0x01 ∧ byteAt data 1 = 0xFE ∧
      (headerOf data).payloadType = 0x9000 ∧ sdpPayloadLen data = 2 := by
  rw [sdpPayloadLen_eq, sdpParseRequest]
  split_ifs with hlen hversion htype hpayload
  · simp [hlen]
  · simp only [Option.isSome_none, Bool.false_eq_true, false_iff]
    rintro ⟨_, h0, h1, _⟩
    exact hversion.elim (absurd h0) (absurd h1)
  · simp [htype]
  · simp [hpayload]
  · rw [not_or, not_not, not_not] at hversion
    simp only [Option.isSome_some, true_iff]
    exact ⟨not_lt.mp hlen, hversion.1, hversion.2, not_not.mp htype, not_not.mp hpayload⟩

theorem tcpReceive_total (len : ℕ) (segs : List (List Byte))
    (h : 8 ≤ (recvLoop 8 len [] segs).buf.length) :
    tcpReceive len segs = recvLoop (totalMessageLen (recvLoop 8 len [] segs).buf).toNat len
      (recvLoop 8 len [] segs).buf (recvLoop 8 len [] segs).rest := by
  rw [tcpReceive, totalMessageLen, tlsPayloadLength_eq]
  exact if_neg (not_lt.mpr h)

theorem v2gtpParseHeader_write (buf : List Byte) (payloadLen : UInt32) :
    v2gtpParseHeader (some (writeV2gtpHeader buf payloadLen)) = some ⟨0x8001, payloadLen⟩ := by
  have hlen : ([0x01, 0xFE, 0x80, 0x01] ++ be32Bytes payloadLen).length = 8 := rfl
  change some (headerOf (writeV2gtpHeader buf payloadLen)) = _
  rw [writeV2gtpHeader, overwrite, List.take_zero, List.nil_append,
    headerOf_append (by rw [hlen])]
  have hpayload : (headerOf ([0x01, 0xFE, 0x80, 0x01] ++ be32Bytes payloadLen)).payloadLength =
      payloadLen := be32_be32Bytes payloadLen
  have htype : (headerOf ([0x01, 0xFE, 0x80, 0x01] ++ be32Bytes payloadLen)).payloadType =
      0x8001 := by
    change be16 0x80 0x01 = 0x8001
    decide
  rw [← htype]
  exact congrArg (fun n => some (V2gtpHeader.mk _ n)) hpayload

theorem writeV2gtpHeader_parse {hdr : List Byte} (hlen : 8 ≤ hdr.length)
    (hstart : hdr.take 4 = [0x01, 0xFE, 0x80, 0x01]) :
    writeV2gtpHeader hdr (headerOf hdr).payloadLength = hdr := by
  have hbytes : be32Bytes (headerOf hdr).payloadLength = (hdr.drop 4).take 4 := by
    rw [headerOf, be32Bytes_be32]
    apply List.ext_getElem
    · rw [List.length_take, List.length_drop]
      simp
      omega
    · intro i hi hi'
      rw [List.getElem_take, List.getElem_drop, ← byteAt_of_lt (m := hdr)]
      simp only [List.length_cons, List.length_nil] at hi
      interval_cases i <;> rfl
  have hlen8 : ([0x01, 0xFE, 0x80, 0x01] ++ be32Bytes (headerOf hdr).payloadLength).length = 8 :=
    rfl
  rw [writeV2gtpHeader, overwrite, List.take_zero, List.nil_append, hlen8, hbytes, ← hstart,
    ← List.take_add, List.take_append_drop]

/-- Both sums are the sum over the integers. -/
def FrameLengthsAgree (hdr : List Byte) : Prop :=
  ((totalMessageLen hdr).toNat : ℤ) = 8 + (headerOf hdr).payloadLength.toNat ∧
    messageLen (headerOf hdr) = 8 + (headerOf hdr).payloadLength.toNat

theorem frameLengthsAgree_iff (hdr : List Byte) :
    FrameLengthsAgree hdr ↔ (headerOf hdr).payloadLength.toNat < 2 ^ 31 - 8 := by
  have hlt := (headerOf hdr).payloadLength.toNat_lt
  have hsum : (8 + (headerOf hdr).payloadLength).toNat =
      (8 + (headerOf hdr).payloadLength.toNat) % 2 ^ 32 := UInt32.toNat_add _ _
  rw [FrameLengthsAgree, totalMessageLen, tlsPayloadLength_eq, messageLen, hsum, toInt32_eq]
  generalize (headerOf hdr).payloadLength.toNat = n at hlt
  constructor
  · rintro ⟨htotal, hmessage⟩
    split_ifs at hmessage <;> omega
  · intro hsmall
    refine ⟨by omega, ?_⟩
    split_ifs <;> omega

/-- All that the header codecs have to agree on at one header. -/
structure HeaderCodecsAgree (hdr : List Byte) : Prop where
  rewritten : hdr.take 4 = [0x01, 0xFE, 0x80, 0x01] →
    writeV2gtpHeader hdr (headerOf hdr).payloadLength = hdr
  sdp : sdpPayloadLen hdr = (headerOf hdr).payloadLength
  tls : tlsPayloadLength hdr = (headerOf hdr).payloadLength
  lengths : FrameLengthsAgree hdr

/-- What is written is read again, for every length. At a header all readers agree, and the
lengths of its frame do exactly if the frame is shorter than 2^31 bytes. -/
theorem header_codecs_agree_iff (payloadLen : UInt32) {hdr : List Byte} (hlen : 8 ≤ hdr.length) :
    (∀ buf, v2gtpParseHeader (some (writeV2gtpHeader buf payloadLen)) =
      some ⟨0x8001, payloadLen⟩) ∧
    (HeaderCodecsAgree hdr ↔ (headerOf hdr).payloadLength.toNat < 2 ^ 31 - 8) := by
  refine ⟨fun buf => v2gtpParseHeader_write buf payloadLen, ?_⟩
  constructor
  · intro h
    exact (frameLengthsAgree_iff hdr).mp h.lengths
  · intro hsmall
    exact ⟨writeV2gtpHeader_parse hlen, sdpPayloadLen_eq hdr, tlsPayloadLength_eq hdr,
      (frameLengthsAgree_iff hdr).mpr hsmall⟩

theorem header_codecs_agree_iff_twoBytes :
    HeaderCodecsAgree [0x01, 0xFE, 0x80, 0x01, 0x00, 0x00, 0x00, 0x02] :=
  (header_codecs_agree_iff 2 (by decide)).2.mpr (by decide)

/-- The header of a frame of 2^31 bytes: 2^31 in `uint32_t`, -2^31 in `int`. -/
theorem frame_lengths_differ :
    let hdr : List Byte := [0x01, 0xFE, 0x80, 0x01, 0x7F, 0xFF, 0xFF, 0xF8]
    (totalMessageLen hdr).toNat = 2147483648 ∧ messageLen (headerOf hdr) = -2147483648 ∧
      ¬ HeaderCodecsAgree hdr := by
  refine ⟨by decide, by decide, fun h => ?_⟩
  exact absurd h.lengths.2 (by decide)

end EvseIso15118
