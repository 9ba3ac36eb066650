import EvseIso15118.ChargingSequence

namespace EvseIso15118

/-- A stream over a 1024-byte buffer stays inside it. -/
def Bitstream.StaysInside (before after : Bitstream) : Prop :=
  before.data.length = 1024 → before.pos ≤ 1024 → after.data.length = 1024 ∧ after.pos ≤ 1024

/-- What succeeds has written inside the buffer. -/
structure Codec.WritesInside (codec : Codec) : Prop where
  appHand : ∀ stream doc, (codec.encodeAppHandExiDocument stream doc).1 = 0 →
    stream.StaysInside (codec.encodeAppHandExiDocument stream doc).2
  iso1 : ∀ stream doc, (codec.encodeIso1ExiDocument stream doc).1 = 0 →
    stream.StaysInside (codec.encodeIso1ExiDocument stream doc).2
  flush : ∀ stream, (codec.flush stream).1 = 0 → stream.StaysInside (codec.flush stream).2

/-- `exi_buf[0..exi_len)` once the document is encoded and flushed, where both succeed. -/
def encodedExi (codec : Codec) (encode : Bitstream → ℤ × Bitstream) (fill : Byte) :
    Option (List Byte) :=
  let encoded := encode (exiStream fill)
  let flushed := codec.flush encoded.2
  if encoded.1 ≠ 0 then none
  else if flushed.1 ≠ 0 then none
  else some (flushed.2.data.take flushed.2.pos)

/-- The byte that `exi_buf` is filled with. -/
def exiFill : ExiMsgType → Byte
  | .serviceDiscovery => 0xAA
  | _ => 0x00

/-- Of `out`, what the frame with this payload replaces. -/
def ResponseBuffer.put (out : ResponseBuffer) (f : V2gtpFrame) : ResponseBuffer where
  bytes := f.toBytes ++ out.bytes.drop f.toBytes.length
  len := f.toBytes.length

section encode
variable {codec : Codec}

theorem Codec.WritesInside.encode (h : codec.WritesInside) (doc : ResDocument)
    (stream : Bitstream) (hok : (doc.encode codec stream).1 = 0) :
    stream.StaysInside (doc.encode codec stream).2 := by
  cases doc with
  | appHand doc => exact h.appHand stream doc hok
  | iso1 doc => exact h.iso1 stream doc hok

theorem overwrite_header (bs exi : List Byte) (hfits : 8 + exi.length ≤ 2048) :
    overwrite (writeV2gtpHeader bs (UInt32.ofNat exi.length)) 8 exi =
      V2gtpFrame.toBytes ⟨0x8001, exi, hfits⟩ ++ bs.drop (8 + exi.length) := by
  set hdr : List Byte := [0x01, 0xFE, 0x80, 0x01] ++ be32Bytes (UInt32.ofNat exi.length) with hhdr
  have hlen : hdr.length = 8 := rfl
  have hwrite : writeV2gtpHeader bs (UInt32.ofNat exi.length) = hdr ++ bs.drop 8 := by
    rw [writeV2gtpHeader, ← hhdr, overwrite, List.take_zero, List.nil_append, Nat.zero_add, hlen]
  rw [hwrite, overwrite, List.take_left' hlen, List.drop_append, hlen,
    List.drop_eq_nil_of_le (by omega), List.nil_append, List.drop_drop,
    show 8 + (8 + exi.length - 8) = 8 + exi.length by omega, V2gtpFrame.toBytes,
    show be16Bytes 0x8001 = [0x80, 0x01] from by decide]
  rfl

theorem encodeResponse_cases (h : codec.WritesInside) (doc : ResDocument) (fill : Byte)
    (verify : Codec → List Byte → ℤ) (out : ResponseBuffer) :
    encodeResponse codec (doc.encode codec) fill verify out = (-1, out) ∨
      ∃ (exi : List Byte) (hfits : 8 + exi.length ≤ 2048), exi.length ≤ 1024 ∧
        verify codec exi = 0 ∧ encodedExi codec (doc.encode codec) fill = some exi ∧
        encodeResponse codec (doc.encode codec) fill verify out =
          (0, out.put ⟨0x8001, exi, hfits⟩) := by
  by_cases hencode : (doc.encode codec (exiStream fill)).1 ≠ 0
  · exact .inl (by simp only [encodeResponse, if_pos hencode])
  · set encoded := (doc.encode codec (exiStream fill)).2 with hencoded
    by_cases hflush : (codec.flush encoded).1 ≠ 0
    · exact .inl (by simp only [encodeResponse, if_neg hencode, ← hencoded, if_pos hflush])
    · obtain ⟨hdata, hpos⟩ := h.encode doc (exiStream fill) (not_not.mp hencode)
        List.length_replicate (Nat.zero_le _)
      obtain ⟨hdata', hpos'⟩ := h.flush _ (not_not.mp hflush) hdata hpos
      set flushed := (codec.flush encoded).2 with hflushed
      have hexi : encodedExi codec (doc.encode codec) fill =
          some (flushed.data.take flushed.pos) := by
        simp only [encodedExi, if_neg hencode, ← hencoded, if_neg hflush, ← hflushed]
      have hlen : (flushed.data.take flushed.pos).length = flushed.pos := by
        rw [List.length_take]
        omega
      by_cases hverify : verify codec (flushed.data.take flushed.pos) ≠ 0
      · refine .inl ?_
        simp only [encodeResponse, if_neg hencode, ← hencoded, if_neg hflush, ← hflushed,
          if_pos hverify]
      · have hfits : 8 + (flushed.data.take flushed.pos).length ≤ 2048 := by omega
        refine .inr ⟨_, hfits, by omega, not_not.mp hverify, hexi, ?_⟩
        have hput := overwrite_header out.bytes _ hfits
        rw [hlen] at hput
        simp only [encodeResponse, if_neg hencode, ← hencoded, if_neg hflush, ← hflushed,
          if_neg hverify, hput, ResponseBuffer.put, V2gtpFrame.toBytes_length, hlen,
          Nat.cast_add, Nat.cast_ofNat]

end encode

/-- `secc_build_response` with the context behind its pointer: no builder writes to it. -/
def seccBuildResponseInPlace (codec : Codec) (st : ExiStatics) (ctx : SeccContext)
    (reqType : ExiMsgType) (out : ResponseBuffer) : ℤ × SeccContext × ResponseBuffer :=
  let built := seccBuildResponse codec st ctx.toSeccHead reqType out
  (built.1, ctx, built.2)

theorem seccBuildResponse_encodes (codec : Codec) (st : ExiStatics) (head : SeccHead)
    (msgType : ExiMsgType) (out : ResponseBuffer) :
    seccBuildResponse codec st head msgType out = (-1, out) ∨
    ∃ doc verify, resDocument st head msgType = some doc ∧
      seccBuildResponse codec st head msgType out =
        encodeResponse codec (doc.encode codec) (exiFill msgType) verify out := by
  cases msgType
  case unknown => exact .inl rfl
  all_goals exact .inr ⟨_, _, rfl, rfl⟩

theorem seccBuildResponse_cases {codec : Codec} (h : codec.WritesInside) (st : ExiStatics)
    (head : SeccHead) (msgType : ExiMsgType) (out : ResponseBuffer) :
    seccBuildResponse codec st head msgType out = (-1, out) ∨
    ∃ doc, ∃ (exi : List Byte) (hfits : 8 + exi.length ≤ 2048), exi.length ≤ 1024 ∧
      resDocument st head msgType = some doc ∧
      encodedExi codec (doc.encode codec) (exiFill msgType) = some exi ∧
      seccBuildResponse codec st head msgType out = (0, out.put ⟨0x8001, exi, hfits⟩) := by
  rcases seccBuildResponse_encodes codec st head msgType out with hnone | ⟨doc, verify, hdoc, heq⟩
  · exact .inl hnone
  · rw [heq]
    rcases encodeResponse_cases h doc (exiFill msgType) verify out with
      hfail | ⟨exi, hfits, hle, _, hput⟩
    · exact .inl hfail
    · exact .inr ⟨doc, exi, hfits, hle, hdoc, hput⟩

section put
variable {out : ResponseBuffer} {f : V2gtpFrame}

theorem ResponseBuffer.put_header :
    v2gtpParseHeader (some (out.put f).bytes) =
      some ⟨f.payloadType, UInt32.ofNat f.payload.length⟩ := by
  change some (headerOf (f.toBytes ++ out.bytes.drop f.toBytes.length)) = _
  rw [headerOf_append (by rw [V2gtpFrame.toBytes_length]; omega), V2gtpFrame.headerOf_toBytes]

theorem ResponseBuffer.put_payload :
    ((out.put f).bytes.drop 8).take f.payload.length = f.payload := by
  change ((f.toBytes ++ out.bytes.drop f.toBytes.length).drop 8).take _ = _
  rw [List.drop_append_of_le_length (by rw [V2gtpFrame.toBytes_length]; omega),
    V2gtpFrame.drop_toBytes, List.take_left]

theorem ResponseBuffer.put_rest :
    (out.put f).bytes.drop (8 + f.payload.length) = out.bytes.drop (8 + f.payload.length) := by
  have hlen := f.toBytes_length
  change (f.toBytes ++ out.bytes.drop f.toBytes.length).drop _ = _
  rw [← hlen, List.drop_left]

theorem ResponseBuffer.put_length (h : 8 + f.payload.length ≤ out.bytes.length) :
    (out.put f).bytes.length = out.bytes.length := by
  change (f.toBytes ++ out.bytes.drop f.toBytes.length).length = _
  rw [List.length_append, List.length_drop, V2gtpFrame.toBytes_length]
  omega

end put

/-- A zero comes with one whole frame in `out_buf`, anything else with nothing written. -/
theorem seccBuildResponse_framed (codec : Codec) (hcodec : codec.WritesInside) (st : ExiStatics)
    (ctx : SeccContext) (reqType : ExiMsgType) (out : ResponseBuffer)
    (hroom : 1032 ≤ out.bytes.length) :
    let result := seccBuildResponseInPlace codec st ctx reqType out
    (result.1 = 0 → ∃ doc exi, resDocument st ctx.toSeccHead reqType = some doc ∧
      encodedExi codec (doc.encode codec) (exiFill reqType) = some exi ∧
      result.2.2.len = 8 + exi.length ∧ result.2.2.len ≤ 2048 ∧
      (result.2.2.bytes.drop 8).take exi.length = exi ∧
      (∃ hdr, v2gtpParseHeader (some result.2.2.bytes) = some hdr ∧
        hdr.payloadType = 0x8001 ∧ hdr.payloadLength.toNat = exi.length) ∧
      byteAt result.2.2.bytes 0 = 0x01 ∧ byteAt result.2.2.bytes 1 = 0xFE ∧
      result.2.2.bytes.length = out.bytes.length ∧
      result.2.2.bytes.drop (8 + exi.length) = out.bytes.drop (8 + exi.length)) ∧
    (result.1 ≠ 0 → result.2.2 = out) ∧ result.2.1 = ctx := by
  intro result
  have hres : result = ((seccBuildResponse codec st ctx.toSeccHead reqType out).1, ctx,
    (seccBuildResponse codec st ctx.toSeccHead reqType out).2) := rfl
  rcases seccBuildResponse_cases hcodec st ctx.toSeccHead reqType out with
    hfail | ⟨doc, exi, hfits, hle, hdoc, hexi, hput⟩
  · rw [hres, hfail]
    refine ⟨fun h => ?_, fun _ => rfl, rfl⟩
    cases h
  · rw [hres, hput]
    set f : V2gtpFrame := ⟨0x8001, exi, hfits⟩ with hf
    have hlen : (out.put f).len = 8 + exi.length := by
      rw [ResponseBuffer.put, V2gtpFrame.toBytes_length]
      rfl
    refine ⟨fun _ => ⟨doc, exi, hdoc, hexi, hlen, ?_, ResponseBuffer.put_payload (f := f),
      ⟨_, ResponseBuffer.put_header, rfl, ?_⟩, rfl, rfl, ?_, ResponseBuffer.put_rest (f := f)⟩,
      fun h => absurd rfl h, rfl⟩
    · change (out.put f).len ≤ 2048
      omega
    · exact Nat.mod_eq_of_lt (by change exi.length < 2 ^ 32; omega)
    · exact ResponseBuffer.put_length (by change 8 + exi.length ≤ _; omega)

theorem powerCodec_writesInside : powerCodec.WritesInside where
  appHand stream doc h := by cases h
  iso1 stream doc h := by
    intro hdata hpos
    simp only [powerCodec] at h ⊢
    split_ifs at h ⊢ with hres
    · refine ⟨?_, show 1 ≤ 1024 by decide⟩
      change (overwrite stream.data 0 [0x81]).length = 1024
      rw [overwrite_length (by rw [hdata]; decide), hdata]
    · cases h
  flush stream h hdata hpos := ⟨hdata, hpos⟩

theorem seccBuildResponse_framed_powerDelivery :
    let result := seccBuildResponseInPlace powerCodec {} .initial .powerDelivery responseScratch
    (result.1 = 0 → ∃ doc exi,
      resDocument {} SeccContext.initial.toSeccHead .powerDelivery = some doc ∧
      encodedExi powerCodec (doc.encode powerCodec) (exiFill .powerDelivery) = some exi ∧
      result.2.2.len = 8 + exi.length ∧ result.2.2.len ≤ 2048 ∧
      (result.2.2.bytes.drop 8).take exi.length = exi ∧
      (∃ hdr, v2gtpParseHeader (some result.2.2.bytes) = some hdr ∧
        hdr.payloadType = 0x8001 ∧ hdr.payloadLength.toNat = exi.length) ∧
      byteAt result.2.2.bytes 0 = 0x01 ∧ byteAt result.2.2.bytes 1 = 0xFE ∧
      result.2.2.bytes.length = responseScratch.bytes.length ∧
      result.2.2.bytes.drop (8 + exi.length) = responseScratch.bytes.drop (8 + exi.length)) ∧
    (result.1 ≠ 0 → result.2.2 = responseScratch) ∧ result.2.1 = .initial :=
  seccBuildResponse_framed powerCodec powerCodec_writesInside {} .initial .powerDelivery
    responseScratch (by rw [responseScratch, List.length_replicate]; decide)

end EvseIso15118
