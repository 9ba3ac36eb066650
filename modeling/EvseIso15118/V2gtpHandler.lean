import EvseIso15118.Loop
import EvseIso15118.V2gtpParser
import EvseIso15118.SeccStateMachine
import EvseIso15118.ResponseHandler

namespace EvseIso15118

/-- What the loop calls; `ω` is the state of these functions outside the context. -/
structure MessageLayer (ω : Type) where
  exiDecodeMessage : ω → List Byte → ℤ → ExiMsgType × ω
  seccBuildResponse : ω → SeccHead → ExiMsgType → ResponseBuffer → ℤ × ResponseBuffer
  tlsWrite : ω → List Byte → ℤ × ω

/-- What a call does, in order. -/
inductive Event
  /-- A header is read at `recv_buffer[offset]`. -/
  | header (offset : ℤ)
  /-- The decoder is called on `recv_buffer[start]` and `len`. -/
  | decode (start len : ℤ) (payload : List Byte)
  /-- A response to a request of this type is written, with this result. -/
  | write (msgType : ExiMsgType) (response : List Byte) (ret : ℤ)
  deriving DecidableEq

/-- How a call ends. -/
inductive Exit
  | done
  | readFailed
  | overflow
  | headerParseFailed
  | writeFailed
  | buildFailed
  /-- Undefined behaviour: a header in front of the receive buffer. -/
  | undefined
  /-- Still in the loop after the rounds it was given. -/
  | running
  deriving DecidableEq

def Exit.ret : Exit → Option ℤ
  | .done => some 0
  | .readFailed | .overflow | .headerParseFailed | .writeFailed | .buildFailed => some (-1)
  | .undefined | .running => none

structure CallResult (ω : Type) where
  exit : Exit
  ctx : SeccContext
  world : ω
  events : List Event

/-- The state of the loop: `offset`, the context, the rest, and what was done so far. -/
structure FrameLoop (ω : Type) where
  offset : ℤ
  ctx : SeccContext
  world : ω
  events : List Event

/-- `int message_len = V2GTP_HEADER_LEN + hdr.payload_length`: the sum is unsigned. -/
def messageLen (hdr : V2gtpHeader) : ℤ := toInt32 (8 + hdr.payloadLength).toNat

/-- The array `response` of the loop body before anything is written to it. -/
def responseScratch : ResponseBuffer := ⟨List.replicate 2048 0, 0⟩

namespace FrameLoop

variable {ω : Type}

def exitWith (s : FrameLoop ω) (exit : Exit) : CallResult ω := ⟨exit, s.ctx, s.world, s.events⟩

/-- `ctx->recv_buffer_len = 0; return -1`. -/
def fail (s : FrameLoop ω) (exit : Exit) : CallResult ω :=
  ⟨exit, { s.ctx with recv := s.ctx.recv.clear }, s.world, s.events⟩

/-- After the loop: the remaining bytes move to the front. -/
def finish (s : FrameLoop ω) : CallResult ω :=
  if 0 < s.offset ∧ s.offset < s.ctx.recv.len then
    ⟨.done, { s.ctx with recv := s.ctx.recv.shift s.offset.toNat }, s.world, s.events⟩
  else if s.ctx.recv.len ≤ s.offset then
    ⟨.done, { s.ctx with recv := s.ctx.recv.clear }, s.world, s.events⟩
  else s.exitWith .done

/-- `offset += message_len`. -/
def advance (s : FrameLoop ω) (hdr : V2gtpHeader) : FrameLoop ω :=
  { s with offset := toInt32 (s.offset + messageLen hdr) }

def log (s : FrameLoop ω) (e : Event) : FrameLoop ω := { s with events := s.events ++ [e] }

def header (s : FrameLoop ω) : V2gtpHeader := headerOf (s.ctx.recv.bytes.drop s.offset.toNat)

end FrameLoop

section loop
variable {ω : Type} (L : MessageLayer ω)

/-- The bytes `data[0..len)` for `data = &recv_buffer[start]`, up to the end of the array. -/
def exiData (ctx : SeccContext) (start len : ℤ) : List Byte :=
  (ctx.recv.bytes.drop start.toNat).take len.toNat

/-- Build and send the response, then move to the next message. -/
def respond (s : FrameLoop ω) (hdr : V2gtpHeader) (msgType : ExiMsgType) :
    FrameLoop ω ⊕ CallResult ω :=
  let built := L.seccBuildResponse s.world s.ctx.toSeccHead msgType responseScratch
  if built.1 = 0 then
    let response := built.2.written
    let written := L.tlsWrite s.world response
    let s := { s with world := written.2 }.log (.write msgType response written.1)
    if written.1 < 0 then .inr (s.fail .writeFailed) else .inl (s.advance hdr)
  else .inr (s.fail .buildFailed)

/-- The call `exi_decode_message(&recv_buffer[offset + 8], hdr.payload_length)`. -/
def decodeCall (s : FrameLoop ω) (hdr : V2gtpHeader) : Event :=
  .decode (s.offset + 8) (toInt32 hdr.payloadLength.toNat)
    (exiData s.ctx (s.offset + 8) (toInt32 hdr.payloadLength.toNat))

/-- The type of the request, and the state after it was decoded and handled. -/
def decodeExi (s : FrameLoop ω) (hdr : V2gtpHeader) : ExiMsgType × FrameLoop ω :=
  let len := toInt32 hdr.payloadLength.toNat
  let decoded := L.exiDecodeMessage s.world (exiData s.ctx (s.offset + 8) len) len
  (decoded.1,
    { s with
      ctx := handleRequest s.ctx decoded.1
      world := decoded.2
      events := s.events ++ [decodeCall s hdr] })

/-- An EXI frame: decode, handle, respond. -/
def processExi (s : FrameLoop ω) (hdr : V2gtpHeader) : FrameLoop ω ⊕ CallResult ω :=
  respond L (decodeExi L s hdr).2 hdr (decodeExi L s hdr).1

/-- The body of the loop once a header is there: an incomplete message leaves, other
payload types are skipped. -/
def processFrame (s : FrameLoop ω) (hdr : V2gtpHeader) : FrameLoop ω ⊕ CallResult ω :=
  if s.ctx.recv.len < toInt32 (s.offset + messageLen hdr) then .inr s.finish
  else if hdr.payloadType ≠ 0x8001 then .inl (s.advance hdr)
  else processExi L s hdr

/-- `while (offset + V2GTP_HEADER_LEN <= ctx->recv_buffer_len)`. -/
def frameStep (s : FrameLoop ω) : FrameLoop ω ⊕ CallResult ω :=
  if s.offset + 8 ≤ s.ctx.recv.len then
    let s := s.log (.header s.offset)
    -- a wrapped length has taken the offset in front of the array
    if s.offset < 0 then .inr (s.exitWith .undefined)
    else match v2gtpParseHeader (some (s.ctx.recv.bytes.drop s.offset.toNat)) with
      | none => .inr (s.fail .headerParseFailed)
      | some hdr => processFrame L s hdr
  else .inr s.finish

/-- At the head of the loop, the bytes read appended. -/
def loopStart (read : List Byte) (ctx : SeccContext) (world : ω)
    (h : ctx.recv.len + read.length ≤ 2048) : FrameLoop ω where
  offset := 0
  ctx := { ctx with recv := ctx.recv.push read h }
  world := world
  events := []

/-- `v2g_process_message`, with `read` the bytes `tls_read` put into `temp_buffer`,
none when it returned zero or less, and the loop given `fuel` rounds. -/
def v2gProcessMessage (fuel : ℕ) (read : List Byte) (ctx : SeccContext) (world : ω) :
    CallResult ω :=
  if read = [] then ⟨.readFailed, ctx, world, []⟩
  else if h : ctx.recv.len + read.length ≤ 2048 then
    match Loop.run (frameStep L) fuel (loopStart read ctx world h) with
    | .inl s => s.exitWith .running
    | .inr r => r
  else ⟨.overflow, { ctx with recv := ctx.recv.clear }, world, []⟩

/-- The states the loop of a call comes to. -/
def InLoop (read : List Byte) (ctx : SeccContext) (world : ω) (s : FrameLoop ω) : Prop :=
  read ≠ [] ∧ ∃ h : ctx.recv.len + read.length ≤ 2048,
    Loop.Visits (frameStep L) (loopStart read ctx world h) s

end loop

section rounds
variable {ω : Type} {L : MessageLayer ω}

def eventsAfter (o : FrameLoop ω ⊕ CallResult ω) : List Event :=
  Sum.elim FrameLoop.events CallResult.events o

def headAfter (o : FrameLoop ω ⊕ CallResult ω) : SeccHead × ω :=
  Sum.elim (fun t => (t.ctx.toSeccHead, t.world)) (fun r => (r.ctx.toSeccHead, r.world)) o

@[simp] theorem eventsAfter_inl (t : FrameLoop ω) : eventsAfter (.inl t) = t.events := rfl

@[simp] theorem eventsAfter_inr (r : CallResult ω) : eventsAfter (.inr r) = r.events := rfl

@[simp] theorem headAfter_inl (t : FrameLoop ω) :
    headAfter (.inl t) = (t.ctx.toSeccHead, t.world) := rfl

@[simp] theorem headAfter_inr (r : CallResult ω) :
    headAfter (.inr r) = (r.ctx.toSeccHead, r.world) := rfl

theorem toInt32_add_messageLen (offset : ℤ) (hdr : V2gtpHeader) :
    toInt32 (offset + messageLen hdr) = toInt32 (offset + 8 + hdr.payloadLength.toNat) := by
  have h8 : (8 + hdr.payloadLength).toNat = (8 + hdr.payloadLength.toNat) % 4294967296 := by
    rw [UInt32.toNat_add]
    rfl
  rw [messageLen, toInt32_eq, toInt32_eq, toInt32_eq, h8]
  split_ifs <;> omega

@[simp] theorem FrameLoop.log_offset (s : FrameLoop ω) (e : Event) : (s.log e).offset = s.offset :=
  rfl

@[simp] theorem FrameLoop.log_ctx (s : FrameLoop ω) (e : Event) : (s.log e).ctx = s.ctx := rfl

@[simp] theorem FrameLoop.log_events (s : FrameLoop ω) (e : Event) :
    (s.log e).events = s.events ++ [e] := rfl

@[simp] theorem FrameLoop.advance_offset (s : FrameLoop ω) (hdr : V2gtpHeader) :
    (s.advance hdr).offset = toInt32 (s.offset + 8 + hdr.payloadLength.toNat) :=
  toInt32_add_messageLen s.offset hdr

@[simp] theorem FrameLoop.advance_ctx (s : FrameLoop ω) (hdr : V2gtpHeader) :
    (s.advance hdr).ctx = s.ctx := rfl

@[simp] theorem FrameLoop.advance_events (s : FrameLoop ω) (hdr : V2gtpHeader) :
    (s.advance hdr).events = s.events := rfl

@[simp] theorem FrameLoop.finish_events (s : FrameLoop ω) : s.finish.events = s.events := by
  unfold FrameLoop.finish
  split_ifs <;> rfl

@[simp] theorem FrameLoop.finish_exit (s : FrameLoop ω) : s.finish.exit = .done := by
  unfold FrameLoop.finish
  split_ifs <;> rfl

@[simp] theorem FrameLoop.finish_head (s : FrameLoop ω) :
    (s.finish.ctx.toSeccHead, s.finish.world) = (s.ctx.toSeccHead, s.world) := by
  unfold FrameLoop.finish
  split_ifs <;> rfl

theorem frameStep_of_end {s : FrameLoop ω} (h : s.ctx.recv.len < s.offset + 8) :
    frameStep L s = .inr s.finish := by
  rw [frameStep, if_neg (by omega)]

theorem frameStep_of_neg {s : FrameLoop ω} (h : s.offset + 8 ≤ s.ctx.recv.len)
    (hn : s.offset < 0) :
    frameStep L s = .inr ((s.log (.header s.offset)).exitWith .undefined) := by
  rw [frameStep, if_pos h]
  exact if_pos hn

theorem frameStep_of_header {s : FrameLoop ω} (h : s.offset + 8 ≤ s.ctx.recv.len)
    (hn : 0 ≤ s.offset) :
    frameStep L s = processFrame L (s.log (.header s.offset)) s.header := by
  rw [frameStep, if_pos h]
  exact if_neg (by simpa [FrameLoop.log] using hn)

theorem FrameLoop.header_eq {s : FrameLoop ω} (h : s.offset + 8 ≤ s.ctx.recv.len)
    (hn : 0 ≤ s.offset) : s.header = headerOf (s.ctx.recv.pending.drop s.offset.toNat) := by
  have hb := s.ctx.recv.bytes_length
  have hl := s.ctx.recv.len_le
  have hd : s.ctx.recv.bytes.drop s.offset.toNat =
      s.ctx.recv.pending.drop s.offset.toNat ++ s.ctx.recv.bytes.drop s.ctx.recv.len := by
    conv_lhs => rw [← List.take_append_drop s.ctx.recv.len s.ctx.recv.bytes]
    rw [List.drop_append_of_le_length (by simp; omega)]
    rfl
  rw [FrameLoop.header, hd, headerOf_append (by simp; omega)]

theorem respond_eq_inl {s t : FrameLoop ω} {hdr : V2gtpHeader} {msgType : ExiMsgType}
    (h : respond L s hdr msgType = .inl t) :
    (L.seccBuildResponse s.world s.ctx.toSeccHead msgType responseScratch).1 = 0 ∧ t.ctx = s.ctx ∧
      t.offset = toInt32 (s.offset + 8 + hdr.payloadLength.toNat) ∧
      ∃ ret, t.events = s.events ++ [.write msgType
        (L.seccBuildResponse s.world s.ctx.toSeccHead msgType responseScratch).2.written ret] := by
  simp only [respond] at h
  split_ifs at h with hb
  cases h
  exact ⟨hb, rfl, FrameLoop.advance_offset _ _, _, rfl⟩

theorem respond_eq_inr {s : FrameLoop ω} {r : CallResult ω} {hdr : V2gtpHeader}
    {msgType : ExiMsgType} (h : respond L s hdr msgType = .inr r) :
    r.ctx.toSeccHead = s.ctx.toSeccHead ∧ (r.events = s.events ∨
      (L.seccBuildResponse s.world s.ctx.toSeccHead msgType responseScratch).1 = 0 ∧
        ∃ ret, r.events = s.events ++ [.write msgType
          (L.seccBuildResponse s.world s.ctx.toSeccHead msgType responseScratch).2.written
            ret]) := by
  simp only [respond] at h
  split_ifs at h with hb
  · cases h
    exact ⟨rfl, .inr ⟨hb, _, rfl⟩⟩
  · cases h
    exact ⟨rfl, .inl rfl⟩

theorem respond_leaves {s : FrameLoop ω} {r : CallResult ω} {hdr : V2gtpHeader} 
    {msgType : ExiMsgType} (h : respond L s hdr msgType = .inr r) :
    (r.exit = .writeFailed ∨ r.exit = .buildFailed) ∧ r.ctx.recv = s.ctx.recv.clear := by
  simp only [respond] at h
  split_ifs at h
  · cases h
    exact ⟨.inl rfl, rfl⟩
  · cases h
    exact ⟨.inr rfl, rfl⟩

@[simp] theorem decodeExi_recv (s : FrameLoop ω) (hdr : V2gtpHeader) :
    (decodeExi L s hdr).2.ctx.recv = s.ctx.recv := handleRequest_recv _ _

@[simp] theorem decodeExi_offset (s : FrameLoop ω) (hdr : V2gtpHeader) :
    (decodeExi L s hdr).2.offset = s.offset := rfl

@[simp] theorem decodeExi_events (s : FrameLoop ω) (hdr : V2gtpHeader) :
    (decodeExi L s hdr).2.events = s.events ++ [decodeCall s hdr] := rfl

@[simp] theorem decodeExi_sessionId (s : FrameLoop ω) (hdr : V2gtpHeader) :
    (decodeExi L s hdr).2.ctx.sessionId = s.ctx.sessionId := by
  simp only [decodeExi, handleRequest_sessionId]

theorem processExi_events (s : FrameLoop ω) (hdr : V2gtpHeader) :
    ∃ ws, eventsAfter (processExi L s hdr) =
        s.events ++ decodeCall s hdr :: ws ∧
      ∀ e ∈ ws, ∃ msgType response ret, e = .write msgType response ret := by
  unfold processExi
  cases h : respond L (decodeExi L s hdr).2 hdr (decodeExi L s hdr).1 with
  | inl t =>
    obtain ⟨-, -, -, ret, he⟩ := respond_eq_inl h
    rw [eventsAfter_inl, he, decodeExi_events, List.append_assoc]
    exact ⟨[.write _ _ ret], rfl, by simp⟩
  | inr r =>
    rcases (respond_eq_inr h).2 with he | ⟨-, ret, he⟩
    · exact ⟨[], by simp [he], by simp⟩
    · rw [eventsAfter_inr, he, decodeExi_events, List.append_assoc]
      exact ⟨[.write _ _ ret], rfl, by simp⟩

/-- What a round that goes on has done: it read a header, found the message whole, and
skipped it or answered it. -/
theorem frameStep_eq_inl {s t : FrameLoop ω} (h : frameStep L s = .inl t) :
    0 ≤ s.offset ∧ s.offset + 8 ≤ s.ctx.recv.len ∧
      toInt32 (s.offset + 8 + s.header.payloadLength.toNat) ≤ s.ctx.recv.len ∧
      (s.header.payloadType ≠ 0x8001 ∧ t = (s.log (.header s.offset)).advance s.header ∨
        s.header.payloadType = 0x8001 ∧
          processExi L (s.log (.header s.offset)) s.header = .inl t) := by
  by_cases hh : s.offset + 8 ≤ s.ctx.recv.len
  · by_cases hn : s.offset < 0
    · rw [frameStep_of_neg hh hn] at h
      cases h
    · rw [frameStep_of_header hh (by omega), processFrame, toInt32_add_messageLen] at h
      split_ifs at h with hw ht
      · cases h
        exact ⟨by omega, hh, not_lt.mp hw, .inl ⟨ht, rfl⟩⟩
      · exact ⟨by omega, hh, not_lt.mp hw, .inr ⟨not_not.mp ht, h⟩⟩
  · rw [frameStep_of_end (by omega)] at h
    cases h

/-- The events of a round that reads a header: the header, a call of the decoder if an EXI
message is there whole, and at most writes after that. -/
theorem frameStep_events {s : FrameLoop ω} (h : s.offset + 8 ≤ s.ctx.recv.len) :
    ∃ ds ws, eventsAfter (frameStep L s) =
        s.events ++ .header s.offset :: (ds ++ ws) ∧
      (ds = [] ∨ 0 ≤ s.offset ∧
        toInt32 (s.offset + 8 + s.header.payloadLength.toNat) ≤ s.ctx.recv.len ∧
        s.header.payloadType = 0x8001 ∧ ds = [decodeCall s s.header]) ∧
      ∀ e ∈ ws, ∃ msgType response ret, e = .write msgType response ret := by
  by_cases hn : s.offset < 0
  · rw [frameStep_of_neg h hn]
    exact ⟨[], [], rfl, .inl rfl, by simp⟩
  · rw [frameStep_of_header h (by omega), processFrame, toInt32_add_messageLen]
    split_ifs with hw ht
    · exact ⟨[], [], by simp, .inl rfl, by simp⟩
    · exact ⟨[], [], by simp, .inl rfl, by simp⟩
    · obtain ⟨ws, he, hws⟩ := processExi_events (L := L) (s.log (.header s.offset)) s.header
      exact ⟨[decodeCall s s.header], ws, by rw [he]; simp [decodeCall],
        .inr ⟨by omega, not_lt.mp hw, not_not.mp ht, rfl⟩, hws⟩

/-- What holds of every event after a round: of the header and of the payload it reads, and of
any write. -/
theorem frameStep_forall_events {P : Event → Prop} {s : FrameLoop ω} (hold : ∀ e ∈ s.events, P e)
    (hheader : s.offset + 8 ≤ s.ctx.recv.len → P (.header s.offset))
    (hdecode : s.offset + 8 ≤ s.ctx.recv.len → 0 ≤ s.offset →
      toInt32 (s.offset + 8 + s.header.payloadLength.toNat) ≤ s.ctx.recv.len →
      s.header.payloadType = 0x8001 → P (decodeCall s s.header))
    (hwrite : ∀ msgType response ret, P (.write msgType response ret)) :
    ∀ e ∈ eventsAfter (frameStep L s), P e := by
  by_cases ho : s.offset + 8 ≤ s.ctx.recv.len
  · obtain ⟨ds, ws, he, hds, hws⟩ := frameStep_events (L := L) ho
    rw [he]
    intro e hmem
    rcases List.mem_append.mp hmem with hmem | hmem
    · exact hold e hmem
    · rcases List.mem_cons.mp hmem with rfl | hmem
      · exact hheader ho
      rcases List.mem_append.mp hmem with hd | hw
      · rcases hds with rfl | ⟨hn, hwhole, htype, rfl⟩
        · cases hd
        rw [List.mem_singleton.mp hd]
        exact hdecode ho hn hwhole htype
      · obtain ⟨msgType, response, ret, rfl⟩ := hws e hw
        exact hwrite msgType response ret
  · rw [frameStep_of_end (by omega)]
    simpa using hold

/-- A round either at most reads a header, or it decodes an EXI message and responds. -/
theorem frameStep_cases (s : FrameLoop ω) :
    ((∃ es, (es = [] ∨ es = [.header s.offset]) ∧
        eventsAfter (frameStep L s) = s.events ++ es) ∧
      headAfter (frameStep L s) = (s.ctx.toSeccHead, s.world)) ∨
    s.header.payloadType = 0x8001 ∧ frameStep L s =
      respond L (decodeExi L (s.log (.header s.offset)) s.header).2 s.header
        (decodeExi L (s.log (.header s.offset)) s.header).1 := by
  by_cases ho : s.offset + 8 ≤ s.ctx.recv.len
  · by_cases hn : s.offset < 0
    · rw [frameStep_of_neg ho hn]
      exact .inl ⟨⟨_, .inr rfl, rfl⟩, rfl⟩
    · rw [frameStep_of_header ho (by omega), processFrame, processExi]
      split_ifs with hw ht
      · exact .inl ⟨⟨_, .inr rfl, FrameLoop.finish_events _⟩, FrameLoop.finish_head _⟩
      · exact .inl ⟨⟨_, .inr rfl, rfl⟩, rfl⟩
      · exact .inr ⟨not_not.mp ht, rfl⟩
  · rw [frameStep_of_end (by omega)]
    refine .inl ⟨⟨[], .inl rfl, ?_⟩, FrameLoop.finish_head s⟩
    rw [eventsAfter_inr, FrameLoop.finish_events, List.append_nil]

theorem frameStep_exit_cases {s : FrameLoop ω} {r : CallResult ω} (h : frameStep L s = .inr r) :
    r.exit = .done ∨ r.exit = .undefined ∨ r.exit = .writeFailed ∨ r.exit = .buildFailed := by
  have hrespond : ∀ u hdr msgType, respond L u hdr msgType = .inr r →
      r.exit = .writeFailed ∨ r.exit = .buildFailed := by
    intro u hdr msgType hu
    simp only [respond] at hu
    split_ifs at hu <;> cases hu <;> simp [FrameLoop.fail]
  by_cases ho : s.offset + 8 ≤ s.ctx.recv.len
  · by_cases hn : s.offset < 0
    · rw [frameStep_of_neg ho hn] at h
      cases h
      simp [FrameLoop.exitWith]
    · rw [frameStep_of_header ho (by omega), processFrame, processExi] at h
      split_ifs at h
      · cases h
        simp
      · exact .inr (.inr (hrespond _ _ _ h))
  · rw [frameStep_of_end (by omega)] at h
    cases h
    simp

theorem frameStep_exit {s : FrameLoop ω} {r : CallResult ω} (h : frameStep L s = .inr r) :
    r.exit ≠ .running := by
  rcases frameStep_exit_cases h with he | he | he | he <;> simp [he]

theorem frameStep_recv {s t : FrameLoop ω} (h : frameStep L s = .inl t) :
    t.ctx.recv = s.ctx.recv := by
  obtain ⟨-, -, -, ⟨-, rfl⟩ | ⟨-, h⟩⟩ := frameStep_eq_inl h
  · rfl
  · have hc := (respond_eq_inl h).2.1
    rw [hc, decodeExi_recv, FrameLoop.log_ctx]

theorem frameStep_offset {s t : FrameLoop ω} (h : frameStep L s = .inl t) :
    t.offset = toInt32 (s.offset + 8 + s.header.payloadLength.toNat) := by
  obtain ⟨-, -, -, ⟨-, rfl⟩ | ⟨-, h⟩⟩ := frameStep_eq_inl h
  · exact FrameLoop.advance_offset _ _
  · exact (respond_eq_inl h).2.2.1

theorem InLoop.tail {read : List Byte} {ctx : SeccContext} {world : ω} {s t : FrameLoop ω}
    (h : InLoop L read ctx world s) (ht : frameStep L s = .inl t) : InLoop L read ctx world t := by
  obtain ⟨hr, hl, hv⟩ := h
  exact ⟨hr, hl, hv.tail ht⟩

theorem InLoop.invariant {I : FrameLoop ω → Prop} {read : List Byte} {ctx : SeccContext}
    {world : ω} {s : FrameLoop ω} (h : InLoop L read ctx world s)
    (hstart : ∀ hl, I (loopStart read ctx world hl))
    (hstep : ∀ u v, I u → frameStep L u = .inl v → I v) : I s := by
  rcases h with ⟨-, hl, hv⟩
  exact hv.invariant (hstart hl) hstep

theorem InLoop.recv_eq {read : List Byte} {ctx : SeccContext} {world : ω} {s : FrameLoop ω}
    (h : InLoop L read ctx world s) : ∃ hl, s.ctx.recv = ctx.recv.push read hl := by
  apply h.invariant (I := fun u => ∃ hl, u.ctx.recv = ctx.recv.push read hl)
  · intro hl
    exact ⟨hl, rfl⟩
  · rintro u v ⟨hl, hu⟩ huv
    exact ⟨hl, by rw [frameStep_recv huv, hu]⟩

theorem InLoop.recv {read : List Byte} {ctx : SeccContext} {world : ω} {s : FrameLoop ω}
    (h : InLoop L read ctx world s) : s.ctx.recv.pending = ctx.recv.pending ++ read ∧
      s.ctx.recv.len = ctx.recv.len + read.length := by
  rcases h.recv_eq with ⟨hl, hr⟩
  rw [hr]
  exact ⟨RecvBuffer.pending_push _ _ _, rfl⟩

/-- How a call goes: nothing was read, there was no room, or it is in the loop and still there or
leaves with the round. -/
theorem v2gProcessMessage_cases (fuel : ℕ) (read : List Byte) (ctx : SeccContext) (world : ω) :
    (read = [] ∧ v2gProcessMessage L fuel read ctx world = ⟨.readFailed, ctx, world, []⟩) ∨
    (2048 < ctx.recv.len + read.length ∧ v2gProcessMessage L fuel read ctx world =
      ⟨.overflow, { ctx with recv := ctx.recv.clear }, world, []⟩) ∨
    ∃ s, InLoop L read ctx world s ∧
      (v2gProcessMessage L fuel read ctx world = s.exitWith .running ∨
        frameStep L s = .inr (v2gProcessMessage L fuel read ctx world)) := by
  by_cases hr : read = []
  · exact .inl ⟨hr, if_pos hr⟩
  · by_cases hl : ctx.recv.len + read.length ≤ 2048
    · rw [v2gProcessMessage, if_neg hr, dif_pos hl]
      refine .inr (.inr ?_)
      cases hrun : Loop.run (frameStep L) fuel (loopStart read ctx world hl) with
      | inl s => exact ⟨s, ⟨hr, hl, fuel, hrun⟩, .inl rfl⟩
      | inr r =>
        rcases Loop.exists_visited_of_run_inr hrun with ⟨s, hv, hs⟩
        exact ⟨s, ⟨hr, hl, hv⟩, .inr hs⟩
    · rw [v2gProcessMessage, if_neg hr, dif_neg hl]
      exact .inr (.inl ⟨not_le.mp hl, rfl⟩)

theorem InLoop.exists_events {read : List Byte} {ctx : SeccContext} {world : ω}
    {s : FrameLoop ω} (h : InLoop L read ctx world s) :
    ∃ fuel, (v2gProcessMessage L fuel read ctx world).events =
      eventsAfter (frameStep L s) := by
  obtain ⟨hr, hl, m, hm⟩ := h
  refine ⟨m + 1, ?_⟩
  rw [v2gProcessMessage, if_neg hr, dif_pos hl, Loop.run_add_inl hm]
  cases hs : frameStep L s with
  | inl t => rw [Loop.run_succ_inl hs]; rfl
  | inr r => rw [Loop.run_succ_inr hs]; rfl

/-- The events of a call are those of a visited state or of a round from one. -/
theorem v2gProcessMessage_events (fuel : ℕ) (read : List Byte) (ctx : SeccContext) (world : ω) :
    (v2gProcessMessage L fuel read ctx world).events = [] ∨
      ∃ s, InLoop L read ctx world s ∧
        ((v2gProcessMessage L fuel read ctx world).events = s.events ∨
          (v2gProcessMessage L fuel read ctx world).events =
            eventsAfter (frameStep L s)) := by
  rcases v2gProcessMessage_cases (L := L) fuel read ctx world with
    ⟨-, hr⟩ | ⟨-, hr⟩ | ⟨s, hs, hr⟩
  · exact .inl (by rw [hr])
  · exact .inl (by rw [hr])
  · refine .inr ⟨s, hs, ?_⟩
    rcases hr with hr | hr
    · exact .inl (by rw [hr]; rfl)
    · exact .inr (by rw [hr]; rfl)

end rounds

/-- The decoder's static variables and the connection. -/
structure SeccWorld (τ : Type) where
  exi : ExiStatics
  net : τ

def seccMessageLayer {τ : Type} (codec : Codec) (tlsWrite : τ → List Byte → ℤ × τ) :
    MessageLayer (SeccWorld τ) where
  exiDecodeMessage w data len :=
    let decoded := exiDecodeMessage codec w.exi data len
    (decoded.1, { w with exi := decoded.2 })
  seccBuildResponse w ctx reqType out := seccBuildResponse codec w.exi ctx reqType out
  tlsWrite w response :=
    let written := tlsWrite w.net response
    (written.1, { w with net := written.2 })

section secc
variable {τ : Type} {codec : Codec} {tlsWrite : τ → List Byte → ℤ × τ}

variable (codec tlsWrite) in
theorem decodeExi_secc (s : FrameLoop (SeccWorld τ)) (hdr : V2gtpHeader) :
    ((decodeExi (seccMessageLayer codec tlsWrite) s hdr).1,
        (decodeExi (seccMessageLayer codec tlsWrite) s hdr).2.world.exi) =
      exiDecodeMessage codec s.world.exi
        (exiData s.ctx (s.offset + 8) (toInt32 hdr.payloadLength.toNat))
        (toInt32 hdr.payloadLength.toNat) := by
  simp only [decodeExi, seccMessageLayer, Prod.mk.eta]

theorem seccMessageLayer_build (w : SeccWorld τ) (head : SeccHead) (msgType : ExiMsgType)
    (out : ResponseBuffer) :
    (seccMessageLayer codec tlsWrite).seccBuildResponse w head msgType out =
      seccBuildResponse codec w.exi head msgType out := rfl

theorem processExi_of_nonpos {s t : FrameLoop (SeccWorld τ)} {hdr : V2gtpHeader}
    (h : toInt32 hdr.payloadLength.toNat ≤ 0) :
    processExi (seccMessageLayer codec tlsWrite) s hdr ≠ .inl t := by
  intro hi
  have ht : (decodeExi (seccMessageLayer codec tlsWrite) s hdr).1 = .unknown := by
    simp only [decodeExi, seccMessageLayer, exiDecodeMessage_of_nonpos codec _ _ h]
  have hb := (respond_eq_inl hi).1
  rw [ht] at hb
  cases hb

end secc

end EvseIso15118
