import EvseIso15118.FrameStream

namespace EvseIso15118

section rounds
variable {ω : Type}

/-- From `st` to `st'` the payload is decoded, handled and answered with these bytes. -/
structure Served (L : MessageLayer ω) (st : SeccHead × ω) (payload : List Byte) (len : ℤ)
    (msgType : ExiMsgType) (response : List Byte) (ret : ℤ) (st' : SeccHead × ω) : Prop where
  type : (L.exiDecodeMessage st.2 payload len).1 = msgType
  head : st'.1 = requestHead st.1 msgType
  built : (L.seccBuildResponse (L.exiDecodeMessage st.2 payload len).2 st'.1 msgType
    responseScratch).1 = 0
  bytes : (L.seccBuildResponse (L.exiDecodeMessage st.2 payload len).2 st'.1 msgType
    responseScratch).2.written = response
  written : L.tlsWrite (L.exiDecodeMessage st.2 payload len).2 response = (ret, st'.2)
  accepted : 0 ≤ ret

/-- Rounds that went on, their events and where they lead. -/
inductive Rounds (L : MessageLayer ω) (st : SeccHead × ω) : List Event → SeccHead × ω → Prop
  | start : Rounds L st [] st
  | header {es : List Event} {st' : SeccHead × ω} (h : Rounds L st es st') (offset : ℤ) :
      Rounds L st (es ++ [.header offset]) st'
  | served {es : List Event} {st' st'' : SeccHead × ω} (h : Rounds L st es st')
      (offset start len : ℤ) {payload : List Byte} {msgType : ExiMsgType} {response : List Byte}
      {ret : ℤ} (hserved : Served L st' payload len msgType response ret st'') :
      Rounds L st
        (es ++ [.header offset, .decode start len payload, .write msgType response ret]) st''

variable {L : MessageLayer ω} {st : SeccHead × ω}

theorem respond_written {s t : FrameLoop ω} {hdr : V2gtpHeader} {msgType : ExiMsgType}
    (h : respond L s hdr msgType = .inl t) :
    ∃ response ret,
      (L.seccBuildResponse s.world s.ctx.toSeccHead msgType responseScratch).1 = 0 ∧
      (L.seccBuildResponse s.world s.ctx.toSeccHead msgType responseScratch).2.written =
        response ∧
      L.tlsWrite s.world response = (ret, t.world) ∧ 0 ≤ ret ∧ t.ctx = s.ctx ∧
      t.events = s.events ++ [.write msgType response ret] := by
  simp only [respond] at h
  split_ifs at h with hb hw
  cases h
  exact ⟨_, _, hb, rfl, rfl, not_lt.mp hw, rfl, rfl⟩

theorem Rounds.next {s t : FrameLoop ω} (h : Rounds L st s.events (s.ctx.toSeccHead, s.world))
    (ht : frameStep L s = .inl t) : Rounds L st t.events (t.ctx.toSeccHead, t.world) := by
  rcases frameStep_eq_inl ht with ⟨_, _, _, ⟨_, rfl⟩ | ⟨_, hexi⟩⟩
  · exact h.header s.offset
  · rcases respond_written hexi with
      ⟨response, ret, hb, hresponse, hwritten, hret, hctx, hevents⟩
    rw [decodeExi_events, FrameLoop.log_events, List.append_assoc, List.append_assoc] at hevents
    rw [hevents]
    apply h.served s.offset
    constructor
    · rfl
    · rw [hctx]
      exact requestHead_eq _ _
    · rw [hctx]
      exact hb
    · rw [hctx]
      exact hresponse
    · exact hwritten
    · exact hret

theorem Rounds.last {s : FrameLoop ω} {r : CallResult ω}
    (h : Rounds L st s.events (s.ctx.toSeccHead, s.world)) (hr : frameStep L s = .inr r)
    (hdone : r.exit = .done) : Rounds L st r.events (r.ctx.toSeccHead, r.world) := by
  by_cases ho : s.offset + 8 ≤ s.ctx.recv.len
  · by_cases hn : s.offset < 0
    · rw [frameStep_of_neg ho hn] at hr
      cases hr
      cases hdone
    · rw [frameStep_of_header ho (by omega), processFrame, processExi] at hr
      split_ifs at hr
      · cases hr
        rw [FrameLoop.finish_events, FrameLoop.finish_head]
        exact h.header s.offset
      · simp only [respond] at hr
        split_ifs at hr <;> cases hr <;> cases hdone
  · rw [frameStep_of_end (by omega)] at hr
    cases hr
    rw [FrameLoop.finish_events, FrameLoop.finish_head]
    exact h

theorem v2gProcessMessage_rounds {fuel : ℕ} {read : List Byte} {ctx : SeccContext} {world : ω}
    (h : (v2gProcessMessage L fuel read ctx world).exit = .done) :
    Rounds L (ctx.toSeccHead, world) (v2gProcessMessage L fuel read ctx world).events
      ((v2gProcessMessage L fuel read ctx world).ctx.toSeccHead,
        (v2gProcessMessage L fuel read ctx world).world) := by
  rcases v2gProcessMessage_cases (L := L) fuel read ctx world with
    ⟨-, hr⟩ | ⟨-, hr⟩ | ⟨s, hs, hr | hr⟩
  · rw [hr] at h
    cases h
  · rw [hr] at h
    cases h
  · rw [hr] at h
    cases h
  · have hvisited : Rounds L (ctx.toSeccHead, world) s.events (s.ctx.toSeccHead, s.world) := by
      apply hs.invariant (I := fun u => Rounds L (ctx.toSeccHead, world) u.events
        (u.ctx.toSeccHead, u.world))
      · intro hl
        exact Rounds.start
      · intro u v hu huv
        exact hu.next huv
    exact hvisited.last hr h

theorem Rounds.trans {st' st'' : SeccHead × ω} {es fs : List Event} (h : Rounds L st es st')
    (h' : Rounds L st' fs st'') : Rounds L st (es ++ fs) st'' := by
  induction h' with
  | start => rwa [List.append_nil]
  | header _ offset ih =>
    rw [← List.append_assoc]
    exact ih.header offset
  | served _ offset start len hserved ih =>
    rw [← List.append_assoc]
    exact ih.served offset start len hserved

/-- A session whose calls all return 0 is one sequence of rounds. -/
theorem sessionCalls_rounds {fuel : ℕ} {reads : List (List Byte)} {ctx : SeccContext} {world : ω}
    (hdone : ∀ r ∈ sessionCalls L fuel reads ctx world, r.exit = .done) :
    Rounds L (ctx.toSeccHead, world) (sessionEvents (sessionCalls L fuel reads ctx world))
      (sessionEnd (ctx.toSeccHead, world) (sessionCalls L fuel reads ctx world)) := by
  induction reads generalizing ctx world with
  | nil => exact Rounds.start
  | cons c cs ih =>
    rw [sessionCalls] at hdone ⊢
    have hfirst := hdone _ List.mem_cons_self
    rw [if_pos hfirst] at hdone ⊢
    exact (v2gProcessMessage_rounds hfirst).trans
      (ih fun r hr => hdone r (List.mem_cons_of_mem _ hr))

end rounds

def requestType (codec : Codec) (payload : List Byte) (len : ℤ) : ExiMsgType :=
  (exiDecodeMessage codec {} payload len).1

theorem exiDecodeMessage_type (codec : Codec) (st : ExiStatics) (payload : List Byte) (len : ℤ) :
    (exiDecodeMessage codec st payload len).1 = requestType codec payload len := by
  unfold requestType exiDecodeMessage
  dsimp only
  split_ifs <;> rfl

/-- The payload was dispatched and its response went out. -/
def GetsAnswer (events : List Event) (payload : List Byte) (len : ℤ) : Prop :=
  ∃ pre start msgType response ret post,
    events = pre ++ .decode start len payload :: .write msgType response ret :: post ∧ 0 ≤ ret

theorem GetsAnswer.append {es : List Event} {payload : List Byte} {len : ℤ}
    (h : GetsAnswer es payload len) (fs : List Event) : GetsAnswer (es ++ fs) payload len := by
  rcases h with ⟨pre, start, msgType, response, ret, post, rfl, hret⟩
  refine ⟨pre, start, msgType, response, ret, post ++ fs, ?_, hret⟩
  rw [List.append_assoc]
  rfl

def dispatchedTypes (codec : Codec) (events : List Event) : List ExiMsgType :=
  events.filterMap fun
    | .decode _ len payload => some (requestType codec payload len)
    | _ => none

theorem GetsAnswer.dispatched {es : List Event} {payload : List Byte} {len : ℤ}
    (h : GetsAnswer es payload len) (codec : Codec) :
    requestType codec payload len ∈ dispatchedTypes codec es := by
  rcases h with ⟨pre, start, msgType, response, ret, post, rfl, _⟩
  exact List.mem_filterMap.mpr ⟨.decode start len payload, by simp, rfl⟩

/-- 01 is a PowerDeliveryReq, 02 a ServiceDetailReq and 03 a SessionStopReq; the responses are
81, 82 and 83. -/
def byteCodec : Codec where
  decodeAppHandExiDocument _ := (-1, {})
  decodeIso1ExiDocument data :=
    let head := SeccContext.initial.toSeccHead
    match data with
    | [0x01] => (0, { v2gMessageIsUsed := true, body := { powerDeliveryReq := true } })
    | [0x02] => (0, { v2gMessageIsUsed := true, body := { serviceDetailReq := true } })
    | [0x03] => (0, { v2gMessageIsUsed := true, body := { sessionStopReq := true } })
    | [0x81] => (0, powerDeliveryResDoc head)
    | [0x82] => (0, serviceDetailResDoc head)
    | [0x83] => (0, sessionStopResDoc head)
    | _ => (-1, {})
  encodeAppHandExiDocument stream _ := (-1, stream)
  encodeIso1ExiDocument stream doc :=
    let byte : Byte :=
      if doc.body.powerDeliveryRes.isSome then 0x81
      else if doc.body.serviceDetailRes.isSome then 0x82 else 0x83
    (0, { stream with data := overwrite stream.data 0 [byte], pos := 1 })
  flush stream := (0, stream)

def byteFrame (request : Byte) : List Byte :=
  [0x01, 0xFE, 0x80, 0x01, 0x00, 0x00, 0x00, 0x01, request]

def byteLayer : MessageLayer (SeccWorld Unit) :=
  seccMessageLayer byteCodec fun net response => (response.length, net)

end EvseIso15118
