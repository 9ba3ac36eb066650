import EvseIso15118.SessionRun

namespace EvseIso15118

open Reassembly

section server
variable {ω : Type} (L : MessageLayer ω)

/-- The fields of the context that a request changes. -/
def requestHead (head : SeccHead) (msgType : ExiMsgType) : SeccHead :=
  if msgType = .supportedAppProtocol then head else { head with state := routedState msgType }

def answer (head : SeccHead) (world : ω) (msgType : ExiMsgType) : Option (List Byte × ω) :=
  let built := L.seccBuildResponse world head msgType responseScratch
  let written := L.tlsWrite world built.2.written
  if built.1 = 0 ∧ ¬ written.1 < 0 then some (built.2.written, written.2) else none

/-- The response to one payload. -/
def serve (st : SeccHead × ω) (payload : List Byte) : Option (List Byte × (SeccHead × ω)) :=
  let decoded := L.exiDecodeMessage st.2 payload payload.length
  let head := requestHead st.1 decoded.1
  (answer L head decoded.2 decoded.1).map fun q => (q.1, (head, q.2))

def serveAll : SeccHead × ω → List (List Byte) → Option (List (List Byte) × (SeccHead × ω))
  | st, [] => some ([], st)
  | st, p :: ps =>
    (serve L st p).bind fun q => (serveAll q.2 ps).map fun qs => (q.1 :: qs.1, qs.2)

theorem serveAll_append (st : SeccHead × ω) (ps qs : List (List Byte)) :
    serveAll L st (ps ++ qs) = (serveAll L st ps).bind fun q =>
      (serveAll L q.2 qs).map fun q' => (q.1 ++ q'.1, q'.2) := by
  induction ps generalizing st with
  | nil => simp [serveAll]
  | cons p ps ih =>
    rw [List.cons_append, serveAll, serveAll]
    cases serve L st p with
    | none => rfl
    | some q =>
      simp only [Option.bind_some, ih]
      cases serveAll L q.2 ps with
      | none => rfl
      | some q' =>
        simp only [Option.bind_some, Option.map_some, List.cons_append]
        cases serveAll L q'.2 qs <;> rfl

end server

def exiPayload (frame : List Byte) : Option (List Byte) :=
  if (headerOf frame).payloadType = 0x8001 then some (frame.drop 8) else none

def exiPayloads (frames : List (List Byte)) : List (List Byte) := frames.filterMap exiPayload

theorem exiPayloads_append (fs gs : List (List Byte)) :
    exiPayloads (fs ++ gs) = exiPayloads fs ++ exiPayloads gs := List.filterMap_append

/-- The payloads handed to `exi_decode_message`. -/
def decodedPayloads (events : List Event) : List (List Byte) :=
  events.filterMap fun
    | .decode _ _ payload => some payload
    | _ => none

/-- The responses handed to `tls_write`. -/
def writtenResponses (events : List Event) : List (List Byte) :=
  events.filterMap fun
    | .write _ response _ => some response
    | _ => none

theorem decodedPayloads_append (es fs : List Event) :
    decodedPayloads (es ++ fs) = decodedPayloads es ++ decodedPayloads fs := List.filterMap_append

theorem writtenResponses_append (es fs : List Event) :
    writtenResponses (es ++ fs) = writtenResponses es ++ writtenResponses fs :=
  List.filterMap_append

/-- What has arrived of the message after the last complete one announces no more than fits
the receive buffer. -/
def TailFits (rest : List Byte) : Prop := ∀ k, v2gtpFormat.total rest = some k → k ≤ 2048

section round
variable {ω : Type} {L : MessageLayer ω} {s : FrameLoop ω}

theorem FrameLoop.finish_pending (hn : 0 ≤ s.offset) :
    s.finish.ctx.recv.pending = s.ctx.recv.pending.drop s.offset.toNat := by
  unfold FrameLoop.finish
  split_ifs with h1 h2
  · simp
  · rw [List.drop_eq_nil_of_le (by simp; omega)]
    rfl
  · have h0 : s.offset = 0 := by omega
    simp [FrameLoop.exitWith, h0]

theorem FrameLoop.finish_log (e : Event) :
    (s.log e).finish = { s.finish with events := s.events ++ [e] } := by
  by_cases h1 : 0 < s.offset ∧ s.offset < s.ctx.recv.len
  · simp [FrameLoop.finish, FrameLoop.log, h1]
  · by_cases h2 : s.ctx.recv.len ≤ s.offset
    · simp [FrameLoop.finish, FrameLoop.log, h1, h2]
    · simp [FrameLoop.finish, FrameLoop.log, FrameLoop.exitWith, h1, h2]

theorem requestHead_eq (ctx : SeccContext) (msgType : ExiMsgType) :
    (handleRequest ctx msgType).toSeccHead = requestHead ctx.toSeccHead msgType := by
  unfold handleRequest requestHead
  split_ifs <;> rfl

theorem header_of_firstFrame (hn : 0 ≤ s.offset) {f r : List Byte}
    (h : v2gtpFormat.firstFrame (s.ctx.recv.pending.drop s.offset.toNat) = some (f, r)) :
    s.header = headerOf f ∧ f.length = 8 + (headerOf f).payloadLength.toNat ∧
      s.offset + f.length ≤ s.ctx.recv.len ∧
      s.ctx.recv.pending.drop (s.offset + f.length).toNat = r ∧
      exiData s.ctx (s.offset + 8) (headerOf f).payloadLength.toNat = f.drop 8 := by
  obtain ⟨hk, hp⟩ := Format.firstFrame_eq_some h
  have hlen := congrArg List.length hp
  simp only [List.length_drop, RecvBuffer.pending_length, List.length_append] at hlen
  change frameTotal _ = _ at hk
  unfold frameTotal at hk
  split_ifs at hk with h8
  rw [Option.some_inj] at hk
  simp only [List.length_drop, RecvBuffer.pending_length] at h8
  have hhdr : headerOf (s.ctx.recv.pending.drop s.offset.toNat) = headerOf f := by
    rw [hp, headerOf_append (by omega)]
  rw [hhdr] at hk
  refine ⟨?_, hk.symm, by omega, ?_, ?_⟩
  · rw [FrameLoop.header_eq (by omega) hn, hhdr]
  · rw [show (s.offset + f.length).toNat = s.offset.toNat + f.length by omega, ← List.drop_drop,
      hp, List.drop_left]
  · rw [exiData, show (s.offset + 8).toNat = s.offset.toNat + 8 by omega, Int.toNat_natCast,
      RecvBuffer.take_drop_bytes _ (by omega), ← List.drop_drop, hp,
      List.drop_append_of_le_length (by omega), List.take_left' (by simp; omega)]

theorem frameStep_incomplete (hn : 0 ≤ s.offset)
    (h : v2gtpFormat.firstFrame (s.ctx.recv.pending.drop s.offset.toNat) = none)
    (ht : TailFits (s.ctx.recv.pending.drop s.offset.toNat)) :
    ∃ es, frameStep L s = .inr { s.finish with events := es } ∧
      decodedPayloads es = decodedPayloads s.events ∧
      writtenResponses es = writtenResponses s.events := by
  by_cases h8 : s.offset + 8 ≤ s.ctx.recv.len
  · have htotal : frameTotal (s.ctx.recv.pending.drop s.offset.toNat) =
        some (8 + s.header.payloadLength.toNat) := by
      rw [frameTotal, if_pos (by simp; omega), FrameLoop.header_eq h8 hn]
    have hk := ht _ htotal
    have hlong : s.ctx.recv.len < s.offset + 8 + s.header.payloadLength.toNat := by
      by_contra hle
      rw [Format.firstFrame, show v2gtpFormat.total _ = _ from htotal] at h
      simp only [List.length_drop, RecvBuffer.pending_length] at h
      rw [if_pos (by omega)] at h
      cases h
    have hmax := s.ctx.recv.len_le
    refine ⟨(s.log (.header s.offset)).events, ?_, ?_, ?_⟩
    · rw [frameStep_of_header h8 hn, processFrame, toInt32_add_messageLen, FrameLoop.log_offset,
        FrameLoop.log_ctx, toInt32_of_small (by omega) (by omega), if_pos hlong,
        FrameLoop.finish_log]
      rfl
    · simp [decodedPayloads]
    · simp [writtenResponses]
  · exact ⟨s.events, by rw [frameStep_of_end (by omega), ← FrameLoop.finish_events], rfl, rfl⟩

theorem frameStep_skipped (hn : 0 ≤ s.offset) {f r : List Byte}
    (h : v2gtpFormat.firstFrame (s.ctx.recv.pending.drop s.offset.toNat) = some (f, r))
    (hp : exiPayload f = none) :
    ∃ t, frameStep L s = .inl t ∧ t.offset = s.offset + f.length ∧ t.ctx = s.ctx ∧
      t.world = s.world ∧ decodedPayloads t.events = decodedPayloads s.events ∧
      writtenResponses t.events = writtenResponses s.events := by
  obtain ⟨hh, hlen, hle, -, -⟩ := header_of_firstFrame hn h
  have hmax := s.ctx.recv.len_le
  have htype : s.header.payloadType ≠ 0x8001 := by
    rw [hh]
    intro he
    simp [exiPayload, he] at hp
  refine ⟨(s.log (.header s.offset)).advance s.header, ?_, ?_, rfl, rfl, ?_, ?_⟩
  · rw [frameStep_of_header (by omega) hn, processFrame, toInt32_add_messageLen,
      FrameLoop.log_offset, FrameLoop.log_ctx, hh, toInt32_of_small (by omega) (by omega),
      if_neg (by omega), if_pos (hh ▸ htype)]
  · rw [FrameLoop.advance_offset, FrameLoop.log_offset, hh,
      toInt32_of_small (by omega) (by omega)]
    omega
  · simp [decodedPayloads]
  · simp [writtenResponses]

/-- `respond` is `answer`, logged. -/
theorem respond_refines (hdr : V2gtpHeader) (msgType : ExiMsgType) :
    match answer L s.ctx.toSeccHead s.world msgType with
    | some q => ∃ ret, respond L s hdr msgType =
        .inl (({ s with world := q.2 }.log (.write msgType q.1 ret)).advance hdr)
    | none => ∃ r, respond L s hdr msgType = .inr r ∧
        (r.exit = .buildFailed ∨ r.exit = .writeFailed) := by
  simp only [answer, respond]
  by_cases hb : (L.seccBuildResponse s.world s.ctx.toSeccHead msgType responseScratch).1 = 0
  · simp only [hb, true_and]
    split_ifs
    · exact ⟨_, rfl, .inr rfl⟩
    · exact ⟨_, rfl⟩
  · rw [if_neg hb, if_neg fun h => hb h.1]
    exact ⟨_, rfl, .inl rfl⟩

theorem frameStep_respond (hn : 0 ≤ s.offset) {f r p : List Byte}
    (h : v2gtpFormat.firstFrame (s.ctx.recv.pending.drop s.offset.toNat) = some (f, r))
    (hp : exiPayload f = some p) :
    ∃ t : FrameLoop ω, frameStep L s =
        respond L t (headerOf f) (L.exiDecodeMessage s.world p p.length).1 ∧
      (t.advance (headerOf f)).offset = s.offset + f.length ∧ t.ctx.recv = s.ctx.recv ∧
      t.ctx.toSeccHead = requestHead s.ctx.toSeccHead (L.exiDecodeMessage s.world p p.length).1 ∧
      t.world = (L.exiDecodeMessage s.world p p.length).2 ∧
      t.events = s.events ++ [.header s.offset, .decode (s.offset + 8) p.length p] := by
  obtain ⟨hh, hlen, hle, -, hdata⟩ := header_of_firstFrame hn h
  have hmax := s.ctx.recv.len_le
  unfold exiPayload at hp
  split_ifs at hp with htype
  rw [Option.some_inj] at hp
  rw [hp] at hdata
  -- the sums of the code do not wrap: the message lies in the buffer
  have hplen : (p.length : ℤ) = (headerOf f).payloadLength.toNat := by
    rw [← hp, List.length_drop]
    omega
  have hsmall : toInt32 (headerOf f).payloadLength.toNat = p.length := by
    rw [hplen, toInt32_of_small (by omega) (by omega)]
  have hto : toInt32 (s.offset + 8 + (headerOf f).payloadLength.toNat) = s.offset + f.length := by
    rw [toInt32_of_small (by omega) (by omega)]
    omega
  set u := s.log (.header s.offset) with hu
  have hcall : decodeCall u (headerOf f) = .decode (s.offset + 8) p.length p := by
    rw [decodeCall, hsmall, hplen, FrameLoop.log_offset, FrameLoop.log_ctx, hdata]
  have hexi : exiData u.ctx (u.offset + 8) p.length = p := by
    rw [hplen]
    exact hdata
  have hmsg : (decodeExi L u (headerOf f)).1 = (L.exiDecodeMessage s.world p p.length).1 := by
    simp only [decodeExi, hsmall, hexi]
    rfl
  refine ⟨(decodeExi L u (headerOf f)).2, ?_, ?_, ?_, ?_, ?_, ?_⟩
  · rw [← hmsg, frameStep_of_header (by omega) hn, processFrame, toInt32_add_messageLen, ← hu, hh,
      FrameLoop.log_offset, hto, FrameLoop.log_ctx, if_neg (by omega), if_neg (by simp [htype]),
      processExi]
  · rw [FrameLoop.advance_offset, decodeExi_offset, hu, FrameLoop.log_offset]
    exact hto
  · exact decodeExi_recv _ _
  · rw [← hmsg, ← requestHead_eq]
    rfl
  · simp only [decodeExi, hsmall, hexi]
    rfl
  · rw [decodeExi_events, hcall, hu, FrameLoop.log_events, List.append_assoc]
    rfl

theorem frameStep_served (hn : 0 ≤ s.offset) {f r p : List Byte}
    (h : v2gtpFormat.firstFrame (s.ctx.recv.pending.drop s.offset.toNat) = some (f, r))
    (hp : exiPayload f = some p) :
    match serve L (s.ctx.toSeccHead, s.world) p with
    | some q => ∃ t, frameStep L s = .inl t ∧ t.offset = s.offset + f.length ∧
        t.ctx.recv = s.ctx.recv ∧ (t.ctx.toSeccHead, t.world) = q.2 ∧
        decodedPayloads t.events = decodedPayloads s.events ++ [p] ∧
        writtenResponses t.events = writtenResponses s.events ++ [q.1]
    | none => ∃ r, frameStep L s = .inr r ∧ (r.exit = .buildFailed ∨ r.exit = .writeFailed) := by
  obtain ⟨t, hstep, hoffset, hrecv, hhead, hworld, hevents⟩ := frameStep_respond (L := L) hn h hp
  have hr := respond_refines (L := L) (s := t) (headerOf f)
    (L.exiDecodeMessage s.world p p.length).1
  rw [← hstep, hworld, hhead] at hr
  rw [serve]
  cases ha : answer L (requestHead s.ctx.toSeccHead (L.exiDecodeMessage s.world p p.length).1)
      (L.exiDecodeMessage s.world p p.length).2 (L.exiDecodeMessage s.world p p.length).1 with
  | none =>
    rw [ha] at hr
    exact hr
  | some q =>
    rw [ha] at hr
    obtain ⟨ret, hr⟩ := hr
    refine ⟨_, hr, hoffset, hrecv, Prod.ext hhead rfl, ?_, ?_⟩
    · rw [FrameLoop.advance_events, FrameLoop.log_events]
      simp [decodedPayloads, hevents]
    · rw [FrameLoop.advance_events, FrameLoop.log_events]
      simp [writtenResponses, hevents]

end round

section call
variable {ω : Type} (L : MessageLayer ω)

/-- The end of a call that had these payloads to serve, from a server and a log: all are
served and `rest` stays in the buffer, or the call ends in a failed response. -/
def Answers (st : SeccHead × ω) (log : List Event) (payloads : List (List Byte))
    (rest : List Byte) (r : CallResult ω) : Prop :=
  match serveAll L st payloads with
  | some q => r.exit = .done ∧ r.ctx.recv.pending = rest ∧ (r.ctx.toSeccHead, r.world) = q.2 ∧
      decodedPayloads r.events = decodedPayloads log ++ payloads ∧
      writtenResponses r.events = writtenResponses log ++ q.1
  | none => r.exit = .buildFailed ∨ r.exit = .writeFailed

variable {L}

/-- The loop serves the complete messages of what is left of the buffer and keeps the rest. -/
theorem run_frames (stream : List Byte) (htail : TailFits (v2gtpFormat.residue stream)) {fuel : ℕ}
    (hfuel : (v2gtpFormat.frames stream).length < fuel) {s : FrameLoop ω} (hn : 0 ≤ s.offset)
    (hs : s.ctx.recv.pending.drop s.offset.toNat = stream) :
    ∃ r, Loop.run (frameStep L) fuel s = .inr r ∧
      Answers L (s.ctx.toSeccHead, s.world) s.events (exiPayloads (v2gtpFormat.frames stream))
        (v2gtpFormat.residue stream) r := by
  induction stream using v2gtpFormat.induction_frames generalizing fuel s with
  | incomplete stream h =>
    -- nothing complete is left: one round leaves the loop
    rw [Format.residue_of_none h] at htail
    subst hs
    obtain ⟨es, hstep, hd, hw⟩ := frameStep_incomplete (L := L) hn h htail
    rw [Format.frames_of_none h, Format.residue_of_none h] at *
    obtain ⟨fuel, rfl⟩ := Nat.exists_eq_succ_of_ne_zero (Nat.ne_of_gt hfuel)
    refine ⟨_, Loop.run_succ_inr hstep fuel, ?_⟩
    exact ⟨FrameLoop.finish_exit s, FrameLoop.finish_pending hn, FrameLoop.finish_head s,
      by simpa [exiPayloads] using hd, by simpa using hw⟩
  | complete stream f rest h ih =>
    subst hs
    rw [Format.residue_of_some h] at htail ⊢
    rw [Format.frames_of_some h, List.length_cons] at hfuel
    rw [Format.frames_of_some h]
    -- one round serves the frame, the rest is the induction hypothesis
    obtain ⟨fuel, rfl⟩ := Nat.exists_eq_succ_of_ne_zero (by omega : fuel ≠ 0)
    obtain ⟨-, -, -, hrest, -⟩ := header_of_firstFrame hn h
    cases hp : exiPayload f with
    | none =>
      obtain ⟨t, hstep, hto, htc, htw, htd, htr⟩ := frameStep_skipped (L := L) hn h hp
      obtain ⟨r, hrun, hr⟩ := @ih htail fuel (by omega) t (by omega)
        (by rw [htc, hto, hrest])
      refine ⟨r, by rw [Loop.run_succ_inl hstep, hrun], ?_⟩
      unfold Answers at hr ⊢
      rw [htc, htw, htd, htr] at hr
      simpa [exiPayloads, hp] using hr
    | some p =>
      have hserved := frameStep_served (L := L) hn h hp
      cases hq : serve L (s.ctx.toSeccHead, s.world) p with
      | none =>
        rw [hq] at hserved
        obtain ⟨r, hstep, hr⟩ := hserved
        refine ⟨r, Loop.run_succ_inr hstep fuel, ?_⟩
        simpa [Answers, exiPayloads, hp, serveAll, hq] using hr
      | some q =>
        rw [hq] at hserved
        obtain ⟨t, hstep, hto, htc, hts, htd, htr⟩ := hserved
        obtain ⟨r, hrun, hr⟩ := @ih htail fuel (by omega) t (by omega)
          (by rw [htc, hto, hrest])
        refine ⟨r, by rw [Loop.run_succ_inl hstep, hrun], ?_⟩
        unfold Answers at hr ⊢
        rw [hts, htd, htr] at hr
        simp only [exiPayloads, List.filterMap_cons, hp, serveAll, hq, Option.bind_some] at hr ⊢
        cases hall : serveAll L q.2
            (List.filterMap exiPayload (v2gtpFormat.frames rest)) with
        | none => simpa [hall] using hr
        | some qs => simpa [hall] using hr

theorem v2gProcessMessage_refines {read : List Byte} {ctx : SeccContext} (world : ω) {fuel : ℕ}
    (hr : read ≠ []) (hl : ctx.recv.len + read.length ≤ 2048)
    (htail : TailFits (v2gtpFormat.residue (ctx.recv.pending ++ read))) (hfuel : 2048 < fuel) :
    Answers L (ctx.toSeccHead, world) []
      (exiPayloads (v2gtpFormat.frames (ctx.recv.pending ++ read)))
      (v2gtpFormat.residue (ctx.recv.pending ++ read))
      (v2gProcessMessage L fuel read ctx world) := by
  have hcount := Format.length_frames_le (F := v2gtpFormat) (ctx.recv.pending ++ read)
  rw [List.length_append, RecvBuffer.pending_length] at hcount
  obtain ⟨r, hrun, hans⟩ := run_frames (L := L) _ htail
    (lt_of_le_of_lt (hcount.trans hl) hfuel) (s := loopStart read ctx world hl) (le_refl 0)
    (by simp [loopStart])
  rw [v2gProcessMessage, if_neg hr, dif_pos hl, hrun]
  exact hans

end call

section session
variable {ω : Type} {L : MessageLayer ω} {fuel : ℕ}

/-- However much of `rest` has come, no message announces more than fits. -/
def StreamFits (pending rest : List Byte) : Prop :=
  ∀ x, x <+: rest → TailFits (v2gtpFormat.residue (pending ++ x))

theorem StreamFits.head {pending chunk rest : List Byte} (h : StreamFits pending (chunk ++ rest)) :
    TailFits (v2gtpFormat.residue (pending ++ chunk)) := h chunk (List.prefix_append _ _)

theorem StreamFits.tail {pending chunk rest : List Byte} (h : StreamFits pending (chunk ++ rest)) :
    StreamFits (v2gtpFormat.residue (pending ++ chunk)) rest := by
  intro x hx
  rw [← (Format.split_append _ _).2, List.append_assoc]
  exact h (chunk ++ x) ((List.prefix_append_right_inj chunk).mpr hx)

theorem v2gProcessMessage_serves {read : List Byte} {ctx : SeccContext} {world : ω}
    (hfuel : 2048 < fuel) (hr : read ≠ [])
    (htail : TailFits (v2gtpFormat.residue (ctx.recv.pending ++ read)))
    (ho : (v2gProcessMessage L fuel read ctx world).exit ≠ .overflow)
    (hb : (v2gProcessMessage L fuel read ctx world).exit ≠ .buildFailed)
    (hw : (v2gProcessMessage L fuel read ctx world).exit ≠ .writeFailed) :
    ∃ q, serveAll L (ctx.toSeccHead, world)
        (exiPayloads (v2gtpFormat.frames (ctx.recv.pending ++ read))) = some q ∧
      Answers L (ctx.toSeccHead, world) []
        (exiPayloads (v2gtpFormat.frames (ctx.recv.pending ++ read)))
        (v2gtpFormat.residue (ctx.recv.pending ++ read))
        (v2gProcessMessage L fuel read ctx world) := by
  have hl : ctx.recv.len + read.length ≤ 2048 := by
    by_contra hl
    rw [v2gProcessMessage, if_neg hr, dif_neg hl] at ho
    exact ho rfl
  have hans := v2gProcessMessage_refines (L := L) world hr hl htail hfuel
  cases hq : serveAll L (ctx.toSeccHead, world)
      (exiPayloads (v2gtpFormat.frames (ctx.recv.pending ++ read))) with
  | some q => exact ⟨q, rfl, hans⟩
  | none =>
    unfold Answers at hans
    rw [hq] at hans
    rcases hans with h | h
    · exact absurd h hb
    · exact absurd h hw

/-- A session refines the server: its calls together serve the payloads of the frames in all
that was read, and after each the buffer holds what is not complete. -/
theorem sessionCalls_refines (hfuel : 2048 < fuel) {cs : List (List Byte)} {ctx : SeccContext}
    {world : ω} (hcs : ∀ c ∈ cs, c ≠ []) (hfirst : v2gtpFormat.firstFrame ctx.recv.pending = none)
    (hfits : StreamFits ctx.recv.pending cs.flatten)
    (hok : ∀ r ∈ sessionCalls L fuel cs ctx world,
      r.exit ≠ .overflow ∧ r.exit ≠ .buildFailed ∧ r.exit ≠ .writeFailed) :
    ∃ q, serveAll L (ctx.toSeccHead, world)
        (exiPayloads (v2gtpFormat.frames (ctx.recv.pending ++ cs.flatten))) = some q ∧
      (sessionCalls L fuel cs ctx world).length = cs.length ∧
      (∀ r ∈ sessionCalls L fuel cs ctx world, r.exit = .done) ∧
      decodedPayloads (sessionEvents (sessionCalls L fuel cs ctx world)) =
        exiPayloads (v2gtpFormat.frames (ctx.recv.pending ++ cs.flatten)) ∧
      writtenResponses (sessionEvents (sessionCalls L fuel cs ctx world)) = q.1 ∧
      sessionEnd (ctx.toSeccHead, world) (sessionCalls L fuel cs ctx world) = q.2 ∧
      ∀ i r, (sessionCalls L fuel cs ctx world)[i]? = some r → r.ctx.recv.pending =
        v2gtpFormat.residue (ctx.recv.pending ++ (cs.take (i + 1)).flatten) := by
  induction cs generalizing ctx world with
  | nil =>
    refine ⟨([], (ctx.toSeccHead, world)), ?_⟩
    simp [sessionCalls, Format.frames_of_none hfirst, exiPayloads, serveAll, sessionEvents,
      decodedPayloads, writtenResponses, sessionEnd]
  | cons c cs ih =>
    rw [List.flatten_cons] at hfits
    obtain ⟨ho, hb, hw⟩ := hok (v2gProcessMessage L fuel c ctx world) (by simp [sessionCalls])
    obtain ⟨q, hq, hans⟩ := v2gProcessMessage_serves hfuel (hcs c (by simp)) hfits.head ho hb hw
    unfold Answers at hans
    rw [hq] at hans
    obtain ⟨hexit, hpend, hst, hdec, hwri⟩ := hans
    set r := v2gProcessMessage L fuel c ctx world with hr
    have hcalls : sessionCalls L fuel (c :: cs) ctx world =
        r :: sessionCalls L fuel cs r.ctx r.world := by
      rw [sessionCalls, ← hr, if_pos hexit]
    rw [hcalls] at hok ⊢
    obtain ⟨q', hq', hlen, hdone, hdec', hwri', hend, hbuf⟩ :=
      @ih r.ctx r.world (fun d hd => hcs d (by simp [hd]))
      (by rw [hpend]; exact Format.firstFrame_residue _) (by rw [hpend]; exact hfits.tail)
      (fun s hs => hok s (by simp [hs]))
    -- the frames of the stream are those of this read and those of the rest
    have hframes : v2gtpFormat.frames (ctx.recv.pending ++ (c :: cs).flatten) =
        v2gtpFormat.frames (ctx.recv.pending ++ c) ++
          v2gtpFormat.frames (r.ctx.recv.pending ++ cs.flatten) := by
      rw [(Format.split_flatten_cons _ _ _).1, hpend]
    refine ⟨(q.1 ++ q'.1, q'.2), ?_, ?_, ?_, ?_, ?_, ?_, ?_⟩
    · rw [hframes, exiPayloads_append, serveAll_append, hq, Option.bind_some, ← hst, hq']
      rfl
    · rw [List.length_cons, hlen, List.length_cons]
    · intro s hs
      rcases List.mem_cons.mp hs with rfl | hs
      · exact hexit
      · exact hdone s hs
    · rw [hframes, sessionEvents, List.flatMap_cons, decodedPayloads_append, hdec,
        exiPayloads_append]
      exact congrArg _ hdec'
    · rw [sessionEvents, List.flatMap_cons, writtenResponses_append, hwri]
      exact congrArg _ hwri'
    · exact hend
    · intro i s hs
      cases i with
      | zero =>
        rw [List.getElem?_cons_zero, Option.some_inj] at hs
        simpa [← hs] using hpend
      | succ i =>
        rw [List.getElem?_cons_succ] at hs
        rw [hbuf i s hs, hpend, List.take_succ_cons, (Format.split_flatten_cons _ _ _).2]

end session

end EvseIso15118
