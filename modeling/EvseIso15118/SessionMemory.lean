import EvseIso15118.CallRounds
import EvseIso15118.ProtocolNegotiation

namespace EvseIso15118

section request
variable (codec : Codec)

theorem exiDecodeMessage_schema (st st' : ExiStatics) (data : List Byte) (len : ℤ)
    (h : (exiDecodeMessage codec st data len).1 = .supportedAppProtocol) :
    (exiDecodeMessage codec st data len).2 = (exiDecodeMessage codec st' data len).2 := by
  unfold exiDecodeMessage at h ⊢
  dsimp only at h ⊢
  split_ifs with hlen happ hiso
  · rw [if_pos hlen] at h
    cases h
  · rfl
  · rw [if_neg hlen, if_neg happ, if_pos hiso] at h
    cases h
  · rw [if_neg hlen, if_neg happ, if_neg hiso] at h
    exact absurd h (classifyMessage_ne_supportedAppProtocol _)

theorem seccBuildResponse_congr {st st' : ExiStatics} {head head' : SeccHead}
    {reqType : ExiMsgType} (hid : head.sessionId = head'.sessionId)
    (hst : reqType = .supportedAppProtocol → st = st') (out : ResponseBuffer) :
    seccBuildResponse codec st head reqType out =
      seccBuildResponse codec st' head' reqType out := by
  have hdoc : responseDocument head = responseDocument head' := by
    funext body
    rw [responseDocument, responseDocument, hid]
  cases reqType with
  | supportedAppProtocol => rw [hst rfl]; rfl
  | unknown => rfl
  | sessionSetup =>
    simp only [seccBuildResponse, buildSessionSetupRes, sessionSetupResDoc, hdoc]
  | serviceDiscovery =>
    simp only [seccBuildResponse, buildServiceDiscoveryRes, serviceDiscoveryResDoc, hdoc]
  | serviceDetail => simp only [seccBuildResponse, buildServiceDetailRes, serviceDetailResDoc, hdoc]
  | paymentServiceSelection =>
    simp only [seccBuildResponse, buildPaymentServiceSelectionRes, paymentServiceSelectionResDoc,
      hdoc]
  | authorization => simp only [seccBuildResponse, buildAuthorizationRes, authorizationResDoc, hdoc]
  | chargeParameterDiscovery =>
    simp only [seccBuildResponse, buildChargeParameterDiscoveryRes, chargeParameterDiscoveryResDoc,
      hdoc]
  | cableCheck => simp only [seccBuildResponse, buildCableCheckRes, cableCheckResDoc, hdoc]
  | preCharge => simp only [seccBuildResponse, buildPrechargeRes, preChargeResDoc, hdoc]
  | powerDelivery => simp only [seccBuildResponse, buildPowerDeliveryRes, powerDeliveryResDoc, hdoc]
  | currentDemand => simp only [seccBuildResponse, buildCurrentDemandRes, currentDemandResDoc, hdoc]
  | weldingDetection =>
    simp only [seccBuildResponse, buildWeldingDetectionRes, weldingDetectionResDoc, hdoc]
  | sessionStop => simp only [seccBuildResponse, buildSessionStopRes, sessionStopResDoc, hdoc]

end request

section alike
variable {τ : Type}

/-- Equal but for the fields of the context and the variables of the decoder that nothing written
depends on. -/
structure FrameLoop.Alike (s t : FrameLoop (SeccWorld τ)) : Prop where
  offset : s.offset = t.offset
  recv : s.ctx.recv = t.ctx.recv
  sessionId : s.ctx.sessionId = t.ctx.sessionId
  net : s.world.net = t.world.net
  events : s.events = t.events

structure CallResult.Alike (r r' : CallResult (SeccWorld τ)) : Prop where
  exit : r.exit = r'.exit
  recv : r.ctx.recv = r'.ctx.recv
  sessionId : r.ctx.sessionId = r'.ctx.sessionId
  net : r.world.net = r'.world.net
  events : r.events = r'.events

variable {s t : FrameLoop (SeccWorld τ)}

theorem FrameLoop.Alike.log (h : s.Alike t) (e : Event) : (s.log e).Alike (t.log e) :=
  ⟨h.offset, h.recv, h.sessionId, h.net, congrArg (· ++ [e]) h.events⟩

theorem FrameLoop.Alike.advance (h : s.Alike t) (hdr : V2gtpHeader) :
    (s.advance hdr).Alike (t.advance hdr) :=
  ⟨congrArg (fun o => toInt32 (o + messageLen hdr)) h.offset, h.recv, h.sessionId, h.net, h.events⟩

theorem FrameLoop.Alike.exitWith (h : s.Alike t) (exit : Exit) :
    (s.exitWith exit).Alike (t.exitWith exit) :=
  ⟨rfl, h.recv, h.sessionId, h.net, h.events⟩

theorem FrameLoop.Alike.fail (h : s.Alike t) (exit : Exit) : (s.fail exit).Alike (t.fail exit) :=
  ⟨rfl, congrArg RecvBuffer.clear h.recv, h.sessionId, h.net, h.events⟩

theorem FrameLoop.Alike.finish (h : s.Alike t) : s.finish.Alike t.finish := by
  unfold FrameLoop.finish
  rw [h.offset, h.recv]
  split_ifs
  · exact ⟨rfl, rfl, h.sessionId, h.net, h.events⟩
  · exact ⟨rfl, rfl, h.sessionId, h.net, h.events⟩
  · exact h.exitWith .done

def AlikeAfter : FrameLoop (SeccWorld τ) ⊕ CallResult (SeccWorld τ) →
    FrameLoop (SeccWorld τ) ⊕ CallResult (SeccWorld τ) → Prop :=
  Sum.LiftRel FrameLoop.Alike CallResult.Alike

variable (codec : Codec) (tlsWrite : τ → List Byte → ℤ × τ)

theorem respond_alike (h : s.Alike t) (hdr : V2gtpHeader) {msgType : ExiMsgType}
    (hexi : msgType = .supportedAppProtocol → s.world.exi = t.world.exi) :
    AlikeAfter (respond (seccMessageLayer codec tlsWrite) s hdr msgType)
      (respond (seccMessageLayer codec tlsWrite) t hdr msgType) := by
  unfold respond
  dsimp only
  rw [seccMessageLayer_build, seccMessageLayer_build,
    seccBuildResponse_congr codec h.sessionId hexi]
  set built := seccBuildResponse codec t.world.exi t.ctx.toSeccHead msgType responseScratch
  -- the connection does the same with the same bytes
  have hwritten : (seccMessageLayer codec tlsWrite).tlsWrite s.world built.2.written =
      (((seccMessageLayer codec tlsWrite).tlsWrite t.world built.2.written).1,
        { s.world with net :=
          ((seccMessageLayer codec tlsWrite).tlsWrite t.world built.2.written).2.net }) := by
    simp only [seccMessageLayer, h.net]
  rw [hwritten]
  set written := (seccMessageLayer codec tlsWrite).tlsWrite t.world built.2.written
  have hnext : FrameLoop.Alike
      { s with world := { s.world with net := written.2.net } } { t with world := written.2 } :=
    ⟨h.offset, h.recv, h.sessionId, rfl, h.events⟩
  split_ifs
  · exact Sum.LiftRel.inr ((hnext.log _).fail .writeFailed)
  · exact Sum.LiftRel.inl ((hnext.log _).advance hdr)
  · exact Sum.LiftRel.inr (h.fail .buildFailed)

theorem decodeCall_alike (h : s.Alike t) (hdr : V2gtpHeader) :
    decodeCall s hdr = decodeCall t hdr := by
  unfold decodeCall exiData
  rw [h.offset, h.recv]

theorem decodeExi_alike (h : s.Alike t) (hdr : V2gtpHeader) :
    (decodeExi (seccMessageLayer codec tlsWrite) s hdr).1 =
        (decodeExi (seccMessageLayer codec tlsWrite) t hdr).1 ∧
      (decodeExi (seccMessageLayer codec tlsWrite) s hdr).2.Alike
        (decodeExi (seccMessageLayer codec tlsWrite) t hdr).2 ∧
      ((decodeExi (seccMessageLayer codec tlsWrite) s hdr).1 =
          .supportedAppProtocol →
        (decodeExi (seccMessageLayer codec tlsWrite) s hdr).2.world.exi =
          (decodeExi (seccMessageLayer codec tlsWrite) t hdr).2.world.exi) := by
  have hs := decodeExi_secc codec tlsWrite s hdr
  have ht := decodeExi_secc codec tlsWrite t hdr
  rw [Prod.ext_iff] at hs ht
  dsimp only at hs ht
  have hdata : exiData s.ctx (s.offset + 8) (toInt32 hdr.payloadLength.toNat) =
      exiData t.ctx (t.offset + 8) (toInt32 hdr.payloadLength.toNat) := by
    unfold exiData
    rw [h.offset, h.recv]
  rw [hdata] at hs
  refine ⟨?_, ⟨h.offset, ?_, ?_, h.net, ?_⟩, ?_⟩
  · rw [hs.1, ht.1]
    rw [exiDecodeMessage_type, exiDecodeMessage_type]
  · rw [decodeExi_recv, decodeExi_recv, h.recv]
  · rw [decodeExi_sessionId, decodeExi_sessionId, h.sessionId]
  · rw [decodeExi_events, decodeExi_events, h.events, decodeCall_alike h]
  · intro htype
    rw [hs.1] at htype
    rw [hs.2, ht.2]
    exact exiDecodeMessage_schema codec _ _ _ _ htype

theorem processFrame_alike (h : s.Alike t) (hdr : V2gtpHeader) :
    AlikeAfter (processFrame (seccMessageLayer codec tlsWrite) s hdr)
      (processFrame (seccMessageLayer codec tlsWrite) t hdr) := by
  rcases decodeExi_alike codec tlsWrite h hdr with ⟨htype, hnext, hexi⟩
  have hanswer := respond_alike codec tlsWrite hnext hdr hexi
  unfold processFrame processExi
  rw [h.offset, h.recv] at *
  split_ifs
  · exact Sum.LiftRel.inr h.finish
  · exact Sum.LiftRel.inl (h.advance hdr)
  · rw [htype] at hanswer ⊢
    exact hanswer

theorem frameStep_alike (h : s.Alike t) :
    AlikeAfter (frameStep (seccMessageLayer codec tlsWrite) s)
      (frameStep (seccMessageLayer codec tlsWrite) t) := by
  have hlogged := h.log (.header s.offset)
  have hheader : s.header = t.header := by
    unfold FrameLoop.header
    rw [h.offset, h.recv]
  by_cases hle : s.offset + 8 ≤ s.ctx.recv.len
  · have hle' : t.offset + 8 ≤ t.ctx.recv.len := by rwa [← h.offset, ← h.recv]
    by_cases hneg : s.offset < 0
    · rw [frameStep_of_neg hle hneg, frameStep_of_neg hle' (h.offset ▸ hneg), ← h.offset]
      exact Sum.LiftRel.inr (hlogged.exitWith .undefined)
    · rw [frameStep_of_header hle (not_lt.mp hneg),
        frameStep_of_header hle' (h.offset ▸ not_lt.mp hneg), ← hheader, ← h.offset]
      exact processFrame_alike codec tlsWrite hlogged s.header
  · have hle' : ¬t.offset + 8 ≤ t.ctx.recv.len := by rwa [← h.offset, ← h.recv]
    rw [frameStep_of_end (not_le.mp hle), frameStep_of_end (not_le.mp hle')]
    exact Sum.LiftRel.inr h.finish

theorem v2gProcessMessage_alike (fuel : ℕ) (read : List Byte) {ctx ctx' : SeccContext}
    {world world' : SeccWorld τ} (hrecv : ctx.recv = ctx'.recv)
    (hid : ctx.sessionId = ctx'.sessionId) (hnet : world.net = world'.net) :
    (v2gProcessMessage (seccMessageLayer codec tlsWrite) fuel read ctx world).Alike
      (v2gProcessMessage (seccMessageLayer codec tlsWrite) fuel read ctx' world') := by
  unfold v2gProcessMessage
  by_cases hread : read = []
  · rw [if_pos hread, if_pos hread]
    exact ⟨rfl, hrecv, hid, hnet, rfl⟩
  · rw [if_neg hread, if_neg hread]
    by_cases hroom : ctx.recv.len + read.length ≤ 2048
    · have hroom' : ctx'.recv.len + read.length ≤ 2048 := by rwa [← hrecv]
      rw [dif_pos hroom, dif_pos hroom']
      have hstart : (loopStart read ctx world hroom).Alike (loopStart read ctx' world' hroom') := by
        refine ⟨rfl, ?_, hid, hnet, rfl⟩
        unfold loopStart
        dsimp only
        congr 1
      have hrun := Loop.run_rel (fun _ _ => frameStep_alike codec tlsWrite) fuel hstart
      cases hs : Loop.run (frameStep (seccMessageLayer codec tlsWrite)) fuel
          (loopStart read ctx world hroom) with
      | inl u =>
        cases ht : Loop.run (frameStep (seccMessageLayer codec tlsWrite)) fuel
            (loopStart read ctx' world' hroom') with
        | inl v =>
          rw [hs, ht] at hrun
          exact (Sum.liftRel_inl_inl.mp hrun).exitWith .running
        | inr r' =>
          rw [hs, ht] at hrun
          cases hrun
      | inr r =>
        cases ht : Loop.run (frameStep (seccMessageLayer codec tlsWrite)) fuel
            (loopStart read ctx' world' hroom') with
        | inl v =>
          rw [hs, ht] at hrun
          cases hrun
        | inr r' =>
          rw [hs, ht] at hrun
          exact Sum.liftRel_inr_inr.mp hrun
    · have hroom' : ¬ctx'.recv.len + read.length ≤ 2048 := by rwa [← hrecv]
      rw [dif_neg hroom, dif_neg hroom']
      exact ⟨rfl, congrArg RecvBuffer.clear hrecv, hid, hnet, rfl⟩

theorem sessionCalls_alike (fuel : ℕ) (reads : List (List Byte)) {ctx ctx' : SeccContext}
    {world world' : SeccWorld τ} (hrecv : ctx.recv = ctx'.recv)
    (hid : ctx.sessionId = ctx'.sessionId) (hnet : world.net = world'.net) :
    List.Forall₂ CallResult.Alike
      (sessionCalls (seccMessageLayer codec tlsWrite) fuel reads ctx world)
      (sessionCalls (seccMessageLayer codec tlsWrite) fuel reads ctx' world') := by
  induction reads generalizing ctx ctx' world world' with
  | nil => exact List.Forall₂.nil
  | cons read reads ih =>
    have hcall := v2gProcessMessage_alike codec tlsWrite fuel read hrecv hid hnet
    rw [sessionCalls, sessionCalls, hcall.exit]
    apply List.Forall₂.cons hcall
    split_ifs
    · exact ih hcall.recv hcall.sessionId hcall.net
    · exact List.Forall₂.nil

end alike

/-- What a session decodes and writes, and how each of its calls ends, is a function of what it
reads: state, identity of the EV and transport of the session, and what the decoder kept of
sessions before, do not enter. -/
theorem session_forgets {τ : Type} (codec : Codec) (tlsWrite : τ → List Byte → ℤ × τ) (fuel : ℕ)
    (reads : List (List Byte)) (recv : RecvBuffer) (sessionId : UInt32) (net : τ)
    (head head' : SeccHead) (exi exi' : ExiStatics) :
    (sessionCalls (seccMessageLayer codec tlsWrite) fuel reads
        ⟨{ head with sessionId := sessionId }, recv⟩ ⟨exi, net⟩).map
        (fun r => (r.exit, r.events, r.world.net)) =
      (sessionCalls (seccMessageLayer codec tlsWrite) fuel reads
        ⟨{ head' with sessionId := sessionId }, recv⟩ ⟨exi', net⟩).map
        (fun r => (r.exit, r.events, r.world.net)) := by
  have halike := @sessionCalls_alike τ codec tlsWrite fuel reads
    ⟨{ head with sessionId := sessionId }, recv⟩ ⟨{ head' with sessionId := sessionId }, recv⟩
    ⟨exi, net⟩ ⟨exi', net⟩ rfl rfl rfl
  apply List.forall₂_eq_eq_eq ▸ List.forall₂_map_left_iff.mpr (List.forall₂_map_right_iff.mpr ?_)
  refine halike.imp fun r r' h => ?_
  rw [h.exit, h.events, h.net]

end EvseIso15118
