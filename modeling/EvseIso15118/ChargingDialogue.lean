import EvseIso15118.Lockstep
import EvseIso15118.ResponseVerification
import EvseIso15118.SessionMemory

namespace EvseIso15118

open Reassembly

/-- A payload decodes to this document. -/
def ResDocument.DecodedFrom (codec : Codec) (exi : List Byte) : ResDocument → Prop
  | .appHand doc => codec.decodeAppHandExiDocument exi = (0, doc)
  | .iso1 doc => codec.decodeIso1ExiDocument exi = (0, doc)

/-- The element paired with the request is in use with a positive code, and the document belongs
to the session. -/
def ResDocument.Accepts (sessionId : UInt32) (reqType : ExiMsgType) : ResDocument → Prop
  | .appHand doc => reqType = .supportedAppProtocol ∧
      doc.responseCode = some .okSuccessfulNegotiation
  | .iso1 doc => doc.header.sessionId = sessionIdBytes sessionId ∧
      doc.responseCode reqType =
        some (if reqType = .sessionSetup then .okNewSessionEstablished else .ok)

/-- The document that answers a payload: of all that was before, the session id alone counts. -/
def replyDocument (codec : Codec) (sessionId : UInt32) (payload : List Byte) :
    Option ResDocument :=
  let decoded := exiDecodeMessage codec {} payload payload.length
  resDocument decoded.2 { SeccContext.initial.toSeccHead with sessionId := sessionId } decoded.1

/-- The response is one EXI frame, whose payload decodes to the document that answers the request,
and that document accepts it. -/
def Codec.Replies (codec : Codec) (sessionId : UInt32) (payload response : List Byte) : Prop :=
  ∃ doc ∈ replyDocument codec sessionId payload,
    doc.Accepts sessionId (requestType codec payload payload.length) ∧
    ∃ f : V2gtpFrame, f.payloadType = 0x8001 ∧ response = f.toBytes ∧
      doc.DecodedFrom codec f.payload

/-- The response documents of a session are encoded, inside the buffer, and decode to
themselves. -/
structure Codec.Faithful (codec : Codec) (sessionId : UInt32) : Prop where
  inside : codec.WritesInside
  responses : ∀ st head reqType doc, head.sessionId = sessionId →
    resDocument st head reqType = some doc →
      ∃ exi ∈ encodedExi codec (doc.encode codec) (exiFill reqType), doc.DecodedFrom codec exi

section response
variable {codec : Codec} {st st' : ExiStatics} {head : SeccHead} {reqType : ExiMsgType}
  {doc : ResDocument}

theorem resDocument_accepts (h : resDocument st head reqType = some doc) :
    doc.Accepts head.sessionId reqType := by
  cases reqType <;> cases h <;> exact ⟨rfl, rfl⟩

theorem resDocument_statics (h : reqType = .supportedAppProtocol → st = st') :
    resDocument st head reqType = resDocument st' head reqType := by
  cases reqType
  case supportedAppProtocol => rw [h rfl]
  all_goals rfl

theorem resDocument_eq_none : resDocument st head reqType = none ↔ reqType = .unknown := by
  cases reqType <;> simp [resDocument]

theorem verifyResponse_of_decoded (h : resDocument st head reqType = some doc) {exi : List Byte}
    (hdecoded : doc.DecodedFrom codec exi) : verifyResponse reqType codec exi = 0 := by
  cases reqType <;> cases h <;> unfold ResDocument.DecodedFrom at hdecoded
  case sessionSetup =>
    apply verifySessionSetupResponse_eq_zero.mpr
    rw [hdecoded]
    exact ⟨rfl, rfl⟩
  case supportedAppProtocol =>
    simp [verifyResponse, verifySupportedAppProtocolResponse, hdecoded, supportedAppProtocolResDoc]
  case serviceDetail =>
    simp [verifyResponse, verifyServiceDetailResponse, hdecoded, serviceDetailResDoc,
      responseDocument]
  all_goals exact if_neg (not_not.mpr (congrArg Prod.fst hdecoded))

theorem encodeResponse_of_encoded {encode : Bitstream → ℤ × Bitstream} {fill : Byte}
    {verify : Codec → List Byte → ℤ} {exi : List Byte} (h : encodedExi codec encode fill = some exi)
    (hverify : verify codec exi = 0) (out : ResponseBuffer) :
    (encodeResponse codec encode fill verify out).1 = 0 := by
  unfold encodedExi at h
  unfold encodeResponse
  dsimp only at h ⊢
  split_ifs at h with hencode hflush
  cases h
  rw [if_neg hencode, if_neg hflush, if_neg (not_not.mpr hverify)]

theorem ResponseBuffer.written_put (out : ResponseBuffer) (f : V2gtpFrame) :
    (out.put f).written = f.toBytes := by
  change (f.toBytes ++ out.bytes.drop f.toBytes.length).take (f.toBytes.length : ℤ).toNat = _
  rw [Int.toNat_natCast, List.take_left]

/-- What is built for a request is one frame, and the payload decodes to the document. -/
theorem seccBuildResponse_of_faithful (hcodec : codec.Faithful head.sessionId)
    (hdoc : resDocument st head reqType = some doc) (out : ResponseBuffer) :
    (seccBuildResponse codec st head reqType out).1 = 0 ∧
      ∃ f : V2gtpFrame, f.payloadType = 0x8001 ∧
        (seccBuildResponse codec st head reqType out).2.written = f.toBytes ∧
        doc.DecodedFrom codec f.payload := by
  have hknown : reqType ≠ .unknown := by
    rintro rfl
    cases hdoc
  obtain ⟨doc', hdoc', hbuild⟩ := @seccBuildResponse_eq_verify codec st head reqType hknown
  rw [hdoc] at hdoc'
  cases hdoc'
  rcases hcodec.responses st head reqType doc rfl hdoc with ⟨exi, hexi, hdecoded⟩
  have hverify := verifyResponse_of_decoded hdoc hdecoded
  have hzero := encodeResponse_of_encoded hexi hverify out
  rw [hbuild]
  refine ⟨hzero, ?_⟩
  rcases encodeResponse_cases hcodec.inside doc (exiFill reqType) (verifyResponse reqType) out with
    hfail | ⟨exi', hfits, _, _, hexi', hput⟩
  · rw [hfail] at hzero
    cases hzero
  · have hsame : exi' = exi := Option.some.inj (hexi'.symm.trans hexi)
    refine ⟨⟨0x8001, exi', hfits⟩, rfl, ?_, hsame ▸ hdecoded⟩
    rw [hput, ResponseBuffer.written_put]

end response

section server
variable {τ : Type} {codec : Codec} {tlsWrite : τ → List Byte → ℤ × τ} {sessionId : UInt32}

theorem replyDocument_eq (exi : ExiStatics) {head : SeccHead} (hid : head.sessionId = sessionId)
    (payload : List Byte) :
    replyDocument codec sessionId payload =
      resDocument (exiDecodeMessage codec exi payload payload.length).2 head
        (exiDecodeMessage codec exi payload payload.length).1 := by
  unfold replyDocument
  dsimp only
  rw [exiDecodeMessage_type codec exi, exiDecodeMessage_type codec {},
    @resDocument_congr _ _ head hid.symm]
  apply resDocument_statics
  intro htype
  apply exiDecodeMessage_schema
  rw [exiDecodeMessage_type, htype]

variable (hcodec : codec.Faithful sessionId)
  (hwrite : ∀ net response, 0 ≤ (tlsWrite net response).1)
include hcodec hwrite

theorem serve_replies {st : SeccHead × SeccWorld τ} (hid : st.1.sessionId = sessionId)
    (payload : List Byte) :
    match serve (seccMessageLayer codec tlsWrite) st payload with
    | some q => codec.Replies sessionId payload q.1 ∧ q.2.1.sessionId = sessionId
    | none => requestType codec payload payload.length = .unknown := by
  set decoded := exiDecodeMessage codec st.2.exi payload payload.length with hdecoded
  set head := requestHead st.1 decoded.1 with hhead
  have hheadId : head.sessionId = sessionId := by
    rw [hhead, requestHead]
    split_ifs
    · exact hid
    · exact hid
  have hreply := @replyDocument_eq codec sessionId st.2.exi head hheadId payload
  rw [← hdecoded] at hreply
  have hserve : serve (seccMessageLayer codec tlsWrite) st payload =
      (answer (seccMessageLayer codec tlsWrite) head { st.2 with exi := decoded.2 } decoded.1).map
        fun q => (q.1, (head, q.2)) := rfl
  have htype : decoded.1 = requestType codec payload payload.length :=
    exiDecodeMessage_type codec st.2.exi payload payload.length
  rw [hserve, answer]
  dsimp only
  rw [seccMessageLayer_build]
  dsimp only
  cases hdoc : resDocument decoded.2 head decoded.1 with
  | none =>
    have hunknown := resDocument_eq_none.mp hdoc
    rw [hunknown]
    exact htype ▸ hunknown
  | some doc =>
    have hbuilt := seccBuildResponse_of_faithful (hheadId ▸ hcodec) hdoc responseScratch
    rcases hbuilt with ⟨hzero, f, hf, hbytes, hfrom⟩
    rw [if_pos ⟨hzero, not_lt.mpr (hwrite _ _)⟩]
    refine ⟨⟨doc, hreply.trans hdoc, ?_, f, hf, hbytes, hfrom⟩, hheadId⟩
    have haccepts := resDocument_accepts hdoc
    rwa [hheadId, htype] at haccepts

theorem serveAll_replies {st : SeccHead × SeccWorld τ} (hid : st.1.sessionId = sessionId)
    {payloads : List (List Byte)} {q : List (List Byte) × (SeccHead × SeccWorld τ)}
    (h : serveAll (seccMessageLayer codec tlsWrite) st payloads = some q) :
    List.Forall₂ (codec.Replies sessionId) payloads q.1 ∧ q.2.1.sessionId = sessionId := by
  induction payloads generalizing st q with
  | nil =>
    cases h
    exact ⟨List.Forall₂.nil, hid⟩
  | cons p ps ih =>
    rw [serveAll] at h
    rcases Option.bind_eq_some_iff.mp h with ⟨a, ha, hrest⟩
    rcases Option.map_eq_some_iff.mp hrest with ⟨b, hb, rfl⟩
    have hfirst := serve_replies hcodec hwrite hid p
    rw [ha] at hfirst
    rcases ih hfirst.2 hb with ⟨hall, hlast⟩
    exact ⟨List.Forall₂.cons hfirst.1 hall, hlast⟩

end server

section refused
variable {ω : Type} {L : MessageLayer ω} {st : SeccHead × ω}
  (hwrite : ∀ w response, 0 ≤ (L.tlsWrite w response).1)
include hwrite

theorem frameStep_refused {s : FrameLoop ω} (hn : 0 ≤ s.offset) {f r p : List Byte}
    (h : v2gtpFormat.firstFrame (s.ctx.recv.pending.drop s.offset.toNat) = some (f, r))
    (hp : exiPayload f = some p) (hserve : serve L (s.ctx.toSeccHead, s.world) p = none) :
    ∃ r, frameStep L s = .inr r ∧ r.exit = .buildFailed ∧
      writtenResponses r.events = writtenResponses s.events := by
  obtain ⟨t, hstep, -, -, hhead, hworld, hevents⟩ := frameStep_respond (L := L) hn h hp
  set msgType := (L.exiDecodeMessage s.world p p.length).1
  have hbuild : (L.seccBuildResponse t.world t.ctx.toSeccHead msgType responseScratch).1 ≠ 0 := by
    rw [serve, Option.map_eq_none_iff, answer, ite_eq_right_iff] at hserve
    rw [hhead, hworld]
    intro hzero
    cases hserve ⟨hzero, not_lt.mpr (hwrite _ _)⟩
  refine ⟨t.fail .buildFailed, ?_, rfl, ?_⟩
  · rw [hstep, respond]
    dsimp only
    rw [if_neg hbuild]
  · change writtenResponses t.events = _
    rw [hevents]
    simp [writtenResponses]

variable {s : Exchange ω} {fuel : ℕ}

/-- All requests but the last are answered, and nothing was built for that one. -/
structure Exchange.Refused (L : MessageLayer ω) (st : SeccHead × ω) (s : Exchange ω) : Prop where
  exit : s.exit = .buildFailed
  last : ∃ ps p st', s.asked = ps ++ [p] ∧ serveAll L st ps = some (s.answers, st') ∧
    serve L st' p = none

theorem Exchange.Outstanding.call_refused (hfuel : 2048 < fuel) {ps : List (List Byte)}
    {q : Request} (h : s.Outstanding L st ps q)
    (hserve : serve L (s.ctx.toSeccHead, s.world) q.payload = none) :
    (s.call L fuel s.wire []).Refused L st := by
  have hlen := congrArg List.length h.bytes
  have hfits := q.fits
  rw [List.length_append, RecvBuffer.pending_length, V2gtpFrame.toBytes_length] at hlen
  change _ = 8 + q.payload.length at hlen
  have hroom : s.ctx.recv.len + s.wire.length ≤ 2048 := by omega
  -- the buffer holds the request and nothing more
  have hfirst : v2gtpFormat.firstFrame
      ((loopStart s.wire s.ctx s.world hroom).ctx.recv.pending.drop 0) =
        some (q.frame.toBytes, []) := by
    have hframe := q.frame.isFrame_toBytes.firstFrame_append []
    rw [List.append_nil] at hframe
    rw [List.drop_zero, loopStart, RecvBuffer.pending_push, h.bytes, hframe]
  have hpayload : exiPayload q.frame.toBytes = some q.payload := by
    rw [exiPayload, V2gtpFrame.headerOf_toBytes, V2gtpFrame.drop_toBytes]
    exact if_pos rfl
  rcases frameStep_refused hwrite (s := loopStart s.wire s.ctx s.world hroom) (le_refl 0) hfirst
    hpayload hserve with ⟨r, hstep, hexit, hwritten⟩
  have hcall : v2gProcessMessage L fuel s.wire s.ctx s.world = r := by
    obtain ⟨fuel, rfl⟩ := Nat.exists_eq_succ_of_ne_zero (by omega : fuel ≠ 0)
    rw [v2gProcessMessage, if_neg h.wire, dif_pos hroom, Loop.run_succ_inr hstep]
  constructor
  · change (v2gProcessMessage L fuel s.wire s.ctx s.world).exit = _
    rw [hcall, hexit]
  · refine ⟨ps, q.payload, _, h.asked, ?_, hserve⟩
    change _ = some (s.answers ++
      writtenResponses (v2gProcessMessage L fuel s.wire s.ctx s.world).events, _)
    rw [hcall, hwritten, h.served]
    exact congrArg some (Prod.ext (List.append_nil _).symm rfl)

theorem Exchange.Outstanding.call_exit (hfuel : 2048 < fuel) {ps : List (List Byte)}
    {q : Request} (h : s.Outstanding L st ps q) {read rest : List Byte}
    (hsplit : s.wire = read ++ rest) (hread : read ≠ []) :
    (s.call L fuel read rest).exit = .done ∨ (s.call L fuel read rest).Refused L st := by
  cases rest with
  | cons b bs =>
    left
    exact (h.call_part hfuel hsplit hread (List.cons_ne_nil b bs)).exit
  | nil =>
    rw [List.append_nil] at hsplit
    subst hsplit
    cases hserve : serve L (s.ctx.toSeccHead, s.world) q.payload with
    | none =>
      right
      exact h.call_refused hwrite hfuel hserve
    | some a =>
      left
      have hans := h.answers hfuel (List.append_nil s.wire).symm h.wire
      rw [h.bytes, q.frames_toBytes.1, q.frames_toBytes.2, q.exiPayloads_toBytes] at hans
      simp only [Answers, serveAll, hserve, Option.bind_some, Option.map_some] at hans
      exact hans.1

theorem exchangeAct_exit (hfuel : 2048 < fuel) {t : Exchange ω} {a : ExchangeAction}
    (h : s.Agree L st) (hact : exchangeAct L fuel s a = some t) :
    t.exit = .done ∨ t.Refused L st := by
  rcases exchangeAct_cases hact with ⟨hexit, ⟨q, _, rfl⟩ | ⟨read, rest, hsplit, hread, rfl⟩⟩
  · left
    exact hexit
  · rcases h with hidle | ⟨ps, q, hout⟩ | hfailed
    · rw [hidle.wire, eq_comm, List.append_eq_nil_iff] at hsplit
      exact absurd hsplit.1 hread
    · exact hout.call_exit hwrite hfuel hsplit hread
    · exact absurd hexit hfailed.exit_ne

/-- How far the dialogue is: all but the last request are answered, or the last is refused. -/
theorem exchange_told (hfuel : 2048 < fuel) {ctx : SeccContext} {world : ω}
    (hempty : ctx.recv.len = 0) {as : List ExchangeAction}
    (hrun : Transition.run (exchangeAct L fuel) (exchangeStart ctx world) as = some s) :
    s.Agree L (ctx.toSeccHead, world) ∧
      (s.exit = .done ∨ s.Refused L (ctx.toSeccHead, world)) := by
  apply Transition.invariant
    (I := fun s => s.Agree L (ctx.toSeccHead, world) ∧
      (s.exit = .done ∨ s.Refused L (ctx.toSeccHead, world))) ?_ ?_ hrun
  · rintro s a t ⟨hagree, _⟩ hact
    exact ⟨hagree.act hfuel hact, exchangeAct_exit hwrite hfuel hagree hact⟩
  · exact ⟨Or.inl (exchangeStart_idle hempty world), Or.inl rfl⟩

end refused

/-- With a codec that decodes what it has encoded and a connection that takes everything, a peer
that waits for its answers finds in the bytes it gets one frame for each request, with the
document that accepts it, and the session ends only after a payload that is no request. -/
theorem dialogue_answered {τ : Type} {codec : Codec} {tlsWrite : τ → List Byte → ℤ × τ} {fuel : ℕ}
    {ctx : SeccContext} {world : SeccWorld τ} {s : Exchange (SeccWorld τ)}
    {as : List ExchangeAction} (hcodec : codec.Faithful ctx.sessionId)
    (hwrite : ∀ net response, 0 ≤ (tlsWrite net response).1) (hfuel : 2048 < fuel)
    (hempty : ctx.recv.len = 0)
    (hrun : Transition.run (exchangeAct (seccMessageLayer codec tlsWrite) fuel)
      (exchangeStart ctx world) as = some s) :
    List.Forall₂ (codec.Replies ctx.sessionId) (s.asked.take s.answers.length) s.answers ∧
      v2gtpFormat.frames s.answers.flatten = s.answers ∧
      v2gtpFormat.residue s.answers.flatten = [] ∧
      (s.exit = .done ∧ s.asked.length ≤ s.answers.length + 1 ∧
          (s.wire = [] ↔ s.asked.length = s.answers.length) ∨
        s.exit = .buildFailed ∧ ∃ p, s.asked = s.asked.take s.answers.length ++ [p] ∧
          requestType codec p p.length = .unknown) := by
  have hwrites : ∀ w response, 0 ≤ ((seccMessageLayer codec tlsWrite).tlsWrite w response).1 :=
    fun w response => hwrite w.net response
  have hreplies : List.Forall₂ (codec.Replies ctx.sessionId) (s.asked.take s.answers.length)
      s.answers ∧ (s.exit = .done ∧ s.asked.length ≤ s.answers.length + 1 ∧
          (s.wire = [] ↔ s.asked.length = s.answers.length) ∨
        s.exit = .buildFailed ∧ ∃ p, s.asked = s.asked.take s.answers.length ++ [p] ∧
          requestType codec p p.length = .unknown) := by
    rcases exchange_told hwrites hfuel hempty hrun with ⟨hagree, hexit | hrefused⟩
    · rcases hagree.served hexit with ⟨hserved, hwaits⟩
      exact ⟨(serveAll_replies hcodec hwrite rfl hserved).1, Or.inl ⟨hexit, hwaits⟩⟩
    · rcases hrefused.last with ⟨ps, p, st', hasked, hserved, hnone⟩
      rcases serveAll_replies hcodec hwrite rfl hserved with ⟨hall, hid⟩
      have htake : s.asked.take s.answers.length = ps := by
        rw [hasked, ← hall.length_eq, List.take_left]
      have hunknown := serve_replies hcodec hwrite hid p
      rw [hnone] at hunknown
      rw [htake]
      exact ⟨hall, Or.inr ⟨hrefused.exit, p, hasked, hunknown⟩⟩
  have hframes : ∀ r ∈ s.answers, v2gtpFormat.IsFrame r := by
    intro r hr
    rcases List.mem_iff_getElem.mp hr with ⟨i, hi, rfl⟩
    have hreply := hreplies.1.get (i := i) (by rw [hreplies.1.length_eq]; exact hi) hi
    rcases hreply with ⟨_, _, _, f, _, hbytes, _⟩
    rw [List.get_eq_getElem] at hbytes
    rw [hbytes]
    exact f.isFrame_toBytes
  rcases Format.frames_flatten hframes with ⟨hsplit, hrest⟩
  exact ⟨hreplies.1, hsplit, hrest, hreplies.2⟩

def iso1Types : List ExiMsgType :=
  [.sessionSetup, .serviceDiscovery, .serviceDetail, .paymentServiceSelection, .authorization,
    .chargeParameterDiscovery, .cableCheck, .preCharge, .powerDelivery, .currentDemand,
    .weldingDetection, .sessionStop]

def requestBody : ExiMsgType → Iso1Body
  | .sessionSetup => { sessionSetupReq := true }
  | .serviceDiscovery => { serviceDiscoveryReq := true }
  | .serviceDetail => { serviceDetailReq := true }
  | .paymentServiceSelection => { paymentServiceSelectionReq := true }
  | .authorization => { authorizationReq := true }
  | .chargeParameterDiscovery => { chargeParameterDiscoveryReq := true }
  | .cableCheck => { cableCheckReq := true }
  | .preCharge => { preChargeReq := true }
  | .powerDelivery => { powerDeliveryReq := true }
  | .currentDemand => { currentDemandReq := true }
  | .weldingDetection => { weldingDetectionReq := true }
  | .sessionStop => { sessionStopReq := true }
  | .supportedAppProtocol | .unknown => {}

/-- A response is the number of its type and 80, the answer to an offer C0 and the schema. -/
def shortBytes : ResDocument → List Byte
  | .appHand doc =>
    [0xC0, (doc.supportedAppProtocolRes.bind SupportedAppProtocolRes.schemaId).getD 0]
  | .iso1 doc =>
    [UInt8.ofNat (0x80 + iso1Types.findIdx fun reqType => (doc.responseCode reqType).isSome)]

/-- A request is the number of its type, an offer of one protocol 40 and the schema. -/
def shortCodec : Codec where
  decodeAppHandExiDocument
    | [0x40, id] => (0, { supportedAppProtocolReq := some [⟨isoNamespace, 2, 0, id, 1⟩] })
    | [0xC0, id] => (0, { supportedAppProtocolRes := some ⟨.okSuccessfulNegotiation, some id⟩ })
    | _ => (-1, {})
  decodeIso1ExiDocument
    | [b] =>
      match iso1Types[b.toNat]? with
      | some reqType => (0, { v2gMessageIsUsed := true, body := requestBody reqType })
      | none =>
        match iso1Types[b.toNat - 0x80]?.bind (resDocument {} SeccContext.initial.toSeccHead) with
        | some (.iso1 doc) => (0, doc)
        | _ => (-1, {})
    | _ => (-1, {})
  encodeAppHandExiDocument stream doc :=
    let bytes := shortBytes (.appHand doc)
    (0, { stream with data := overwrite stream.data 0 bytes, pos := bytes.length })
  encodeIso1ExiDocument stream doc :=
    let bytes := shortBytes (.iso1 doc)
    (0, { stream with data := overwrite stream.data 0 bytes, pos := bytes.length })
  flush stream := (0, stream)

theorem shortCodec_staysInside (stream : Bitstream) {bytes : List Byte} (h : bytes.length ≤ 2) :
    stream.StaysInside
      { stream with data := overwrite stream.data 0 bytes, pos := bytes.length } := by
  intro hdata _
  refine ⟨?_, show bytes.length ≤ 1024 by omega⟩
  exact (overwrite_length (by omega)).trans hdata

theorem shortCodec_writesInside : shortCodec.WritesInside where
  appHand stream _ _ := shortCodec_staysInside stream (le_refl 2)
  iso1 stream _ _ := shortCodec_staysInside stream one_le_two
  flush _ _ hdata hpos := ⟨hdata, hpos⟩

theorem encodedExi_shortCodec (doc : ResDocument) (fill : Byte) :
    encodedExi shortCodec (doc.encode shortCodec) fill = some (shortBytes doc) := by
  have htake : (overwrite (exiStream fill).data 0 (shortBytes doc)).take (shortBytes doc).length =
      shortBytes doc := by
    rw [overwrite, List.take_zero, List.nil_append, List.take_left]
  cases doc <;> exact congrArg some htake

theorem shortCodec_faithful : shortCodec.Faithful 1 where
  inside := shortCodec_writesInside
  responses st head reqType doc hid hdoc := by
    refine ⟨shortBytes doc, encodedExi_shortCodec doc _, ?_⟩
    rw [@resDocument_congr st _ SeccContext.initial.toSeccHead hid] at hdoc
    cases reqType <;> cases hdoc <;> rfl

def chargingSession : List ExchangeAction :=
  [.ask ⟨[0x40, 0x07], Nat.le_of_ble_eq_true rfl⟩, .read 10,
    .ask ⟨[0x00], Nat.le_of_ble_eq_true rfl⟩, .read 8, .read 1,
    .ask ⟨[0x08], Nat.le_of_ble_eq_true rfl⟩, .read 9,
    .ask ⟨[0x0B], Nat.le_of_ble_eq_true rfl⟩, .read 9,
    .ask ⟨[0x7F], Nat.le_of_ble_eq_true rfl⟩, .read 9]

def shortLayer : MessageLayer (SeccWorld Unit) :=
  seccMessageLayer shortCodec fun net response => (response.length, net)

theorem dialogue_answered_chargingSession :
    ∃ s, Transition.run (exchangeAct shortLayer 2049) (exchangeStart .initial ⟨{}, ()⟩)
        chargingSession = some s ∧ s.exit = .buildFailed ∧ s.asked.length = 5 ∧
      s.answers.length = 4 ∧
      List.Forall₂ (shortCodec.Replies 1) (s.asked.take 4) s.answers ∧
      v2gtpFormat.frames s.answers.flatten = s.answers := by
  have hrun : ∃ s ∈ Transition.run (exchangeAct shortLayer 2049)
      (exchangeStart .initial ⟨{}, ()⟩) chargingSession,
      s.exit = .buildFailed ∧ s.asked.length = 5 ∧ s.answers.length = 4 := by decide +kernel
  rcases hrun with ⟨s, hs, hexit, hasked, hlen⟩
  have h := dialogue_answered shortCodec_faithful (fun _ response => Int.natCast_nonneg _)
    (by decide) rfl hs
  rw [hlen] at h
  exact ⟨s, hs, hexit, hasked, hlen, h.1, h.2.1⟩

end EvseIso15118
