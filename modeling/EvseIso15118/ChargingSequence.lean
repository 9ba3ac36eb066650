import EvseIso15118.SessionRun

namespace EvseIso15118

inductive ResDocument
  | appHand (doc : AppHandDocument)
  | iso1 (doc : Iso1Document)
  deriving DecidableEq

namespace ResDocument

def encode (codec : Codec) : ResDocument → Bitstream → ℤ × Bitstream
  | .appHand doc, stream => codec.encodeAppHandExiDocument stream doc
  | .iso1 doc, stream => codec.encodeIso1ExiDocument stream doc

def powerDeliveryRes : ResDocument → Option PowerDeliveryRes
  | .appHand _ => none
  | .iso1 doc => doc.body.powerDeliveryRes

def currentDemandRes : ResDocument → Option CurrentDemandRes
  | .appHand _ => none
  | .iso1 doc => doc.body.currentDemandRes

end ResDocument

def resDocument (st : ExiStatics) (head : SeccHead) : ExiMsgType → Option ResDocument
  | .supportedAppProtocol => some (.appHand (supportedAppProtocolResDoc st))
  | .sessionSetup => some (.iso1 (sessionSetupResDoc head))
  | .serviceDiscovery => some (.iso1 (serviceDiscoveryResDoc head))
  | .serviceDetail => some (.iso1 (serviceDetailResDoc head))
  | .paymentServiceSelection => some (.iso1 (paymentServiceSelectionResDoc head))
  | .authorization => some (.iso1 (authorizationResDoc head))
  | .chargeParameterDiscovery => some (.iso1 (chargeParameterDiscoveryResDoc head))
  | .cableCheck => some (.iso1 (cableCheckResDoc head))
  | .preCharge => some (.iso1 (preChargeResDoc head))
  | .powerDelivery => some (.iso1 (powerDeliveryResDoc head))
  | .currentDemand => some (.iso1 (currentDemandResDoc head))
  | .weldingDetection => some (.iso1 (weldingDetectionResDoc head))
  | .sessionStop => some (.iso1 (sessionStopResDoc head))
  | .unknown => none

theorem seccBuildResponse_eq (codec : Codec) (st : ExiStatics) (head : SeccHead)
    (msgType : ExiMsgType) (out : ResponseBuffer) :
    (resDocument st head msgType = none ∧
      seccBuildResponse codec st head msgType out = (-1, out)) ∨
    ∃ doc fill verify, resDocument st head msgType = some doc ∧
      seccBuildResponse codec st head msgType out =
        encodeResponse codec (doc.encode codec) fill verify out := by
  cases msgType
  case unknown => exact .inl ⟨rfl, rfl⟩
  all_goals exact .inr ⟨_, _, _, rfl, rfl⟩

theorem resDocument_congr (st : ExiStatics) {head head' : SeccHead}
    (h : head.sessionId = head'.sessionId) (msgType : ExiMsgType) :
    resDocument st head msgType = resDocument st head' msgType := by
  cases head
  cases head'
  cases h
  cases msgType <;> rfl

theorem powerDelivery_of_res {st : ExiStatics} {head : SeccHead} {msgType : ExiMsgType}
    {doc : ResDocument} {res : PowerDeliveryRes} (h : resDocument st head msgType = some doc)
    (hres : doc.powerDeliveryRes = some res) :
    msgType = .powerDelivery ∧ res.responseCode = .ok := by
  cases msgType <;> cases h <;> cases hres
  exact ⟨rfl, rfl⟩

theorem currentDemand_of_res {st : ExiStatics} {head : SeccHead} {msgType : ExiMsgType}
    {doc : ResDocument} {res : CurrentDemandRes} (h : resDocument st head msgType = some doc)
    (hres : doc.currentDemandRes = some res) :
    msgType = .currentDemand ∧ res.responseCode = .ok := by
  cases msgType <;> cases h <;> cases hres
  exact ⟨rfl, rfl⟩

/-- `response` is a document built for the request that `payload` decodes to, whatever the
state of the session with this id. -/
def AnswersRequest (codec : Codec) (sessionId : UInt32) (payload : List Byte) (len : ℤ)
    (msgType : ExiMsgType) (response : List Byte) (doc : ResDocument) : Prop :=
  ∃ st, (exiDecodeMessage codec st payload len).1 = msgType ∧
    (∀ head : SeccHead, head.sessionId = sessionId →
      resDocument (exiDecodeMessage codec st payload len).2 head msgType = some doc) ∧
    ∃ fill verify out, encodeResponse codec (doc.encode codec) fill verify responseScratch =
      (0, out) ∧ response = out.written

/-- Each write comes right after the decoding of a request and answers it. -/
def WritesAnswer (codec : Codec) (sessionId : UInt32) (events : List Event) : Prop :=
  ∀ pre msgType response ret post, events = pre ++ .write msgType response ret :: post →
    ∃ pre' start len payload doc, pre = pre' ++ [.decode start len payload] ∧
      AnswersRequest codec sessionId payload len msgType response doc

section writes
variable {codec : Codec} {sessionId : UInt32}

theorem WritesAnswer.append {es fs : List Event} (he : WritesAnswer codec sessionId es)
    (hf : WritesAnswer codec sessionId fs) : WritesAnswer codec sessionId (es ++ fs) := by
  intro pre msgType response ret post h
  rcases List.append_eq_append_iff.mp h with ⟨as, hpre, hfs⟩ | ⟨bs, hes, hpost⟩
  · obtain ⟨pre', start, len, payload, doc, rfl, hans⟩ := hf _ _ _ _ _ hfs
    exact ⟨es ++ pre', start, len, payload, doc, by rw [hpre, List.append_assoc], hans⟩
  · cases bs with
    | nil =>
      obtain ⟨pre', start, len, payload, doc, hnil, hans⟩ := hf [] _ _ _ _ hpost.symm
      exact absurd hnil.symm (by simp)
    | cons b bs =>
      obtain ⟨rfl, -⟩ := List.cons_eq_cons.mp hpost
      exact he pre msgType response ret bs hes

theorem WritesAnswer.of_reads {es : List Event}
    (h : ∀ msgType response ret, Event.write msgType response ret ∉ es) :
    WritesAnswer codec sessionId es := by
  intro pre msgType response ret post he
  exact absurd (he ▸ List.mem_append_right pre (List.mem_cons_self ..)) (h msgType response ret)

theorem WritesAnswer.of_answer {offset start len : ℤ} {payload response : List Byte}
    {msgType : ExiMsgType} {ret : ℤ} {doc : ResDocument}
    (h : AnswersRequest codec sessionId payload len msgType response doc) :
    WritesAnswer codec sessionId
      [.header offset, .decode start len payload, .write msgType response ret] := by
  intro pre msgType' response' ret' post he
  match pre, he with
  | [], he => cases he
  | [_], he => cases he
  | [_, _], he =>
    cases he
    exact ⟨[.header offset], start, len, payload, doc, rfl, h⟩
  | _ :: _ :: _ :: pre, he => simp at he

variable {τ : Type} {tlsWrite : τ → List Byte → ℤ × τ}

theorem answersRequest_of_built {s : FrameLoop (SeccWorld τ)} {hdr : V2gtpHeader}
    (h : ((seccMessageLayer codec tlsWrite).seccBuildResponse
      (decodeExi (seccMessageLayer codec tlsWrite) s hdr).2.world
      (decodeExi (seccMessageLayer codec tlsWrite) s hdr).2.ctx.toSeccHead
      (decodeExi (seccMessageLayer codec tlsWrite) s hdr).1 responseScratch).1 = 0)
    (hid : s.ctx.sessionId = sessionId) :
    ∃ doc, AnswersRequest codec sessionId
      (exiData s.ctx (s.offset + 8) (toInt32 hdr.payloadLength.toNat))
      (toInt32 hdr.payloadLength.toNat) (decodeExi (seccMessageLayer codec tlsWrite) s hdr).1
      ((seccMessageLayer codec tlsWrite).seccBuildResponse
        (decodeExi (seccMessageLayer codec tlsWrite) s hdr).2.world
        (decodeExi (seccMessageLayer codec tlsWrite) s hdr).2.ctx.toSeccHead
        (decodeExi (seccMessageLayer codec tlsWrite) s hdr).1 responseScratch).2.written doc := by
  set u := decodeExi (seccMessageLayer codec tlsWrite) s hdr with hu
  have hsession : u.2.ctx.sessionId = sessionId := by
    rw [hu, decodeExi_sessionId, hid]
  have hdec := decodeExi_secc codec tlsWrite s hdr
  rw [← hu, Prod.ext_iff] at hdec
  rw [seccMessageLayer_build] at h ⊢
  rcases seccBuildResponse_eq codec u.2.world.exi u.2.ctx.toSeccHead u.1 responseScratch with
    ⟨-, hb⟩ | ⟨doc, fill, verify, hdoc, hb⟩
  · rw [hb] at h
    cases h
  · refine ⟨doc, s.world.exi, hdec.1.symm, fun head hhead => ?_, fill, verify, _, ?_, rfl⟩
    · rw [← hdoc, ← hdec.2]
      exact resDocument_congr _ (hhead.trans hsession.symm) _
    · rw [← hb]
      exact Prod.ext h rfl

variable (codec sessionId tlsWrite) in
theorem roundInvariant_writesAnswer :
    RoundInvariant (seccMessageLayer codec tlsWrite) (fun st => st.1.sessionId = sessionId)
      (WritesAnswer codec sessionId) where
  nil := WritesAnswer.of_reads (by simp)
  append he hf := he.append hf
  step s hid := by
    rcases frameStep_cases (L := seccMessageLayer codec tlsWrite) s with
      ⟨⟨es, hes, hev⟩, hhead⟩ | ⟨-, hstep⟩
    · refine ⟨by rw [hhead]; exact hid, es, hev, WritesAnswer.of_reads ?_⟩
      rcases hes with rfl | rfl <;> simp
    · set u := decodeExi (seccMessageLayer codec tlsWrite) (s.log (.header s.offset)) s.header
        with hu
      have hsession : u.2.ctx.sessionId = sessionId := by
        rw [hu, decodeExi_sessionId, FrameLoop.log_ctx, hid]
      have hreads : WritesAnswer codec sessionId
          [.header s.offset, decodeCall s s.header] := WritesAnswer.of_reads (by simp [decodeCall])
      cases hr : respond (seccMessageLayer codec tlsWrite) u.2 s.header u.1 with
      | inl t =>
        obtain ⟨hb, hc, -, ret, he⟩ := respond_eq_inl hr
        obtain ⟨doc, hans⟩ := answersRequest_of_built (s := s.log (.header s.offset)) hb hid
        rw [hstep, hr, headAfter_inl, eventsAfter_inl, hc, he, hu, decodeExi_events,
          FrameLoop.log_events, List.append_assoc, List.append_assoc]
        exact ⟨hsession, _, rfl, WritesAnswer.of_answer hans⟩
      | inr r =>
        obtain ⟨hc, he⟩ := respond_eq_inr hr
        rw [hstep, hr, headAfter_inr, eventsAfter_inr, hc]
        refine ⟨hsession, ?_⟩
        rcases he with he | ⟨hb, ret, he⟩
        · exact ⟨_, by rw [he, hu, decodeExi_events, FrameLoop.log_events, List.append_assoc]; rfl,
            hreads⟩
        · obtain ⟨doc, hans⟩ := answersRequest_of_built (s := s.log (.header s.offset)) hb hid
          rw [he, hu, decodeExi_events, FrameLoop.log_events, List.append_assoc,
            List.append_assoc]
          exact ⟨_, rfl, WritesAnswer.of_answer hans⟩

end writes

/-- One-byte documents: 01 is a PowerDeliveryReq, 81 the PowerDeliveryRes. -/
def powerCodec : Codec where
  decodeAppHandExiDocument _ := (-1, {})
  decodeIso1ExiDocument data :=
    if data = [0x01] then (0, { v2gMessageIsUsed := true, body := { powerDeliveryReq := true } })
    else if data = [0x81] then (0, powerDeliveryResDoc SeccContext.initial.toSeccHead)
    else (-1, {})
  encodeAppHandExiDocument stream _ := (-1, stream)
  encodeIso1ExiDocument stream doc :=
    if doc.body.powerDeliveryRes.isSome then
      (0, { stream with data := overwrite stream.data 0 [0x81], pos := 1 })
    else (-1, stream)
  flush stream := (0, stream)

def powerDeliveryRead : List Byte := [0x01, 0xFE, 0x80, 0x01, 0x00, 0x00, 0x00, 0x01, 0x01]

def powerSession : List (CallResult (SeccWorld Unit)) :=
  sessionCalls (seccMessageLayer powerCodec fun net _ => (0, net)) 2049 [powerDeliveryRead]
    .initial ⟨{}, ()⟩

theorem powerSession_events : sessionEvents powerSession =
    [.header 0, .decode 8 1 [0x01]] ++
      [.write .powerDelivery [0x01, 0xFE, 0x80, 0x01, 0x00, 0x00, 0x00, 0x01, 0x81] 0] := by
  decide +kernel

/-- The first request of the session is answered with a PowerDeliveryRes and OK. -/
theorem powerDelivery_answered_first :
    sessionEvents powerSession = [.header 0, .decode 8 1 [0x01],
      .write .powerDelivery [0x01, 0xFE, 0x80, 0x01, 0x00, 0x00, 0x00, 0x01, 0x81] 0] ∧
    (powerCodec.decodeIso1ExiDocument [0x81]).1 = 0 ∧
    (powerCodec.decodeIso1ExiDocument [0x81]).2.body.powerDeliveryRes.map
      PowerDeliveryRes.responseCode = some .ok :=
  ⟨powerSession_events, by decide, by decide⟩

/-- A PowerDeliveryRes or CurrentDemandRes is written, with OK, for a request of its type just
decoded; no other request and no state enters. -/
theorem chargingRes_answers_request {τ : Type} {codec : Codec}
    {tlsWrite : τ → List Byte → ℤ × τ} {fuel : ℕ} {reads : List (List Byte)} {ctx : SeccContext}
    {world : SeccWorld τ} {pre post : List Event} {msgType : ExiMsgType} {response : List Byte}
    {ret : ℤ}
    (h : sessionEvents (sessionCalls (seccMessageLayer codec tlsWrite) fuel reads ctx world) =
      pre ++ .write msgType response ret :: post) :
    ∃ pre' start len payload doc, pre = pre' ++ [.decode start len payload] ∧
      AnswersRequest codec ctx.sessionId payload len msgType response doc ∧
      (∀ res, doc.powerDeliveryRes = some res →
        msgType = .powerDelivery ∧ res.responseCode = .ok) ∧
      (∀ res, doc.currentDemandRes = some res →
        msgType = .currentDemand ∧ res.responseCode = .ok) := by
  have hinv := roundInvariant_writesAnswer codec ctx.sessionId tlsWrite
  obtain ⟨-, hwrites⟩ := @RoundInvariant.session _ _ _ _ hinv fuel reads ctx world rfl
  obtain ⟨pre', start, len, payload, doc, hpre, hans⟩ := hwrites _ _ _ _ _ h
  obtain ⟨st, hdec, hdoc, hrest⟩ := hans
  have hdoc' := hdoc ctx.toSeccHead rfl
  exact ⟨pre', start, len, payload, doc, hpre, ⟨st, hdec, hdoc, hrest⟩,
    fun res => powerDelivery_of_res hdoc', fun res => currentDemand_of_res hdoc'⟩

theorem chargingRes_answers_request_powerSession :
    ∃ pre' start len payload doc,
      ([.header 0, .decode 8 1 [0x01]] : List Event) = pre' ++ [.decode start len payload] ∧
      AnswersRequest powerCodec 1 payload len .powerDelivery
        [0x01, 0xFE, 0x80, 0x01, 0x00, 0x00, 0x00, 0x01, 0x81] doc ∧
      (∀ res, doc.powerDeliveryRes = some res →
        ExiMsgType.powerDelivery = .powerDelivery ∧ res.responseCode = .ok) ∧
      (∀ res, doc.currentDemandRes = some res →
        ExiMsgType.powerDelivery = .currentDemand ∧ res.responseCode = .ok) :=
  chargingRes_answers_request powerSession_events

end EvseIso15118
