import EvseIso15118.ChargingSequence

namespace EvseIso15118

/-- The first offer with the least priority number. -/
def preferredOffer (offers : List AppProtocol) : Option AppProtocol :=
  offers.argmin fun p => p.priority.toNat

theorem preferredOffer_cons (p : AppProtocol) (ps : List AppProtocol) :
    preferredOffer (p :: ps) = some (match preferredOffer ps with
      | none => p
      | some q => if q.priority.toNat < p.priority.toNat then q else p) := by
  rw [preferredOffer, List.argmin_cons]
  change _ = some (match List.argmin (fun p : AppProtocol => p.priority.toNat) ps with
    | none => p
    | some q => if q.priority.toNat < p.priority.toNat then q else p)
  cases List.argmin (fun p : AppProtocol => p.priority.toNat) ps with
  | none => rfl
  | some q => exact (apply_ite some _ q p).symm

theorem preferredOffer_mem {offers : List AppProtocol} {p : AppProtocol}
    (h : preferredOffer offers = some p) : p ∈ offers := List.argmin_mem h

theorem exists_preferredOffer {offers : List AppProtocol} (h : offers ≠ []) :
    ∃ p, preferredOffer offers = some p := by
  cases offers with
  | nil => exact absurd rfl h
  | cons p ps => exact ⟨_, preferredOffer_cons p ps⟩

theorem preferredOffer_split {offers : List AppProtocol} {p : AppProtocol}
    (h : preferredOffer offers = some p) : ∃ pre post, offers = pre ++ p :: post ∧
      (∀ q ∈ pre, p.priority < q.priority) ∧ ∀ q ∈ post, p.priority ≤ q.priority := by
  induction offers generalizing p with
  | nil => cases h
  | cons a as ih =>
    rw [preferredOffer_cons] at h
    cases hq : preferredOffer as with
    | none =>
      rw [hq] at h
      cases h
      have hnil : as = [] := List.argmin_eq_none.mp hq
      exact ⟨[], as, rfl, by simp, by simp [hnil]⟩
    | some q =>
      obtain ⟨pre, post, hsplit, hpre, hpost⟩ := ih hq
      rw [hq] at h
      change some (if q.priority.toNat < a.priority.toNat then q else a) = some p at h
      split_ifs at h with hlt
      · cases h
        refine ⟨a :: pre, post, by rw [hsplit]; rfl, ?_, hpost⟩
        intro r hr
        rcases List.mem_cons.mp hr with rfl | hr
        · exact UInt8.lt_iff_toNat_lt.mpr hlt
        · exact hpre r hr
      · cases h
        refine ⟨[], as, rfl, by simp, fun r hr => ?_⟩
        have hle : a.priority ≤ q.priority := UInt8.le_iff_toNat_le.mpr (not_lt.mp hlt)
        rw [hsplit] at hr
        rcases List.mem_append.mp hr with hr | hr
        · exact UInt8.le_trans hle (UInt8.le_of_lt (hpre r hr))
        · rcases List.mem_cons.mp hr with rfl | hr
          · exact hle
          · exact UInt8.le_trans hle (hpost r hr)

theorem foldl_betterProtocol (offers : List AppProtocol) (best : ℕ × ℤ) :
    offers.foldl betterProtocol best = match preferredOffer offers with
      | none => best
      | some p => if p.priority.toNat < best.1 then (p.priority.toNat, (p.schemaId.toNat : ℤ))
          else best := by
  induction offers generalizing best with
  | nil => rfl
  | cons a as ih =>
    rw [List.foldl_cons, ih, preferredOffer_cons]
    unfold betterProtocol
    cases preferredOffer as with
    | none => rfl
    | some q =>
      by_cases hq : q.priority.toNat < a.priority.toNat
      · by_cases ha : a.priority.toNat < best.1
        · simp only [if_pos ha, if_pos hq, if_pos (hq.trans ha)]
        · simp only [if_neg ha, if_pos hq]
      · by_cases ha : a.priority.toNat < best.1
        · simp only [if_pos ha, if_neg hq]
        · simp only [if_neg ha, if_neg hq, if_neg (show ¬q.priority.toNat < best.1 by omega)]

def answeredSchema (offers : List AppProtocol) : Byte :=
  match preferredOffer offers with
  | none => 1
  | some p => p.schemaId

theorem choose_eq {doc : AppHandDocument} {offers : List AppProtocol}
    (hreq : doc.supportedAppProtocolReq = some offers) :
    chooseSupportedAppProtocolSchema doc = (answeredSchema offers).toNat := by
  cases offers with
  | nil => simp only [chooseSupportedAppProtocolSchema, hreq]; rfl
  | cons a as =>
    obtain ⟨p, hp⟩ := exists_preferredOffer (List.cons_ne_nil a as)
    have hlt := p.priority.toNat_lt
    simp only [chooseSupportedAppProtocolSchema, hreq, foldl_betterProtocol, answeredSchema, hp]
    rw [if_pos (by omega)]

/-- The payload `data[0..len)` decodes to a SupportedAppProtocolReq with these offers. -/
def OffersProtocols (codec : Codec) (data : List Byte) (len : ℤ) (offers : List AppProtocol) :
    Prop :=
  0 < len ∧ (codec.decodeAppHandExiDocument (data.take len.toNat)).1 = 0 ∧
    (codec.decodeAppHandExiDocument (data.take len.toNat)).2.supportedAppProtocolReq = some offers

def decodeAll (codec : Codec) (st : ExiStatics) (payloads : List (List Byte × ℤ)) : ExiStatics :=
  payloads.foldl (fun st p => (exiDecodeMessage codec st p.1 p.2).2) st

section history
variable {codec : Codec} {data : List Byte} {len : ℤ} {offers : List AppProtocol}

theorem exiDecodeMessage_of_offers (h : OffersProtocols codec data len offers) (st : ExiStatics) :
    exiDecodeMessage codec st data len = (.supportedAppProtocol,
      { selectedSchema := chooseSupportedAppProtocolSchema
          (codec.decodeAppHandExiDocument (data.take len.toNat)).2
        selectedValid := true }) := by
  obtain ⟨hlen, herr, hreq⟩ := h
  have hsome : (codec.decodeAppHandExiDocument
      (data.take len.toNat)).2.supportedAppProtocolReq.isSome = true := by rw [hreq]; rfl
  simp only [exiDecodeMessage]
  rw [if_neg (by omega), if_pos ⟨herr, hsome⟩]

theorem exiDecodeMessage_of_other (hlen : 0 < len)
    (h : ∀ offers, ¬OffersProtocols codec data len offers) (st : ExiStatics) :
    (exiDecodeMessage codec st data len).2.selectedValid = false := by
  simp only [exiDecodeMessage]
  rw [if_neg (by omega)]
  split_ifs with happ
  · obtain ⟨offers, ho⟩ := Option.isSome_iff_exists.mp happ.2
    exact absurd ⟨hlen, happ.1, ho⟩ (h offers)
  · rfl
  · rfl

theorem classifyMessage_ne_supportedAppProtocol (doc : Iso1Document) :
    classifyMessage doc ≠ .supportedAppProtocol := by
  have hite : ∀ {c : Bool} {a b : ExiMsgType}, a ≠ .supportedAppProtocol →
      b ≠ .supportedAppProtocol → (if c then a else b) ≠ .supportedAppProtocol := by
    intro c a b ha hb
    cases c
    · exact hb
    · exact ha
  unfold classifyMessage
  repeat' apply hite
  all_goals decide

theorem offers_of_supportedAppProtocol {st : ExiStatics}
    (h : (exiDecodeMessage codec st data len).1 = .supportedAppProtocol) :
    ∃ offers, OffersProtocols codec data len offers := by
  by_contra hno
  simp only [exiDecodeMessage] at h
  split_ifs at h with hlen happ hiso
  · obtain ⟨offers, ho⟩ := Option.isSome_iff_exists.mp happ.2
    exact hno ⟨offers, by omega, happ.1, ho⟩
  · exact classifyMessage_ne_supportedAppProtocol _ h

theorem schema_of_offers (h : OffersProtocols codec data len offers) (st : ExiStatics) :
    exiGetSupportedAppProtocolSchema (exiDecodeMessage codec st data len).2 =
      (answeredSchema offers).toNat := by
  rw [exiDecodeMessage_of_offers h]
  exact choose_eq h.2.2

/-- `OK_SuccessfulNegotiation` with this SchemaID. -/
def acceptingRes (id : Byte) : SupportedAppProtocolRes := ⟨.okSuccessfulNegotiation, some id⟩

theorem supportedAppProtocolResDoc_of_schema {st : ExiStatics} {id : Byte}
    (h : exiGetSupportedAppProtocolSchema st = id.toNat) :
    supportedAppProtocolResDoc st = { supportedAppProtocolRes := some (acceptingRes id) } := by
  have hid := id.toNat_lt
  have hbyte : UInt8.ofNat ((id.toNat : ℤ) % 256).toNat = id := by
    rw [Int.emod_eq_of_lt (by omega) (by omega), Int.toNat_natCast, UInt8.ofNat_toNat]
  rw [supportedAppProtocolResDoc, h, hbyte, acceptingRes]

/-- The response to what was decoded is this one, whatever the context, and nothing else is
encoded. -/
def AnsweredWith (codec : Codec) (decoded : ExiMsgType × ExiStatics)
    (res : SupportedAppProtocolRes) : Prop :=
  ∀ head out,
    resDocument decoded.2 head decoded.1 =
      some (.appHand { supportedAppProtocolRes := some res }) ∧
    seccBuildResponse codec decoded.2 head decoded.1 out =
      encodeResponse codec (fun stream => codec.encodeAppHandExiDocument stream
        { supportedAppProtocolRes := some res }) 0x00 verifySupportedAppProtocolResponse out

theorem answeredWith_of_offers (h : OffersProtocols codec data len offers) (st : ExiStatics) :
    AnsweredWith codec (exiDecodeMessage codec st data len)
      (acceptingRes (answeredSchema offers)) := by
  have hdoc := supportedAppProtocolResDoc_of_schema (schema_of_offers h st)
  have htype : (exiDecodeMessage codec st data len).1 = .supportedAppProtocol := by
    rw [exiDecodeMessage_of_offers h]
  intro head out
  rw [htype, resDocument, seccBuildResponse, buildSupportedAppProtocolRes, hdoc]
  exact ⟨rfl, rfl⟩

/-- An answer that accepts names an offer with this namespace. -/
def AcceptsNamespace (iso : List Byte) (offers : List AppProtocol)
    (res : SupportedAppProtocolRes) : Prop :=
  res.responseCode = .okSuccessfulNegotiation →
    ∃ p ∈ offers, p.protocolNamespace = iso ∧ res.schemaId = some p.schemaId

/-- An offer with this namespace has the SchemaID of the preferred one. -/
def PrefersNamespace (iso : List Byte) (offers : List AppProtocol) : Prop :=
  ∃ q, preferredOffer offers = some q ∧
    ∃ p ∈ offers, p.protocolNamespace = iso ∧ p.schemaId = q.schemaId

/-- With one SchemaID for each offer, the preferred one itself has the namespace. -/
theorem prefersNamespace_iff {iso : List Byte}
    (hid : ∀ p ∈ offers, ∀ q ∈ offers, p.schemaId = q.schemaId → p = q) :
    PrefersNamespace iso offers ↔
      ∃ q, preferredOffer offers = some q ∧ q.protocolNamespace = iso := by
  constructor
  · rintro ⟨q, hq, p, hp, hns, hschema⟩
    have heq : p = q := hid p hp q (preferredOffer_mem hq) hschema
    exact ⟨q, hq, heq ▸ hns⟩
  · rintro ⟨q, hq, hns⟩
    exact ⟨q, hq, q, preferredOffer_mem hq, hns, rfl⟩

theorem acceptsNamespace_iff (iso : List Byte) (offers : List AppProtocol) :
    AcceptsNamespace iso offers (acceptingRes (answeredSchema offers)) ↔
      PrefersNamespace iso offers := by
  constructor
  · intro h
    obtain ⟨p, hp, hns, hschema⟩ := h rfl
    obtain ⟨q, hq⟩ := exists_preferredOffer (List.ne_nil_of_mem hp)
    rw [acceptingRes, answeredSchema, hq] at hschema
    exact ⟨q, hq, p, hp, hns, (Option.some.inj hschema).symm⟩
  · rintro ⟨q, hq, p, hp, hns, hschema⟩ -
    refine ⟨p, hp, hns, ?_⟩
    rw [acceptingRes, answeredSchema, hq, hschema]

/-- Every answer in a session accepts, with the SchemaID of the offer preferred in the request
just decoded. -/
theorem supportedAppProtocolRes_of_session {τ : Type} {tlsWrite : τ → List Byte → ℤ × τ}
    {fuel : ℕ} {reads : List (List Byte)} {ctx : SeccContext} {world : SeccWorld τ}
    {pre post : List Event} {response : List Byte} {ret : ℤ}
    (h : sessionEvents (sessionCalls (seccMessageLayer codec tlsWrite) fuel reads ctx world) =
      pre ++ .write .supportedAppProtocol response ret :: post) :
    ∃ pre' start len payload offers, pre = pre' ++ [.decode start len payload] ∧
      OffersProtocols codec payload len offers ∧
      AnswersRequest codec ctx.sessionId payload len .supportedAppProtocol response
        (.appHand { supportedAppProtocolRes := some (acceptingRes (answeredSchema offers)) }) := by
  have hinv := roundInvariant_writesAnswer codec ctx.sessionId tlsWrite
  obtain ⟨-, hwrites⟩ := @RoundInvariant.session _ _ _ _ hinv fuel reads ctx world rfl
  obtain ⟨pre', start, len, payload, doc, hpre, st, htype, hdoc, hrest⟩ := hwrites _ _ _ _ _ h
  obtain ⟨offers, ho⟩ := offers_of_supportedAppProtocol htype
  have hsame := (answeredWith_of_offers ho st ctx.toSeccHead responseScratch).1
  rw [htype, hdoc ctx.toSeccHead rfl] at hsame
  obtain rfl := Option.some.inj hsame
  exact ⟨pre', start, len, payload, offers, hpre, ho, st, htype, hdoc, hrest⟩

end history

def isoNamespace : List Byte := asciiBytes "urn:iso:15118:2:2013:MsgDef"

def dinNamespace : List Byte := asciiBytes "urn:din:70121:2012:MsgDef"

def isoOffer : AppProtocol := ⟨isoNamespace, 2, 0, 1, 2⟩

def dinOffer : AppProtocol := ⟨dinNamespace, 2, 0, 2, 1⟩

/-- One-byte documents: 01 offers both protocols and prefers DIN, 02 offers DIN alone, 03 ISO
alone; 82 is the answer with SchemaID 2. -/
def offerCodec : Codec where
  decodeAppHandExiDocument data :=
    if data = [0x01] then (0, { supportedAppProtocolReq := some [isoOffer, dinOffer] })
    else if data = [0x02] then (0, { supportedAppProtocolReq := some [dinOffer] })
    else if data = [0x03] then (0, { supportedAppProtocolReq := some [isoOffer] })
    else if data = [0x82] then
      (0, { supportedAppProtocolRes := some (acceptingRes 2) })
    else (-1, {})
  decodeIso1ExiDocument _ := (-1, {})
  encodeAppHandExiDocument stream doc :=
    if doc.supportedAppProtocolRes = some (acceptingRes 2) then
      (0, { stream with data := overwrite stream.data 0 [0x82], pos := 1 })
    else (-1, stream)
  encodeIso1ExiDocument stream _ := (-1, stream)
  flush stream := (0, stream)

/-- While a request is answered the getter gives the SchemaID of its own first preferred offer;
after any later payload that is no such request, one. -/
theorem schema_belongs_to_request (codec : Codec) (st : ExiStatics)
    (earlier : List (List Byte × ℤ)) (data : List Byte) (len : ℤ) (offers : List AppProtocol)
    (hreq : OffersProtocols codec data len offers) (hne : offers ≠ []) :
    let decoded := exiDecodeMessage codec (decodeAll codec st earlier) data len
    decoded.1 = .supportedAppProtocol ∧
      (∃ pre p post, offers = pre ++ p :: post ∧ (∀ q ∈ pre, p.priority < q.priority) ∧
        (∀ q ∈ post, p.priority ≤ q.priority) ∧
        exiGetSupportedAppProtocolSchema decoded.2 = p.schemaId.toNat ∧
        AnsweredWith codec decoded (acceptingRes p.schemaId)) ∧
      ∀ (later : List (List Byte × ℤ)) (data' : List Byte) (len' : ℤ), 0 < len' →
        (∀ offers', ¬OffersProtocols codec data' len' offers') →
        exiGetSupportedAppProtocolSchema
          (exiDecodeMessage codec (decodeAll codec decoded.2 later) data' len').2 = 1 := by
  obtain ⟨p, hp⟩ := exists_preferredOffer hne
  obtain ⟨pre, post, hsplit, hpre, hpost⟩ := preferredOffer_split hp
  have hid : answeredSchema offers = p.schemaId := by
    rw [answeredSchema, hp]
  intro decoded
  have htype : decoded.1 = .supportedAppProtocol := by
    rw [show decoded = _ from exiDecodeMessage_of_offers hreq _]
  refine ⟨htype, ⟨pre, p, post, hsplit, hpre, hpost, ?_, ?_⟩, ?_⟩
  · rw [← hid]
    exact schema_of_offers hreq _
  · rw [← hid]
    exact answeredWith_of_offers hreq _
  · intro later data' len' hlen' hother
    rw [exiGetSupportedAppProtocolSchema, exiDecodeMessage_of_other hlen' hother]
    rfl

theorem schema_belongs_to_request_din :
    let decoded := exiDecodeMessage offerCodec (decodeAll offerCodec {} [([0x03], 1)]) [0x01] 1
    decoded.1 = .supportedAppProtocol ∧
      (∃ pre p post, [isoOffer, dinOffer] = pre ++ p :: post ∧
        (∀ q ∈ pre, p.priority < q.priority) ∧ (∀ q ∈ post, p.priority ≤ q.priority) ∧
        exiGetSupportedAppProtocolSchema decoded.2 = p.schemaId.toNat ∧
        AnsweredWith offerCodec decoded (acceptingRes p.schemaId)) ∧
      ∀ (later : List (List Byte × ℤ)) (data' : List Byte) (len' : ℤ), 0 < len' →
        (∀ offers', ¬OffersProtocols offerCodec data' len' offers') →
        exiGetSupportedAppProtocolSchema
          (exiDecodeMessage offerCodec (decodeAll offerCodec decoded.2 later) data' len').2 = 1 :=
  schema_belongs_to_request offerCodec {} [([0x03], 1)] [0x01] 1 [isoOffer, dinOffer]
    ⟨by decide, by decide, by decide⟩ (by decide)

/-- The answer is sound for the requests that prefer the namespace the decoder goes on with. -/
theorem negotiation_sound_iff (codec : Codec) (st : ExiStatics) (iso data : List Byte) (len : ℤ)
    (offers : List AppProtocol) (hreq : OffersProtocols codec data len offers) :
    let decoded := exiDecodeMessage codec st data len
    decoded.1 = .supportedAppProtocol ∧
      ∃ res, AnsweredWith codec decoded res ∧
        (AcceptsNamespace iso offers res ↔ PrefersNamespace iso offers) := by
  have htype : (exiDecodeMessage codec st data len).1 = .supportedAppProtocol := by
    rw [exiDecodeMessage_of_offers hreq]
  exact ⟨htype, _, answeredWith_of_offers hreq st, acceptsNamespace_iff iso offers⟩

theorem negotiation_sound_iff_din :
    let decoded := exiDecodeMessage offerCodec {} [0x01] 1
    decoded.1 = .supportedAppProtocol ∧
      ∃ res, AnsweredWith offerCodec decoded res ∧
        (AcceptsNamespace isoNamespace [isoOffer, dinOffer] res ↔
          PrefersNamespace isoNamespace [isoOffer, dinOffer]) :=
  negotiation_sound_iff offerCodec {} isoNamespace [0x01] 1 [isoOffer, dinOffer]
    ⟨by decide, by decide, by decide⟩

def dinRead : List Byte := [0x01, 0xFE, 0x80, 0x01, 0x00, 0x00, 0x00, 0x01, 0x02]

/-- DIN alone is offered, and what is sent accepts it. -/
theorem din_accepted :
    OffersProtocols offerCodec [0x02] 1 [dinOffer] ∧ dinOffer.protocolNamespace ≠ isoNamespace ∧
    (v2gProcessMessage (seccMessageLayer offerCodec fun net _ => (0, net)) 2049 dinRead .initial
      ⟨{}, ()⟩).events = [.header 0, .decode 8 1 [0x02], .write .supportedAppProtocol
        [0x01, 0xFE, 0x80, 0x01, 0x00, 0x00, 0x00, 0x01, 0x82] 0] ∧
    (offerCodec.decodeAppHandExiDocument [0x82]).2.supportedAppProtocolRes =
      some (acceptingRes 2) ∧
    ¬AcceptsNamespace isoNamespace [dinOffer] (acceptingRes 2) := by
  refine ⟨⟨by decide, by decide, by decide⟩, by decide, by decide +kernel, by decide, ?_⟩
  intro h
  obtain ⟨p, hp, hns, -⟩ := h rfl
  rw [List.mem_singleton.mp hp] at hns
  exact absurd hns (by decide)

end EvseIso15118
