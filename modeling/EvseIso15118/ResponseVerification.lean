import EvseIso15118.ResponseFraming

namespace EvseIso15118

/-- The ResponseCode of the element paired with a request type, if a document uses it. -/
def Iso1Body.responseCode (body : Iso1Body) : ExiMsgType → Option ResponseCode
  | .sessionSetup => body.sessionSetupRes.map SessionSetupRes.responseCode
  | .serviceDiscovery => body.serviceDiscoveryRes.map ServiceDiscoveryRes.responseCode
  | .serviceDetail => body.serviceDetailRes.map ServiceDetailRes.responseCode
  | .paymentServiceSelection =>
    body.paymentServiceSelectionRes.map PaymentServiceSelectionRes.responseCode
  | .authorization => body.authorizationRes.map AuthorizationRes.responseCode
  | .chargeParameterDiscovery =>
    body.chargeParameterDiscoveryRes.map ChargeParameterDiscoveryRes.responseCode
  | .cableCheck => body.cableCheckRes.map CableCheckRes.responseCode
  | .preCharge => body.preChargeRes.map PreChargeRes.responseCode
  | .powerDelivery => body.powerDeliveryRes.map PowerDeliveryRes.responseCode
  | .currentDemand => body.currentDemandRes.map CurrentDemandRes.responseCode
  | .weldingDetection => body.weldingDetectionRes.map WeldingDetectionRes.responseCode
  | .sessionStop => body.sessionStopRes.map SessionStopRes.responseCode
  | .supportedAppProtocol | .unknown => none

def Iso1Document.responseCode (doc : Iso1Document) (reqType : ExiMsgType) :
    Option ResponseCode :=
  if doc.v2gMessageIsUsed then doc.body.responseCode reqType else none

def AppHandDocument.responseCode (doc : AppHandDocument) : Option AppHandResponseCode :=
  doc.supportedAppProtocolRes.map SupportedAppProtocolRes.responseCode

/-- Decoding gives a document that uses the element of the request, with the code of `built`. -/
def DecodesBack (codec : Codec) (reqType : ExiMsgType) (exi : List Byte) : ResDocument → Prop
  | .appHand built => (codec.decodeAppHandExiDocument exi).1 = 0 ∧
      built.responseCode.isSome ∧
      (codec.decodeAppHandExiDocument exi).2.responseCode = built.responseCode
  | .iso1 built => (codec.decodeIso1ExiDocument exi).1 = 0 ∧
      (built.responseCode reqType).isSome ∧
      (codec.decodeIso1ExiDocument exi).2.responseCode reqType = built.responseCode reqType

def ResponseBuffer.payload (out : ResponseBuffer) : List Byte :=
  (out.bytes.drop 8).take (out.len - 8).toNat

/-- Whatever the codec: a response is rejected, or its payload decodes back. -/
def SelfCheckSound (st : ExiStatics) (ctx : SeccHead) (reqType : ExiMsgType) : Prop :=
  ∀ codec : Codec, codec.WritesInside → ∀ out : ResponseBuffer,
    (seccBuildResponse codec st ctx reqType out).1 = -1 ∨
      (seccBuildResponse codec st ctx reqType out).1 = 0 ∧
        ∃ doc, resDocument st ctx reqType = some doc ∧
          DecodesBack codec reqType (seccBuildResponse codec st ctx reqType out).2.payload doc

/-- What the builder of a request type calls, or has written out. -/
def verifyResponse : ExiMsgType → Codec → List Byte → ℤ
  | .supportedAppProtocol => verifySupportedAppProtocolResponse
  | .sessionSetup => verifySessionSetupResponse
  | .serviceDiscovery => verifyServiceDiscoveryResponse
  | .serviceDetail => verifyServiceDetailResponse
  | .paymentServiceSelection => verifyPaymentServiceSelectionResponse
  | .authorization => verifyAuthorizationResponse
  | .chargeParameterDiscovery => verifyChargeParameterDiscoveryResponse
  | .cableCheck => verifyCableCheckResponse
  | .preCharge => verifyPreChargeResponse
  | .powerDelivery => verifyPowerDeliveryResponse
  | .currentDemand => verifyCurrentDemandResponse
  | .weldingDetection => verifyWeldingDetectionResponse
  | .sessionStop => verifySessionStopResponse
  | .unknown => fun _ _ => -1

section checks
variable {codec : Codec} {st : ExiStatics} {ctx : SeccHead} {reqType : ExiMsgType}
  {exi : List Byte}

/-- SessionSetupRes is the one response of which all is compared. -/
theorem verifySessionSetupResponse_eq_zero :
    verifySessionSetupResponse codec exi = 0 ↔
      (codec.decodeIso1ExiDocument exi).1 = 0 ∧
      (codec.decodeIso1ExiDocument exi).2.responseCode .sessionSetup =
        some .okNewSessionEstablished := by
  unfold verifySessionSetupResponse Iso1Document.responseCode Iso1Body.responseCode
  by_cases herr : (codec.decodeIso1ExiDocument exi).1 = 0
  · simp only [ne_eq, herr, not_true_eq_false, if_false, true_and]
    cases hused : (codec.decodeIso1ExiDocument exi).2.v2gMessageIsUsed
    · simp
    · cases hres : (codec.decodeIso1ExiDocument exi).2.body.sessionSetupRes
      · simp
      · simp
  · simp [herr]

theorem seccBuildResponse_eq_verify (hknown : reqType ≠ .unknown) :
    ∃ doc, resDocument st ctx reqType = some doc ∧ ∀ out,
      seccBuildResponse codec st ctx reqType out =
        encodeResponse codec (doc.encode codec) (exiFill reqType) (verifyResponse reqType) out := by
  cases reqType
  case unknown => exact absurd rfl hknown
  all_goals exact ⟨_, rfl, fun _ => rfl⟩

theorem ResponseBuffer.payload_put (out : ResponseBuffer) (f : V2gtpFrame) :
    (out.put f).payload = f.payload := by
  have hlen : ((out.put f).len - 8).toNat = f.payload.length := by
    change ((f.toBytes.length : ℤ) - 8).toNat = _
    rw [V2gtpFrame.toBytes_length]
    omega
  rw [ResponseBuffer.payload, hlen]
  exact ResponseBuffer.put_payload

theorem seccBuildResponse_verified (h : codec.WritesInside) (hknown : reqType ≠ .unknown)
    (out : ResponseBuffer) :
    (seccBuildResponse codec st ctx reqType out).1 = -1 ∨
      (seccBuildResponse codec st ctx reqType out).1 = 0 ∧
        verifyResponse reqType codec (seccBuildResponse codec st ctx reqType out).2.payload =
          0 := by
  obtain ⟨doc, _, hbuild⟩ := @seccBuildResponse_eq_verify codec st ctx reqType hknown
  rw [hbuild]
  rcases encodeResponse_cases h doc (exiFill reqType) (verifyResponse reqType) out with
    hfail | ⟨exi, hfits, _, hverify, _, hput⟩
  · exact .inl (by rw [hfail])
  · right
    rw [hput, ResponseBuffer.payload_put]
    exact ⟨rfl, hverify⟩

end checks

/-- Whatever is encoded comes back as a ServiceDetailRes with another code, or as a
supportedAppProtocolRes with another code. -/
def strayCodec : Codec where
  encodeAppHandExiDocument stream _ := (0, stream)
  encodeIso1ExiDocument stream _ := (0, stream)
  flush stream := (0, stream)
  decodeAppHandExiDocument _ :=
    (0, { supportedAppProtocolRes := some ⟨.other 1, none⟩ })
  decodeIso1ExiDocument _ :=
    (0, { v2gMessageIsUsed := true
          body := { serviceDetailRes := some ⟨.other 1, 1, none⟩ } })

theorem strayCodec_writesInside : strayCodec.WritesInside where
  appHand _ _ _ hdata hpos := ⟨hdata, hpos⟩
  iso1 _ _ _ hdata hpos := ⟨hdata, hpos⟩
  flush _ _ hdata hpos := ⟨hdata, hpos⟩

section stray
variable {st : ExiStatics} {ctx : SeccHead} {reqType : ExiMsgType}

theorem strayCodec_passes (hknown : reqType ≠ .unknown) (hsetup : reqType ≠ .sessionSetup)
    (out : ResponseBuffer) : (seccBuildResponse strayCodec st ctx reqType out).1 = 0 := by
  obtain ⟨doc, _, hbuild⟩ := @seccBuildResponse_eq_verify strayCodec st ctx reqType hknown
  have hverify : ∀ exi, verifyResponse reqType strayCodec exi = 0 := by
    intro exi
    cases reqType
    case unknown => exact absurd rfl hknown
    case sessionSetup => exact absurd rfl hsetup
    all_goals rfl
  have hencode : (doc.encode strayCodec (exiStream (exiFill reqType))).1 = 0 := by
    cases doc <;> rfl
  have hflush : ∀ stream, (strayCodec.flush stream).1 = 0 := fun _ => rfl
  simp only [hbuild, encodeResponse, hencode, hflush, hverify, ne_eq, not_true_eq_false, if_false]

theorem strayCodec_not_decodesBack {doc : ResDocument}
    (hdoc : resDocument st ctx reqType = some doc) (exi : List Byte) :
    ¬ DecodesBack strayCodec reqType exi doc := by
  cases reqType <;> cases hdoc
  all_goals
    rintro ⟨_, _, hcode⟩
    cases hcode

theorem not_selfCheckSound (hknown : reqType ≠ .unknown) (hsetup : reqType ≠ .sessionSetup) :
    ¬ SelfCheckSound st ctx reqType := by
  intro h
  have hpass := @strayCodec_passes st ctx reqType hknown hsetup responseScratch
  rcases h strayCodec strayCodec_writesInside responseScratch with hfail | ⟨_, doc, hdoc, hback⟩
  · rw [hpass] at hfail
    cases hfail
  · exact strayCodec_not_decodesBack hdoc _ hback

end stray

/-- The check is sound for SessionSetupRes alone, and where nothing is built. -/
theorem selfCheckSound_iff (st : ExiStatics) (ctx : SeccHead) (reqType : ExiMsgType) :
    SelfCheckSound st ctx reqType ↔ reqType = .sessionSetup ∨ reqType = .unknown := by
  constructor
  · intro h
    by_contra hother
    rw [not_or] at hother
    exact not_selfCheckSound hother.2 hother.1 h
  · rintro (rfl | rfl) codec hcodec out
    · refine (seccBuildResponse_verified hcodec (by simp) out).imp_right ?_
      rintro ⟨hok, hverify⟩
      apply verifySessionSetupResponse_eq_zero.mp at hverify
      exact ⟨hok, _, rfl, hverify.1, rfl, hverify.2⟩
    · exact .inl rfl

/-- A PowerDeliveryRes goes out whose payload is another message. -/
theorem stray_powerDelivery :
    let head := SeccContext.initial.toSeccHead
    let sent := seccBuildResponse strayCodec {} head .powerDelivery responseScratch
    sent.1 = 0 ∧
    (strayCodec.decodeIso1ExiDocument sent.2.payload).2.body.powerDeliveryRes = none ∧
    ¬ SelfCheckSound {} head .powerDelivery :=
  ⟨strayCodec_passes (by decide) (by decide) responseScratch, rfl,
    not_selfCheckSound (by decide) (by decide)⟩

end EvseIso15118
