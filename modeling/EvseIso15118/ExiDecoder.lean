import EvseIso15118.ExiDocument

namespace EvseIso15118

/-- `exi_msg_type_t`. -/
inductive ExiMsgType
  | unknown
  | supportedAppProtocol
  | sessionSetup
  | serviceDiscovery
  | serviceDetail
  | paymentServiceSelection
  | authorization
  | chargeParameterDiscovery
  | cableCheck
  | preCharge
  | powerDelivery
  | currentDemand
  | weldingDetection
  | sessionStop
  deriving DecidableEq

/-- The static variables `selected_supported_app_protocol_schema` and `_valid`. -/
structure ExiStatics where
  selectedSchema : ℤ := 1
  selectedValid : Bool := false
  deriving DecidableEq

/-- One round of the search: the best priority so far and its schema. -/
def betterProtocol (best : ℕ × ℤ) (p : AppProtocol) : ℕ × ℤ :=
  if p.priority.toNat < best.1 then (p.priority.toNat, p.schemaId.toNat) else best

def chooseSupportedAppProtocolSchema (doc : AppHandDocument) : ℤ :=
  match doc.supportedAppProtocolReq with
  | none => 1
  | some [] => 1
  | some (p :: ps) => ((p :: ps).foldl betterProtocol (4294967295, p.schemaId.toNat)).2

def exiGetSupportedAppProtocolSchema (st : ExiStatics) : ℤ :=
  if st.selectedValid then st.selectedSchema else 1

/-- The request type of an ISO 15118-2 document: the first flag that is set. -/
def classifyMessage (doc : Iso1Document) : ExiMsgType :=
  if doc.v2gMessageIsUsed then
    if doc.body.sessionSetupReq then .sessionSetup
    else if doc.body.serviceDiscoveryReq then .serviceDiscovery
    else if doc.body.serviceDetailReq then .serviceDetail
    else if doc.body.paymentServiceSelectionReq then .paymentServiceSelection
    else if doc.body.authorizationReq then .authorization
    else if doc.body.chargeParameterDiscoveryReq then .chargeParameterDiscovery
    else if doc.body.cableCheckReq then .cableCheck
    else if doc.body.preChargeReq then .preCharge
    else if doc.body.currentDemandReq then .currentDemand
    else if doc.body.powerDeliveryReq then .powerDelivery
    else if doc.body.weldingDetectionReq then .weldingDetection
    else if doc.body.sessionStopReq then .sessionStop
    else .unknown
  else .unknown

/-- `exi_decode_message` on a non-null pointer: first as a SupportedAppProtocolReq,
then as an ISO 15118-2 document. -/
def exiDecodeMessage (codec : Codec) (st : ExiStatics) (data : List Byte) (len : ℤ) :
    ExiMsgType × ExiStatics :=
  if len ≤ 0 then (.unknown, st)
  else
    let payload := data.take len.toNat
    let app := codec.decodeAppHandExiDocument payload
    if app.1 = 0 ∧ app.2.supportedAppProtocolReq.isSome then
      (.supportedAppProtocol,
        { selectedSchema := chooseSupportedAppProtocolSchema app.2, selectedValid := true })
    else
      let st := { st with selectedValid := false }
      let iso := codec.decodeIso1ExiDocument payload
      if iso.1 ≠ 0 then (.unknown, st) else (classifyMessage iso.2, st)

theorem exiDecodeMessage_of_nonpos (codec : Codec) (st : ExiStatics) (data : List Byte) {len : ℤ}
    (h : len ≤ 0) : exiDecodeMessage codec st data len = (.unknown, st) := by
  simp [exiDecodeMessage, h]

end EvseIso15118
