import EvseIso15118.ExiDecoder
import EvseIso15118.SeccContext

namespace EvseIso15118

/-- The checks most `verify_…_response` functions make: the decoder's error code. -/
def verifyDecodes (codec : Codec) (exi : List Byte) : ℤ :=
  if (codec.decodeIso1ExiDocument exi).1 ≠ 0 then -1 else 0

def verifySessionSetupResponse (codec : Codec) (exi : List Byte) : ℤ :=
  let decoded := codec.decodeIso1ExiDocument exi
  if decoded.1 ≠ 0 then -1
  else if decoded.2.v2gMessageIsUsed = false then -1
  else match decoded.2.body.sessionSetupRes with
    | none => -1
    | some res => if res.responseCode ≠ .okNewSessionEstablished then -1 else 0

def verifyServiceDiscoveryResponse := verifyDecodes

/-- Written out in `build_service_detail_res`. -/
def verifyServiceDetailResponse (codec : Codec) (exi : List Byte) : ℤ :=
  let decoded := codec.decodeIso1ExiDocument exi
  if decoded.1 ≠ 0 then -1 else if decoded.2.body.serviceDetailRes.isNone then -1 else 0

def verifyPaymentServiceSelectionResponse := verifyDecodes

def verifyAuthorizationResponse := verifyDecodes

def verifyChargeParameterDiscoveryResponse := verifyDecodes

def verifyCableCheckResponse := verifyDecodes

def verifyPreChargeResponse := verifyDecodes

def verifyCurrentDemandResponse := verifyDecodes

def verifyPowerDeliveryResponse := verifyDecodes

def verifySessionStopResponse := verifyDecodes

def verifyWeldingDetectionResponse := verifyDecodes

/-- Written out in `build_supported_app_protocol_res`. -/
def verifySupportedAppProtocolResponse (codec : Codec) (exi : List Byte) : ℤ :=
  let decoded := codec.decodeAppHandExiDocument exi
  if decoded.1 ≠ 0 then -1 else if decoded.2.supportedAppProtocolRes.isNone then -1 else 0

/-- `response[2048]` and `response_len`. -/
structure ResponseBuffer where
  bytes : List Byte
  len : ℤ
  deriving DecidableEq

/-- The bytes `response[0..response_len)`. -/
def ResponseBuffer.written (out : ResponseBuffer) : List Byte := out.bytes.take out.len.toNat

def writeV2gtpHeader (buf : List Byte) (payloadLen : UInt32) : List Byte :=
  overwrite buf 0 ([0x01, 0xFE, 0x80, 0x01] ++ be32Bytes payloadLen)

/-- The stream over `exi_buf[1024]`, filled with one byte. -/
def exiStream (fill : Byte) : Bitstream where
  data := List.replicate 1024 fill
  pos := 0
  buffer := 0
  capacity := 8

/-- Encode, flush, decode back, wrap: how every `build_…_res` ends. -/
def encodeResponse (codec : Codec) (encode : Bitstream → ℤ × Bitstream) (fill : Byte)
    (verify : Codec → List Byte → ℤ) (out : ResponseBuffer) : ℤ × ResponseBuffer :=
  let encoded := encode (exiStream fill)
  if encoded.1 ≠ 0 then (-1, out)
  else
    let flushed := codec.flush encoded.2
    if flushed.1 ≠ 0 then (-1, out)
    else
      let exiLen := flushed.2.pos
      let exi := flushed.2.data.take exiLen
      if verify codec exi ≠ 0 then (-1, out)
      else (0,
        { bytes := overwrite (writeV2gtpHeader out.bytes (UInt32.ofNat exiLen)) 8 exi
          len := 8 + exiLen })

/-- `SessionID.bytes[7 - i] = (sid >> (i * 8)) & 0xFF`. -/
def sessionIdBytes (sessionId : UInt32) : List Byte :=
  let sid := sessionId.toUInt64
  [(sid >>> 56 &&& 0xFF).toUInt8, (sid >>> 48 &&& 0xFF).toUInt8, (sid >>> 40 &&& 0xFF).toUInt8,
    (sid >>> 32 &&& 0xFF).toUInt8, (sid >>> 24 &&& 0xFF).toUInt8, (sid >>> 16 &&& 0xFF).toUInt8,
    (sid >>> 8 &&& 0xFF).toUInt8, (sid &&& 0xFF).toUInt8]

def responseDocument (ctx : SeccHead) (body : Iso1Body) : Iso1Document where
  v2gMessageIsUsed := true
  header := { sessionId := sessionIdBytes ctx.sessionId }
  body := body

def sessionSetupResDoc (ctx : SeccHead) : Iso1Document :=
  responseDocument ctx
    { sessionSetupRes := some { responseCode := .okNewSessionEstablished, evseId := "SE012345" } }

def serviceDiscoveryResDoc (ctx : SeccHead) : Iso1Document :=
  responseDocument ctx { serviceDiscoveryRes := some {
    responseCode := .ok
    chargeService := {
      serviceId := 1
      serviceNameIsUsed := false
      serviceCategory := .evCharging
      serviceScopeIsUsed := false
      freeService := true
      supportedEnergyTransferMode := [.dcExtended] }
    serviceListIsUsed := false
    paymentOptionList := [.externalPayment] } }

def serviceDetailResDoc (ctx : SeccHead) : Iso1Document :=
  responseDocument ctx { serviceDetailRes := some {
    responseCode := .ok
    serviceId := 1
    serviceParameterList := some [
      { parameterSetId := 1
        parameters := [⟨"Connector", some 1⟩, ⟨"ControlMode", some 1⟩] },
      { parameterSetId := 2
        parameters := [⟨"MaxVoltage", some 500⟩, ⟨"MaxCurrent", some 125⟩] }] } }

def paymentServiceSelectionResDoc (ctx : SeccHead) : Iso1Document :=
  responseDocument ctx { paymentServiceSelectionRes := some { responseCode := .ok } }

def authorizationResDoc (ctx : SeccHead) : Iso1Document :=
  responseDocument ctx
    { authorizationRes := some { responseCode := .ok, evseProcessing := .finished } }

def chargeParameterDiscoveryResDoc (ctx : SeccHead) : Iso1Document :=
  responseDocument ctx { chargeParameterDiscoveryRes := some {
    responseCode := .ok
    evseProcessing := .finished
    acEvseChargeParameterIsUsed := false
    dcEvseChargeParameter := some {
      evseMaximumCurrentLimit := ⟨32, 1, .a⟩
      evseMaximumVoltageLimit := ⟨400, 1, .v⟩
      evseMaximumPowerLimit := ⟨11000, 1, .w⟩
      evseMinimumVoltageLimit := ⟨200, 1, .v⟩
      evseMinimumCurrentLimit := ⟨6, 1, .a⟩
      evseCurrentRegulationTolerance := ⟨1200, 1, .a⟩
      evsePeakCurrentRipple := ⟨10, 1, .a⟩
      dcEvseStatus := {
        evseStatusCode := 1
        evseNotification := 1
        evseIsolationStatus := 1 } } } }

def cableCheckResDoc (ctx : SeccHead) : Iso1Document :=
  responseDocument ctx { cableCheckRes := some {
    responseCode := .ok
    evseProcessing := .finished
    dcEvseStatus := {
      evseStatusCode := 1
      evseNotification := 1
      evseIsolationStatus := isolationValid } } }

def preChargeResDoc (ctx : SeccHead) : Iso1Document :=
  responseDocument ctx { preChargeRes := some {
    responseCode := .ok
    dcEvseStatus := {
      evseStatusCode := 1
      evseNotification := 0
      evseIsolationStatus := isolationValid }
    evsePresentVoltage := ⟨400, 0, .v⟩ } }

def powerDeliveryResDoc (ctx : SeccHead) : Iso1Document :=
  responseDocument ctx { powerDeliveryRes := some {
    responseCode := .ok
    dcEvseStatus := some {
      evseStatusCode := evseReady
      evseNotification := 0
      evseIsolationStatus := isolationValid
      evseIsolationStatusIsUsed := true } } }

def currentDemandResDoc (ctx : SeccHead) : Iso1Document :=
  responseDocument ctx { currentDemandRes := some {
    responseCode := .ok
    dcEvseStatus := {
      evseStatusCode := 1
      evseNotification := 0
      evseIsolationStatus := isolationValid
      evseIsolationStatusIsUsed := true }
    evsePresentVoltage := ⟨400, 0, .v⟩
    evsePresentCurrent := ⟨16, 0, .a⟩
    evseMaximumVoltageLimit := ⟨1000, 0, .v⟩
    evseMaximumCurrentLimit := ⟨32, 0, .a⟩
    evseMaximumPowerLimit := ⟨11000, 0, .w⟩
    saScheduleTupleId := 1
    evseId := "EVSE0012" } }

def weldingDetectionResDoc (ctx : SeccHead) : Iso1Document :=
  responseDocument ctx { weldingDetectionRes := some {
    responseCode := .ok
    dcEvseStatus := {
      evseStatusCode := 1
      evseNotification := 0
      evseIsolationStatus := isolationInvalid }
    evsePresentVoltage := ⟨40, 0, .v⟩ } }

def sessionStopResDoc (ctx : SeccHead) : Iso1Document :=
  responseDocument ctx { sessionStopRes := some { responseCode := .ok } }

def buildIso1Res (codec : Codec) (doc : Iso1Document) (fill : Byte)
    (verify : Codec → List Byte → ℤ) (out : ResponseBuffer) : ℤ × ResponseBuffer :=
  encodeResponse codec (fun stream => codec.encodeIso1ExiDocument stream doc) fill verify out

def supportedAppProtocolResDoc (st : ExiStatics) : AppHandDocument where
  supportedAppProtocolRes := some
    { responseCode := .okSuccessfulNegotiation
      schemaId := some (UInt8.ofNat (exiGetSupportedAppProtocolSchema st % 256).toNat) }

def buildSupportedAppProtocolRes (codec : Codec) (st : ExiStatics) (out : ResponseBuffer) :
    ℤ × ResponseBuffer :=
  encodeResponse codec
    (fun stream => codec.encodeAppHandExiDocument stream (supportedAppProtocolResDoc st)) 0x00
    verifySupportedAppProtocolResponse out

def buildSessionSetupRes (codec : Codec) (ctx : SeccHead) :=
  buildIso1Res codec (sessionSetupResDoc ctx) 0x00 verifySessionSetupResponse

def buildServiceDiscoveryRes (codec : Codec) (ctx : SeccHead) :=
  buildIso1Res codec (serviceDiscoveryResDoc ctx) 0xAA verifyServiceDiscoveryResponse

def buildServiceDetailRes (codec : Codec) (ctx : SeccHead) :=
  buildIso1Res codec (serviceDetailResDoc ctx) 0x00 verifyServiceDetailResponse

def buildPaymentServiceSelectionRes (codec : Codec) (ctx : SeccHead) :=
  buildIso1Res codec (paymentServiceSelectionResDoc ctx) 0x00 verifyPaymentServiceSelectionResponse

def buildAuthorizationRes (codec : Codec) (ctx : SeccHead) :=
  buildIso1Res codec (authorizationResDoc ctx) 0x00 verifyAuthorizationResponse

def buildChargeParameterDiscoveryRes (codec : Codec) (ctx : SeccHead) :=
  buildIso1Res codec (chargeParameterDiscoveryResDoc ctx) 0x00
    verifyChargeParameterDiscoveryResponse

def buildCableCheckRes (codec : Codec) (ctx : SeccHead) :=
  buildIso1Res codec (cableCheckResDoc ctx) 0x00 verifyCableCheckResponse

def buildPrechargeRes (codec : Codec) (ctx : SeccHead) :=
  buildIso1Res codec (preChargeResDoc ctx) 0x00 verifyPreChargeResponse

def buildPowerDeliveryRes (codec : Codec) (ctx : SeccHead) :=
  buildIso1Res codec (powerDeliveryResDoc ctx) 0x00 verifyPowerDeliveryResponse

def buildCurrentDemandRes (codec : Codec) (ctx : SeccHead) :=
  buildIso1Res codec (currentDemandResDoc ctx) 0x00 verifyCurrentDemandResponse

def buildWeldingDetectionRes (codec : Codec) (ctx : SeccHead) :=
  buildIso1Res codec (weldingDetectionResDoc ctx) 0x00 verifyWeldingDetectionResponse

def buildSessionStopRes (codec : Codec) (ctx : SeccHead) :=
  buildIso1Res codec (sessionStopResDoc ctx) 0x00 verifySessionStopResponse

def seccBuildResponse (codec : Codec) (st : ExiStatics) (ctx : SeccHead) (reqType : ExiMsgType)
    (out : ResponseBuffer) : ℤ × ResponseBuffer :=
  match reqType with
  | .supportedAppProtocol => buildSupportedAppProtocolRes codec st out
  | .sessionSetup => buildSessionSetupRes codec ctx out
  | .serviceDiscovery => buildServiceDiscoveryRes codec ctx out
  | .serviceDetail => buildServiceDetailRes codec ctx out
  | .paymentServiceSelection => buildPaymentServiceSelectionRes codec ctx out
  | .authorization => buildAuthorizationRes codec ctx out
  | .chargeParameterDiscovery => buildChargeParameterDiscoveryRes codec ctx out
  | .cableCheck => buildCableCheckRes codec ctx out
  | .preCharge => buildPrechargeRes codec ctx out
  | .powerDelivery => buildPowerDeliveryRes codec ctx out
  | .currentDemand => buildCurrentDemandRes codec ctx out
  | .weldingDetection => buildWeldingDetectionRes codec ctx out
  | .sessionStop => buildSessionStopRes codec ctx out
  | .unknown => (-1, out)

end EvseIso15118
