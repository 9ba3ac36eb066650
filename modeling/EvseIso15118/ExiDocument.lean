import EvseIso15118.Octets

namespace EvseIso15118

structure AppProtocol where
  protocolNamespace : List Byte
  versionNumberMajor : UInt32
  versionNumberMinor : UInt32
  schemaId : Byte
  priority : Byte
  deriving DecidableEq

inductive AppHandResponseCode
  | okSuccessfulNegotiation
  | other (code : ℕ)
  deriving DecidableEq

structure SupportedAppProtocolRes where
  responseCode : AppHandResponseCode
  schemaId : Option Byte
  deriving DecidableEq

/-- The parts of `appHandEXIDocument` that are read or written. An element with its `_isUsed` flag
is an `Option`, an array with its `arrayLen` a list. -/
structure AppHandDocument where
  supportedAppProtocolReq : Option (List AppProtocol) := none
  supportedAppProtocolRes : Option SupportedAppProtocolRes := none
  deriving DecidableEq

inductive ResponseCode
  | ok
  | okNewSessionEstablished
  | other (code : ℕ)
  deriving DecidableEq

inductive UnitSymbol
  | a
  | v
  | w
  | other (code : ℕ)
  deriving DecidableEq

structure PhysicalValue where
  value : ℤ
  multiplier : ℤ
  unit : UnitSymbol
  deriving DecidableEq

inductive EvseProcessing
  | finished
  | ongoing
  deriving DecidableEq

/-- `iso1isolationLevelType_Invalid` and `iso1isolationLevelType_Valid`. -/
def isolationInvalid : ℕ := 0

def isolationValid : ℕ := 1

/-- `iso1DC_EVSEStatusCodeType_EVSE_Ready`. -/
def evseReady : ℕ := 1

structure DcEvseStatus where
  evseStatusCode : ℕ
  evseNotification : ℕ
  evseIsolationStatus : ℕ
  evseIsolationStatusIsUsed : Bool := false
  deriving DecidableEq

structure SessionSetupRes where
  responseCode : ResponseCode
  evseId : String
  deriving DecidableEq

inductive ServiceCategory
  | evCharging
  | other (code : ℕ)
  deriving DecidableEq

inductive EnergyTransferMode
  | dcExtended
  | other (code : ℕ)
  deriving DecidableEq

inductive PaymentOption
  | contract
  | externalPayment
  deriving DecidableEq

structure ChargeService where
  serviceId : ℕ
  serviceNameIsUsed : Bool
  serviceCategory : ServiceCategory
  serviceScopeIsUsed : Bool
  freeService : Bool
  supportedEnergyTransferMode : List EnergyTransferMode
  deriving DecidableEq

structure ServiceDiscoveryRes where
  responseCode : ResponseCode
  chargeService : ChargeService
  serviceListIsUsed : Bool
  paymentOptionList : List PaymentOption
  deriving DecidableEq

structure Parameter where
  name : String
  intValue : Option ℤ
  deriving DecidableEq

structure ParameterSet where
  parameterSetId : ℤ
  parameters : List Parameter
  deriving DecidableEq

structure ServiceDetailRes where
  responseCode : ResponseCode
  serviceId : ℕ
  serviceParameterList : Option (List ParameterSet)
  deriving DecidableEq

structure PaymentServiceSelectionRes where
  responseCode : ResponseCode
  deriving DecidableEq

structure AuthorizationRes where
  responseCode : ResponseCode
  evseProcessing : EvseProcessing
  deriving DecidableEq

structure DcEvseChargeParameter where
  evseMaximumCurrentLimit : PhysicalValue
  evseMaximumVoltageLimit : PhysicalValue
  evseMaximumPowerLimit : PhysicalValue
  evseMinimumVoltageLimit : PhysicalValue
  evseMinimumCurrentLimit : PhysicalValue
  evseCurrentRegulationTolerance : PhysicalValue
  evsePeakCurrentRipple : PhysicalValue
  dcEvseStatus : DcEvseStatus
  deriving DecidableEq

structure ChargeParameterDiscoveryRes where
  responseCode : ResponseCode
  evseProcessing : EvseProcessing
  acEvseChargeParameterIsUsed : Bool
  dcEvseChargeParameter : Option DcEvseChargeParameter
  deriving DecidableEq

structure CableCheckRes where
  responseCode : ResponseCode
  evseProcessing : EvseProcessing
  dcEvseStatus : DcEvseStatus
  deriving DecidableEq

structure PreChargeRes where
  responseCode : ResponseCode
  dcEvseStatus : DcEvseStatus
  evsePresentVoltage : PhysicalValue
  deriving DecidableEq

structure PowerDeliveryRes where
  responseCode : ResponseCode
  dcEvseStatus : Option DcEvseStatus
  deriving DecidableEq

structure CurrentDemandRes where
  responseCode : ResponseCode
  dcEvseStatus : DcEvseStatus
  evsePresentVoltage : PhysicalValue
  evsePresentCurrent : PhysicalValue
  evseMaximumVoltageLimit : PhysicalValue
  evseMaximumCurrentLimit : PhysicalValue
  evseMaximumPowerLimit : PhysicalValue
  saScheduleTupleId : ℕ
  evseId : String
  deriving DecidableEq

structure WeldingDetectionRes where
  responseCode : ResponseCode
  dcEvseStatus : DcEvseStatus
  evsePresentVoltage : PhysicalValue
  deriving DecidableEq

structure SessionStopRes where
  responseCode : ResponseCode
  deriving DecidableEq

/-- Of the requests only the `_isUsed` flags are read. -/
structure Iso1Body where
  sessionSetupReq : Bool := false
  serviceDiscoveryReq : Bool := false
  serviceDetailReq : Bool := false
  paymentServiceSelectionReq : Bool := false
  authorizationReq : Bool := false
  chargeParameterDiscoveryReq : Bool := false
  cableCheckReq : Bool := false
  preChargeReq : Bool := false
  currentDemandReq : Bool := false
  powerDeliveryReq : Bool := false
  weldingDetectionReq : Bool := false
  sessionStopReq : Bool := false
  sessionSetupRes : Option SessionSetupRes := none
  serviceDiscoveryRes : Option ServiceDiscoveryRes := none
  serviceDetailRes : Option ServiceDetailRes := none
  paymentServiceSelectionRes : Option PaymentServiceSelectionRes := none
  authorizationRes : Option AuthorizationRes := none
  chargeParameterDiscoveryRes : Option ChargeParameterDiscoveryRes := none
  cableCheckRes : Option CableCheckRes := none
  preChargeRes : Option PreChargeRes := none
  powerDeliveryRes : Option PowerDeliveryRes := none
  currentDemandRes : Option CurrentDemandRes := none
  weldingDetectionRes : Option WeldingDetectionRes := none
  sessionStopRes : Option SessionStopRes := none
  deriving DecidableEq

structure Iso1Header where
  sessionId : List Byte := []
  notificationIsUsed : Bool := false
  signatureIsUsed : Bool := false
  deriving DecidableEq

structure Iso1Document where
  v2gMessageIsUsed : Bool := false
  header : Iso1Header := {}
  body : Iso1Body := {}
  deriving DecidableEq

/-- OpenV2G's `bitstream_t` over a buffer of `data.length` bytes. -/
structure Bitstream where
  data : List Byte
  pos : ℕ
  buffer : Byte
  capacity : ℕ
  deriving DecidableEq

/-- Every function returns an error code, zero for success. A decoder reads the
bytes it is given and starts from a zeroed document. -/
structure Codec where
  decodeAppHandExiDocument : List Byte → ℤ × AppHandDocument
  decodeIso1ExiDocument : List Byte → ℤ × Iso1Document
  encodeAppHandExiDocument : Bitstream → AppHandDocument → ℤ × Bitstream
  encodeIso1ExiDocument : Bitstream → Iso1Document → ℤ × Bitstream
  flush : Bitstream → ℤ × Bitstream

end EvseIso15118
