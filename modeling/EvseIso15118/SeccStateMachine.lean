import EvseIso15118.ExiDecoder
import EvseIso15118.SeccContext

namespace EvseIso15118

/-- `secc_state_transition`: no test of the state before. -/
def seccStateTransition (ctx : SeccContext) (newState : SeccState) : SeccContext :=
  { ctx with state := newState }

/-- The state a message type leads to, the default branch being the error state. -/
def routedState : ExiMsgType → SeccState
  | .sessionSetup => .sessionSetup
  | .serviceDiscovery => .serviceDiscovery
  | .paymentServiceSelection => .paymentSelection
  | .authorization => .authorization
  | .chargeParameterDiscovery => .chargeParameter
  | .cableCheck => .cableCheck
  | .preCharge => .precharge
  | .powerDelivery => .powerDelivery
  | .currentDemand => .currentDemand
  | .weldingDetection => .weldingDetection
  | .sessionStop => .sessionStop
  | .unknown => .error
  | .supportedAppProtocol => .error
  | .serviceDetail => .error

/-- `secc_handle_v2g_message`; the handlers it calls only print. -/
def seccHandleV2gMessage (ctx : SeccContext) (msgType : ExiMsgType) : SeccContext :=
  seccStateTransition ctx (routedState msgType)

/-- `v2g_handle_supported_app_protocol`, a stub. -/
def v2gHandleSupportedAppProtocol (ctx : SeccContext) : SeccContext := ctx

/-- What `v2g_process_message` does to the context once the type is known. -/
def handleRequest (ctx : SeccContext) (msgType : ExiMsgType) : SeccContext :=
  if msgType = .supportedAppProtocol then v2gHandleSupportedAppProtocol ctx
  else seccHandleV2gMessage ctx msgType

@[simp] theorem handleRequest_recv (ctx : SeccContext) (msgType : ExiMsgType) :
    (handleRequest ctx msgType).recv = ctx.recv := by
  unfold handleRequest
  split_ifs <;> rfl

@[simp] theorem handleRequest_sessionId (ctx : SeccContext) (msgType : ExiMsgType) :
    (handleRequest ctx msgType).sessionId = ctx.sessionId := by
  unfold handleRequest
  split_ifs <;> rfl

end EvseIso15118
