import EvseIso15118.SessionRun
import EvseIso15118.SdpHandler
import EvseIso15118.TlsTransport

namespace EvseIso15118

/-- What is outside `secc_session_start`. -/
structure StartEnv where
  sdp : SdpEnv
  accept : AcceptEnv
  handshake : HandshakeEnv

/-- How far `secc_session_start` comes. -/
structure StartResult where
  /-- The return value; none while the handshake goes on. -/
  ret : Option ℤ
  session : SeccHead
  transport : TransportStatics
  sdp : SdpResult
  /-- A connection was accepted. -/
  accepted : Bool
  /-- `tls_handshake` was called. -/
  handshake : Bool

def seccSessionInit : SeccHead := SeccContext.initial.toSeccHead

/-- Phase 2 of `secc_session_start`: accept a connection in the mode and shake hands. -/
def seccSessionConnect (env : StartEnv) (sess : SeccHead) (st : TransportStatics)
    (sdp : SdpResult) : StartResult :=
  let accepted := tlsServerInitAndAcceptEx env.accept sess.transportMode.toInt st
  let sess := { sess with state := .tcpConnected, clientFd := accepted.1 }
  if accepted.1 < 0 then
    { ret := some (-1), session := { sess with state := .error }, transport := accepted.2
      sdp := sdp, accepted := false, handshake := false }
  else
    match tlsHandshake env.handshake with
    | none =>
      { ret := none, session := { sess with state := .tlsHandshake }, transport := accepted.2
        sdp := sdp, accepted := true, handshake := true }
    | some ret =>
      if ret ≠ 0 then
        { ret := some (-1), session := { sess with state := .error }
          transport := tlsClose accepted.2, sdp := sdp, accepted := true, handshake := true }
      else
        { ret := some 0, session := { sess with state := .sessionSetup }, transport := accepted.2
          sdp := sdp, accepted := true, handshake := true }

/-- `secc_session_start` with the arguments of its call of `secc_sdp_listen`. -/
def seccSessionStartWith (v2gPort : UInt16) (samePc : Bool) (env : StartEnv) (sess : SeccHead)
    (st : TransportStatics) : StartResult :=
  let sess := { sess with state := .idle }
  let sdp := seccSdpListen env.sdp v2gPort samePc
  if sdp.ret < 0 then
    { ret := some (-1), session := { sess with state := .error }, transport := st, sdp := sdp
      accepted := false, handshake := false }
  -- the mode does not depend on the exchange
  else seccSessionConnect env { sess with transportMode := .tls } st sdp

def seccSessionStart : StartEnv → SeccHead → TransportStatics → StartResult :=
  seccSessionStartWith 15118 false

/-- How far `secc_session_run` comes. -/
structure RunResult (ω : Type) where
  returned : Bool
  session : SeccContext
  world : ω

section run
variable {ω : Type} (L : MessageLayer ω) (fuel : ℕ)

/-- The loop of `secc_session_run` over these reads, one without bytes being the end of the
connection or an error. `running` is never cleared. -/
def sessionLoop : List (List Byte) → SeccContext → ω → RunResult ω
  | [], sess, world => ⟨false, sess, world⟩
  | c :: cs, sess, world =>
    let r := v2gProcessMessage L fuel c sess world
    match r.exit.ret with
    | none => ⟨false, r.ctx, r.world⟩
    | some ret =>
      if ret < 0 then ⟨true, { r.ctx with state := .error }, r.world⟩
      else sessionLoop cs r.ctx r.world

def seccSessionRun (reads : List (List Byte)) (sess : SeccContext) (world : ω) : RunResult ω :=
  sessionLoop L fuel reads { sess with state := .serviceDiscovery } world

end run

def seccSessionStop (sess : SeccHead) (st : TransportStatics) : SeccHead × TransportStatics :=
  if 0 ≤ sess.clientFd then ({ sess with state := .idle, clientFd := -1 }, tlsClose st)
  else ({ sess with state := .idle }, st)

theorem tlsClose_useTls (st : TransportStatics) : (tlsClose st).useTls = st.useTls := by
  unfold tlsClose
  split
  · rfl
  · split_ifs <;> rfl

theorem seccSessionConnect_spec (env : StartEnv) (sess : SeccHead) (st : TransportStatics)
    (sdp : SdpResult) :
    (seccSessionConnect env sess st sdp).transport.useTls = sess.transportMode.toInt ∧
      (seccSessionConnect env sess st sdp).sdp = sdp ∧
      (seccSessionConnect env sess st sdp).handshake =
        (seccSessionConnect env sess st sdp).accepted := by
  have huse := tlsServerInitAndAcceptEx_useTls env.accept sess.transportMode.toInt st
  by_cases ha : (tlsServerInitAndAcceptEx env.accept sess.transportMode.toInt st).1 < 0
  · simp [seccSessionConnect, ha, huse]
  · cases hh : tlsHandshake env.handshake with
    | none => simp [seccSessionConnect, ha, hh, huse]
    | some ret =>
      by_cases hret : ret = 0
      · simp [seccSessionConnect, ha, hh, hret, huse]
      · simp [seccSessionConnect, ha, hh, hret, tlsClose_useTls, huse]

end EvseIso15118
