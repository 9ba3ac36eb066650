import EvseIso15118.SeccSession

namespace EvseIso15118

/-- If an SDP response went out, the session keeps to its security byte: 00 for TLS with a
handshake, 10 for plain TCP without. -/
def KeepsToSdp (r : StartResult) : Prop :=
  ∀ resp, r.sdp = ⟨0, some resp⟩ →
    (byteAt resp 26 = 0x00 → r.transport.channel = .tls ∧ r.handshake = r.accepted) ∧
    (byteAt resp 26 = 0x10 → r.transport.channel = .tcp ∧ r.handshake = false)

/-- The mode given to `tls_server_init_and_accept_ex` is the one it uses. -/
def KeepsToMode (env : AcceptEnv) (mode : TransportMode) (st : TransportStatics) : Prop :=
  (mode = .tls → (tlsServerInitAndAcceptEx env mode.toInt st).2.channel = .tls) ∧
  (mode = .nonTls → (tlsServerInitAndAcceptEx env mode.toInt st).2.channel = .tcp)

theorem channel_of_useTls_ne {st : TransportStatics} (h : st.useTls ≠ 0) : st.channel = .tls :=
  if_pos h

theorem keepsToMode_iff (env : AcceptEnv) (mode : TransportMode) (st : TransportStatics) :
    KeepsToMode env mode st ↔ mode ≠ .nonTls := by
  have huse := tlsServerInitAndAcceptEx_useTls env mode.toInt st
  cases mode
  case slac => simp [KeepsToMode]
  case tls =>
    have hc : (tlsServerInitAndAcceptEx env TransportMode.tls.toInt st).2.channel = .tls :=
      channel_of_useTls_ne (by rw [huse]; decide)
    simp [KeepsToMode, hc]
  case nonTls =>
    -- the value 2 is true
    have hc : (tlsServerInitAndAcceptEx env TransportMode.nonTls.toInt st).2.channel = .tls :=
      channel_of_useTls_ne (by rw [huse]; decide)
    simp [KeepsToMode, hc]

section start
variable {v2gPort : UInt16} {samePc : Bool} {env : StartEnv} (sess : SeccHead)
  (st : TransportStatics)

theorem seccSessionStartWith_of_sdp
    (h : (seccSdpListen env.sdp v2gPort samePc).ret = 0) :
    let r := seccSessionStartWith v2gPort samePc env sess st
    r.transport.channel = .tls ∧ r.handshake = r.accepted ∧
      r.sdp = seccSdpListen env.sdp v2gPort samePc := by
  intro r
  have hr : r = seccSessionConnect env { sess with state := .idle, transportMode := .tls } st
      (seccSdpListen env.sdp v2gPort samePc) :=
    if_neg (by rw [h]; decide)
  obtain ⟨huse, hsdp, hhand⟩ := seccSessionConnect_spec env
    { sess with state := .idle, transportMode := .tls } st
    (seccSdpListen env.sdp v2gPort samePc)
  rw [← hr] at huse hsdp hhand
  have htls : r.transport.useTls = 1 := huse
  exact ⟨channel_of_useTls_ne (by rw [htls]; decide), hhand, hsdp⟩

theorem seccSessionStartWith_sdp :
    (seccSessionStartWith v2gPort samePc env sess st).sdp =
      seccSdpListen env.sdp v2gPort samePc := by
  by_cases h : (seccSdpListen env.sdp v2gPort samePc).ret < 0
  · rw [seccSessionStartWith, if_pos h]
  · rw [seccSessionStartWith, if_neg h]
    exact (seccSessionConnect_spec _ _ _ _).2.1

theorem keepsToSdp_iff :
    KeepsToSdp (seccSessionStartWith v2gPort samePc env sess st) ↔
      ¬ env.sdp.Exchanges samePc 0x10 := by
  constructor
  · rintro h hex
    obtain ⟨ip6, hip⟩ := Option.isSome_iff_exists.mp hex.1
    have hsdp : seccSdpListen env.sdp v2gPort samePc =
        ⟨0, some (sdpBuildResponse ip6 v2gPort 0x10)⟩ :=
      seccSdpListen_iff.mpr ⟨ip6, 0x10, hip, hex, .inr rfl, rfl⟩
    have hret : (seccSdpListen env.sdp v2gPort samePc).ret = 0 := by rw [hsdp]
    obtain ⟨hchan, -, -⟩ := seccSessionStartWith_of_sdp sess st hret
    have hkeep := (h _ ((seccSessionStartWith_sdp sess st).trans hsdp)).2
      (byteAt_sdpBuildResponse _ _ _)
    rw [hchan] at hkeep
    cases hkeep.1
  · intro h resp hresp
    rw [seccSessionStartWith_sdp] at hresp
    have hret : (seccSdpListen env.sdp v2gPort samePc).ret = 0 := by rw [hresp]
    obtain ⟨ip6, security, -, hex, -, rfl⟩ := seccSdpListen_iff.mp hresp
    obtain ⟨hchan, hhand, -⟩ := seccSessionStartWith_of_sdp sess st hret
    refine ⟨fun _ => ⟨hchan, hhand⟩, fun h10 => ?_⟩
    rw [byteAt_sdpBuildResponse] at h10
    exact absurd (h10 ▸ hex) h

end start

/-- The session keeps to SDP, and the transport to its mode, exactly when no exchange for
plain TCP is completed and the mode is not TRANSPORT_MODE_NON_TLS. -/
theorem transport_agreement_iff (v2gPort : UInt16) (samePc : Bool) (env : StartEnv)
    (sess : SeccHead) (st : TransportStatics) (acceptEnv : AcceptEnv) (mode : TransportMode)
    (st' : TransportStatics) :
    (KeepsToSdp (seccSessionStartWith v2gPort samePc env sess st) ∧
        KeepsToMode acceptEnv mode st') ↔
      ¬ env.sdp.Exchanges samePc 0x10 ∧ mode ≠ .nonTls :=
  and_congr (keepsToSdp_iff sess st) (keepsToMode_iff acceptEnv mode st')

def plainTcpEnv : StartEnv where
  sdp := { linkLocal := some fun i => if i.val = 0 then 0xFE else if i.val = 1 then 0x80 else 0x01
           succeeds := fun _ => true
           datagram := some (sdpRequestBytes 0x10 0x00)
           sendResult := 28 }
  accept := { drbgSeed := 0, certParse := 0, keyParse := 0, netBind := 0, netListenFd := 3
              netAccept := 0, netClientFd := 4, socket := 3, setsockopt := 0, bind := 0
              listen := 0, accept := 4 }
  handshake := { sslSetup := 0, handshake := [0] }

/-- TLS is used after an exchange for plain TCP, and for the mode TRANSPORT_MODE_NON_TLS. -/
theorem transport_disagreement_plainTcp :
    ¬ KeepsToSdp (seccSessionStart plainTcpEnv seccSessionInit {}) ∧
      ¬ KeepsToMode plainTcpEnv.accept .nonTls {} := by
  refine ⟨fun h => (keepsToSdp_iff _ _).mp h ?_, fun h => (keepsToMode_iff _ _ _).mp h rfl⟩
  exact ⟨rfl, rfl, ⟨0x00, rfl⟩, rfl⟩

end EvseIso15118
