import EvseIso15118.V2gtpParser

namespace EvseIso15118

/-- The fields of `sdp_request_t` that the parser sets. -/
structure SdpRequest where
  security : Byte
  transportProto : Byte
  deriving DecidableEq

/-- `sdp_parse_request` on non-null pointers; the return value -1 is `none`. -/
def sdpParseRequest (data : List Byte) (len : ℤ) : Option SdpRequest :=
  if len < 10 then none
  else if byteAt data 0 ≠ 0x01 ∨ byteAt data 1 ≠ 0xFE then none
  else if (headerOf data).payloadType ≠ 0x9000 then none
  else if (headerOf data).payloadLength ≠ 2 then none
  else some { security := byteAt data 8, transportProto := byteAt data 9 }

/-- `sdp_select_transport`: the security value to answer with, -1 for an unknown one. -/
def sdpSelectTransport (req : SdpRequest) : ℤ :=
  if req.security = 0x00 then 0x00
  else if req.security = 0x10 then 0x10
  else -1

/-- `sdp_build_response` into 28 bytes. -/
def sdpBuildResponse (ip6Addr : Octets 16) (port : UInt16) (security : Byte) : List Byte :=
  [0x01, 0xFE, 0x90, 0x01] ++ be32Bytes 20 ++ List.ofFn ip6Addr ++ be16Bytes port ++
    [security, 0x00]

theorem byteAt_sdpBuildResponse (ip6Addr : Octets 16) (port : UInt16) (security : Byte) :
    byteAt (sdpBuildResponse ip6Addr port security) 26 = security := by
  have hl : ([0x01, 0xFE, 0x90, 0x01] ++ be32Bytes 20 ++ List.ofFn ip6Addr ++
      be16Bytes port).length = 26 := by
    simp [be32Bytes, be16Bytes]
  rw [sdpBuildResponse, byteAt_append_right _ (by omega), hl]
  rfl

/-- The calls `secc_sdp_listen` makes to get a socket in the multicast group, in order. -/
inductive SdpSetupCall
  | socket
  | reuseAddr
  | reusePort
  | multicastLoop
  | bind
  | nametoindex
  | pton
  | joinGroup
  deriving DecidableEq

/-- What the system answers: the link-local address if there is one, which calls succeed, the
datagram (none for an error) and the result of `sendto`. -/
structure SdpEnv where
  linkLocal : Option (Octets 16)
  succeeds : SdpSetupCall → Bool
  datagram : Option (List Byte)
  sendResult : ℤ

/-- The address `::1`. -/
def loopback : Octets 16 := fun i => if i = 15 then 1 else 0

def getSeccIpv6 (env : SdpEnv) (samePc : Bool) : Option (Octets 16) :=
  if samePc then some loopback else env.linkLocal

def sdpSetup (env : SdpEnv) : Bool :=
  env.succeeds .socket && env.succeeds .reuseAddr && env.succeeds .reusePort &&
    env.succeeds .multicastLoop && env.succeeds .bind && env.succeeds .nametoindex &&
    env.succeeds .pton && env.succeeds .joinGroup

/-- The return value and the response, once `sendto` has taken all of it. -/
structure SdpResult where
  ret : ℤ
  sent : Option (List Byte)
  deriving DecidableEq

def SdpResult.failed : SdpResult := ⟨-1, none⟩

/-- The request in a datagram of `secc_sdp_listen`, after all of its checks. -/
def sdpAccept (datagram : List Byte) : Option SdpRequest :=
  if datagram.length < 10 then none
  else if byteAt datagram 0 ≠ 0x01 ∨ byteAt datagram 1 ≠ 0xFE then none
  -- a response, not a request
  else if be16 (byteAt datagram 2) (byteAt datagram 3) = 0x9001 then none
  else if be16 (byteAt datagram 2) (byteAt datagram 3) ≠ 0x9000 then none
  else if datagram.length ≠ 10 then none
  else sdpParseRequest datagram datagram.length

/-- `secc_sdp_listen`; a datagram is cut to the 256 bytes of `req`. -/
def seccSdpListen (env : SdpEnv) (v2gPort : UInt16) (samePc : Bool) : SdpResult :=
  match getSeccIpv6 env samePc with
  | none => .failed
  | some ip6 =>
    if sdpSetup env then
      match env.datagram with
      | none => .failed
      | some datagram =>
        match sdpAccept (datagram.take 256) with
        | none => .failed
        | some req =>
          if sdpSelectTransport req < 0 then .failed
          else if env.sendResult ≠ 28 then .failed
          else ⟨0, some (sdpBuildResponse ip6 v2gPort
            (UInt8.ofNat (sdpSelectTransport req).toNat))⟩
    else .failed

def sdpRequestBytes (security transportProto : Byte) : List Byte :=
  [0x01, 0xFE, 0x90, 0x00, 0x00, 0x00, 0x00, 0x02, security, transportProto]

/-- The exchange is completed with this security byte. -/
def SdpEnv.Exchanges (env : SdpEnv) (samePc : Bool) (security : Byte) : Prop :=
  (getSeccIpv6 env samePc).isSome ∧ sdpSetup env ∧
    (∃ t, env.datagram = some (sdpRequestBytes security t)) ∧ env.sendResult = 28

theorem be16_eq {hi lo : Byte} {n : UInt16} (h : be16 hi lo = n) :
    hi.toNat = n.toNat / 256 ∧ lo.toNat = n.toNat % 256 := by
  have hn := congrArg UInt16.toNat h
  rw [be16_toNat] at hn
  have := lo.toNat_lt
  omega

theorem eq_bytes_of_length_ten {l : List Byte} (h : l.length = 10) :
    l = [byteAt l 0, byteAt l 1, byteAt l 2, byteAt l 3, byteAt l 4, byteAt l 5, byteAt l 6,
      byteAt l 7, byteAt l 8, byteAt l 9] := by
  apply List.ext_getElem
  · rw [h]
    rfl
  · intro i h1 h2
    rw [← byteAt_of_lt h1]
    rw [h] at h1
    interval_cases i <;> rfl

theorem sdpAccept_eq_some {datagram : List Byte} {req : SdpRequest} :
    sdpAccept datagram = some req ↔
      datagram = sdpRequestBytes req.security req.transportProto := by
  constructor
  · intro h
    unfold sdpAccept at h
    split_ifs at h with h1 h2 h3 h4 h5
    unfold sdpParseRequest at h
    split_ifs at h with h6 h7 h8
    push Not at h2 h4 h5 h8
    have hpt := be16_eq h4
    have hlen := congrArg UInt32.toNat h8
    simp only [headerOf, be32_toNat, UInt32.reduceToNat] at hlen
    -- type and length are sums of bytes: each byte follows
    have h2' : byteAt datagram 2 = 0x90 := UInt8.toNat_inj.mp hpt.1
    have h3' : byteAt datagram 3 = 0x00 := UInt8.toNat_inj.mp hpt.2
    have h4' : byteAt datagram 4 = 0x00 := UInt8.toNat_inj.mp (by simp; omega)
    have h5' : byteAt datagram 5 = 0x00 := UInt8.toNat_inj.mp (by simp; omega)
    have h6' : byteAt datagram 6 = 0x00 := UInt8.toNat_inj.mp (by simp; omega)
    have h7' : byteAt datagram 7 = 0x02 := UInt8.toNat_inj.mp (by simp; omega)
    cases h
    conv_lhs => rw [eq_bytes_of_length_ten h5, h2.1, h2.2, h2', h3', h4', h5', h6', h7']
    rfl
  · rintro rfl
    have hh : headerOf (sdpRequestBytes req.security req.transportProto) = ⟨0x9000, 2⟩ := by
      simp only [headerOf, sdpRequestBytes, byteAt, List.getD_cons_succ, List.getD_cons_zero]
      decide
    have hpt : be16 (byteAt (sdpRequestBytes req.security req.transportProto) 2)
        (byteAt (sdpRequestBytes req.security req.transportProto) 3) = 0x9000 :=
      congrArg V2gtpHeader.payloadType hh
    rw [sdpAccept, sdpParseRequest, hh, hpt]
    simp [sdpRequestBytes, byteAt]

theorem sdpSelectTransport_of_nonneg {req : SdpRequest} (h : 0 ≤ sdpSelectTransport req) :
    (req.security = 0x00 ∨ req.security = 0x10) ∧
      UInt8.ofNat (sdpSelectTransport req).toNat = req.security := by
  unfold sdpSelectTransport at *
  split_ifs at * with h0 h1
  · exact ⟨.inl h0, h0.symm⟩
  · exact ⟨.inr h1, h1.symm⟩
  · omega

theorem seccSdpListen_iff {env : SdpEnv} {v2gPort : UInt16} {samePc : Bool} {resp : List Byte} :
    seccSdpListen env v2gPort samePc = ⟨0, some resp⟩ ↔
      ∃ ip6 security, getSeccIpv6 env samePc = some ip6 ∧ env.Exchanges samePc security ∧
        (security = 0x00 ∨ security = 0x10) ∧ resp = sdpBuildResponse ip6 v2gPort security := by
  constructor
  · intro h
    unfold seccSdpListen at h
    cases hip : getSeccIpv6 env samePc with
    | none => simp [hip, SdpResult.failed] at h
    | some ip6 =>
      cases hd : env.datagram with
      | none => simp [hip, hd, SdpResult.failed] at h
      | some datagram =>
        cases hreq : sdpAccept (datagram.take 256) with
        | none => simp [hip, hd, hreq, SdpResult.failed] at h
        | some req =>
          simp only [hip, hd, hreq, SdpResult.failed] at h
          split_ifs at h with hsetup hneg hsend
          · cases h
          · cases h
          · obtain ⟨hsec, hbyte⟩ := sdpSelectTransport_of_nonneg (not_lt.mp hneg)
            rw [hbyte] at h
            cases h
            have hten := sdpAccept_eq_some.mp hreq
            -- ten bytes are left of 256 at most, so nothing was cut off
            have hshort : datagram.length ≤ 256 := by
              have hl := congrArg List.length hten
              rw [List.length_take] at hl
              change _ = 10 at hl
              omega
            rw [List.take_of_length_le hshort] at hten
            exact ⟨ip6, req.security, rfl,
              ⟨by rw [hip]; rfl, hsetup, ⟨_, hd.trans (congrArg some hten)⟩, not_not.mp hsend⟩,
              hsec, rfl⟩
          · cases h
  · rintro ⟨ip6, security, hip, ⟨-, hsetup, ⟨t, hd⟩, hsend⟩, hsec, rfl⟩
    have hreq : sdpAccept ((sdpRequestBytes security t).take 256) = some ⟨security, t⟩ :=
      sdpAccept_eq_some.mpr rfl
    simp only [seccSdpListen, hip, hsetup, hd, hreq, hsend]
    rcases hsec with rfl | rfl <;> rfl

end EvseIso15118
