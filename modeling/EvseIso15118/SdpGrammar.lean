import EvseIso15118.SdpHandler

namespace EvseIso15118

/-- A local address is found and every socket call succeeds. -/
def SdpEnv.Serves (env : SdpEnv) (samePc : Bool) : Prop :=
  (getSeccIpv6 env samePc).isSome ∧ sdpSetup env ∧ env.sendResult = 28

/-- `SDP_SECURITY_TLS` or `SDP_SECURITY_NONE`. -/
def KnownSecurity (security : Byte) : Prop := security = 0x00 ∨ security = 0x10

section listen
variable {env : SdpEnv} {samePc : Bool} {datagram : List Byte}

theorem seccSdpListen_cases (env : SdpEnv) (v2gPort : UInt16) (samePc : Bool) :
    (∃ resp, seccSdpListen env v2gPort samePc = ⟨0, some resp⟩) ∨
      seccSdpListen env v2gPort samePc = .failed := by
  unfold seccSdpListen
  cases getSeccIpv6 env samePc with
  | none => exact .inr rfl
  | some ip6 =>
    cases env.datagram with
    | none => exact .inr (ite_self _)
    | some datagram =>
      cases h : sdpAccept (datagram.take 256) with
      | none => exact .inr (by simp [h])
      | some req =>
        simp only [h]
        split_ifs
        · exact .inr rfl
        · exact .inr rfl
        · exact .inl ⟨_, rfl⟩
        · exact .inr rfl

theorem seccSdpListen_request (h : env.Serves samePc) (v2gPort : UInt16) {security t : Byte}
    (hsec : KnownSecurity security) (hd : env.datagram = some (sdpRequestBytes security t)) :
    ∃ ip6, seccSdpListen env v2gPort samePc =
      ⟨0, some (sdpBuildResponse ip6 v2gPort security)⟩ := by
  obtain ⟨hip, hsetup, hsend⟩ := h
  obtain ⟨ip6, hip6⟩ := Option.isSome_iff_exists.mp hip
  exact ⟨ip6, seccSdpListen_iff.mpr
    ⟨ip6, security, hip6, ⟨hip, hsetup, ⟨t, hd⟩, hsend⟩, hsec, rfl⟩⟩

theorem seccSdpListen_other (v2gPort : UInt16) (hd : env.datagram = some datagram)
    (hno : ∀ security t, KnownSecurity security → datagram ≠ sdpRequestBytes security t) :
    seccSdpListen env v2gPort samePc = .failed := by
  refine (seccSdpListen_cases env v2gPort samePc).resolve_left ?_
  rintro ⟨resp, hresp⟩
  obtain ⟨ip6, security, -, ⟨-, -, ⟨t, ht⟩, -⟩, hsec, -⟩ := seccSdpListen_iff.mp hresp
  exact hno security t hsec (Option.some.inj (hd.symm.trans ht))

/-- The requests `01 FE 90 00 00 00 00 02 s 00` with a known security `s` are answered, with `s` in
the response; for any other datagram nothing is sent and -1 returned. -/
structure AnswersGrammar (env : SdpEnv) (v2gPort : UInt16) (samePc : Bool)
    (datagram : List Byte) : Prop where
  answered : ∀ security, KnownSecurity security → datagram = sdpRequestBytes security 0x00 →
    ∃ resp, seccSdpListen env v2gPort samePc = ⟨0, some resp⟩ ∧ byteAt resp 26 = security
  ignored : (∀ security, KnownSecurity security → datagram ≠ sdpRequestBytes security 0x00) →
    seccSdpListen env v2gPort samePc = ⟨-1, none⟩

/-- The transport protocol is TCP, if the datagram is otherwise a request. -/
def TransportIsTcp (datagram : List Byte) : Prop :=
  ∀ security t, KnownSecurity security → datagram = sdpRequestBytes security t → t = 0x00

theorem sdpRequestBytes_inj {s t s' t' : Byte} (h : sdpRequestBytes s t = sdpRequestBytes s' t') :
    s = s' ∧ t = t' := by
  simpa [sdpRequestBytes] using h

/-- With an address and every call succeeding, the grammar decides about every datagram except the
requests for another transport than TCP. -/
theorem answersGrammar_iff (env : SdpEnv) (v2gPort : UInt16) (samePc : Bool)
    (datagram : List Byte) (hserves : env.Serves samePc) (hd : env.datagram = some datagram) :
    AnswersGrammar env v2gPort samePc datagram ↔ TransportIsTcp datagram := by
  constructor
  · intro h security t hsec hreq
    by_contra ht
    have hignored := h.ignored fun s _ heq => ht (sdpRequestBytes_inj (hreq.symm.trans heq)).2
    obtain ⟨ip6, hip⟩ := seccSdpListen_request hserves v2gPort hsec
      (hd.trans (congrArg some hreq))
    rw [hip] at hignored
    cases hignored
  · intro htcp
    constructor
    · intro security hsec hreq
      obtain ⟨ip6, hip⟩ := seccSdpListen_request hserves v2gPort hsec
        (hd.trans (congrArg some hreq))
      exact ⟨_, hip, byteAt_sdpBuildResponse ip6 v2gPort security⟩
    · intro hno
      refine seccSdpListen_other v2gPort hd fun security t hsec hreq => ?_
      rw [htcp security t hsec hreq] at hreq
      exact hno security hsec hreq

end listen

/-- The link-local address `fe80::1`. -/
def linkLocalOne : Octets 16 := fun i =>
  if i.val = 0 then 0xFE else if i.val = 1 then 0x80 else if i.val = 15 then 1 else 0

/-- One datagram, and everything else succeeds. -/
def servingEnv (datagram : List Byte) : SdpEnv where
  linkLocal := some linkLocalOne
  succeeds _ := true
  datagram := some datagram
  sendResult := 28

theorem answersGrammar_iff_tls :
    AnswersGrammar (servingEnv (sdpRequestBytes 0x00 0x00)) 15118 false (sdpRequestBytes 0x00 0x00)
      ↔ TransportIsTcp (sdpRequestBytes 0x00 0x00) :=
  answersGrammar_iff (servingEnv (sdpRequestBytes 0x00 0x00)) 15118 false
    (sdpRequestBytes 0x00 0x00) ⟨rfl, rfl, rfl⟩ rfl

/-- A request for UDP is answered as if it were for TCP. -/
theorem udpRequest_answered :
    seccSdpListen (servingEnv (sdpRequestBytes 0x00 0x10)) 15118 false =
      ⟨0, some (sdpBuildResponse linkLocalOne 15118 0x00)⟩ ∧
    ¬AnswersGrammar (servingEnv (sdpRequestBytes 0x00 0x10)) 15118 false
      (sdpRequestBytes 0x00 0x10) := by
  constructor
  · decide
  · intro h
    have hignored := h.ignored (by rintro security (rfl | rfl) <;> decide)
    revert hignored
    decide

/-- A packet with the type of an SDP response. -/
def IsSdpEcho (datagram : List Byte) : Prop :=
  10 ≤ datagram.length ∧ byteAt datagram 0 = 0x01 ∧ byteAt datagram 1 = 0xFE ∧
    be16 (byteAt datagram 2) (byteAt datagram 3) = 0x9001

instance (datagram : List Byte) : Decidable (IsSdpEcho datagram) := by
  unfold IsSdpEcho
  infer_instance

/-- `secc_sdp_listen` on a socket where these datagrams wait: `recvfrom` is called once. -/
def seccSdpListenOn (env : SdpEnv) (queue : List (List Byte)) (v2gPort : UInt16) (samePc : Bool) :
    SdpResult :=
  seccSdpListen { env with datagram := queue.head? } v2gPort samePc

theorem IsSdpEcho.ne_request {datagram : List Byte} (h : IsSdpEcho datagram) (security t : Byte) :
    datagram ≠ sdpRequestBytes security t := by
  rintro rfl
  have htype : be16 (byteAt (sdpRequestBytes security t) 2)
      (byteAt (sdpRequestBytes security t) 3) = 0x9000 := by
    change be16 0x90 0x00 = 0x9000
    decide
  exact absurd (htype.symm.trans h.2.2.2) (by decide)

theorem seccSdpListenOn_echo (env : SdpEnv) {echo : List Byte} (h : IsSdpEcho echo)
    (queue : List (List Byte)) (v2gPort : UInt16) (samePc : Bool) :
    seccSdpListenOn env (echo :: queue) v2gPort samePc = .failed :=
  seccSdpListen_other v2gPort rfl fun security t _ => h.ne_request security t

/-- With an address and every call succeeding, echoes in front of a request make no difference
exactly if there are none. -/
theorem echoes_ignored_iff (env : SdpEnv) (v2gPort : UInt16) (samePc : Bool)
    (echoes : List (List Byte)) (security : Byte) (hserves : env.Serves samePc)
    (hechoes : ∀ echo ∈ echoes, IsSdpEcho echo) (hsec : KnownSecurity security) :
    seccSdpListenOn env (echoes ++ [sdpRequestBytes security 0x00]) v2gPort samePc =
        seccSdpListenOn env [sdpRequestBytes security 0x00] v2gPort samePc ↔
      echoes = [] := by
  constructor
  · intro h
    cases echoes with
    | nil => rfl
    | cons echo echoes =>
      have hserves' : SdpEnv.Serves
        { env with datagram := some (sdpRequestBytes security 0x00) } samePc := hserves
      obtain ⟨ip6, hip⟩ := seccSdpListen_request hserves' v2gPort hsec rfl
      rw [List.cons_append, seccSdpListenOn_echo env (hechoes echo List.mem_cons_self)] at h
      exact absurd (h.trans hip) (by simp [SdpResult.failed])
  · rintro rfl
    rfl

theorem echoes_ignored_iff_one :
    seccSdpListenOn (servingEnv []) ([sdpBuildResponse linkLocalOne 15118 0x00] ++
        [sdpRequestBytes 0x10 0x00]) 15118 false =
        seccSdpListenOn (servingEnv []) [sdpRequestBytes 0x10 0x00] 15118 false ↔
      [sdpBuildResponse linkLocalOne 15118 0x00] = [] :=
  echoes_ignored_iff (servingEnv []) 15118 false [sdpBuildResponse linkLocalOne 15118 0x00] 0x10
    ⟨rfl, rfl, rfl⟩ (by decide) (.inr rfl)

/-- One echo, and the request behind it is not answered. -/
theorem echo_ends_exchange :
    IsSdpEcho (sdpBuildResponse linkLocalOne 15118 0x00) ∧
    seccSdpListenOn (servingEnv []) [sdpBuildResponse linkLocalOne 15118 0x00,
      sdpRequestBytes 0x10 0x00] 15118 false = ⟨-1, none⟩ ∧
    seccSdpListenOn (servingEnv []) [sdpRequestBytes 0x10 0x00] 15118 false =
      ⟨0, some (sdpBuildResponse linkLocalOne 15118 0x10)⟩ := by
  decide

end EvseIso15118
