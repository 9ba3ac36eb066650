import EvseIso15118.Posix
import EvseIso15118.SdpHandler

namespace EvseIso15118

open Ownership

/-- `IN6_IS_ADDR_LINKLOCAL`: fe80::/10. -/
def isLinkLocal (addr : Octets 16) : Bool :=
  byteAt (List.ofFn addr) 0 = 0xFE ∧ byteAt (List.ofFn addr) 1 &&& 0xC0 = 0x80

/-- The interface `get_secc_ipv6` looks for, and its address. -/
def Ifaddr.announced (ifa : Ifaddr) : Option (Octets 16) :=
  match ifa.addr with
  | none => none
  | some addr =>
    if ifa.isLoopback then none
    else if !ifa.isUp then none
    else if !ifa.isRunning then none
    else if addr = loopback then none
    else if !isLinkLocal addr then none
    else some addr

/-- The loop over the interfaces: the first one that is not passed over. -/
def findInterface : List Ifaddr → Option (Octets 16 × List Byte)
  | [] => none
  | ifa :: rest =>
    match ifa.announced with
    | none => findInterface rest
    | some addr => some (addr, copyName ifNameSize ifa.name)

/-- The bytes of `"lo0"`. -/
def lo0 : List Byte := [0x6C, 0x6F, 0x30]

/-- `get_secc_ipv6`: the address and the name of the interface; -1 is `none`. -/
def getSeccIpv6Calls (samePc : Bool) : Posix (Option (Octets 16 × List Byte)) :=
  if samePc then return some (loopback, lo0)
  else do
    match ← Posix.getifaddrs with
    | none => return none
    | some (list, ifaddrs) =>
      let found := findInterface ifaddrs
      Posix.freeifaddrs list
      return found

/-- `close(sock); return -1;`. -/
def closeFailed (sock : ℤ) : Posix ℤ := do
  Posix.close sock
  return -1

/-- `if (failed) { close(sock); return -1; }`. -/
def orClose (sock : ℤ) (failed : Prop) [Decidable failed] (rest : Posix ℤ) : Posix ℤ :=
  if failed then closeFailed sock else rest

def sdpRespond (sock : ℤ) (resp : List Byte) (ev : SockaddrIn6) : Posix ℤ := do
  let sent ← Posix.sendto sock resp ev
  orClose sock (sent < 0) <| orClose sock (sent ≠ 28) do
    Posix.close sock
    return 0

/-- The checks of `secc_sdp_listen`, and the answer. -/
def sdpReply (sock : ℤ) (ip6 : Octets 16) (v2gPort : UInt16) (datagram : List Byte)
    (ev : SockaddrIn6) : Posix ℤ :=
  match sdpAccept (datagram.take 256) with
  | none => closeFailed sock
  | some req =>
    let transport := sdpSelectTransport req
    orClose sock (transport < 0) <|
      sdpRespond sock (sdpBuildResponse ip6 v2gPort (UInt8.ofNat transport.toNat)) ev

def sdpExchange (sock : ℤ) (ip6 : Octets 16) (v2gPort : UInt16) : Posix ℤ := do
  match ← Posix.recvfrom sock with
  | none => closeFailed sock
  | some (datagram, ev) => sdpReply sock ip6 v2gPort datagram ev

/-- The socket is prepared, bound and put into the multicast group of the interface. -/
def sdpPrepare (sock : ℤ) (iface : List Byte) (rest : Posix ℤ) : Posix ℤ := do
  let ret ← Posix.setsockopt sock .reuseAddr
  orClose sock (ret < 0) do
  let ret ← Posix.setsockopt sock .reusePort
  orClose sock (ret < 0) do
  let ret ← Posix.setsockopt sock .multicastLoop
  orClose sock (ret < 0) do
  let ret ← Posix.bind sock
  orClose sock (ret < 0) do
  let idx ← Posix.ifNametoindex iface
  orClose sock (idx = 0) do
  let ret ← Posix.inetPton
  orClose sock (ret ≤ 0) do
  let ret ← Posix.setsockopt sock (.joinGroup idx)
  orClose sock (ret < 0) rest

/-- `secc_sdp_listen`. -/
def seccSdpListenCalls (v2gPort : UInt16) (samePc : Bool) : Posix ℤ := do
  match ← getSeccIpv6Calls samePc with
  | none => return -1
  | some (ip6, iface) =>
    let sock ← Posix.socket .udp6
    if sock < 0 then return -1
    else sdpPrepare sock (if samePc then lo0 else iface) (sdpExchange sock ip6 v2gPort)

/-- What an observer of the calls knows: the system, as far as it has answered, and the response,
once `sendto` has taken all of it. -/
structure SdpSeen where
  env : SdpEnv
  sent : Option (List Byte)

def SdpSeen.tell (seen : SdpSeen) (call : SdpSetupCall) (succeeded : Bool) : SdpSeen :=
  { seen with env.succeeds := Function.update seen.env.succeeds call succeeded }

def SdpSeen.observe (seen : SdpSeen) : PosixEvent → SdpSeen
  | ⟨.getifaddrs, l⟩ =>
    { seen with env.linkLocal := (l.bind fun l => findInterface l.2).map Prod.fst }
  | ⟨.socket _, fd⟩ => seen.tell .socket (0 ≤ fd)
  | ⟨.setsockopt _ .reuseAddr, ret⟩ => seen.tell .reuseAddr (0 ≤ ret)
  | ⟨.setsockopt _ .reusePort, ret⟩ => seen.tell .reusePort (0 ≤ ret)
  | ⟨.setsockopt _ .multicastLoop, ret⟩ => seen.tell .multicastLoop (0 ≤ ret)
  | ⟨.setsockopt _ (.joinGroup _), ret⟩ => seen.tell .joinGroup (0 ≤ ret)
  | ⟨.bind _, ret⟩ => seen.tell .bind (0 ≤ ret)
  | ⟨.ifNametoindex _, idx⟩ => seen.tell .nametoindex (idx ≠ 0)
  | ⟨.inetPton, ret⟩ => seen.tell .pton (0 < ret)
  | ⟨.recvfrom _, datagram⟩ => { seen with env.datagram := datagram.map Prod.fst }
  | ⟨.sendto _ buf _, ret⟩ =>
    { env := { seen.env with sendResult := ret }
      sent := if ret = 28 then some buf else seen.sent }
  | _ => seen

def SdpSeen.nothing : SdpSeen := ⟨⟨none, fun _ => false, none, 0⟩, none⟩

section follows
variable {seen : SdpSeen} {Q : ℤ → SdpSeen → Prop} {sock : ℤ}

theorem follows_orClose {failed : Prop} [Decidable failed] {rest : Posix ℤ}
    (hfail : failed → Q (-1) seen) (hrest : ¬failed → Follows SdpSeen.observe seen rest Q) :
    Follows SdpSeen.observe seen (orClose sock failed rest) Q := by
  unfold orClose
  split_ifs with hf
  · exact fun _ => hfail hf
  · exact hrest hf

theorem follows_setupCall {c : PosixCall} (call : SdpSetupCall) {failed : c.Answer → Prop}
    [∀ answer, Decidable (failed answer)] {rest : Posix ℤ}
    (hobserve : ∀ answer, seen.observe ⟨c, answer⟩ = seen.tell call (¬failed answer))
    (hfail : Q (-1) (seen.tell call false))
    (hrest : Follows SdpSeen.observe (seen.tell call true) rest Q) :
    Follows SdpSeen.observe seen
      (Prog.ask c Prog.ret >>= fun answer => orClose sock (failed answer) rest) Q := by
  intro answer
  rw [hobserve]
  apply follows_orClose
  · intro hf
    rwa [decide_eq_false (not_not.mpr hf)]
  · intro hf
    rwa [decide_eq_true hf]

theorem sdpSetup_tell_false (seen : SdpSeen) (call : SdpSetupCall) :
    sdpSetup (seen.tell call false).env = false := by
  cases call <;> simp [SdpSeen.tell, sdpSetup]

theorem follows_sdpPrepare {iface : List Byte} {rest : Posix ℤ}
    (hsocket : seen.env.succeeds .socket = true)
    (hfail : ∀ env, sdpSetup env = false → Q (-1) ⟨env, seen.sent⟩)
    (hrest : ∀ env, sdpSetup env = true → env.linkLocal = seen.env.linkLocal →
      Follows SdpSeen.observe ⟨env, seen.sent⟩ rest Q) :
    Follows SdpSeen.observe seen (sdpPrepare sock iface rest) Q := by
  unfold sdpPrepare
  apply follows_setupCall .reuseAddr
  · intro ret
    simp [SdpSeen.observe]
  · exact hfail _ (sdpSetup_tell_false _ _)
  apply follows_setupCall .reusePort
  · intro ret
    simp [SdpSeen.observe]
  · exact hfail _ (sdpSetup_tell_false _ _)
  apply follows_setupCall .multicastLoop
  · intro ret
    simp [SdpSeen.observe]
  · exact hfail _ (sdpSetup_tell_false _ _)
  apply follows_setupCall .bind
  · intro ret
    simp [SdpSeen.observe]
  · exact hfail _ (sdpSetup_tell_false _ _)
  intro idx
  change Follows _ (SdpSeen.tell _ .nametoindex (idx ≠ 0)) _ _
  apply follows_orClose
  · rintro rfl
    exact hfail _ (sdpSetup_tell_false _ _)
  intro hidx
  rw [decide_eq_true hidx]
  apply follows_setupCall .pton
  · intro ret
    simp [SdpSeen.observe]
  · exact hfail _ (sdpSetup_tell_false _ _)
  apply follows_setupCall .joinGroup
  · intro ret
    simp [SdpSeen.observe]
  · exact hfail _ (sdpSetup_tell_false _ _)
  apply hrest
  · simp [SdpSeen.tell, sdpSetup, hsocket]
  · rfl

theorem follows_sdpRespond {resp : List Byte} {ev : SockaddrIn6} (hunsent : seen.sent = none)
    (hfail : ∀ ret ≠ 28, Q (-1) ⟨{ seen.env with sendResult := ret }, none⟩)
    (hsent : Q 0 ⟨{ seen.env with sendResult := 28 }, some resp⟩) :
    Follows SdpSeen.observe seen (sdpRespond sock resp ev) Q := by
  intro ret
  have hobserve : seen.observe ⟨.sendto sock resp ev, ret⟩ =
      ⟨{ seen.env with sendResult := ret }, if ret = 28 then some resp else none⟩ := by
    rw [← hunsent]
    rfl
  rw [hobserve]
  split_ifs with hret
  · rw [hret]
    exact fun _ => hsent
  · apply follows_orClose
    · exact fun _ => hfail ret hret
    intro _
    apply follows_orClose
    · exact fun _ => hfail ret hret
    · exact fun h => absurd hret h

/-- What was observed agrees with the exchange without the system. -/
def SdpSeen.Explains (v2gPort : UInt16) (samePc : Bool) (ret : ℤ) (seen : SdpSeen) : Prop :=
  seccSdpListen seen.env v2gPort samePc = ⟨ret, seen.sent⟩

variable {env : SdpEnv} {ip6 : Octets 16} {v2gPort : UInt16} {samePc : Bool}

theorem seccSdpListen_of_setup (hip : getSeccIpv6 env samePc = some ip6)
    (hsetup : sdpSetup env = true) : seccSdpListen env v2gPort samePc =
      match env.datagram with
      | none => .failed
      | some datagram =>
        match sdpAccept (datagram.take 256) with
        | none => .failed
        | some req =>
          if sdpSelectTransport req < 0 then .failed
          else if env.sendResult ≠ 28 then .failed
          else ⟨0, some (sdpBuildResponse ip6 v2gPort
            (UInt8.ofNat (sdpSelectTransport req).toNat))⟩ := by
  unfold seccSdpListen
  rw [hip, hsetup]
  rfl

theorem explains_of_not_setup (h : sdpSetup env = false) :
    SdpSeen.Explains v2gPort samePc (-1) ⟨env, none⟩ := by
  unfold SdpSeen.Explains seccSdpListen
  rw [h]
  cases getSeccIpv6 env samePc <;> rfl

theorem follows_sdpExchange (hip : getSeccIpv6 env samePc = some ip6)
    (hsetup : sdpSetup env = true) :
    Follows SdpSeen.observe ⟨env, none⟩ (sdpExchange sock ip6 v2gPort)
      (SdpSeen.Explains v2gPort samePc) := by
  rintro (_ | ⟨datagram, ev⟩)
  · exact fun _ => seccSdpListen_of_setup hip hsetup
  have hlisten : ∀ ret, seccSdpListen { env with datagram := some datagram, sendResult := ret }
      v2gPort samePc = _ := fun ret => seccSdpListen_of_setup hip hsetup
  simp only at hlisten
  change Follows _ _ (sdpReply sock ip6 v2gPort datagram ev) _
  unfold sdpReply
  cases hreq : sdpAccept (datagram.take 256) with
  | none =>
    simp only [hreq] at hlisten
    exact fun _ => hlisten env.sendResult
  | some req =>
    simp only [hreq] at hlisten
    apply follows_orClose
    · intro htransport
      simp only [if_pos htransport] at hlisten
      exact hlisten env.sendResult
    intro htransport
    simp only [if_neg htransport] at hlisten
    apply follows_sdpRespond rfl
    · intro ret hret
      exact (hlisten ret).trans (if_pos hret)
    · exact hlisten 28

theorem follows_getSeccIpv6 : Follows SdpSeen.observe .nothing (getSeccIpv6Calls samePc)
    fun found seen => getSeccIpv6 seen.env samePc = found.map Prod.fst ∧
      seen.sent = none := by
  cases samePc with
  | true => exact ⟨rfl, rfl⟩
  | false =>
    rintro (_ | ⟨list, ifaddrs⟩)
    · exact ⟨rfl, rfl⟩
    · exact fun _ => ⟨rfl, rfl⟩

theorem follows_socket {iface : List Byte} (hip : getSeccIpv6 env samePc = some ip6) :
    Follows SdpSeen.observe ⟨env, none⟩
      (Posix.socket .udp6 >>= fun sock =>
        if sock < 0 then pure (-1) else sdpPrepare sock iface (sdpExchange sock ip6 v2gPort))
      (SdpSeen.Explains v2gPort samePc) := by
  intro sock
  change Follows _ (SdpSeen.tell _ .socket (0 ≤ sock)) (if sock < 0 then _ else _) _
  split_ifs with hsock
  · rw [decide_eq_false (not_le.mpr hsock)]
    exact explains_of_not_setup (sdpSetup_tell_false ⟨env, none⟩ .socket)
  · rw [decide_eq_true (not_lt.mp hsock)]
    apply follows_sdpPrepare
    · simp [SdpSeen.tell]
    · exact fun env' => explains_of_not_setup
    · intro env' hsetup hlinkLocal
      apply follows_sdpExchange _ hsetup
      unfold getSeccIpv6 at *
      rwa [hlinkLocal]

end follows

theorem findInterface_eq_some {ifaddrs : List Ifaddr} {addr : Octets 16} {iface : List Byte} :
    findInterface ifaddrs = some (addr, iface) ↔ ∃ before ifa after,
      ifaddrs = before ++ ifa :: after ∧ (∀ i ∈ before, i.announced = none) ∧
        ifa.announced = some addr ∧ iface = copyName ifNameSize ifa.name := by
  induction ifaddrs with
  | nil => simp [findInterface]
  | cons i rest ih =>
    cases hi : i.announced with
    | none =>
      rw [findInterface, hi]
      dsimp only
      rw [ih]
      constructor
      · rintro ⟨before, ifa, after, rfl, hbefore, h⟩
        exact ⟨i :: before, ifa, after, rfl, List.forall_mem_cons.mpr ⟨hi, hbefore⟩, h⟩
      · rintro ⟨before, ifa, after, hsplit, hbefore, haddr, h⟩
        cases before with
        | nil =>
          cases hsplit
          cases hi.symm.trans haddr
        | cons b before =>
          cases hsplit
          exact ⟨before, ifa, after, rfl, (List.forall_mem_cons.mp hbefore).2, haddr, h⟩
    | some a =>
      rw [findInterface, hi]
      constructor
      · rintro ⟨⟩
        exact ⟨[], i, rest, rfl, by simp, hi, rfl⟩
      · rintro ⟨before, ifa, after, hsplit, hbefore, haddr, rfl⟩
        cases before with
        | nil =>
          cases hsplit
          cases hi.symm.trans haddr
          rfl
        | cons b before =>
          cases hsplit
          cases hi.symm.trans (hbefore i List.mem_cons_self)

/-- The interfaces, the answers and the request of an exchange that is completed. -/
structure SdpAnswered where
  list : ℕ
  before : List Ifaddr
  ifa : Ifaddr
  after : List Ifaddr
  addr : Octets 16
  before_announced : ∀ i ∈ before, i.announced = none
  ifa_announced : ifa.announced = some addr
  sock : ℤ
  sock_nonneg : 0 ≤ sock
  reuseAddr : ℕ
  reusePort : ℕ
  multicastLoop : ℕ
  bind : ℕ
  idx : ℕ
  idx_ne_zero : idx ≠ 0
  pton : ℕ
  pton_ne_zero : pton ≠ 0
  joinGroup : ℕ
  security : Byte
  security_known : security = 0x00 ∨ security = 0x10
  transportProto : Byte
  ev : SockaddrIn6

/-- Its calls: the address of the first interface that is not passed over is announced, to the
sender of the request, with the security that was asked for, on a socket in the multicast group of
that interface. -/
def SdpAnswered.events (c : SdpAnswered) (v2gPort : UInt16) : List PosixEvent :=
  [⟨.getifaddrs, some (c.list, c.before ++ c.ifa :: c.after)⟩, ⟨.freeifaddrs c.list, ()⟩,
    ⟨.socket .udp6, c.sock⟩, ⟨.setsockopt c.sock .reuseAddr, (c.reuseAddr : ℤ)⟩,
    ⟨.setsockopt c.sock .reusePort, (c.reusePort : ℤ)⟩,
    ⟨.setsockopt c.sock .multicastLoop, (c.multicastLoop : ℤ)⟩, ⟨.bind c.sock, (c.bind : ℤ)⟩,
    ⟨.ifNametoindex (copyName ifNameSize c.ifa.name), c.idx⟩, ⟨.inetPton, (c.pton : ℤ)⟩,
    ⟨.setsockopt c.sock (.joinGroup c.idx), (c.joinGroup : ℤ)⟩,
    ⟨.recvfrom c.sock, some (sdpRequestBytes c.security c.transportProto, c.ev)⟩,
    ⟨.sendto c.sock (sdpBuildResponse c.addr v2gPort c.security) c.ev, (28 : ℤ)⟩,
    ⟨.close c.sock, ()⟩]

section answered
variable {sock : ℤ} {es : List PosixEvent}

theorem runs_call_iff {α : Type} {c : PosixCall} {k : c.Answer → Posix α} {a : α} :
    Runs (Prog.ask c Prog.ret >>= k) es a ↔
      ∃ answer es', es = ⟨c, answer⟩ :: es' ∧ Runs (k answer) es' a := runs_ask_iff

theorem not_runs_closeFailed_zero : ¬Runs (closeFailed sock) es 0 := by
  intro h
  rcases runs_call_iff.mp h with ⟨_, _, _, hret⟩
  cases (runs_pure_iff.mp hret).2

theorem runs_orClose_zero {failed : Prop} [Decidable failed] {rest : Posix ℤ} :
    Runs (orClose sock failed rest) es 0 ↔ ¬failed ∧ Runs rest es 0 := by
  unfold orClose
  split_ifs with hf
  · exact iff_of_false not_runs_closeFailed_zero fun h => h.1 hf
  · exact (and_iff_right hf).symm

theorem runs_sdpRespond_zero {resp : List Byte} {ev : SockaddrIn6} :
    Runs (sdpRespond sock resp ev) es 0 ↔
      es = [⟨.sendto sock resp ev, (28 : ℤ)⟩, ⟨.close sock, ()⟩] := by
  unfold sdpRespond Posix.sendto Posix.close
  rw [runs_call_iff]
  constructor
  · rintro ⟨sent, es', rfl, h⟩
    rw [runs_orClose_zero, runs_orClose_zero, runs_call_iff] at h
    rcases h with ⟨-, hsent, ⟨⟩, es'', rfl, h⟩
    rcases runs_pure_iff.mp h with ⟨rfl, -⟩
    rw [not_not.mp hsent]
  · rintro rfl
    refine ⟨28, _, rfl, ?_⟩
    rw [runs_orClose_zero, runs_orClose_zero, runs_call_iff]
    exact ⟨of_decide_eq_true rfl, not_not.mpr rfl, (), [], rfl, runs_pure_iff.mpr ⟨rfl, rfl⟩⟩

theorem take_eq_sdpRequestBytes {datagram : List Byte} {security transportProto : Byte}
    (h : datagram.take 256 = sdpRequestBytes security transportProto) :
    datagram = sdpRequestBytes security transportProto := by
  have hlength := congrArg List.length h
  rw [List.length_take] at hlength
  change _ = 10 at hlength
  rwa [List.take_of_length_le (by omega)] at h

theorem runs_sdpExchange_zero {ip6 : Octets 16} {v2gPort : UInt16} :
    Runs (sdpExchange sock ip6 v2gPort) es 0 ↔ ∃ security transportProto ev,
      (security = 0x00 ∨ security = 0x10) ∧
        es = [⟨.recvfrom sock, some (sdpRequestBytes security transportProto, ev)⟩,
          ⟨.sendto sock (sdpBuildResponse ip6 v2gPort security) ev, (28 : ℤ)⟩,
          ⟨.close sock, ()⟩] := by
  unfold sdpExchange Posix.recvfrom
  rw [runs_call_iff]
  constructor
  · rintro ⟨_ | ⟨datagram, ev⟩, es', rfl, h⟩
    · exact absurd h not_runs_closeFailed_zero
    cases hreq : sdpAccept (datagram.take 256) with
    | none =>
      simp only [sdpReply, hreq] at h
      exact absurd h not_runs_closeFailed_zero
    | some req =>
      simp only [sdpReply, hreq] at h
      rw [runs_orClose_zero, runs_sdpRespond_zero] at h
      rcases h with ⟨htransport, rfl⟩
      rcases sdpSelectTransport_of_nonneg (not_lt.mp htransport) with ⟨hsecurity, hbyte⟩
      rw [hbyte, take_eq_sdpRequestBytes (sdpAccept_eq_some.mp hreq)]
      exact ⟨req.security, req.transportProto, ev, hsecurity, rfl⟩
  · rintro ⟨security, transportProto, ev, hsecurity, rfl⟩
    refine ⟨_, _, rfl, ?_⟩
    have hreq : sdpAccept ((sdpRequestBytes security transportProto).take 256) =
        some ⟨security, transportProto⟩ := sdpAccept_eq_some.mpr rfl
    simp only [sdpReply, hreq]
    rw [runs_orClose_zero, runs_sdpRespond_zero]
    rcases hsecurity with rfl | rfl
    · exact ⟨Int.not_lt.mpr le_rfl, rfl⟩
    · exact ⟨of_decide_eq_true rfl, rfl⟩

theorem runs_checked_zero {c : PosixCall} {failed : c.Answer → Prop}
    [∀ answer, Decidable (failed answer)] {rest : c.Answer → Posix ℤ} :
    Runs (Prog.ask c Prog.ret >>= fun answer => orClose sock (failed answer) (rest answer)) es 0 ↔
      ∃ answer es', es = ⟨c, answer⟩ :: es' ∧ ¬failed answer ∧ Runs (rest answer) es' 0 := by
  rw [runs_call_iff]
  simp only [runs_orClose_zero]

theorem runs_sdpPrepare_zero {iface : List Byte} {rest : Posix ℤ} :
    Runs (sdpPrepare sock iface rest) es 0 ↔ ∃ r₁ r₂ r₃ r₄ r₅ r₆ idx : ℕ, ∃ es',
      es = ⟨.setsockopt sock .reuseAddr, (r₁ : ℤ)⟩ :: ⟨.setsockopt sock .reusePort, (r₂ : ℤ)⟩ ::
        ⟨.setsockopt sock .multicastLoop, (r₃ : ℤ)⟩ :: ⟨.bind sock, (r₄ : ℤ)⟩ ::
        ⟨.ifNametoindex iface, idx⟩ :: ⟨.inetPton, (r₅ : ℤ)⟩ ::
        ⟨.setsockopt sock (.joinGroup idx), (r₆ : ℤ)⟩ :: es' ∧
        idx ≠ 0 ∧ r₅ ≠ 0 ∧ Runs rest es' 0 := by
  unfold sdpPrepare
  constructor
  · intro h
    rcases runs_checked_zero.mp h with ⟨r₁, _, rfl, h₁, hrun₁⟩
    rcases runs_checked_zero.mp hrun₁ with ⟨r₂, _, rfl, h₂, hrun₂⟩
    rcases runs_checked_zero.mp hrun₂ with ⟨r₃, _, rfl, h₃, hrun₃⟩
    rcases runs_checked_zero.mp hrun₃ with ⟨r₄, _, rfl, h₄, hrun₄⟩
    rcases runs_checked_zero.mp hrun₄ with ⟨idx, _, rfl, hidx, hrun₅⟩
    rcases runs_checked_zero.mp hrun₅ with ⟨r₅, _, rfl, h₅, hrun₆⟩
    rcases runs_checked_zero.mp hrun₆ with ⟨r₆, es', rfl, h₆, hrest⟩
    lift r₁ to ℕ using not_lt.mp h₁
    lift r₂ to ℕ using not_lt.mp h₂
    lift r₃ to ℕ using not_lt.mp h₃
    lift r₄ to ℕ using not_lt.mp h₄
    lift r₅ to ℕ using (not_le.mp h₅).le
    lift r₆ to ℕ using not_lt.mp h₆
    refine ⟨r₁, r₂, r₃, r₄, r₅, r₆, idx, es', rfl, hidx, ?_, hrest⟩
    rintro rfl
    exact h₅ le_rfl
  · rintro ⟨r₁, r₂, r₃, r₄, r₅, r₆, idx, es', rfl, hidx, h₅, hrest⟩
    have hcast : ∀ r : ℕ, ¬(r : ℤ) < 0 := fun r => not_lt.mpr r.cast_nonneg
    have hpton : ¬(r₅ : ℤ) ≤ 0 := not_le.mpr (by positivity)
    refine runs_checked_zero.mpr ⟨_, _, rfl, hcast r₁, ?_⟩
    refine runs_checked_zero.mpr ⟨_, _, rfl, hcast r₂, ?_⟩
    refine runs_checked_zero.mpr ⟨_, _, rfl, hcast r₃, ?_⟩
    refine runs_checked_zero.mpr ⟨_, _, rfl, hcast r₄, ?_⟩
    refine runs_checked_zero.mpr ⟨_, _, rfl, hidx, ?_⟩
    refine runs_checked_zero.mpr ⟨_, _, rfl, hpton, ?_⟩
    exact runs_checked_zero.mpr ⟨_, _, rfl, hcast r₆, hrest⟩

theorem runs_getSeccIpv6_some {found : Octets 16 × List Byte} :
    Runs (getSeccIpv6Calls false) es (some found) ↔ ∃ list ifaddrs,
      es = [⟨.getifaddrs, some (list, ifaddrs)⟩, ⟨.freeifaddrs list, ()⟩] ∧
        findInterface ifaddrs = some found := by
  constructor
  · intro h
    rcases runs_call_iff.mp h with ⟨_ | ⟨list, ifaddrs⟩, es', rfl, hlist⟩
    · cases (runs_pure_iff.mp hlist).2
    · rcases runs_call_iff.mp hlist with ⟨⟨⟩, es'', rfl, hret⟩
      rcases runs_pure_iff.mp hret with ⟨rfl, hfound⟩
      exact ⟨list, ifaddrs, rfl, hfound.symm⟩
  · rintro ⟨list, ifaddrs, rfl, hfound⟩
    refine runs_call_iff.mpr ⟨_, _, rfl, ?_⟩
    exact runs_call_iff.mpr ⟨(), _, rfl, runs_pure_iff.mpr ⟨rfl, hfound.symm⟩⟩

theorem runs_socket_zero {prepare : ℤ → Posix ℤ} :
    Runs (Posix.socket .udp6 >>= fun sock => if sock < 0 then pure (-1) else prepare sock) es 0 ↔
      ∃ sock es', es = ⟨.socket .udp6, sock⟩ :: es' ∧ 0 ≤ sock ∧ Runs (prepare sock) es' 0 := by
  constructor
  · intro h
    rcases runs_call_iff.mp h with ⟨sock, es', rfl, hrun⟩
    split_ifs at hrun with hsock
    · cases (runs_pure_iff.mp hrun).2
    · exact ⟨sock, es', rfl, not_lt.mp hsock, hrun⟩
  · rintro ⟨sock, es', rfl, hsock, hrun⟩
    refine runs_call_iff.mpr ⟨_, _, rfl, ?_⟩
    rwa [if_neg (not_lt.mpr hsock)]

end answered

/-- What the calls of `secc_sdp_listen` come to, whatever the system answers. -/
theorem sdp_calls_refine {v2gPort : UInt16} {samePc : Bool} {es : List PosixEvent} {ret : ℤ}
    (h : Runs (seccSdpListenCalls v2gPort samePc) es ret) :
    SdpSeen.Explains v2gPort samePc ret (es.foldl SdpSeen.observe .nothing) := by
  suffices hfollows : Follows SdpSeen.observe .nothing (seccSdpListenCalls v2gPort samePc)
      (SdpSeen.Explains v2gPort samePc) from
    hfollows.sound h
  apply follows_getSeccIpv6.bind
  rintro found ⟨env, sent⟩ ⟨hip, rfl⟩
  cases found with
  | none =>
    change seccSdpListen env v2gPort samePc = _
    rw [seccSdpListen, hip]
    rfl
  | some found => exact follows_socket hip

theorem sdp_calls_refine_loopback : ∃ es, Runs (seccSdpListenCalls 15118 true) es 0 ∧
    SdpSeen.Explains 15118 true 0 (es.foldl SdpSeen.observe .nothing) ∧
      (es.foldl SdpSeen.observe .nothing).sent = some (sdpBuildResponse loopback 15118 0x00) := by
  have hexchange : Runs (sdpExchange 3 loopback 15118) _ 0 :=
    runs_sdpExchange_zero.mpr ⟨0x00, 0x00, ⟨loopback, 1024⟩, Or.inl rfl, rfl⟩
  have hprepare : Runs (sdpPrepare 3 lo0 (sdpExchange 3 loopback 15118)) _ 0 :=
    runs_sdpPrepare_zero.mpr
      ⟨0, 0, 0, 0, 1, 0, 1, _, rfl, one_ne_zero, one_ne_zero, hexchange⟩
  have hsocket : Runs (Posix.socket .udp6 >>= fun sock => if sock < 0 then pure (-1) else
      sdpPrepare sock lo0 (sdpExchange sock loopback 15118)) _ 0 :=
    runs_socket_zero.mpr ⟨3, _, rfl, by decide, hprepare⟩
  have hrun : Runs (seccSdpListenCalls 15118 true) _ 0 :=
    runs_bind_iff.mpr ⟨[], _, some (loopback, lo0), rfl, Runs.ret _, hsocket⟩
  exact ⟨_, hrun, sdp_calls_refine hrun, rfl⟩

/-- `secc_sdp_listen` returns 0 after these calls and after no others. -/
theorem sdp_answered_iff {v2gPort : UInt16} {es : List PosixEvent} :
    Runs (seccSdpListenCalls v2gPort false) es 0 ↔ ∃ c : SdpAnswered, es = c.events v2gPort := by
  constructor
  · intro h
    rcases runs_bind_iff.mp h with ⟨es₁, es₂, _ | ⟨addr, iface⟩, rfl, hfound, hrun⟩
    · cases (runs_pure_iff.mp hrun).2
    rcases runs_getSeccIpv6_some.mp hfound with ⟨list, ifaddrs, rfl, hifaddrs⟩
    rcases findInterface_eq_some.mp hifaddrs with ⟨before, ifa, after, rfl, hbefore, haddr, rfl⟩
    rcases runs_socket_zero.mp hrun with ⟨sock, es₃, rfl, hsock, hprepare⟩
    rcases runs_sdpPrepare_zero.mp hprepare with
      ⟨r₁, r₂, r₃, r₄, r₅, r₆, idx, es₄, rfl, hidx, hpton, hexchange⟩
    rcases runs_sdpExchange_zero.mp hexchange with ⟨security, transportProto, ev, hsecurity, rfl⟩
    exact ⟨⟨list, before, ifa, after, addr, hbefore, haddr, sock, hsock, r₁, r₂, r₃, r₄, idx, hidx,
      r₅, hpton, r₆, security, hsecurity, transportProto, ev⟩, rfl⟩
  · rintro ⟨c, rfl⟩
    refine runs_bind_iff.mpr ⟨_, _, some (c.addr, copyName ifNameSize c.ifa.name), rfl,
      runs_getSeccIpv6_some.mpr ⟨c.list, c.before ++ c.ifa :: c.after, rfl, ?_⟩, ?_⟩
    · exact findInterface_eq_some.mpr
        ⟨c.before, c.ifa, c.after, rfl, c.before_announced, c.ifa_announced, rfl⟩
    · refine runs_socket_zero.mpr ⟨c.sock, _, rfl, c.sock_nonneg, ?_⟩
      refine runs_sdpPrepare_zero.mpr ⟨c.reuseAddr, c.reusePort, c.multicastLoop, c.bind, c.pton,
        c.joinGroup, c.idx, _, rfl, c.idx_ne_zero, c.pton_ne_zero, ?_⟩
      exact runs_sdpExchange_zero.mpr
        ⟨c.security, c.transportProto, c.ev, c.security_known, rfl⟩

end EvseIso15118
