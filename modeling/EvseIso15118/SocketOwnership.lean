import EvseIso15118.SdpSocket

namespace EvseIso15118

open Ownership

def udpSdpServerInit : Posix ℤ := do
  let udpFd ← Posix.socket .udp6
  if udpFd < 0 then return -1
  else do
    let ret ← Posix.setsockopt udpFd .reuseAddr
    orClose udpFd (ret < 0) do
    let ret ← Posix.bind udpFd
    orClose udpFd (ret < 0) (return udpFd)

/-- `udp_sdp_recv` with pointers that are not null: what the datagram leaves in `buf`, and its
sender. -/
def udpSdpRecv (udpFd : ℤ) (bufLen : ℕ) : Posix (ℤ × Option (List Byte × SockaddrIn6)) :=
  if udpFd < 0 ∨ bufLen = 0 then return (-1, none)
  else do
    match ← Posix.recvfrom udpFd with
    | none => return (-1, none)
    | some (datagram, client) =>
      let buf := datagram.take bufLen
      return (buf.length, some (buf, client))

/-- `udp_sdp_send` with pointers that are not null. -/
def udpSdpSend (udpFd : ℤ) (buf : List Byte) (client : SockaddrIn6) : Posix ℤ :=
  if udpFd < 0 ∨ buf = [] then return -1
  else do
    let ret ← Posix.sendto udpFd buf client
    if ret < 0 then return -1
    else if ret ≠ buf.length then return -1
    else return ret

def udpSdpClose (udpFd : ℤ) : Posix Unit :=
  if 0 ≤ udpFd then Posix.close udpFd else return ()

/-- A use of the UDP server between `udp_sdp_server_init` and `udp_sdp_close`. -/
inductive UdpCall
  | recv (bufLen : ℕ)
  | send (buf : List Byte) (client : SockaddrIn6)

def udpCall (udpFd : ℤ) : UdpCall → Posix ℤ
  | .recv bufLen => do
    let received ← udpSdpRecv udpFd bufLen
    return received.1
  | .send buf client => udpSdpSend udpFd buf client

def udpCalls (udpFd : ℤ) : List UdpCall → Posix Unit
  | [] => return ()
  | call :: calls => do
    let _ ← udpCall udpFd call
    udpCalls udpFd calls

/-- The results are not looked at, not even that of `udp_sdp_server_init`. -/
def udpServer (calls : List UdpCall) : Posix Unit := do
  let udpFd ← udpSdpServerInit
  udpCalls udpFd calls
  udpSdpClose udpFd

section owns
variable {held : Set Resource} {sock : ℤ}

theorem owns_orClose {Q : ℤ → Set Resource → Prop} {failed : Prop} [Decidable failed]
    {rest : Posix ℤ} (hsock : Resource.fd sock ∉ held) (hfail : Q (-1) held)
    (hrest : Owns posix (insert (.fd sock) held) rest Q) :
    Owns posix (insert (.fd sock) held) (orClose sock failed rest) Q := by
  unfold orClose
  split_ifs
  · exact owns_close hsock hfail
  · exact hrest

theorem owns_checked {Q : ℤ → Set Resource → Prop} {c : PosixCall} {failed : c.Answer → Prop}
    [∀ answer, Decidable (failed answer)] {rest : c.Answer → Posix ℤ}
    (huses : c.uses ⊆ {Resource.fd sock}) (hfrees : c.frees = ∅)
    (hmakes : ∀ answer, PosixEvent.makes ⟨c, answer⟩ = ∅) (hsock : Resource.fd sock ∉ held)
    (hfail : Q (-1) held)
    (hrest : ∀ answer, Owns posix (insert (.fd sock) held) (rest answer) Q) :
    Owns posix (insert (.fd sock) held)
      (Prog.ask c Prog.ret >>= fun answer => orClose sock (failed answer) (rest answer)) Q := by
  apply owns_ask (huses.trans (Set.singleton_subset_iff.mpr (Set.mem_insert _ _))) hfrees hmakes
  exact fun answer => owns_orClose hsock hfail (hrest answer)

theorem owns_udpSdpServerInit : Owns posix held udpSdpServerInit fun fd s =>
    fd < 0 ∧ s = held ∨ 0 ≤ fd ∧ Resource.fd fd ∉ held ∧ s = insert (.fd fd) held := by
  apply owns_socket
  · intro fd hfd
    rw [if_pos hfd]
    exact Or.inl ⟨by decide, rfl⟩
  · intro fd hfd hfresh
    rw [if_neg (not_lt.mpr hfd)]
    apply owns_checked subset_rfl rfl (fun _ => rfl) hfresh (Or.inl ⟨by decide, rfl⟩)
    intro _
    apply owns_checked subset_rfl rfl (fun _ => rfl) hfresh (Or.inl ⟨by decide, rfl⟩)
    exact fun _ => Or.inr ⟨hfd, hfresh, rfl⟩

variable {udpFd : ℤ} (hfd : udpFd < 0 ∨ Resource.fd udpFd ∈ held)
include hfd

theorem owns_udpSdpRecv (bufLen : ℕ) :
    Owns posix held (udpSdpRecv udpFd bufLen) fun _ s => s = held := by
  unfold udpSdpRecv
  split_ifs with hnone
  · rfl
  have hmem := hfd.resolve_left fun h => hnone (Or.inl h)
  apply owns_ask (Set.singleton_subset_iff.mpr hmem) rfl (fun _ => rfl)
  rintro (_ | ⟨datagram, client⟩)
  · rfl
  · rfl

theorem owns_udpSdpSend (buf : List Byte) (client : SockaddrIn6) :
    Owns posix held (udpSdpSend udpFd buf client) fun _ s => s = held := by
  unfold udpSdpSend
  split_ifs with hnone
  · rfl
  have hmem := hfd.resolve_left fun h => hnone (Or.inl h)
  apply owns_ask (Set.singleton_subset_iff.mpr hmem) rfl (fun _ => rfl)
  intro ret
  change Owns posix held (if ret < 0 then _ else if ret ≠ buf.length then _ else _) _
  split_ifs
  · rfl
  · rfl
  · rfl

theorem owns_udpCalls (calls : List UdpCall) :
    Owns posix held (udpCalls udpFd calls) fun _ s => s = held := by
  induction calls with
  | nil => rfl
  | cons call calls ih =>
    have hcall : Owns posix held (udpCall udpFd call) fun _ s => s = held := by
      cases call with
      | recv bufLen =>
        apply (owns_udpSdpRecv hfd bufLen).bind
        rintro _ _ rfl
        rfl
      | send buf client => exact owns_udpSdpSend hfd buf client
    apply hcall.bind
    rintro _ _ rfl
    exact ih

end owns

open Classical in
theorem udp_server_returns {calls : List UdpCall} {held : Set Resource} {es : List PosixEvent}
    (h : Runs (udpServer calls) es ()) (hfresh : posix.Fresh held es) :
    posix.Legal held es ∧ posix.final held es = held ∧
      ∀ r, es.countP (fun e => r ∈ posix.makes e) = es.countP fun e => r ∈ posix.frees e.1 := by
  have howns : Owns posix held (udpServer calls) fun _ s => s = held := by
    apply owns_udpSdpServerInit.bind
    rintro fd s (⟨hfd, rfl⟩ | ⟨hfd, hfresh', rfl⟩)
    · apply (owns_udpCalls (Or.inl hfd) calls).bind
      rintro _ _ rfl
      unfold udpSdpClose
      rw [if_neg (not_le.mpr hfd)]
      rfl
    · apply (owns_udpCalls (Or.inr (Set.mem_insert _ _)) calls).bind
      rintro _ _ rfl
      unfold udpSdpClose
      rw [if_pos hfd]
      exact owns_close hfresh' rfl
  exact howns.returns h hfresh

theorem udp_server_returns_recvFails :
    let es : List PosixEvent := [⟨.socket .udp6, (4 : ℤ)⟩, ⟨.setsockopt 4 .reuseAddr, (0 : ℤ)⟩,
      ⟨.bind 4, (0 : ℤ)⟩, ⟨.recvfrom 4, none⟩, ⟨.close 4, ()⟩]
    Runs (udpServer [.recv 256]) es () ∧ posix.Legal ∅ es ∧ posix.final ∅ es = ∅ := by
  intro es
  have hrun : Runs (udpServer [.recv 256]) es () := by
    refine runs_call_iff.mpr ⟨(4 : ℤ), _, rfl, ?_⟩
    refine runs_call_iff.mpr ⟨(0 : ℤ), _, rfl, ?_⟩
    refine runs_call_iff.mpr ⟨(0 : ℤ), _, rfl, ?_⟩
    refine runs_call_iff.mpr ⟨none, _, rfl, ?_⟩
    exact runs_call_iff.mpr ⟨(), _, rfl, Runs.ret _⟩
  have hfresh : posix.Fresh ∅ es :=
    ⟨Set.disjoint_empty _, Set.empty_disjoint _, Set.empty_disjoint _, Set.empty_disjoint _,
      Set.empty_disjoint _, trivial⟩
  have hreturns := udp_server_returns hrun hfresh
  exact ⟨hrun, hreturns.1, hreturns.2.1⟩

end EvseIso15118
