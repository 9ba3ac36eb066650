import EvseIso15118.SocketOwnership
import EvseIso15118.TlsTransport

namespace EvseIso15118

open Ownership

/-- `tls_server_init_and_accept_ex(0)`. -/
def acceptTcpCalls (st : TransportStatics) : Posix (ℤ × TransportStatics) := do
  let st := { st with useTls := 0 }
  let listenSock ← Posix.socket .tcp4
  if listenSock < 0 then return (-1, st)
  else do
    let ret ← Posix.setsockopt listenSock .reuseAddr
    if ret < 0 then do
      Posix.close listenSock
      return (-1, st)
    else do
      let ret ← Posix.bind listenSock
      if ret < 0 then do
        Posix.close listenSock
        return (-1, st)
      else do
        let ret ← Posix.listen listenSock
        if ret < 0 then do
          Posix.close listenSock
          return (-1, st)
        else do
          let fd ← Posix.accept listenSock
          Posix.close listenSock
          let st := { st with plainTcpFd := fd }
          if fd < 0 then return (-1, st)
          else return (fd, st)

/-- A loop of `recv` calls: the bytes in `buf` at its end, and whether it went on until `target` or
`len` of them were there. -/
def recvLoopCalls (fd : ℤ) (target len : ℕ) (buf : List Byte) : Posix (List Byte × Bool) :=
  if target ≤ buf.length ∨ len ≤ buf.length then return (buf, true)
  else .ask (.recv fd (len - buf.length)) fun seg =>
    if toInt32 seg.1.length ≤ 0 then return (buf, false)
    else recvLoopCalls fd target len (buf ++ seg.1)
termination_by len - buf.length
decreasing_by
  rename_i h
  have hpos : 0 < seg.1.length := by
    rw [Nat.pos_iff_ne_zero]
    intro hzero
    rw [hzero] at h
    exact h (le_refl 0)
  rw [List.length_append]
  omega

/-- `tls_read` without TLS. -/
def tcpReadCalls (st : TransportStatics) (len : ℕ) : Posix (ℤ × List Byte) := do
  let header ← recvLoopCalls st.plainTcpFd 8 len []
  if header.2 = false then
    return (if header.1 = [] then -1 else toInt32 header.1.length, header.1)
  else if header.1.length < 8 then do
    let _ ← Posix.getpeername st.plainTcpFd
    return (toInt32 header.1.length, header.1)
  else do
    let payloadLength := be32 (byteAt header.1 4) (byteAt header.1 5) (byteAt header.1 6)
      (byteAt header.1 7)
    let message ← recvLoopCalls st.plainTcpFd (8 + payloadLength).toNat len header.1
    if message.2 = false then return (toInt32 message.1.length, message.1)
    else do
      let _ ← Posix.getpeername st.plainTcpFd
      return (toInt32 message.1.length, message.1)

/-- What the calls of `recv` found, one after the other. -/
def received (es : List PosixEvent) : List (List Byte) :=
  es.filterMap fun
    | ⟨.recv _ _, seg⟩ => some seg.1
    | _ => none

/-- With `n` bytes in the buffer, each `recv` writes behind what is there and has the room that is
left of `len`. -/
def FillsBuffer (fd : ℤ) (len : ℕ) : ℕ → List PosixEvent → Prop
  | _, [] => True
  | n, ⟨.recv fd' room, seg⟩ :: es =>
    fd' = fd ∧ 0 < room ∧ n + room = len ∧ FillsBuffer fd len (n + seg.1.length) es
  | n, _ :: es => FillsBuffer fd len n es

section reading
variable {fd : ℤ} {target len : ℕ} {buf : List Byte} {es : List PosixEvent}

theorem received_append (es es' : List PosixEvent) :
    received (es ++ es') = received es ++ received es' := List.filterMap_append

theorem fillsBuffer_append {n : ℕ} {es' : List PosixEvent} :
    FillsBuffer fd len n (es ++ es') ↔
      FillsBuffer fd len n es ∧ FillsBuffer fd len (n + (received es).flatten.length) es' := by
  induction es generalizing n with
  | nil => exact (true_and _).symm.to_iff
  | cons e es ih =>
    rcases e with ⟨c, answer⟩
    cases c
    case recv fd' room =>
      have hlen : n + (received (⟨.recv fd' room, answer⟩ :: es)).flatten.length =
          n + answer.1.length + (received es).flatten.length := by
        change n + (answer.1 ++ (received es).flatten).length = _
        rw [List.length_append, Nat.add_assoc]
      rw [hlen]
      change (_ ∧ _ ∧ _ ∧ FillsBuffer fd len _ (es ++ es')) ↔ (_ ∧ _ ∧ _ ∧ _) ∧ _
      rw [ih]
      tauto
    all_goals exact ih

theorem runs_recvLoopCalls {r : List Byte × Bool} (hbuf : buf.length ≤ len)
    (h : Runs (recvLoopCalls fd target len buf) es r) :
    (∀ later, ∃ ended, recvLoop target len buf (received es ++ later) = ⟨r.1, later, ended⟩) ∧
      FillsBuffer fd len buf.length es ∧ (buf.length ≤ r.1.length ∧ r.1.length ≤ len) ∧
      (r.2 = true → (target ≤ r.1.length ∨ len ≤ r.1.length) ∧ r.1 = buf ++ (received es).flatten) ∧
      (r.2 = false → r.1.length < target ∧ r.1.length < len) := by
  induction buf using recvLoopCalls.induct fd target len generalizing es with
  | case1 buf hstop =>
    rw [recvLoopCalls, if_pos hstop] at h
    rcases runs_pure_iff.mp h with ⟨rfl, rfl⟩
    refine ⟨?_, trivial, ⟨le_refl _, hbuf⟩, fun _ => ⟨hstop, (List.append_nil buf).symm⟩, ?_⟩
    · rintro (_ | ⟨seg, segs⟩)
      · exact ⟨_, rfl⟩
      · exact ⟨false, by rw [received, List.filterMap_nil, List.nil_append, recvLoop, if_pos hstop]⟩
    · intro hfalse
      cases hfalse
  | case2 buf hgo ih =>
    rw [recvLoopCalls, if_neg hgo] at h
    rcases runs_ask_iff.mp h with ⟨seg, es', rfl, hrest⟩
    have hroom : 0 < len - buf.length := by omega
    have hseg := seg.2
    have hreceived : received (⟨.recv fd (len - buf.length), seg⟩ :: es') =
        seg.1 :: received es' := rfl
    have hmin : min seg.1.length (len - buf.length) = seg.1.length := Nat.min_eq_left hseg
    by_cases hend : toInt32 seg.1.length ≤ 0
    · rw [if_pos hend] at hrest
      rcases runs_pure_iff.mp hrest with ⟨rfl, rfl⟩
      rw [not_or, not_le, not_le] at hgo
      refine ⟨fun later => ?_, ⟨rfl, hroom, by omega, trivial⟩, ⟨le_refl _, hbuf⟩, ?_, fun _ => hgo⟩
      · rw [hreceived, List.cons_append, recvLoop, if_neg (by omega)]
        dsimp only
        rw [hmin, if_pos hend, if_pos hseg]
        split_ifs
        · exact ⟨true, rfl⟩
        · exact ⟨false, rfl⟩
      · intro htrue
        cases htrue
    · rw [if_neg hend] at hrest
      have hne : seg.1 ≠ [] := by
        intro hnil
        rw [hnil] at hend
        exact hend (le_refl 0)
      have hlen : (buf ++ seg.1).length ≤ len := by
        rw [List.length_append]
        omega
      rcases ih seg hend hlen hrest with ⟨hloop, hfills, hle, hmore, hshort⟩
      rw [List.length_append] at hfills hle
      refine ⟨fun later => ?_, ⟨rfl, hroom, by omega, hfills⟩, ⟨by omega, hle.2⟩, ?_, hshort⟩
      · rcases hloop later with ⟨ended, hloop⟩
        refine ⟨ended, ?_⟩
        rw [hreceived, List.cons_append, recvLoop, if_neg hgo, if_neg hne]
        dsimp only
        rw [hmin, if_neg hend, if_pos hseg, hloop]
      · intro htrue
        rcases hmore htrue with ⟨hstop, hbytes⟩
        rw [hreceived, List.flatten_cons, ← List.append_assoc]
        exact ⟨hstop, hbytes⟩

theorem runs_getpeername {r x : ℤ × List Byte}
    (h : Runs (Posix.getpeername fd >>= fun _ => return r) es x) :
    received es = [] ∧ (∀ fd' n, FillsBuffer fd' len n es) ∧ x = r := by
  rcases runs_call_iff.mp h with ⟨answer, es', rfl, hret⟩
  rcases runs_pure_iff.mp hret with ⟨rfl, hresult⟩
  exact ⟨rfl, fun _ _ => trivial, hresult⟩

theorem tcpRead_of_receive {segs rest : List (List Byte)} {ended : Bool}
    (h : tcpReceive len segs = ⟨buf, rest, ended⟩) (hbuf : buf = [] → len = 0) :
    tcpRead len segs = (toInt32 buf.length, buf, rest) := by
  rw [tcpRead, h]
  apply if_neg
  rintro ⟨hnil, hpos⟩
  exact hpos.ne' (hbuf hnil)

/-- However the bytes come: `tls_read` does what `tcpRead` does with what `recv` finds, and no
`recv` is given room that the buffer does not have. -/
theorem tcp_read_calls_refine {st : TransportStatics} {ret : ℤ}
    (h : Runs (tcpReadCalls st len) es (ret, buf)) :
    (∀ later, tcpRead len (received es ++ later) = (ret, buf, later)) ∧
      FillsBuffer st.plainTcpFd len 0 es ∧ buf.length ≤ len := by
  rcases runs_bind_iff.mp h with ⟨es₁, es₂, header, rfl, hheader, h⟩
  rcases runs_recvLoopCalls (Nat.zero_le len) hheader with ⟨hloop, hfills, hle, hmore, hshort⟩
  have hreceive : ∀ segs, ∃ ended, recvLoop 8 len [] (received es₁ ++ segs) =
      ⟨header.1, segs, ended⟩ := hloop
  by_cases hended : header.2 = false
  · rw [if_pos hended] at h
    rcases runs_pure_iff.mp h with ⟨rfl, hresult⟩
    cases hresult
    have hless := hshort hended
    refine ⟨fun later => ?_, by rwa [List.append_nil], hle.2⟩
    rcases hreceive later with ⟨ended, hreceive⟩
    have hread : tcpReceive len (received es₁ ++ later) = ⟨header.1, later, ended⟩ := by
      rw [tcpReceive, hreceive, if_pos hless.1]
    rw [List.append_nil]
    by_cases hnil : header.1 = []
    · rw [if_pos hnil, tcpRead, hread, if_pos ⟨hnil, Nat.lt_of_le_of_lt (Nat.zero_le _) hless.2⟩]
    · rw [if_neg hnil]
      exact tcpRead_of_receive hread fun h => absurd h hnil
  rw [if_neg hended] at h
  rcases hmore (eq_true_of_ne_false hended) with ⟨hstop, hbytes⟩
  by_cases hlt : header.1.length < 8
  · rw [if_pos hlt] at h
    rcases runs_getpeername h with ⟨hnone, hnothing, hresult⟩
    cases hresult
    have hlen : len ≤ header.1.length := hstop.resolve_left (not_le.mpr hlt)
    refine ⟨fun later => ?_, fillsBuffer_append.mpr ⟨hfills, hnothing _ _⟩, hle.2⟩
    rcases hreceive later with ⟨ended, hreceive⟩
    rw [received_append, hnone, List.append_nil]
    apply tcpRead_of_receive
    · rw [tcpReceive, hreceive, if_pos hlt]
    · intro hnil
      rw [hnil] at hlen
      exact Nat.le_zero.mp hlen
  rw [if_neg hlt] at h
  rcases runs_bind_iff.mp h with ⟨es₃, es₄, message, rfl, hmessage, h⟩
  rcases runs_recvLoopCalls hle.2 hmessage with ⟨hloop', hfills', hle', -, -⟩
  -- nothing is read after the loops
  have hlast : received es₄ = [] ∧ (∀ fd n, FillsBuffer fd len n es₄) ∧
      (ret, buf) = (toInt32 message.1.length, message.1) := by
    split_ifs at h
    · rcases runs_pure_iff.mp h with ⟨rfl, hresult⟩
      exact ⟨rfl, fun _ _ => trivial, hresult⟩
    · exact runs_getpeername h
  rcases hlast with ⟨hnone, hnothing, hresult⟩
  cases hresult
  refine ⟨fun later => ?_, ?_, hle'.2⟩
  · rcases hloop' later with ⟨ended', hmessage'⟩
    rcases hreceive (received es₃ ++ later) with ⟨ended, hreceive⟩
    rw [received_append, received_append, hnone, List.append_nil, List.append_assoc]
    apply tcpRead_of_receive
    · rw [tcpReceive, hreceive, if_neg hlt]
      exact hmessage'
    · intro hnil
      rw [hnil, List.length_nil] at hle'
      omega
  · rw [List.nil_append] at hbytes
    apply fillsBuffer_append.mpr ⟨hfills, ?_⟩
    rw [← hbytes, List.length_nil, Nat.zero_add]
    exact fillsBuffer_append.mpr ⟨hfills', hnothing _ _⟩

end reading

theorem tcp_read_calls_refine_twoSegments :
    let st : TransportStatics := { useTls := 0, plainTcpFd := 5 }
    let first : List Byte := [0x01, 0xFE, 0x80, 0x01, 0x00]
    let second : List Byte := [0x00, 0x00, 0x01, 0xAA]
    let es : List PosixEvent := [⟨.recv 5 2048, ⟨first, Nat.le_of_ble_eq_true rfl⟩⟩,
      ⟨.recv 5 2043, ⟨second, Nat.le_of_ble_eq_true rfl⟩⟩, ⟨.getpeername 5, (0 : ℤ)⟩]
    Runs (tcpReadCalls st 2048) es (9, first ++ second) ∧
      tcpRead 2048 [first, second, [0x01]] = (9, first ++ second, [[0x01]]) ∧
      FillsBuffer 5 2048 0 es := by
  intro st first second es
  have hheader : Runs (recvLoopCalls 5 8 2048 []) (es.take 2) (first ++ second, true) := by
    rw [recvLoopCalls, if_neg (by decide)]
    refine runs_ask_iff.mpr ⟨⟨first, Nat.le_of_ble_eq_true rfl⟩, _, rfl, ?_⟩
    rw [if_neg (by decide), recvLoopCalls, if_neg (by decide)]
    refine runs_ask_iff.mpr ⟨⟨second, Nat.le_of_ble_eq_true rfl⟩, _, rfl, ?_⟩
    rw [if_neg (by decide), recvLoopCalls, if_pos (by decide)]
    exact Runs.ret _
  have hmessage : ∀ target, target = 9 →
      Runs (recvLoopCalls 5 target 2048 (first ++ second)) [] (first ++ second, true) := by
    rintro target rfl
    rw [recvLoopCalls, if_pos (by decide)]
    exact Runs.ret _
  have hrun : Runs (tcpReadCalls st 2048) es (9, first ++ second) := by
    refine runs_bind_iff.mpr ⟨es.take 2, es.drop 2, _, rfl, hheader, ?_⟩
    rw [if_neg (by decide), if_neg (by decide)]
    refine runs_bind_iff.mpr ⟨[], es.drop 2, _, rfl, hmessage _ (by decide), ?_⟩
    rw [if_neg (by decide)]
    exact runs_call_iff.mpr ⟨(0 : ℤ), [], rfl, Runs.ret _⟩
  rcases tcp_read_calls_refine hrun with ⟨hread, hfills, _⟩
  exact ⟨hrun, hread [[0x01]], hfills⟩

/-- The results of the calls, as far as they have been made. -/
def AcceptEnv.observe (env : AcceptEnv) : PosixEvent → AcceptEnv
  | ⟨.socket _, fd⟩ => { env with socket := fd }
  | ⟨.setsockopt _ _, ret⟩ => { env with setsockopt := ret }
  | ⟨.bind _, ret⟩ => { env with bind := ret }
  | ⟨.listen _, ret⟩ => { env with listen := ret }
  | ⟨.accept _, fd⟩ => { env with accept := fd }
  | _ => env

section accepting
variable {st : TransportStatics}

theorem follows_acceptTcpCalls (env : AcceptEnv) :
    Follows AcceptEnv.observe env (acceptTcpCalls st) fun r seen =>
      acceptTcp seen { st with useTls := 0 } = r := by
  intro socket
  change Follows _ _ (if socket < 0 then _ else _) _
  split_ifs with hsocket
  · exact if_pos hsocket
  intro opt
  change Follows _ _ (if opt < 0 then _ else _) _
  split_ifs with hopt
  · intro _
    exact (if_neg hsocket).trans (if_pos hopt)
  intro bound
  change Follows _ _ (if bound < 0 then _ else _) _
  split_ifs with hbound
  · intro _
    exact (if_neg hsocket).trans ((if_neg hopt).trans (if_pos hbound))
  intro listening
  change Follows _ _ (if listening < 0 then _ else _) _
  have hset : ∀ fd, acceptTcp { env with
      socket := socket, setsockopt := opt, bind := bound, listen := listening, accept := fd }
      { st with useTls := 0 } = if listening < 0 then (-1, { st with useTls := 0 }) else
        if fd < 0 then (-1, { st with useTls := 0, plainTcpFd := fd })
        else (fd, { st with useTls := 0, plainTcpFd := fd }) := fun _ =>
    (if_neg hsocket).trans ((if_neg hopt).trans (if_neg hbound))
  split_ifs with hlistening
  · intro _
    exact (hset env.accept).trans (if_pos hlistening)
  intro fd _
  change Follows _ _ (if fd < 0 then _ else _) _
  split_ifs with hfd
  · exact (hset fd).trans ((if_neg hlistening).trans (if_pos hfd))
  · exact (hset fd).trans ((if_neg hlistening).trans (if_neg hfd))

/-- Accepting a connection call by call is accepting it with the results of the calls. -/
theorem accept_calls_refine {es : List PosixEvent} {r : ℤ × TransportStatics} (env : AcceptEnv)
    (h : Runs (acceptTcpCalls st) es r) :
    tlsServerInitAndAcceptEx (es.foldl AcceptEnv.observe env) 0 st = r :=
  (if_neg (by decide)).trans ((follows_acceptTcpCalls env).sound h)

/-- The calls of an accept that succeeds. -/
def acceptedEvents (fd : ℤ) : List PosixEvent :=
  [⟨.socket .tcp4, (3 : ℤ)⟩, ⟨.setsockopt 3 .reuseAddr, (0 : ℤ)⟩, ⟨.bind 3, (0 : ℤ)⟩,
    ⟨.listen 3, (0 : ℤ)⟩, ⟨.accept 3, fd⟩, ⟨.close 3, ()⟩]

theorem runs_acceptedEvents {fd : ℤ} (hfd : 0 ≤ fd) (st : TransportStatics) :
    Runs (acceptTcpCalls st) (acceptedEvents fd)
      (fd, { st with useTls := 0, plainTcpFd := fd }) := by
  refine runs_call_iff.mpr ⟨(3 : ℤ), _, rfl, ?_⟩
  refine runs_call_iff.mpr ⟨(0 : ℤ), _, rfl, ?_⟩
  refine runs_call_iff.mpr ⟨(0 : ℤ), _, rfl, ?_⟩
  refine runs_call_iff.mpr ⟨(0 : ℤ), _, rfl, ?_⟩
  refine runs_call_iff.mpr ⟨fd, _, rfl, ?_⟩
  refine runs_call_iff.mpr ⟨(), _, rfl, ?_⟩
  rw [if_neg (not_lt.mpr hfd)]
  exact Runs.ret _

end accepting

theorem accept_calls_refine_accepted :
    let nothing : AcceptEnv := ⟨0, 0, 0, 0, 0, 0, 0, -1, -1, -1, -1, -1⟩
    tlsServerInitAndAcceptEx ((acceptedEvents 4).foldl AcceptEnv.observe nothing) 0 {} =
      (4, { useTls := 0, plainTcpFd := 4 }) :=
  accept_calls_refine _ (runs_acceptedEvents (by decide) {})

inductive PlainCall
  | accept
  | read (len : ℕ)
  | write (buf : List Byte)
  | close

/-- The descriptor that a call has overwritten. -/
def TransportStatics.lostBy (st next : TransportStatics) : PlainCall → List ℤ
  | .accept => if next.plainTcpFd = st.plainTcpFd then [] else [st.plainTcpFd]
  | _ => []

/-- What is held: the connection, if there is one, and `rest`. -/
structure TransportStatics.Holds (st : TransportStatics) (rest held : Set Resource) : Prop where
  held_eq : held = rest ∪ openedFd st.plainTcpFd
  disjoint : Disjoint rest (openedFd st.plainTcpFd)

section owns
variable {held rest : Set Resource} {st : TransportStatics}

end owns

end EvseIso15118
