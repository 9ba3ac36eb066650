import EvseIso15118.Chunking
import EvseIso15118.SeccSession
import EvseIso15118.Transition

namespace EvseIso15118

/-- The listening sockets that are open and, for every connection accepted so far, the last one
first, how often `tls_close` has been called for it. -/
structure Ledger where
  listening : List ℤ := []
  closes : List ℕ := []
  deriving DecidableEq

/-- `mbedtls_net_bind` is reached and succeeds. -/
def AcceptEnv.Binds (env : AcceptEnv) : Prop :=
  env.drbgSeed = 0 ∧ env.certParse = 0 ∧ env.keyParse = 0 ∧ env.netBind = 0

instance (env : AcceptEnv) : Decidable env.Binds := by
  unfold AcceptEnv.Binds
  infer_instance

/-- `accept` is reached and succeeds. -/
def AcceptEnv.AcceptsTcp (env : AcceptEnv) : Prop :=
  0 ≤ env.socket ∧ 0 ≤ env.setsockopt ∧ 0 ≤ env.bind ∧ 0 ≤ env.listen ∧ 0 ≤ env.accept

instance (env : AcceptEnv) : Decidable env.AcceptsTcp := by
  unfold AcceptEnv.AcceptsTcp
  infer_instance

namespace Ledger

/-- What `tls_server_init_and_accept_ex` leaves open; without TLS it closes the listening socket
on every path. -/
def accept (l : Ledger) (env : AcceptEnv) (useTlsMode : ℤ) : Ledger :=
  if useTlsMode ≠ 0 then
    if env.Binds then
      { listening := env.netListenFd :: l.listening
        closes := if env.netAccept = 0 then 0 :: l.closes else l.closes }
    else l
  else if env.AcceptsTcp then { l with closes := 0 :: l.closes } else l

/-- `tls_close` with these static variables. -/
def close (l : Ledger) (st : TransportStatics) : Ledger where
  listening :=
    match st.channel with
    | .tls => l.listening.erase st.listenFd
    | .tcp => l.listening
  closes := l.closes.modifyHead (· + 1)

/-- What `secc_session_start` opens and closes. -/
def start (l : Ledger) (env : StartEnv) (sess : SeccHead) (st : TransportStatics) : Ledger :=
  let r := seccSessionStart env sess st
  if r.sdp.ret < 0 then l
  else
    let mode := r.session.transportMode.toInt
    let opened := l.accept env.accept mode
    if r.accepted ∧ r.ret = some (-1) then
      -- the handshake failed
      opened.close (tlsServerInitAndAcceptEx env.accept mode st).2
    else opened

end Ledger

/-- A call of a `secc_session_` function with what is outside of it. A descriptor that
`mbedtls_net_accept` fills in is not negative. -/
inductive SessionCall
  | init
  | start (env : StartEnv) (valid : env.accept.netAccept = 0 → 0 ≤ env.accept.netClientFd)
  | run (reads : List (List Byte))
  | stop

/-- The session, the static variables of the transport and the ledger. -/
structure Lifecycle (ω : Type) where
  session : SeccContext
  transport : TransportStatics
  ledger : Ledger
  world : ω

section lifecycle
variable {ω : Type} (L : MessageLayer ω) (fuel : ℕ)

/-- One call; none if it does not return. -/
def lifecycleStep (s : Lifecycle ω) : SessionCall → Option (Lifecycle ω)
  | .init => some { s with session := .initial }
  | .start env _ =>
    let r := seccSessionStart env s.session.toSeccHead s.transport
    if r.ret = none then none
    else some { s with
      session := { s.session with toSeccHead := r.session }
      transport := r.transport
      ledger := s.ledger.start env s.session.toSeccHead s.transport }
  | .run reads =>
    let r := seccSessionRun L fuel reads s.session s.world
    if r.returned then some { s with session := r.session, world := r.world } else none
  | .stop =>
    let r := seccSessionStop s.session.toSeccHead s.transport
    some { s with
      session := { s.session with toSeccHead := r.1 }
      transport := r.2
      ledger := if 0 ≤ s.session.clientFd then s.ledger.close s.transport else s.ledger }

end lifecycle

namespace Lifecycle

variable {ω : Type}

/-- After the first `secc_session_init`. -/
def initial (st : TransportStatics) (world : ω) : Lifecycle ω := ⟨.initial, st, {}, world⟩

/-- The session has a descriptor exactly while an accepted connection is open, and every other
connection has been closed once. -/
structure Consistent (s : Lifecycle ω) : Prop where
  held : 0 ≤ s.session.clientFd ↔ 0 ∈ s.ledger.closes
  once : ∀ n ∈ (if 0 ≤ s.session.clientFd then s.ledger.closes.tail else s.ledger.closes), n = 1

/-- Nothing is open. -/
structure Released (s : Lifecycle ω) : Prop where
  descriptor : s.session.clientFd = -1
  listening : s.ledger.listening = []
  connection : 0 ∉ s.ledger.closes

def Releases (s : Lifecycle ω) : SessionCall → Prop
  | .stop => True
  | .start env _ => (seccSessionStart env s.session.toSeccHead s.transport).ret = some (-1)
  | .init | .run _ => False

/-- What a call has to leave behind. -/
def WellKept (L : MessageLayer ω) (fuel : ℕ) (s : Lifecycle ω) (call : SessionCall) : Prop :=
  ∀ t, lifecycleStep L fuel s call = some t → t.Consistent ∧ (s.Releases call → t.Released)

end Lifecycle

/-- A start that fails before it opens a socket, or that succeeds. -/
def StartEnv.AllOrNothing (env : StartEnv) : Prop :=
  (seccSdpListen env.sdp 15118 false).ret < 0 ∨ ¬ env.accept.Binds ∨
    env.accept.netAccept = 0 ∧ tlsHandshake env.handshake = some 0

instance (env : StartEnv) : Decidable env.AllOrNothing := by
  unfold StartEnv.AllOrNothing
  infer_instance

/-- No connection is given up by a new `init` or `start`, and no start fails halfway. -/
def Lifecycle.Orderly {ω : Type} (s : Lifecycle ω) : SessionCall → Prop
  | .init => s.session.clientFd < 0
  | .start env _ => s.session.clientFd < 0 ∧ env.AllOrNothing
  | .run _ | .stop => True

instance {ω : Type} (s : Lifecycle ω) (call : SessionCall) : Decidable (s.Orderly call) := by
  cases call <;> unfold Lifecycle.Orderly <;> infer_instance

/-- What is left after a start, and its return value, by the place where it ends. -/
inductive Started (env : StartEnv) (sess : SeccHead) (st : TransportStatics) (l : Ledger) :
    ℤ → SeccHead → TransportStatics → Ledger → Prop
  | sdpFailed {sess' : SeccHead} (sdp : (seccSdpListen env.sdp 15118 false).ret < 0)
      (fd : sess'.clientFd = sess.clientFd) : Started env sess st l (-1) sess' st l
  | notBound {sess' : SeccHead} {st' : TransportStatics}
      (sdp : ¬ (seccSdpListen env.sdp 15118 false).ret < 0) (bind : ¬ env.accept.Binds)
      (fd : sess'.clientFd = -1) : Started env sess st l (-1) sess' st' l
  | notAccepted {sess' : SeccHead} {st' : TransportStatics}
      (sdp : ¬ (seccSdpListen env.sdp 15118 false).ret < 0) (bind : env.accept.Binds)
      (accept : env.accept.netAccept ≠ 0) :
      Started env sess st l (-1) sess' st'
        { l with listening := env.accept.netListenFd :: l.listening }
  | handshakeFailed {sess' : SeccHead} {st' : TransportStatics} {l' : Ledger}
      (sdp : ¬ (seccSdpListen env.sdp 15118 false).ret < 0) (bind : env.accept.Binds)
      (handshake : tlsHandshake env.handshake ≠ some 0)
      (fd : 0 ≤ sess'.clientFd) : Started env sess st l (-1) sess' st' l'
  | connected {sess' : SeccHead} {st' : TransportStatics}
      (accept : env.accept.netAccept = 0) (handshake : tlsHandshake env.handshake = some 0)
      (fd : 0 ≤ sess'.clientFd) (channel : st'.channel = .tls)
      (listen : st'.listenFd = env.accept.netListenFd) :
      Started env sess st l 0 sess' st'
        ⟨env.accept.netListenFd :: l.listening, 0 :: l.closes⟩

theorem acceptTls_of_not_binds {env : AcceptEnv} (h : ¬ env.Binds) (st : TransportStatics) :
    (acceptTls env st).1 = -1 := by
  unfold AcceptEnv.Binds at h
  unfold acceptTls
  split_ifs
  any_goals rfl
  all_goals exact absurd ⟨by omega, by omega, by omega, by omega⟩ h

theorem acceptTls_of_binds {env : AcceptEnv} (h : env.Binds) (st : TransportStatics) :
    acceptTls env st =
      if env.netAccept ≠ 0 then (-1, { st with listenFd := env.netListenFd, clientFd := -1 })
      else (env.netClientFd,
        { st with listenFd := env.netListenFd, clientFd := env.netClientFd }) := by
  rcases h with ⟨hseed, hcert, hkey, hbind⟩
  simp [acceptTls, hseed, hcert, hkey, hbind]

section start
variable (env : StartEnv) (sess : SeccHead) (st : TransportStatics) (l : Ledger)

/-- The connection that phase 2 asks for: always with TLS. -/
def startAccept : ℤ × TransportStatics := acceptTls env.accept { st with useTls := 1 }

theorem seccSessionStart_of_sdp (h : ¬ (seccSdpListen env.sdp 15118 false).ret < 0) :
    seccSessionStart env sess st =
      seccSessionConnect env { sess with state := .idle, transportMode := .tls } st
        (seccSdpListen env.sdp 15118 false) := if_neg h

theorem seccSessionStart_of_refused (hsdp : ¬ (seccSdpListen env.sdp 15118 false).ret < 0)
    (h : (startAccept env st).1 = -1) :
    seccSessionStart env sess st =
      { ret := some (-1)
        session := { sess with state := .error, transportMode := .tls, clientFd := -1 }
        transport := (startAccept env st).2, sdp := seccSdpListen env.sdp 15118 false
        accepted := false, handshake := false } := by
  unfold startAccept at h ⊢
  rw [seccSessionStart_of_sdp env sess st hsdp]
  simp [seccSessionConnect, tlsServerInitAndAcceptEx, TransportMode.toInt, h]

theorem seccSessionStart_of_accepted (hsdp : ¬ (seccSdpListen env.sdp 15118 false).ret < 0)
    (h : 0 ≤ (startAccept env st).1) :
    seccSessionStart env sess st =
      { ret := (tlsHandshake env.handshake).map fun ret => if ret = 0 then 0 else -1
        session := { sess with
          state :=
            match tlsHandshake env.handshake with
            | none => .tlsHandshake
            | some ret => if ret = 0 then .sessionSetup else .error
          transportMode := .tls, clientFd := (startAccept env st).1 }
        transport :=
          match tlsHandshake env.handshake with
          | none => (startAccept env st).2
          | some ret => if ret = 0 then (startAccept env st).2 else tlsClose (startAccept env st).2
        sdp := seccSdpListen env.sdp 15118 false, accepted := true, handshake := true } := by
  unfold startAccept at h ⊢
  rw [seccSessionStart_of_sdp env sess st hsdp]
  cases hhand : tlsHandshake env.handshake with
  | none =>
    simp [seccSessionConnect, tlsServerInitAndAcceptEx, TransportMode.toInt, hhand, not_lt.mpr h]
  | some ret =>
    by_cases hret : ret = 0
    · simp [seccSessionConnect, tlsServerInitAndAcceptEx, TransportMode.toInt, hhand, hret,
        not_lt.mpr h]
    · simp [seccSessionConnect, tlsServerInitAndAcceptEx, TransportMode.toInt, hhand, hret,
        not_lt.mpr h]

theorem started_of_refused (hsdp : ¬ (seccSdpListen env.sdp 15118 false).ret < 0)
    (hfd : (startAccept env st).1 = -1)
    (haccept : env.accept.Binds → env.accept.netAccept ≠ 0) {ret : ℤ}
    (h : (seccSessionStart env sess st).ret = some ret) :
    Started env sess st l ret (seccSessionStart env sess st).session
      (seccSessionStart env sess st).transport (l.start env sess st) := by
  have hr := seccSessionStart_of_refused env sess st hsdp hfd
  have hl : l.start env sess st = l.accept env.accept 1 := by
    simp [Ledger.start, hr, hsdp, TransportMode.toInt]
  rw [hl, Ledger.accept, if_pos one_ne_zero]
  rw [hr] at h ⊢
  cases h
  by_cases hbind : env.accept.Binds
  · rw [if_pos hbind, if_neg (haccept hbind)]
    exact .notAccepted hsdp hbind (haccept hbind)
  · rw [if_neg hbind]
    exact .notBound hsdp hbind rfl

theorem started_of_accepted (hsdp : ¬ (seccSdpListen env.sdp 15118 false).ret < 0)
    (hbind : env.accept.Binds) (haccept : env.accept.netAccept = 0)
    (hpos : 0 ≤ env.accept.netClientFd) {ret : ℤ}
    (h : (seccSessionStart env sess st).ret = some ret) :
    Started env sess st l ret (seccSessionStart env sess st).session
      (seccSessionStart env sess st).transport (l.start env sess st) := by
  have hacc : startAccept env st = (env.accept.netClientFd,
      { st with useTls := 1, listenFd := env.accept.netListenFd
                clientFd := env.accept.netClientFd }) := by
    rw [startAccept, acceptTls_of_binds hbind, if_neg (not_not.mpr haccept)]
  have hr := seccSessionStart_of_accepted env sess st hsdp (by rw [hacc]; exact hpos)
  rw [hacc] at hr
  cases hhand : tlsHandshake env.handshake with
  | none =>
    rw [hr, hhand] at h
    cases h
  | some ret' =>
    by_cases hret : ret' = 0
    · have hl : l.start env sess st =
          ⟨env.accept.netListenFd :: l.listening, 0 :: l.closes⟩ := by
        simp [Ledger.start, hr, hhand, hret, hsdp, Ledger.accept, TransportMode.toInt, hbind,
          haccept]
      rw [hl]
      rw [hr, hhand, hret] at h ⊢
      cases h
      exact .connected haccept (by rw [hhand, hret]) hpos rfl rfl
    · have hne : tlsHandshake env.handshake ≠ some 0 := by
        rw [hhand]
        simpa using hret
      have hfail : ret = -1 := by
        rw [hr, hhand] at h
        simpa [hret] using h.symm
      rw [hfail]
      apply Started.handshakeFailed hsdp hbind hne
      rw [hr]
      exact hpos

theorem started (valid : env.accept.netAccept = 0 → 0 ≤ env.accept.netClientFd) {ret : ℤ}
    (h : (seccSessionStart env sess st).ret = some ret) :
    Started env sess st l ret (seccSessionStart env sess st).session
      (seccSessionStart env sess st).transport (l.start env sess st) := by
  by_cases hsdp : (seccSdpListen env.sdp 15118 false).ret < 0
  · have hr : seccSessionStart env sess st =
        { ret := some (-1), session := { sess with state := .error }, transport := st
          sdp := seccSdpListen env.sdp 15118 false, accepted := false, handshake := false } :=
      if_pos hsdp
    rw [hr] at h ⊢
    cases h
    rw [Ledger.start, hr, if_pos hsdp]
    exact .sdpFailed hsdp rfl
  · by_cases hbind : env.accept.Binds
    · by_cases haccept : env.accept.netAccept = 0
      · exact started_of_accepted env sess st l hsdp hbind haccept (valid haccept) h
      · apply started_of_refused env sess st l hsdp ?_ (fun _ => haccept) h
        rw [startAccept, acceptTls_of_binds hbind, if_pos haccept]
    · exact started_of_refused env sess st l hsdp (acceptTls_of_not_binds hbind _)
        (fun hbind' => absurd hbind' hbind) h

end start

section descriptor
variable {ω : Type} {L : MessageLayer ω}

theorem handleRequest_clientFd (ctx : SeccContext) (msgType : ExiMsgType) :
    (handleRequest ctx msgType).clientFd = ctx.clientFd := by
  unfold handleRequest
  split_ifs <;> rfl

theorem roundInvariant_clientFd (fd : ℤ) :
    RoundInvariant L (fun st => st.1.clientFd = fd) fun _ => True := by
  apply RoundInvariant.of_handleRequest (K := fun head => head.clientFd = fd)
  intro ctx msgType h
  exact (handleRequest_clientFd ctx msgType).trans h

theorem sessionLoop_clientFd (fuel : ℕ) (reads : List (List Byte)) (sess : SeccContext)
    (world : ω) :
    (sessionLoop L fuel reads sess world).session.clientFd = sess.clientFd := by
  induction reads generalizing sess world with
  | nil => rfl
  | cons c cs ih =>
    have hcall : (v2gProcessMessage L fuel c sess world).ctx.clientFd = sess.clientFd :=
      ((roundInvariant_clientFd sess.clientFd).call fuel c rfl).1
    rw [sessionLoop]
    cases hret : (v2gProcessMessage L fuel c sess world).exit.ret with
    | none => exact hcall
    | some ret =>
      dsimp only
      split_ifs
      · exact hcall
      · rw [ih]
        exact hcall

end descriptor

namespace Lifecycle

variable {ω : Type} {L : MessageLayer ω} {fuel : ℕ} {s t : Lifecycle ω}

theorem Consistent.closes_of_held (h : s.Consistent) (hfd : 0 ≤ s.session.clientFd) :
    ∃ ns, s.ledger.closes = 0 :: ns ∧ ∀ n ∈ ns, n = 1 := by
  have hmem := h.held.mp hfd
  have honce := h.once
  rw [if_pos hfd] at honce
  cases hcloses : s.ledger.closes with
  | nil =>
    rw [hcloses] at hmem
    cases hmem
  | cons n ns =>
    rw [hcloses] at hmem honce
    rcases List.mem_cons.mp hmem with rfl | hmem
    · exact ⟨ns, rfl, honce⟩
    · cases honce 0 hmem

theorem Consistent.closes_of_idle (h : s.Consistent) (hfd : s.session.clientFd < 0) :
    ∀ n ∈ s.ledger.closes, n = 1 := by
  have honce := h.once
  rwa [if_neg (not_le.mpr hfd)] at honce

theorem consistent_of_idle (hfd : s.session.clientFd < 0) (h : ∀ n ∈ s.ledger.closes, n = 1) :
    s.Consistent where
  held := by
    refine ⟨fun hle => absurd hle (not_le.mpr hfd), fun hmem => ?_⟩
    cases h 0 hmem
  once := by rwa [if_neg (not_le.mpr hfd)]

/-- Between two orderly calls: with a connection its listening socket is the one that is open. -/
structure Kept (s : Lifecycle ω) : Prop where
  consistent : s.Consistent
  idle : s.session.clientFd < 0 → s.Released
  holding : 0 ≤ s.session.clientFd →
    s.transport.channel = .tls ∧ s.ledger.listening = [s.transport.listenFd]

theorem kept_of_released (hcloses : ∀ n ∈ s.ledger.closes, n = 1) (h : s.Released) : s.Kept where
  consistent := consistent_of_idle (by rw [h.descriptor]; decide) hcloses
  idle _ := h
  holding hfd := by
    rw [h.descriptor] at hfd
    exact absurd hfd (by decide)

theorem kept_initial (st : TransportStatics) (world : ω) : (initial st world).Kept := by
  apply kept_of_released
  · intro n hn
    cases hn
  · exact ⟨rfl, rfl, List.not_mem_nil⟩

theorem wellKept_iff_of_step {call : SessionCall} (h : lifecycleStep L fuel s call = some t) :
    s.WellKept L fuel call ↔ t.Consistent ∧ (s.Releases call → t.Released) := by
  unfold WellKept
  rw [h]
  simp

theorem init_iff (hs : s.Kept) (h : lifecycleStep L fuel s .init = some t) :
    (s.WellKept L fuel .init ↔ s.Orderly .init) ∧ (s.Orderly .init → t.Kept) := by
  rw [wellKept_iff_of_step h]
  cases h
  refine ⟨⟨?_, ?_⟩, ?_⟩
  · rintro ⟨ht, -⟩
    by_contra hfd
    have hmem := hs.consistent.held.mp (not_lt.mp hfd)
    have hpos : (0 : ℤ) ≤ -1 := ht.held.mpr hmem
    exact absurd hpos (by decide)
  · intro hfd
    exact ⟨consistent_of_idle (show (-1 : ℤ) < 0 by decide) (hs.consistent.closes_of_idle hfd),
      False.elim⟩
  · intro hfd
    have hreleased := hs.idle hfd
    exact kept_of_released (hs.consistent.closes_of_idle hfd)
      ⟨rfl, hreleased.listening, hreleased.connection⟩

theorem run_iff {reads : List (List Byte)} (hs : s.Kept)
    (h : lifecycleStep L fuel s (.run reads) = some t) :
    (s.WellKept L fuel (.run reads) ↔ s.Orderly (.run reads)) ∧
      (s.Orderly (.run reads) → t.Kept) := by
  rw [wellKept_iff_of_step h]
  simp only [lifecycleStep] at h
  split_ifs at h
  cases h
  have hfd : (seccSessionRun L fuel reads s.session s.world).session.clientFd =
      s.session.clientFd := sessionLoop_clientFd fuel reads _ _
  have hkept : Kept { s with
      session := (seccSessionRun L fuel reads s.session s.world).session
      world := (seccSessionRun L fuel reads s.session s.world).world } := by
    refine ⟨⟨?_, ?_⟩, ?_, ?_⟩
    · rw [hfd]
      exact hs.consistent.held
    · rw [hfd]
      exact hs.consistent.once
    · intro hneg
      rw [hfd] at hneg
      have hreleased := hs.idle hneg
      exact ⟨hfd.trans hreleased.descriptor, hreleased.listening, hreleased.connection⟩
    · intro hpos
      rw [hfd] at hpos
      exact hs.holding hpos
  exact ⟨⟨fun _ => trivial, fun _ => ⟨hkept.consistent, False.elim⟩⟩, fun _ => hkept⟩

theorem stop_iff (hs : s.Kept) (h : lifecycleStep L fuel s .stop = some t) :
    (s.WellKept L fuel .stop ↔ s.Orderly .stop) ∧ (s.Orderly .stop → t.Kept) := by
  rw [wellKept_iff_of_step h]
  have hreleased : (∀ n ∈ t.ledger.closes, n = 1) ∧ t.Released := by
    cases h
    by_cases hfd : 0 ≤ s.session.clientFd
    · rcases hs.consistent.closes_of_held hfd with ⟨ns, hcloses, hns⟩
      rcases hs.holding hfd with ⟨hchannel, hlisten⟩
      -- `tls_close` frees the listening socket with the connection
      have hclosed : s.ledger.close s.transport = ⟨[], 1 :: ns⟩ := by
        simp [Ledger.close, hchannel, hlisten, hcloses]
      have hall : ∀ n ∈ 1 :: ns, n = 1 := List.forall_mem_cons.mpr ⟨rfl, hns⟩
      simp only [seccSessionStop, if_pos hfd, hclosed]
      refine ⟨hall, rfl, rfl, fun hmem => ?_⟩
      cases hall 0 hmem
    · have hidle := hs.idle (not_le.mp hfd)
      simp only [seccSessionStop, if_neg hfd]
      exact ⟨hs.consistent.closes_of_idle (not_le.mp hfd), hidle.descriptor, hidle.listening,
        hidle.connection⟩
  have hkept := kept_of_released hreleased.1 hreleased.2
  exact ⟨⟨fun _ => trivial, fun _ => ⟨hkept.consistent, fun _ => hreleased.2⟩⟩, fun _ => hkept⟩

theorem failed_iff (hs : s.Kept) (hledger : t.ledger = s.ledger)
    (hfd : s.session.clientFd < 0 → t.session.clientFd = -1) :
    (t.Consistent ∧ t.Released ↔ s.session.clientFd < 0) ∧
      (s.session.clientFd < 0 → t.Kept) := by
  have hidle : s.session.clientFd < 0 → t.Kept ∧ t.Released := by
    intro hneg
    have hreleased : t.Released :=
      ⟨hfd hneg, by rw [hledger]; exact (hs.idle hneg).listening,
        by rw [hledger]; exact (hs.idle hneg).connection⟩
    refine ⟨kept_of_released ?_ hreleased, hreleased⟩
    rw [hledger]
    exact hs.consistent.closes_of_idle hneg
  refine ⟨⟨?_, ?_⟩, ?_⟩
  · rintro ⟨-, hreleased⟩
    by_contra hpos
    have hmem := hs.consistent.held.mp (not_lt.mp hpos)
    exact hreleased.connection (by rw [hledger]; exact hmem)
  · intro hneg
    exact ⟨(hidle hneg).1.consistent, (hidle hneg).2⟩
  · intro hneg
    exact (hidle hneg).1

theorem connected_iff (hs : s.Kept) {fd : ℤ} (hfd : 0 ≤ t.session.clientFd)
    (hledger : t.ledger = ⟨fd :: s.ledger.listening, 0 :: s.ledger.closes⟩)
    (hchannel : t.transport.channel = .tls) (hlisten : t.transport.listenFd = fd) :
    (t.Consistent ↔ s.session.clientFd < 0) ∧ (s.session.clientFd < 0 → t.Kept) := by
  have hidle : s.session.clientFd < 0 → t.Kept := by
    intro hneg
    refine ⟨⟨?_, ?_⟩, ?_, ?_⟩
    · rw [hledger]
      exact ⟨fun _ => List.mem_cons_self, fun _ => hfd⟩
    · rw [if_pos hfd, hledger]
      exact hs.consistent.closes_of_idle hneg
    · intro hneg'
      exact absurd hneg' (not_lt.mpr hfd)
    · intro _
      rw [hledger, (hs.idle hneg).listening, hlisten]
      exact ⟨hchannel, rfl⟩
  refine ⟨⟨?_, fun hneg => (hidle hneg).consistent⟩, hidle⟩
  intro ht
  by_contra hpos
  have hmem := hs.consistent.held.mp (not_lt.mp hpos)
  -- the new connection would be a second one that is open
  have honce := ht.once
  rw [if_pos hfd, hledger] at honce
  cases honce 0 hmem

theorem started_iff {env : StartEnv} (hs : s.Kept) {ret : ℤ}
    (h : Started env s.session.toSeccHead s.transport s.ledger ret t.session.toSeccHead
      t.transport t.ledger) :
    (t.Consistent ∧ (ret = -1 → t.Released) ↔ s.session.clientFd < 0 ∧ env.AllOrNothing) ∧
      (s.session.clientFd < 0 ∧ env.AllOrNothing → t.Kept) := by
  -- a start that opened something and failed is neither orderly nor clean
  have hhalfway : ¬ t.Released → ¬ env.AllOrNothing → ret = -1 →
      (t.Consistent ∧ (ret = -1 → t.Released) ↔ s.session.clientFd < 0 ∧ env.AllOrNothing) ∧
        (s.session.clientFd < 0 ∧ env.AllOrNothing → t.Kept) := by
    intro hopen hnot hret
    exact ⟨⟨fun ht => absurd (ht.2 hret) hopen, fun hc => absurd hc.2 hnot⟩,
      fun hc => absurd hc.2 hnot⟩
  generalize hsess : t.session.toSeccHead = sess' at h
  generalize htrans : t.transport = st' at h
  generalize hledger : t.ledger = l' at h
  have hfd : t.session.clientFd = sess'.clientFd := by rw [← hsess]
  cases h with
  | sdpFailed sdp fd =>
    have hall : env.AllOrNothing := .inl sdp
    have hiff := failed_iff hs hledger fun hneg =>
      (hfd.trans fd).trans (hs.idle hneg).descriptor
    simpa [hall] using hiff
  | notBound sdp bind fd =>
    have hall : env.AllOrNothing := .inr (.inl bind)
    have hiff := failed_iff hs hledger fun _ => hfd.trans fd
    simpa [hall] using hiff
  | notAccepted sdp bind accept =>
    apply hhalfway _ _ rfl
    · intro ht
      have hnil := ht.listening
      rw [hledger] at hnil
      cases hnil
    · rintro (hsdp | hbind | ⟨haccept, -⟩)
      · exact sdp hsdp
      · exact hbind bind
      · exact accept haccept
  | handshakeFailed sdp bind handshake fd =>
    apply hhalfway _ _ rfl
    · intro ht
      have hneg := ht.descriptor
      rw [hfd] at hneg
      omega
    · rintro (hsdp | hbind | ⟨-, hhandshake⟩)
      · exact sdp hsdp
      · exact hbind bind
      · exact handshake hhandshake
  | connected accept handshake fd channel listen =>
    have hall : env.AllOrNothing := .inr (.inr ⟨accept, handshake⟩)
    have hiff := connected_iff hs (by rw [hfd]; exact fd) hledger (by rw [htrans]; exact channel)
      (by rw [htrans]; exact listen)
    simpa [hall] using hiff

theorem start_iff {env : StartEnv} {valid : env.accept.netAccept = 0 → 0 ≤ env.accept.netClientFd}
    (hs : s.Kept) (h : lifecycleStep L fuel s (.start env valid) = some t) :
    (s.WellKept L fuel (.start env valid) ↔ s.Orderly (.start env valid)) ∧
      (s.Orderly (.start env valid) → t.Kept) := by
  rw [wellKept_iff_of_step h]
  simp only [lifecycleStep] at h
  split_ifs at h with hret
  rcases Option.ne_none_iff_exists'.mp hret with ⟨ret, hret⟩
  have hstarted := started env s.session.toSeccHead s.transport s.ledger valid hret
  cases h
  simp only [Releases, Orderly, hret, Option.some_inj]
  exact started_iff hs hstarted

/-- After every call the descriptor, the open connection and the closes agree, and nothing is
left open by a stop or a failed start, exactly if every call is orderly. -/
theorem lifecycle_iff (st : TransportStatics) (world : ω) {calls : List SessionCall}
    (hrun : Transition.run (lifecycleStep L fuel) (initial st world) calls = some t) :
    Transition.Along (lifecycleStep L fuel) (WellKept L fuel) (initial st world) calls ↔
      Transition.Along (lifecycleStep L fuel) Orderly (initial st world) calls := by
  apply Transition.along_congr (I := Kept) _ (kept_initial st world) hrun
  intro u call v hu huv
  cases call with
  | init => exact init_iff hu huv
  | start env valid => exact start_iff hu huv
  | run reads => exact run_iff hu huv
  | stop => exact stop_iff hu huv

def acceptingEnv (handshake : ℤ) : StartEnv where
  sdp := { linkLocal := some fun i => if i.val = 0 then 0xFE else if i.val = 1 then 0x80 else 0x01
           succeeds := fun _ => true
           datagram := some (sdpRequestBytes 0x00 0x00)
           sendResult := 28 }
  accept := { drbgSeed := 0, certParse := 0, keyParse := 0, netBind := 0, netListenFd := 3
              netAccept := 0, netClientFd := 4, socket := 3, setsockopt := 0, bind := 0
              listen := 0, accept := 4 }
  handshake := { sslSetup := 0, handshake := [handshake] }

theorem acceptingEnv_valid (handshake : ℤ) (_ : (acceptingEnv handshake).accept.netAccept = 0) :
    0 ≤ (acceptingEnv handshake).accept.netClientFd :=
  show (0 : ℤ) ≤ 4 by decide

/-- A session as in main: start, run to the end of the connection, stop. -/
def oneSession : List SessionCall :=
  [.start (acceptingEnv 0) (acceptingEnv_valid 0), .run [[]], .stop]

theorem lifecycle_iff_oneSession :
    Transition.Along (lifecycleStep answeringLayer 2049) (WellKept answeringLayer 2049)
      (initial {} ()) oneSession :=
  (lifecycle_iff {} () rfl).mpr (by decide)

/-- The handshake fails, then the session is stopped. -/
def failedHandshake : List SessionCall :=
  [.start (acceptingEnv (-1)) (acceptingEnv_valid (-1)), .stop]

/-- `tls_close` is called twice for the one connection: a start whose handshake fails leaves its
descriptor behind. -/
theorem closed_twice_failedHandshake :
    ((Transition.run (lifecycleStep answeringLayer 2049) (initial {} ()) failedHandshake).map
        fun s => s.ledger.closes) = some [2] ∧
      ¬ Transition.Along (lifecycleStep answeringLayer 2049) (WellKept answeringLayer 2049)
        (initial {} ()) failedHandshake := by
  refine ⟨rfl, ?_⟩
  rintro ⟨hstart, -⟩
  have horderly := (start_iff (kept_initial {} ()) rfl).1.mp hstart
  revert horderly
  decide

end Lifecycle

end EvseIso15118
