import EvseIso15118.Posix
import EvseIso15118.SeccContext

namespace EvseIso15118

open Ownership

/-- `open_raw_socket`: the descriptor, and what is left in `local_mac`. -/
def openRawSocket (iface : List Byte) : Posix (ℤ × Mac) := do
  let fd ← Posix.socket .homeplug
  if fd < 0 then return (-1, fun _ => 0)
  else do
    match ← Posix.ifIndex fd (copyName ifNameSize iface) with
    | none =>
      Posix.close fd
      return (-1, fun _ => 0)
    | some _ =>
      match ← Posix.ifHwaddr fd (copyName ifNameSize iface) with
      | none =>
        Posix.close fd
        return (-1, fun _ => 0)
      | some mac =>
        let ret ← Posix.bind fd
        if ret < 0 then do
          Posix.close fd
          return (-1, mac)
        else do
          -- the result is not looked at
          let _ ← Posix.setsockopt fd .recvTimeout
          return (fd, mac)

/-- A `SlacContext` on the heap: its address, `sock_fd` and the other fields. -/
structure SlacBlock where
  block : ℕ
  sockFd : ℤ
  ctx : SlacContext

/-- `slac_init` on the memory at `block`. -/
def slacInitCalls (block : ℕ) (iface : List Byte) (isEv : Bool) : Posix (ℤ × SlacBlock) := do
  let (sockFd, mac) ← openRawSocket iface
  return (if sockFd < 0 then -1 else 0, ⟨block, sockFd, slacInit mac isEv⟩)

/-- `slac_step`, with its static variables. -/
def slacStepCalls (b : SlacBlock) (st : SlacStatics) : Posix (ℤ × SlacBlock × SlacStatics) := do
  let (env, recv) ← Posix.slacFrames b.sockFd
  let p := (slacStep env recv ⟨b.ctx, st⟩).party
  return (slacResult p.ctx, { b with ctx := p.ctx }, p.statics)

/-- The loop of `slac_run`; none if it has not ended after so many steps. -/
def slacLoopCalls : ℕ → SlacBlock → SlacStatics → Posix (Option (SlacBlock × SlacStatics))
  | 0, _, _ => return none
  | fuel + 1, b, st =>
    if b.ctx.state.terminal then return some (b, st)
    else do
      let (_, b, st) ← slacStepCalls b st
      slacLoopCalls fuel b st

/-- `slac_run`. -/
def slacRunCalls (fuel : ℕ) (b : SlacBlock) (st : SlacStatics) :
    Posix (Option (ℤ × SlacBlock × SlacStatics)) := do
  match ← slacLoopCalls fuel { b with ctx := slacRunStart b.ctx } st with
  | none => return none
  | some (b, st) =>
    if b.ctx.state = .evMatched then return some (0, b, st)
    else if b.ctx.state = .evseMatched then return some (0, b, st)
    else return some (-1, b, st)

/-- `slac_cleanup`; `sock_fd` is -1 then. -/
def slacCleanup (b : SlacBlock) : Posix SlacBlock :=
  if 0 ≤ b.sockFd then do
    Posix.close b.sockFd
    return { b with sockFd := -1 }
  else return b

/-- The fields of `secc_session_t` that are used here, and the static variables of `slac_step`. -/
structure SlacSession where
  state : SeccState
  sessionId : UInt32
  transportMode : TransportMode
  slacIface : List Byte
  slacCtx : Option SlacBlock
  slacNmk : Octets 16
  slacNid : Octets 7
  statics : SlacStatics

/-- `slac_cleanup(sess->slac_ctx); free(sess->slac_ctx); sess->slac_ctx = NULL;`. -/
def SlacSession.drop (sess : SlacSession) (b : SlacBlock) : Posix SlacSession := do
  let b ← slacCleanup b
  Posix.free b.block
  return { sess with slacCtx := none }

/-- The keys of the context, for `SECC_STATE_SLAC_MATCHED`. -/
def SlacSession.matched (sess : SlacSession) (b : SlacBlock) : SlacSession :=
  { sess with slacNmk := b.ctx.nmk, slacNid := b.ctx.nid, state := .slacMatched }

def seccSessionWithSlacInit (sess : SlacSession) (plcIface : List Byte) :
    Posix (ℤ × SlacSession) := do
  let r ← Posix.rand
  let sess := { sess with
    state := .idle
    sessionId := UInt32.ofNat r
    transportMode := .slac
    slacIface := copyName 16 plcIface }
  match ← Posix.malloc with
  | none => return (-1, { sess with slacCtx := none })
  | some block =>
    let (ret, b) ← slacInitCalls block plcIface true
    if ret < 0 then do
      Posix.free b.block
      return (-1, { sess with slacCtx := none })
    else return (0, { sess with slacCtx := some b, state := .slacInit })

def seccSessionSlacStep (sess : SlacSession) : Posix (ℤ × SlacSession) :=
  match sess.slacCtx with
  | none => return (-1, sess)
  | some b => do
    let (result, b, st) ← slacStepCalls b sess.statics
    let sess := { sess with slacCtx := some b, statics := st }
    if result = 1 then return (1, sess.matched b)
    else if result = -1 then do
      let sess ← SlacSession.drop { sess with state := .error } b
      return (-1, sess)
    else return (0, sess)

def seccSessionSlacRun (fuel : ℕ) (sess : SlacSession) : Posix (Option (ℤ × SlacSession)) :=
  match sess.slacCtx with
  | none => return some (-1, sess)
  | some b => do
    match ← slacRunCalls fuel b sess.statics with
    | none => return none
    | some (ret, b, st) =>
      let sess := { sess with slacCtx := some b, statics := st }
      if ret < 0 then do
        let sess ← sess.drop b
        return some (-1, { sess with state := .error })
      else return some (0, sess.matched b)

def seccSessionHandleSlacState (sess : SlacSession) : Posix SlacSession :=
  match sess.state with
  | .slacInit => return { sess with state := .slacMatching }
  | .slacMatching => do
    let (ret, sess) ← seccSessionSlacStep sess
    if ret = 1 then return { sess with state := .tcpConnected }
    else return sess
  | .slacMatched => return { sess with state := .tlsHandshake }
  -- IDLE, TCP_CONNECTED and ERROR are only reported, all others are unknown here
  | _ => return sess

def seccSessionCleanupSlac (sess : SlacSession) : Posix SlacSession :=
  match sess.slacCtx with
  | none => return sess
  | some b => sess.drop b

inductive SlacSessionCall
  | withSlacInit (plcIface : List Byte)
  | slacStep
  | slacRun (fuel : ℕ)
  | handleSlacState
  | cleanupSlac

/-- A call; none if it does not return. -/
def slacSessionCall (sess : SlacSession) : SlacSessionCall → Posix (Option SlacSession)
  | .withSlacInit plcIface => do
    let (_, sess) ← seccSessionWithSlacInit sess plcIface
    return some sess
  | .slacStep => do
    let (_, sess) ← seccSessionSlacStep sess
    return some sess
  | .slacRun fuel => do
    let returned ← seccSessionSlacRun fuel sess
    return returned.map Prod.snd
  | .handleSlacState => do
    let sess ← seccSessionHandleSlacState sess
    return some sess
  | .cleanupSlac => do
    let sess ← seccSessionCleanupSlac sess
    return some sess

/-- The context whose address is overwritten by a call. -/
def SlacSession.lostBy (sess : SlacSession) : SlacSessionCall → List SlacBlock
  | .withSlacInit _ => sess.slacCtx.toList
  | _ => []

def slacSessionCalls :
    List SlacSessionCall → SlacSession → Posix (Option (SlacSession × List SlacBlock))
  | [], sess => return some (sess, [])
  | call :: calls, sess => do
    match ← slacSessionCall sess call with
    | none => return none
    | some next =>
      let rest ← slacSessionCalls calls next
      return rest.map fun r => (r.1, sess.lostBy call ++ r.2)

def SlacBlock.owned (b : SlacBlock) : Set Resource := {.block b.block, .fd b.sockFd}

/-- What is held: the context and the socket of the session, which is open, and `rest`. -/
def SlacSession.Holds (sess : SlacSession) (rest held : Set Resource) : Prop :=
  match sess.slacCtx with
  | none => held = rest
  | some b => 0 ≤ b.sockFd ∧ Resource.block b.block ∉ rest ∧
      Resource.fd b.sockFd ∉ insert (.block b.block) rest ∧
        held = insert (.fd b.sockFd) (insert (.block b.block) rest)

section owns
variable {held rest : Set Resource} {b : SlacBlock}

theorem SlacSession.holds_none {sess : SlacSession} (hctx : sess.slacCtx = none) :
    sess.Holds rest held ↔ held = rest := by
  unfold SlacSession.Holds
  rw [hctx]

theorem SlacSession.holds_some {sess : SlacSession} (hctx : sess.slacCtx = some b) :
    sess.Holds rest held ↔ 0 ≤ b.sockFd ∧ Resource.block b.block ∉ rest ∧
      Resource.fd b.sockFd ∉ insert (.block b.block) rest ∧
        held = insert (.fd b.sockFd) (insert (.block b.block) rest) := by
  unfold SlacSession.Holds
  rw [hctx]

def ownedBy (bs : List SlacBlock) : Set Resource := {r | ∃ b ∈ bs, r ∈ b.owned}

theorem ownedBy_nil : ownedBy [] = ∅ := by
  ext r
  simp [ownedBy]

variable {sess : SlacSession} (hholds : sess.Holds rest held)
include hholds

theorem SlacSession.Holds.held_eq : held = rest ∪ ownedBy sess.slacCtx.toList := by
  cases hctx : sess.slacCtx with
  | none =>
    rw [(SlacSession.holds_none hctx).mp hholds, Option.toList_none, ownedBy_nil, Set.union_empty]
  | some b =>
    rw [((SlacSession.holds_some hctx).mp hholds).2.2.2]
    ext r
    simp [ownedBy, SlacBlock.owned]
    tauto

end owns

def silentSystem : (c : PosixCall) → c.Answer
  | .getifaddrs => none
  | .freeifaddrs _ => ()
  | .socket _ => (5 : ℤ)
  | .setsockopt _ _ => (0 : ℤ)
  | .ifIndex _ _ => some 2
  | .ifHwaddr _ _ => some fun _ => 2
  | .bind _ => (0 : ℤ)
  | .listen _ => (0 : ℤ)
  | .accept _ => (6 : ℤ)
  | .ifNametoindex _ => (2 : ℕ)
  | .inetPton => (1 : ℤ)
  | .recvfrom _ => none
  | .sendto _ _ _ => (28 : ℤ)
  | .recv _ _ => ⟨[], Nat.zero_le _⟩
  | .send _ _ => (0 : ℤ)
  | .getpeername _ => (-1 : ℤ)
  | .slacFrames _ => (⟨0, fun _ => 0, fun _ => true⟩, none)
  | .rand => (7 : ℕ)
  | .close _ => ()
  | .malloc => some 1
  | .free _ => ()

def SlacSession.initial : SlacSession :=
  ⟨.idle, 0, .slac, [], none, fun _ => 0, fun _ => 0, .zero⟩

end EvseIso15118
