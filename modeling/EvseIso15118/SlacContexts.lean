import EvseIso15118.Sharing
import EvseIso15118.SlacPhases

namespace EvseIso15118

open Sharing

/-- `slac_step` on one of the contexts. The outcome shows its state and what it sent. -/
def slacCall (i : SlacEnv × Option (List Byte)) (ctx : SlacContext) (st : SlacStatics) :
    Outcome SlacContext SlacStatics (SlacState × List (List Byte)) :=
  let out := slacStep i.1 i.2 ⟨ctx, st⟩
  ⟨out.party.ctx, out.party.statics, out.party.ctx.state, out.sent⟩

abbrev SlacProcess (ι : Type*) := Sharing.State ι SlacContext SlacStatics

/-- What a role has stored of its peer: the EVSE its run id too. -/
def SlacStatics.peer (st : SlacStatics) (isEv : Bool) : Mac × Option (Octets 8) :=
  if isEv then (st.evseMac, none) else (st.evMac, some st.runId)

def framePeer (isEv : Bool) (frame : List Byte) : Mac × Option (Octets 8) :=
  (fun i => byteAt frame (6 + i), if isEv then none else some fun i => byteAt frame (20 + i))

/-- From the frame that stores the peer to the last frame for it. -/
def SlacState.usesPeer (isEv : Bool) : SlacState → Bool
  | .evSendStartAtten | .evSendMnbcSounds | .evWaitAttenChar | .evSendAttenRsp | .evSendValidate
  | .evWaitValidateCnf | .evSendMatchReq => isEv
  | .evseSendParmCnf | .evseWaitStartAtten | .evseCollectSounds | .evseSendAttenChar
  | .evseWaitAttenRsp | .evseWaitValidateReq | .evseSendValidateCnf | .evseWaitMatchReq
  | .evseSendMatchCnf => !isEv
  | _ => false

def SlacContext.usesPeer (ctx : SlacContext) : Bool := ctx.state.usesPeer ctx.isEv

/-- The frame from which a step stores the peer. -/
def storedFrame (ctx : SlacContext) (recv : Option (List Byte)) : Option (List Byte) :=
  match ctx.isEv, ctx.state with
  | true, .evWaitParmCnf => recv.filter fun frame => frameType frame = some mmeCmSlacParmCnf
  | false, .evseWaitParmReq => recv.filter fun frame => frameType frame = some mmeCmSlacParmReq
  | _, _ => none

section step
variable {env : SlacEnv} {p : SlacParty} {recv : Option (List Byte)}

theorem storedFrame_of_send (hw : waitOf p.ctx.isEv p.ctx.state = none) :
    storedFrame p.ctx recv = none := by
  unfold storedFrame
  split
  case h_1 hr hs =>
    rw [hr, hs] at hw
    cases hw
  case h_2 hr hs =>
    rw [hr, hs] at hw
    cases hw
  case h_3 => rfl

theorem storedFrame_of_ignored {w : Wait} (hw : waitOf p.ctx.isEv p.ctx.state = some w)
    (ht : recv.bind frameType ≠ some w.awaited) : storedFrame p.ctx recv = none := by
  unfold storedFrame
  split
  case h_1 hr hs =>
    rw [hr, hs] at hw
    cases hw
    cases recv with
    | none => rfl
    | some frame =>
      have ht : frameType frame ≠ some mmeCmSlacParmCnf := ht
      exact if_neg (by simpa using ht)
  case h_2 hr hs =>
    rw [hr, hs] at hw
    cases hw
    cases recv with
    | none => rfl
    | some frame =>
      have ht : frameType frame ≠ some mmeCmSlacParmReq := ht
      exact if_neg (by simpa using ht)
  case h_3 => rfl

theorem field_of_covered {buf : Octets 2048} {data : List Byte} {off n : ℕ}
    (h : off + n ≤ data.length) (hn : off + n ≤ 2048) :
    field (recvInto buf data) off n = fun i : Fin n => byteAt data (off + i) := by
  funext i
  have hi := i.isLt
  rw [field, octetAt_recvInto (by omega) (by omega)]

theorem peer_eq_of_kept {ctx : SlacContext} {q : SlacParty}
    (h : q.kept = (ctx, p.statics.evseMac, p.statics.evMac, p.statics.runId)) (r : Bool) :
    q.statics.peer r = p.statics.peer r := by
  have h1 : q.statics.evseMac = p.statics.evseMac := congrArg (fun k => k.2.1) h
  have h2 : q.statics.evMac = p.statics.evMac := congrArg (fun k => k.2.2.1) h
  have h3 : q.statics.runId = p.statics.runId := congrArg (fun k => k.2.2.2) h
  rw [SlacStatics.peer, SlacStatics.peer, h1, h2, h3]

section accepted
variable {ctx : SlacContext} {w : Wait} {frame : List Byte}

theorem storedFrame_ev (hr : ctx.isEv = true) (hs : ctx.state = .evWaitParmCnf)
    (ht : frameType frame = some mmeCmSlacParmCnf) : storedFrame ctx (some frame) = some frame := by
  rw [storedFrame, hr, hs]
  exact if_pos (decide_eq_true ht)

theorem storedFrame_evse (hr : ctx.isEv = false) (hs : ctx.state = .evseWaitParmReq)
    (ht : frameType frame = some mmeCmSlacParmReq) : storedFrame ctx (some frame) = some frame := by
  rw [storedFrame, hr, hs]
  exact if_pos (decide_eq_true ht)

theorem accept_peer_ev (hr : ctx.isEv = true) (hw : waitOf true ctx.state = some w)
    (ht : frameType frame = some w.awaited) (st : SlacStatics) (r : Bool) :
    (w.accept env ctx { st with buf := recvInto st.buf frame }).2.peer r =
      if r = true then ((storedFrame ctx (some frame)).map (framePeer r)).getD (st.peer r)
      else st.peer r := by
  have hlen := length_of_frameType ht
  rcases waitOf_ev hw with ⟨hs, rfl⟩ | ⟨hs, rfl⟩ | ⟨hs, rfl⟩ | ⟨hs, rfl⟩
  · rw [storedFrame_ev hr hs ht]
    cases r with
    | true =>
      change (field (recvInto st.buf frame) 6 6, none) = framePeer true frame
      rw [field_of_covered (by omega) (by decide)]
      rfl
    | false => rfl
  all_goals
    rw [storedFrame, hr, hs]
    exact (ite_self _).symm

theorem accept_peer_evse (hr : ctx.isEv = false) (hw : waitOf false ctx.state = some w)
    (ht : frameType frame = some w.awaited) (hread : ctx.state.readEnd ≤ frame.length)
    (st : SlacStatics) (r : Bool) :
    (w.accept env ctx { st with buf := recvInto st.buf frame }).2.peer r =
      if r = false then ((storedFrame ctx (some frame)).map (framePeer r)).getD (st.peer r)
      else st.peer r := by
  rcases waitOf_evse hw with
    ⟨hs, rfl⟩ | ⟨hs, rfl⟩ | ⟨hs, rfl⟩ | ⟨hs, rfl⟩ | ⟨hs, rfl⟩ | ⟨hs, rfl⟩
  · rw [storedFrame_evse hr hs ht]
    -- the run id ends at 28, past the bytes that `recv_frame` asks for
    rw [hs] at hread
    have h28 : 28 ≤ frame.length := hread
    cases r with
    | true => rfl
    | false =>
      change (field (recvInto st.buf frame) 6 6, some (field (recvInto st.buf frame) 20 8)) =
        framePeer false frame
      rw [field_of_covered (by omega) (by decide), field_of_covered (by omega) (by decide)]
      rfl
  all_goals
    rw [storedFrame, hr, hs]
    exact (ite_self _).symm

end accepted

/-- Only the first frame of a match is stored, and for its own role. -/
theorem slacStep_peer (hcov : ∀ data ∈ recv, Covers p.ctx data) (r : Bool) :
    (slacStep env recv p).party.statics.peer r =
      if r = p.ctx.isEv then ((storedFrame p.ctx recv).map (framePeer r)).getD (p.statics.peer r)
      else p.statics.peer r := by
  cases hw : waitOf p.ctx.isEv p.ctx.state with
  | none =>
    rw [slacStep_of_send hw, storedFrame_of_send hw]
    exact (ite_self _).symm
  | some w =>
    by_cases ht : recv.bind frameType = some w.awaited
    · cases recv with
      | none => cases ht
      | some frame =>
        have hstep : (slacStep env (some frame) p).party = _ := stepOver_accept hw ht p.statics.buf
        have hread := hcov frame rfl w hw ht
        rw [hstep]
        cases hr : p.ctx.isEv with
        | true =>
          rw [hr] at hw
          exact accept_peer_ev hr hw ht p.statics r
        | false =>
          rw [hr] at hw
          exact accept_peer_evse hr hw ht hread p.statics r
    · rw [storedFrame_of_ignored hw ht]
      rw [peer_eq_of_kept (slacStep_kept_of_ignored hw ht)]
      exact (ite_self _).symm

theorem usesPeer_of_send (h : (slacSend env p).1.state.usesPeer p.ctx.isEv = true) :
    p.ctx.usesPeer = true := by
  unfold SlacContext.usesPeer
  cases hr : p.ctx.isEv with
  | true =>
    rw [slacSend_ev hr, hr] at h
    cases hs : p.ctx.state <;> simp only [evSend, hs] at h
    case evSendParmReq =>
      unfold evSendParmReq at h
      dsimp only at h
      split_ifs at h <;> cases h
    all_goals first | rfl | cases h
  | false =>
    rw [slacSend_evse hr, hr] at h
    cases hs : p.ctx.state <;> simp only [evseSend, hs] at h
    all_goals first | rfl | cases h

section waiting
variable {ctx : SlacContext} {w : Wait}

theorem usesPeer_of_accept (hw : waitOf ctx.isEv ctx.state = some w) {frame : List Byte}
    (ht : frameType frame = some w.awaited) {st : SlacStatics}
    (h : (w.accept env ctx st).1.state.usesPeer ctx.isEv = true) :
    ctx.usesPeer = true ∨ (storedFrame ctx (some frame)).isSome := by
  unfold SlacContext.usesPeer
  cases hr : ctx.isEv with
  | true =>
    rw [hr] at hw h
    rcases waitOf_ev hw with ⟨hs, rfl⟩ | ⟨hs, rfl⟩ | ⟨hs, rfl⟩ | ⟨hs, rfl⟩
    · right
      rw [storedFrame_ev hr hs ht]
      rfl
    case inr.inr.inr => cases h
    all_goals
      left
      rw [hs]
      rfl
  | false =>
    rw [hr] at hw
    rcases waitOf_evse hw with
      ⟨hs, rfl⟩ | ⟨hs, rfl⟩ | ⟨hs, rfl⟩ | ⟨hs, rfl⟩ | ⟨hs, rfl⟩ | ⟨hs, rfl⟩
    · right
      rw [storedFrame_evse hr hs ht]
      rfl
    all_goals
      left
      rw [hs]
      rfl

theorem usesPeer_of_timeout (hw : waitOf ctx.isEv ctx.state = some w)
    (h : (w.timeout ctx).state.usesPeer ctx.isEv = true) : ctx.usesPeer = true := by
  unfold SlacContext.usesPeer
  cases hr : ctx.isEv with
  | true =>
    rw [hr] at hw h
    rcases waitOf_ev hw with ⟨hs, rfl⟩ | ⟨hs, rfl⟩ | ⟨hs, rfl⟩ | ⟨hs, rfl⟩
    -- the first wait goes back to the request or fails, all others fail
    · dsimp only [evWaitParmCnf] at h
      split_ifs at h <;> cases h
    all_goals cases h
  | false =>
    rw [hr] at hw h
    rcases waitOf_evse hw with
      ⟨hs, rfl⟩ | ⟨hs, rfl⟩ | ⟨hs, rfl⟩ | ⟨hs, rfl⟩ | ⟨hs, rfl⟩ | ⟨hs, rfl⟩
    · exact h
    -- the collection of sounds goes on to the answer or fails
    case inr.inr.inl =>
      rw [hs]
      rfl
    all_goals cases h

end waiting

theorem usesPeer_of_step (h : (slacStep env recv p).party.ctx.usesPeer = true) :
    p.ctx.usesPeer = true ∨ (storedFrame p.ctx recv).isSome := by
  rw [SlacContext.usesPeer, slacStep_isEv] at h
  cases hw : waitOf p.ctx.isEv p.ctx.state with
  | none =>
    left
    rw [slacStep_of_send hw] at h
    exact usesPeer_of_send h
  | some w =>
    rcases slacStep_wait_cases env recv hw with ⟨frame, rfl, hc, htype, hstep⟩ | ⟨hc, hstep⟩
    · rw [hstep] at h
      exact usesPeer_of_accept hw htype h
    · left
      rw [hstep] at h
      split_ifs at h
      · exact usesPeer_of_timeout hw h
      · exact h

variable {q : SlacParty}

theorem slacSend_congr (hctx : p.ctx = q.ctx)
    (hpeer : p.ctx.usesPeer = true → p.statics.peer p.ctx.isEv = q.statics.peer p.ctx.isEv) :
    slacSend env p = slacSend env q := by
  unfold SlacContext.usesPeer at hpeer
  cases hr : p.ctx.isEv with
  | true =>
    rw [slacSend_ev hr, slacSend_ev (hctx ▸ hr), ← hctx]
    rw [hr] at hpeer
    cases hs : p.ctx.state <;> rw [hs] at hpeer <;> simp only [evSend, hs]
    all_goals
      have hmac : p.statics.evseMac = q.statics.evseMac := congrArg Prod.fst (hpeer rfl)
      rw [hmac]
  | false =>
    rw [slacSend_evse hr, slacSend_evse (hctx ▸ hr), ← hctx]
    rw [hr] at hpeer
    cases hs : p.ctx.state <;> rw [hs] at hpeer <;> simp only [evseSend, hs]
    all_goals
      have hmac : p.statics.evMac = q.statics.evMac := congrArg Prod.fst (hpeer rfl)
      have hid : some p.statics.runId = some q.statics.runId := congrArg Prod.snd (hpeer rfl)
      simp only [hmac, Option.some_inj.mp hid]

theorem accept_ctx_congr {r : Bool} {s : SlacState} {w : Wait} (hw : waitOf r s = some w)
    (ctx : SlacContext) {st st' : SlacStatics} (hbuf : st.buf = st'.buf) :
    (w.accept env ctx st).1 = (w.accept env ctx st').1 := by
  cases r with
  | true =>
    rcases waitOf_ev hw with ⟨_, rfl⟩ | ⟨_, rfl⟩ | ⟨_, rfl⟩ | ⟨_, rfl⟩
    · rfl
    · simp only [evWaitAttenChar, hbuf]
    · simp only [evWaitValidateCnf, hbuf]
    · simp only [evWaitMatchCnf, hbuf]
  | false =>
    rcases waitOf_evse hw with ⟨_, rfl⟩ | ⟨_, rfl⟩ | ⟨_, rfl⟩ | ⟨_, rfl⟩ | ⟨_, rfl⟩ | ⟨_, rfl⟩
    all_goals rfl

/-- A step depends on the context, on the peer it uses and on the frame. -/
theorem slacStep_congr (hctx : p.ctx = q.ctx)
    (hpeer : p.ctx.usesPeer = true → p.statics.peer p.ctx.isEv = q.statics.peer p.ctx.isEv)
    (hcov : ∀ data ∈ recv, Covers p.ctx data) :
    (slacStep env recv p).party.ctx = (slacStep env recv q).party.ctx ∧
      (slacStep env recv p).sent = (slacStep env recv q).sent := by
  cases hw : waitOf p.ctx.isEv p.ctx.state with
  | none =>
    have hsend : slacSend env p = slacSend env q := slacSend_congr hctx hpeer
    rw [slacStep_of_send hw, slacStep_of_send (hctx ▸ hw)]
    exact ⟨congrArg Prod.fst hsend, congrArg Prod.snd hsend⟩
  | some w =>
    have hw' : waitOf q.ctx.isEv q.ctx.state = some w := hctx ▸ hw
    refine ⟨?_, by rw [slacStep_of_wait hw, slacStep_of_wait hw']⟩
    by_cases ht : recv.bind frameType = some w.awaited
    · cases recv with
      | none => cases ht
      | some frame =>
        have hp : (slacStep env (some frame) p).party = _ := stepOver_accept hw ht p.statics.buf
        have hq : (slacStep env (some frame) q).party = _ := stepOver_accept hw' ht q.statics.buf
        have hread := hcov frame rfl w hw ht
        rw [hp, hq, ← hctx]
        have hbuf := kept_ctx (accept_kept_congr hw (length_of_frameType ht) hread env p.ctx
          p.statics p.statics.buf q.statics.buf)
        exact hbuf.trans (accept_ctx_congr hw p.ctx rfl)
    · have hp : (slacStep env recv p).party.ctx = _ :=
        congrArg Prod.fst (slacStep_kept_of_ignored hw ht)
      have hq : (slacStep env recv q).party.ctx = _ :=
        congrArg Prod.fst (slacStep_kept_of_ignored hw' ht)
      rw [hp, hq, hctx]

end step

section process
variable {ι : Type*}

/-- The static variables hold the same peer, if the context uses it. -/
def SamePeer (ctx : SlacContext) (st st' : SlacStatics) : Prop :=
  ctx.usesPeer = true → st.peer ctx.isEv = st'.peer ctx.isEv

/-- The frame covers what is read of it, and does not replace the peer of another context. -/
structure KeepsPeers (s : SlacProcess ι) (c : ι × SlacEnv × Option (List Byte)) : Prop where
  covers : ∀ data ∈ c.2.2, Covers (s.own c.1) data
  keeps : ∀ data ∈ storedFrame (s.own c.1) c.2.2, ∀ i, i ≠ c.1 → (s.own i).usesPeer = true →
    (s.own i).isEv = (s.own c.1).isEv → framePeer (s.own i).isEv data = s.shared.peer (s.own i).isEv

theorem slacCall_self {s : SlacProcess ι} {i : ι} {a : SlacEnv × Option (List Byte)}
    {t : SlacStatics} (hcov : ∀ data ∈ a.2, Covers (s.own i) data)
    (h : SamePeer (s.own i) s.shared t) :
    (slacCall a (s.own i) s.shared).seen = (slacCall a (s.own i) t).seen ∧
    (slacCall a (s.own i) s.shared).own = (slacCall a (s.own i) t).own ∧
    SamePeer (slacCall a (s.own i) s.shared).own (slacCall a (s.own i) s.shared).shared
      (slacCall a (s.own i) t).shared := by
  let p : SlacParty := ⟨s.own i, s.shared⟩
  let q : SlacParty := ⟨s.own i, t⟩
  have hcongr : (slacStep a.1 a.2 p).party.ctx = (slacStep a.1 a.2 q).party.ctx ∧
      (slacStep a.1 a.2 p).sent = (slacStep a.1 a.2 q).sent := slacStep_congr rfl h hcov
  refine ⟨?_, hcongr.1, ?_⟩
  · exact Prod.ext (congrArg SlacContext.state hcongr.1) hcongr.2
  · intro huses
    change (slacStep a.1 a.2 p).party.ctx.usesPeer = true at huses
    change (slacStep a.1 a.2 p).party.statics.peer (slacStep a.1 a.2 p).party.ctx.isEv =
      (slacStep a.1 a.2 q).party.statics.peer (slacStep a.1 a.2 p).party.ctx.isEv
    have hp := @slacStep_peer a.1 p a.2 hcov p.ctx.isEv
    have hq : (slacStep a.1 a.2 q).party.statics.peer p.ctx.isEv =
        if p.ctx.isEv = p.ctx.isEv then
          ((storedFrame p.ctx a.2).map (framePeer p.ctx.isEv)).getD (t.peer p.ctx.isEv)
        else t.peer p.ctx.isEv := slacStep_peer hcov p.ctx.isEv
    rw [if_pos rfl] at hp hq
    rw [slacStep_isEv, hp, hq]
    cases hstored : storedFrame p.ctx a.2 with
    | some frame => rfl
    | none =>
      rcases usesPeer_of_step huses with hold | hsome
      · exact h hold
      · rw [hstored] at hsome
        cases hsome

theorem slacCall_other {s : SlacProcess ι} {i j : ι} {a : SlacEnv × Option (List Byte)}
    {t : SlacStatics} (hkeep : KeepsPeers s (j, a)) (hj : j ≠ i)
    (h : SamePeer (s.own i) s.shared t) :
    SamePeer (s.own i) (slacCall a (s.own j) s.shared).shared t := by
  intro huses
  rw [← h huses]
  let p : SlacParty := ⟨s.own j, s.shared⟩
  have hp := @slacStep_peer a.1 p a.2 hkeep.covers (s.own i).isEv
  apply hp.trans
  split_ifs with hrole
  · cases hstored : storedFrame p.ctx a.2 with
    | some frame => exact hkeep.keeps frame hstored i (Ne.symm hj) huses hrole
    | none => rfl
  · rfl

/-- In every interleaving in which no frame replaces a peer that another context still uses, each
context goes through the states and sends the frames that it would alone. -/
theorem contexts_independent [DecidableEq ι] (s : SlacProcess ι)
    (cs : List (ι × SlacEnv × Option (List Byte))) (h : Along slacCall KeepsPeers s cs) (i : ι) :
    traceOf slacCall i cs s = trace slacCall (callsOf i cs) (s.own i) s.shared := by
  have hconf : Confined slacCall SamePeer (KeepsPeers (ι := ι)) := by
    constructor
    · intro s i a t hkeep hsame
      exact slacCall_self hkeep.covers hsame
    · intro s j a i t hkeep hj hsame
      exact slacCall_other hkeep hj hsame
  exact traceOf_eq_trace hconf h fun _ => rfl

end process

instance (ctx : SlacContext) (data : List Byte) : Decidable (Covers ctx data) :=
  decidable_of_iff (∀ w ∈ waitOf ctx.isEv ctx.state, frameType data = some w.awaited →
    ctx.state.readEnd ≤ data.length) Iff.rfl

instance (s : SlacProcess Bool) (c : Bool × SlacEnv × Option (List Byte)) :
    Decidable (KeepsPeers s c) :=
  decidable_of_iff ((∀ data ∈ c.2.2, Covers (s.own c.1) data) ∧
      ∀ data ∈ storedFrame (s.own c.1) c.2.2, ∀ i, i ≠ c.1 → (s.own i).usesPeer = true →
        (s.own i).isEv = (s.own c.1).isEv →
        framePeer (s.own i).isEv data = s.shared.peer (s.own i).isEv)
    ⟨fun h => ⟨h.1, h.2⟩, fun h => ⟨h.covers, h.keeps⟩⟩

def twoEvses : SlacProcess Bool where
  own r := slacRunStart (slacInit (fun _ => if r then 5 else 4) false)
  shared := .zero

def parmReqFrom (b : Byte) : List Byte := cmSlacParmReq (fun _ => b) fun _ => b

/-- Both EVSEs take a request before the first one answers. -/
def crossedCalls : List (Bool × SlacEnv × Option (List Byte)) :=
  [(false, quietAt 0, some (parmReqFrom 2)), (true, quietAt 0, some (parmReqFrom 3)),
    (false, quietAt 10, none), (true, quietAt 10, none)]

/-- The first EVSE confirms to the EV of the second, with the run id of the second. -/
theorem contexts_mixed_crossedCalls :
    traceOf slacCall false crossedCalls twoEvses =
      [(.evseSendParmCnf, []),
        (.evseWaitStartAtten, [cmSlacParmCnf (fun _ => 3) (fun _ => 4) fun _ => 3])] ∧
    trace slacCall (callsOf false crossedCalls) (twoEvses.own false) twoEvses.shared =
      [(.evseSendParmCnf, []),
        (.evseWaitStartAtten, [cmSlacParmCnf (fun _ => 2) (fun _ => 4) fun _ => 2])] ∧
    traceOf slacCall false crossedCalls twoEvses ≠
      trace slacCall (callsOf false crossedCalls) (twoEvses.own false) twoEvses.shared := by
  decide +kernel

/-- Both EVSEs take the request of one EV. -/
def sharedCalls : List (Bool × SlacEnv × Option (List Byte)) :=
  [(false, quietAt 0, some (parmReqFrom 2)), (true, quietAt 0, some (parmReqFrom 2)),
    (false, quietAt 10, none), (true, quietAt 10, none)]

/-- The first one confirms it as it would alone. -/
theorem contexts_independent_sharedCalls :
    traceOf slacCall false sharedCalls twoEvses =
      [(.evseSendParmCnf, []),
        (.evseWaitStartAtten, [cmSlacParmCnf (fun _ => 2) (fun _ => 4) fun _ => 2])] := by
  rw [contexts_independent twoEvses sharedCalls (by decide +kernel) false]
  decide +kernel

end EvseIso15118
