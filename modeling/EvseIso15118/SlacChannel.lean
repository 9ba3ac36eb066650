import EvseIso15118.Network
import EvseIso15118.SlacMachine

namespace EvseIso15118

open Network

def slacProtocol : Protocol SlacParty (List Byte) SlacEnv where
  step env recv p := ((slacStep env recv p).party, (slacStep env recv p).sent)
  halted p := p.ctx.state.terminal
  listens p := (waitOf p.ctx.isEv p.ctx.state).isSome

abbrev SlacJoint := Network.State SlacParty (List Byte)

/-- Both have just called `slac_run`, nothing is on the way. -/
def slacStart (ctx : Bool → SlacContext) (statics : Bool → SlacStatics) : SlacJoint where
  party r := ⟨slacRunStart (ctx r), statics r⟩
  inbox _ := []

theorem slacRunStart_ev {ctx : SlacContext} (h : ctx.isEv = true) :
    slacRunStart ctx = { ctx with state := .evSendParmReq } := by
  rw [slacRunStart, h, if_pos rfl]

theorem slacRunStart_evse {ctx : SlacContext} (h : ctx.isEv = false) :
    slacRunStart ctx =
      { ctx with state := .evseWaitParmReq, soundCount := 0, aag := fun _ => 0 } := by
  rw [slacRunStart, if_neg (by simp [h])]

theorem slacStart_role {ctx : Bool → SlacContext} (h : ∀ r, (ctx r).isEv = r)
    (statics : Bool → SlacStatics) (r : Bool) : ((slacStart ctx statics).party r).ctx.isEv = r := by
  change (slacRunStart (ctx r)).isEv = r
  unfold slacRunStart
  split_ifs <;> exact h r

theorem slacLoop_append_step {is : List (SlacEnv × Option (List Byte))} {p : SlacParty}
    (h : (slacLoop is p).ctx.state.terminal = false) (i : SlacEnv × Option (List Byte)) :
    slacLoop (is ++ [i]) p = (slacStep i.1 i.2 (slacLoop is p)).party := by
  induction is generalizing p with
  | nil =>
    change (if p.ctx.state.terminal then p else (slacStep i.1 i.2 p).party) = _
    rw [slacLoop] at h ⊢
    rw [h, if_neg (by simp)]
  | cons j is ih =>
    by_cases hp : p.ctx.state.terminal
    · rw [slacLoop, if_pos hp, hp] at h
      cases h
    · rw [slacLoop, if_neg hp] at h
      rw [List.cons_append, slacLoop, slacLoop, if_neg hp, if_neg hp]
      exact ih h

/-- Whatever the channel does, a party of the joint run is where `slac_run` takes it with some
receptions. -/
theorem party_eq_slacRun {ctx : Bool → SlacContext} {statics : Bool → SlacStatics}
    {as : List (Action SlacEnv)} {s : SlacJoint}
    (hrun : Transition.run (act slacProtocol) (slacStart ctx statics) as = some s) (r : Bool) :
    ∃ is, s.party r = slacRun is ⟨ctx r, statics r⟩ := by
  refine Transition.invariant
    (I := fun s : SlacJoint => ∀ r, ∃ is, s.party r = slacRun is ⟨ctx r, statics r⟩)
    ?_ (fun r => ⟨[], rfl⟩) hrun r
  intro s a t hs hact q
  rcases act_cases hact with ⟨hf, -⟩ | ⟨r, env, k, rfl, hst⟩
  · rw [hf.party]
    exact hs q
  · rw [hst.party]
    by_cases hq : q = r
    · subst hq
      rcases hs q with ⟨is, his⟩
      -- one more reception, in a loop that has not ended
      refine ⟨is ++ [(env, received s (.step q env k))], ?_⟩
      have hrunning : (slacRun is ⟨ctx q, statics q⟩).ctx.state.terminal = false := by
        rw [← his]
        exact hst.running
      rw [Function.update_self, slacRun, slacLoop_append_step hrunning]
      change (slacStep env _ (s.party q)).party = _
      rw [his]
      rfl
    · rw [Function.update_of_ne hq]
      exact hs q

namespace Wait

/-- The frame is of the awaited type and is accepted, or the time is over, or nothing but the
buffer changes. -/
theorem run_cases (w : Wait) (env : SlacEnv) (recv : Option (List Byte)) (ctx : SlacContext)
    (st : SlacStatics) :
    (∃ frame, recv = some frame ∧ frameType frame = some w.awaited ∧
      w.run env recv ctx st =
        ⟨(w.accept env ctx { st with buf := recvInto st.buf frame }).1,
          (w.accept env ctx { st with buf := recvInto st.buf frame }).2⟩) ∨
    (w.expired env ctx = true ∧
      w.run env recv ctx st = ⟨w.timeout ctx, { st with buf := (recvFrame st.buf recv).2 }⟩) ∨
    w.run env recv ctx st = ⟨ctx, { st with buf := (recvFrame st.buf recv).2 }⟩ := by
  by_cases ha : (recvFrame st.buf recv).1 = some w.awaited
  · left
    cases recv with
    | none => cases ha
    | some frame =>
      refine ⟨frame, rfl, ?_, ?_⟩
      · rwa [recvFrame_some] at ha
      · rw [Wait.run, if_pos ha, recvFrame_some]
  · right
    by_cases he : w.expired env ctx
    · left
      exact ⟨he, by rw [Wait.run, if_neg ha, if_pos he]⟩
    · right
      rw [Wait.run, if_neg ha, if_neg he]

end Wait

theorem waitOf_ev {s : SlacState} {w : Wait} (h : waitOf true s = some w) :
    (s = .evWaitParmCnf ∧ w = evWaitParmCnf) ∨ (s = .evWaitAttenChar ∧ w = evWaitAttenChar) ∨
      (s = .evWaitValidateCnf ∧ w = evWaitValidateCnf) ∨
      (s = .evWaitMatchCnf ∧ w = evWaitMatchCnf) := by
  cases s <;> cases h <;> simp

theorem waitOf_evse {s : SlacState} {w : Wait} (h : waitOf false s = some w) :
    (s = .evseWaitParmReq ∧ w = evseWaitParmReq) ∨
      (s = .evseWaitStartAtten ∧ w = evseWaitStartAtten) ∨
      (s = .evseCollectSounds ∧ w = evseCollectSounds) ∨
      (s = .evseWaitAttenRsp ∧ w = evseWaitAttenRsp) ∨
      (s = .evseWaitValidateReq ∧ w = evseWaitValidateReq) ∨
      (s = .evseWaitMatchReq ∧ w = evseWaitMatchReq) := by
  cases s <;> cases h <;> simp

theorem accept_isEv {r : Bool} {s : SlacState} {w : Wait} (h : waitOf r s = some w)
    (env : SlacEnv) (ctx : SlacContext) (st : SlacStatics) :
    (w.accept env ctx st).1.isEv = ctx.isEv := by
  cases r
  · rcases waitOf_evse h with ⟨_, rfl⟩ | ⟨_, rfl⟩ | ⟨_, rfl⟩ | ⟨_, rfl⟩ | ⟨_, rfl⟩ | ⟨_, rfl⟩
    all_goals rfl
  · rcases waitOf_ev h with ⟨_, rfl⟩ | ⟨_, rfl⟩ | ⟨_, rfl⟩ | ⟨_, rfl⟩
    all_goals rfl

theorem timeout_isEv {r : Bool} {s : SlacState} {w : Wait} (h : waitOf r s = some w)
    (ctx : SlacContext) : (w.timeout ctx).isEv = ctx.isEv := by
  cases r
  · rcases waitOf_evse h with ⟨_, rfl⟩ | ⟨_, rfl⟩ | ⟨_, rfl⟩ | ⟨_, rfl⟩ | ⟨_, rfl⟩ | ⟨_, rfl⟩
    all_goals rfl
  · rcases waitOf_ev h with ⟨_, rfl⟩ | ⟨_, rfl⟩ | ⟨_, rfl⟩ | ⟨_, rfl⟩
    all_goals rfl

theorem evSend_isEv (env : SlacEnv) (ctx : SlacContext) (evseMac : Mac) :
    (evSend env ctx evseMac).1.isEv = ctx.isEv := by
  unfold evSend evSendParmReq
  split
  · dsimp only
    split_ifs <;> rfl
  all_goals rfl

theorem evseSend_isEv (env : SlacEnv) (ctx : SlacContext) (evMac : Mac) (runId : Octets 8) :
    (evseSend env ctx evMac runId).1.isEv = ctx.isEv := by
  unfold evseSend
  split <;> rfl

theorem slacStep_isEv (env : SlacEnv) (recv : Option (List Byte)) (p : SlacParty) :
    (slacStep env recv p).party.ctx.isEv = p.ctx.isEv := by
  cases hw : waitOf p.ctx.isEv p.ctx.state with
  | none =>
    rw [slacStep_of_send hw]
    change (slacSend env p).1.isEv = _
    unfold slacSend
    split
    · exact evSend_isEv _ _ _
    · exact evseSend_isEv _ _ _ _
  | some w =>
    rw [slacStep_of_wait hw]
    rcases w.run_cases env recv p.ctx p.statics with ⟨frame, _, _, h⟩ | ⟨_, h⟩ | h
    · rw [h]
      exact accept_isEv hw _ _ _
    · rw [h]
      exact timeout_isEv hw _
    · rw [h]

end EvseIso15118
