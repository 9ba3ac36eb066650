import EvseIso15118.SlacAttenuation

namespace EvseIso15118

open Network

/-- The place of a message in a match, from 1 on. -/
def messageNumber (mmtype : UInt16) : ℕ :=
  if mmtype = mmeCmSlacParmReq then 1
  else if mmtype = mmeCmSlacParmCnf then 2
  else if mmtype = mmeCmStartAttenInd then 3
  else if mmtype = mmeCmMnbcSoundInd then 4
  else if mmtype = mmeCmAttenCharInd then 5
  else if mmtype = mmeCmAttenCharRsp then 6
  else if mmtype = mmeCmValidateReq then 7
  else if mmtype = mmeCmValidateCnf then 8
  else if mmtype = mmeCmSlacMatchReq then 9
  else if mmtype = mmeCmSlacMatchCnf then 10
  else 0

/-- Who sends a message: the EVSE the two confirmations and the two answers. -/
def speaker : ℕ → Bool
  | 2 | 5 | 8 | 10 => false
  | _ => true

namespace SlacContext

/-- How many of the messages a party has sent or taken; none if it is not in a match. -/
def stage (ctx : SlacContext) : Option ℕ :=
  match ctx.isEv, ctx.state with
  | true, .evSendParmReq => some 0
  | true, .evWaitParmCnf => some 1
  | true, .evSendStartAtten => some 2
  | true, .evSendMnbcSounds => some 3
  | true, .evWaitAttenChar => some 4
  | true, .evSendAttenRsp => some 5
  | true, .evSendValidate => some 6
  | true, .evWaitValidateCnf => some 7
  | true, .evSendMatchReq => some 8
  | true, .evWaitMatchCnf => some 9
  | true, .evMatched => some 10
  | false, .evseWaitParmReq => some 0
  | false, .evseSendParmCnf => some 1
  | false, .evseWaitStartAtten => some 2
  | false, .evseCollectSounds => some 3
  | false, .evseSendAttenChar => some 4
  | false, .evseWaitAttenRsp => some 5
  | false, .evseWaitValidateReq => some 6
  | false, .evseSendValidateCnf => some 7
  | false, .evseWaitMatchReq => some 8
  | false, .evseSendMatchCnf => some 9
  | false, .evseMatched => some 10
  | _, _ => none

/-- The party is in a match and past message `k`. -/
def Reached (ctx : SlacContext) (k : ℕ) : Prop := ∃ n, ctx.stage = some n ∧ k ≤ n

/-- If the party is in a match, it is past message `k`. -/
def NotBefore (ctx : SlacContext) (k : ℕ) : Prop := ∀ n, ctx.stage = some n → k ≤ n

end SlacContext

section step
variable {env : SlacEnv} {p : SlacParty} {recv : Option (List Byte)} {w : Wait}

theorem slacStep_of_no_stage (h : p.ctx.stage = none) :
    waitOf p.ctx.isEv p.ctx.state = none ∧ slacSend env p = (p.ctx, []) := by
  cases hr : p.ctx.isEv with
  | true =>
    rw [slacSend_ev hr]
    cases hs : p.ctx.state <;> simp [SlacContext.stage, hr, hs] at h <;> simp [evSend, hs, waitOf]
  | false =>
    rw [slacSend_evse hr]
    cases hs : p.ctx.state <;> simp [SlacContext.stage, hr, hs] at h <;> simp [evseSend, hs, waitOf]

theorem stage_of_wait (hw : waitOf p.ctx.isEv p.ctx.state = some w) :
    ∃ n, p.ctx.stage = some n ∧ messageNumber w.awaited = n + 1 ∧
      speaker (n + 1) = !p.ctx.isEv := by
  cases hr : p.ctx.isEv with
  | true =>
    rw [hr] at hw
    rcases waitOf_ev hw with ⟨hs, rfl⟩ | ⟨hs, rfl⟩ | ⟨hs, rfl⟩ | ⟨hs, rfl⟩
    all_goals
      simp only [SlacContext.stage, hr, hs]
      exact ⟨_, rfl, by decide, by decide⟩
  | false =>
    rw [hr] at hw
    rcases waitOf_evse hw with
      ⟨hs, rfl⟩ | ⟨hs, rfl⟩ | ⟨hs, rfl⟩ | ⟨hs, rfl⟩ | ⟨hs, rfl⟩ | ⟨hs, rfl⟩
    all_goals
      simp only [SlacContext.stage, hr, hs]
      exact ⟨_, rfl, by decide, by decide⟩

theorem stage_of_send (hw : waitOf p.ctx.isEv p.ctx.state = none)
    (hrun : p.ctx.state.terminal = false) {n : ℕ} (hn : p.ctx.stage = some n) :
    speaker (n + 1) = p.ctx.isEv ∧
    ((slacSend env p).1.stage = none ∨ (slacSend env p).1.stage = some (n + 1)) ∧
    ∀ frame ∈ (slacSend env p).2, ∃ t, frameType frame = some t ∧ messageNumber t = n + 1 := by
  cases hr : p.ctx.isEv with
  | true =>
    rw [slacSend_ev hr]
    cases hs : p.ctx.state <;>
      simp [SlacContext.stage, waitOf, SlacState.terminal, hr, hs] at hn hw hrun
    case evSendParmReq =>
      subst hn
      unfold evSend evSendParmReq
      simp only [hs]
      refine ⟨rfl, ?_, ?_⟩
      · split_ifs <;> simp [SlacContext.stage, hr]
      · intro frame hf
        have hframe : frame ∈ sendFrame env (cmSlacParmReq p.ctx.localMac (randBytes env 0 8)) := by
          split_ifs at hf <;> exact hf
        rw [eq_of_mem_sendFrame hframe]
        exact ⟨_, frameType_cmSlacParmReq _ _, by decide⟩
    case evSendMnbcSounds =>
      subst hn
      simp only [evSend, hs]
      refine ⟨rfl, Or.inr (by simp [SlacContext.stage, hr]), ?_⟩
      intro frame hf
      rcases List.mem_map.mp hf with ⟨i, _, rfl⟩
      exact ⟨_, frameType_cmMnbcSoundInd _ _ _, by decide⟩
    all_goals
      subst hn
      simp only [evSend, hs]
      refine ⟨rfl, Or.inr (by simp [SlacContext.stage, hr]), ?_⟩
      intro frame hf
      rw [eq_of_mem_sendFrame hf]
      exact ⟨_, by simp; rfl, by decide⟩
  | false =>
    rw [slacSend_evse hr]
    cases hs : p.ctx.state <;>
      simp [SlacContext.stage, waitOf, SlacState.terminal, hr, hs] at hn hw hrun
    all_goals
      subst hn
      simp only [evseSend, hs]
      refine ⟨rfl, Or.inr (by simp [SlacContext.stage, evseSendMatchCnf, hr]), ?_⟩
      intro frame hf
      rw [eq_of_mem_sendFrame hf]
      exact ⟨_, by simp; rfl, by decide⟩

theorem stage_of_accept (hw : waitOf p.ctx.isEv p.ctx.state = some w) {n : ℕ}
    (hn : p.ctx.stage = some n) (st : SlacStatics) :
    (w.accept env p.ctx st).1.stage = none ∨ (w.accept env p.ctx st).1.stage = some (n + 1) ∨
      (w.accept env p.ctx st).1.stage = some n := by
  cases hr : p.ctx.isEv with
  | true =>
    rw [hr] at hw
    rcases waitOf_ev hw with ⟨hs, rfl⟩ | ⟨hs, rfl⟩ | ⟨hs, rfl⟩ | ⟨hs, rfl⟩
    all_goals
      simp only [SlacContext.stage, hr, hs, Option.some_inj] at hn
      subst hn
    case inr.inr.inl =>
      simp only [evWaitValidateCnf]
      split_ifs <;> simp [SlacContext.stage, hr]
    all_goals
      right; left
      simp [SlacContext.stage, evWaitParmCnf, evWaitAttenChar, evWaitMatchCnf, hr]
  | false =>
    rw [hr] at hw
    rcases waitOf_evse hw with
      ⟨hs, rfl⟩ | ⟨hs, rfl⟩ | ⟨hs, rfl⟩ | ⟨hs, rfl⟩ | ⟨hs, rfl⟩ | ⟨hs, rfl⟩
    all_goals
      simp only [SlacContext.stage, hr, hs, Option.some_inj] at hn
      subst hn
      right
    case inr.inr.inl =>
      simp only [evseCollectSounds]
      split_ifs <;> simp [SlacContext.stage, hr, hs]
    all_goals
      left
      simp [SlacContext.stage, evseWaitParmReq, evseWaitStartAtten, evseWaitAttenRsp,
        evseWaitValidateReq, evseWaitMatchReq, hr]

theorem stage_of_timeout (hw : waitOf p.ctx.isEv p.ctx.state = some w)
    (hexp : w.expired env p.ctx = true) :
    (w.timeout p.ctx).stage = none ∨
      (p.ctx.stage = some 1 ∧ (w.timeout p.ctx).stage = some 0) ∨
      (p.ctx.isEv = false ∧ p.ctx.state = .evseCollectSounds ∧ 0 < p.ctx.soundCount ∧
        (w.timeout p.ctx).stage = some 4) := by
  cases hr : p.ctx.isEv with
  | true =>
    rw [hr] at hw
    rcases waitOf_ev hw with ⟨hs, rfl⟩ | ⟨hs, rfl⟩ | ⟨hs, rfl⟩ | ⟨hs, rfl⟩
    · simp only [evWaitParmCnf]
      split_ifs
      · simp [SlacContext.stage, hr]
      · right; left
        simp [SlacContext.stage, hr, hs]
    all_goals
      left
      simp [SlacContext.stage, evWaitAttenChar, evWaitValidateCnf, evWaitMatchCnf, evFail, hr]
  | false =>
    rw [hr] at hw
    rcases waitOf_evse hw with
      ⟨hs, rfl⟩ | ⟨hs, rfl⟩ | ⟨hs, rfl⟩ | ⟨hs, rfl⟩ | ⟨hs, rfl⟩ | ⟨hs, rfl⟩
    · cases hexp
    case inr.inr.inl =>
      simp only [evseCollectSounds]
      split_ifs with hc
      · right; right
        exact ⟨trivial, hs, hc, by simp [SlacContext.stage, hr]⟩
      · simp [SlacContext.stage, hr]
    all_goals
      left
      simp [SlacContext.stage, evseWaitStartAtten, evseWaitAttenRsp, evseWaitValidateReq,
        evseWaitMatchReq, evseFail, hr]

/-- A party gets past a message of the other side by taking it, except that an EVSE does not
wait for all sounds. -/
theorem reached_of_step (hrun : p.ctx.state.terminal = false) {k : ℕ}
    (hk : speaker k = !p.ctx.isEv) (h : (slacStep env recv p).party.ctx.Reached k) :
    p.ctx.Reached k ∨
      (∃ frame t, recv = some frame ∧ frameType frame = some t ∧ messageNumber t = k) ∨
      (p.ctx.isEv = false ∧ p.ctx.state = .evseCollectSounds ∧ 0 < p.ctx.soundCount ∧ k = 4) := by
  rcases h with ⟨m, hm, hkm⟩
  cases hn : p.ctx.stage with
  | none =>
    rcases slacStep_of_no_stage (p := p) hn with ⟨hw, hsend⟩
    rw [slacStep_of_send hw, hsend] at hm
    exact absurd (hn.symm.trans hm) (by simp)
  | some n =>
    by_cases hkn : k ≤ n
    · exact Or.inl ⟨n, hn, hkn⟩
    right
    cases hw : waitOf p.ctx.isEv p.ctx.state with
    | none =>
      rcases stage_of_send hw hrun hn with ⟨hspeaker, hstage, _⟩
      rw [slacStep_of_send hw] at hm
      rcases hstage with hstage | hstage
      · rw [hstage] at hm
        cases hm
      · -- the message after stage `n` is one of its own
        obtain rfl := Option.some_inj.mp (hstage.symm.trans hm)
        obtain rfl : k = n + 1 := by omega
        rw [hspeaker] at hk
        cases hr : p.ctx.isEv <;> rw [hr] at hk <;> cases hk
    | some w =>
      rcases stage_of_wait hw with ⟨n', hn', hnumber, _⟩
      obtain rfl := Option.some_inj.mp (hn'.symm.trans hn)
      rcases slacStep_wait_cases env recv hw with ⟨frame, rfl, _, htype, hstep⟩ | ⟨_, hstep⟩
      · left
        rw [hstep] at hm
        rcases stage_of_accept hw hn _ with hs | hs | hs
        · cases hs.symm.trans hm
        · obtain rfl := Option.some_inj.mp (hs.symm.trans hm)
          exact ⟨frame, w.awaited, rfl, htype, by omega⟩
        · obtain rfl := Option.some_inj.mp (hs.symm.trans hm)
          omega
      · right
        rw [hstep] at hm
        split_ifs at hm with hexp
        · rcases stage_of_timeout hw hexp with hs | ⟨_, hs⟩ | ⟨hr, hs, hc, h4⟩
          · cases hs.symm.trans hm
          · obtain rfl := Option.some_inj.mp (hs.symm.trans hm)
            omega
          · obtain rfl := Option.some_inj.mp (h4.symm.trans hm)
            refine ⟨hr, hs, hc, ?_⟩
            have h3 : p.ctx.stage = some 3 := by simp [SlacContext.stage, hr, hs]
            have := Option.some_inj.mp (h3.symm.trans hn)
            omega
        · obtain rfl := Option.some_inj.mp (hn.symm.trans hm)
          omega

theorem notBefore_step (hrun : p.ctx.state.terminal = false) {k : ℕ} (hk : 2 ≤ k)
    (h : p.ctx.NotBefore k) : (slacStep env recv p).party.ctx.NotBefore k := by
  intro m hm
  cases hn : p.ctx.stage with
  | none =>
    rcases slacStep_of_no_stage (p := p) hn with ⟨hw, hsend⟩
    rw [slacStep_of_send hw, hsend] at hm
    exact absurd (hn.symm.trans hm) (by simp)
  | some n =>
    have hkn := h n hn
    have hnot : ∀ {ctx : SlacContext}, ctx.stage = some m →
        ctx.stage = none ∨ ctx.stage = some (n + 1) ∨ ctx.stage = some n → k ≤ m := by
      intro ctx hctx hcases
      rcases hcases with hs | hs | hs
      · cases hs.symm.trans hctx
      · have := Option.some_inj.mp (hs.symm.trans hctx)
        omega
      · have := Option.some_inj.mp (hs.symm.trans hctx)
        omega
    cases hw : waitOf p.ctx.isEv p.ctx.state with
    | none =>
      rw [slacStep_of_send hw] at hm
      rcases (stage_of_send hw hrun hn).2.1 with hs | hs
      · exact hnot hm (Or.inl hs)
      · exact hnot hm (Or.inr (Or.inl hs))
    | some w =>
      rcases slacStep_wait_cases env recv hw with ⟨frame, rfl, _, _, hstep⟩ | ⟨_, hstep⟩
      · rw [hstep] at hm
        exact hnot hm (stage_of_accept hw hn _)
      · rw [hstep] at hm
        split_ifs at hm with hexp
        · rcases stage_of_timeout hw hexp with hs | ⟨h1, _⟩ | ⟨hr, hs, _, h4⟩
          · exact hnot hm (Or.inl hs)
          · -- only the request is sent again
            have := Option.some_inj.mp (h1.symm.trans hn)
            omega
          · have h3 : p.ctx.stage = some 3 := by simp [SlacContext.stage, hr, hs]
            obtain rfl := Option.some_inj.mp (h3.symm.trans hn)
            exact hnot hm (Or.inr (Or.inl h4))
        · exact hnot hm (Or.inr (Or.inr hn))

/-- What a party sends is its own, and it is past it. -/
theorem sent_of_step (hrun : p.ctx.state.terminal = false) {frame : List Byte}
    (hf : frame ∈ (slacStep env recv p).sent) :
    ∃ t, frameType frame = some t ∧ speaker (messageNumber t) = p.ctx.isEv ∧
      (slacStep env recv p).party.ctx.NotBefore (messageNumber t) := by
  cases hw : waitOf p.ctx.isEv p.ctx.state with
  | some w =>
    rw [slacStep_of_wait hw] at hf
    cases hf
  | none =>
    rw [slacStep_of_send hw] at hf ⊢
    cases hn : p.ctx.stage with
    | none =>
      rw [(slacStep_of_no_stage (p := p) hn).2] at hf
      cases hf
    | some n =>
      rcases stage_of_send hw hrun hn with ⟨hspeaker, hstage, hsent⟩
      rcases hsent frame hf with ⟨t, htype, hnumber⟩
      refine ⟨t, htype, by rw [hnumber, hspeaker], ?_⟩
      intro m hm
      rcases hstage with hs | hs
      · cases hs.symm.trans hm
      · have := Option.some_inj.mp (hs.symm.trans hm)
        omega

theorem collecting_of_step (hevse : p.ctx.isEv = false)
    (hs : (slacStep env recv p).party.ctx.state = .evseCollectSounds)
    (hc : 0 < (slacStep env recv p).party.ctx.soundCount) :
    (p.ctx.state = .evseCollectSounds ∧ 0 < p.ctx.soundCount) ∨
      ∃ frame, recv = some frame ∧ frameType frame = some mmeCmMnbcSoundInd := by
  cases hw : waitOf p.ctx.isEv p.ctx.state with
  | none =>
    rw [slacStep_of_send hw, slacSend_evse hevse] at hs hc
    unfold evseSend at hs hc
    split at hs
    case h_5 =>
      rw [hevse] at hw
      change p.ctx.state = .evseCollectSounds at hs
      rw [hs] at hw
      cases hw
    all_goals cases hs
  | some w =>
    rcases slacStep_wait_cases env recv hw with ⟨frame, hrecv, _, htype, hstep⟩ | ⟨_, hstep⟩
    · rw [hstep] at hs hc
      rw [hevse] at hw
      rcases waitOf_evse hw with
        ⟨_, rfl⟩ | ⟨_, rfl⟩ | ⟨_, rfl⟩ | ⟨_, rfl⟩ | ⟨_, rfl⟩ | ⟨_, rfl⟩
      case inr.inl => exact absurd hc (by simp [evseWaitStartAtten])
      case inr.inr.inl => exact Or.inr ⟨frame, hrecv, htype⟩
      all_goals cases hs
    · rw [hstep] at hs hc
      rw [hevse] at hw
      left
      split_ifs at hs hc
      · rcases waitOf_evse hw with
          ⟨hq, rfl⟩ | ⟨_, rfl⟩ | ⟨_, rfl⟩ | ⟨_, rfl⟩ | ⟨_, rfl⟩ | ⟨_, rfl⟩
        · exact absurd (hq.symm.trans hs) (by simp)
        case inr.inr.inl =>
          dsimp only [evseCollectSounds] at hs
          split_ifs at hs
        all_goals cases hs
      · exact ⟨hs, hc⟩

end step

/-- Whoever has taken a message from the second on has it from a peer that is past it, and so do
the frames on the way say. -/
def inStep : Invariant slacProtocol where
  Parties p := (∀ r, (p r).ctx.isEv = r) ∧
    (∀ k, 2 ≤ k → (p (!speaker k)).ctx.Reached k → (p (speaker k)).ctx.NotBefore k) ∧
    ((p false).ctx.state = .evseCollectSounds → 0 < (p false).ctx.soundCount →
      (p true).ctx.NotBefore 4)
  Msg p r frame := ∃ t, frameType frame = some t ∧ speaker (messageNumber t) = !r ∧
    (2 ≤ messageNumber t → (p (!r)).ctx.NotBefore (messageNumber t))
  parties_step := by
    intro p r env recv ⟨hrole, htaken, hsounds⟩ hrun hmsg
    refine ⟨role_update hrole r env recv, ?_, ?_⟩
    · intro k hk hreached
      by_cases hr : speaker k = r
      · -- the side that sends message `k` steps
        subst hr
        rw [Function.update_of_ne (by simp)] at hreached
        rw [Function.update_self]
        exact notBefore_step hrun hk (htaken k hk hreached)
      · obtain rfl : r = !speaker k := by
          revert hr
          cases speaker k <;> cases r <;> simp
        rw [Function.update_self] at hreached
        rw [Function.update_of_ne (by simp)]
        have hspeaker : speaker k = !(p (!speaker k)).ctx.isEv := by
          rw [hrole, Bool.not_not]
        rcases reached_of_step hrun hspeaker hreached with
          hold | ⟨frame, t, rfl, htype, rfl⟩ | ⟨hev, hs, hc, rfl⟩
        · exact htaken k hk hold
        · rcases hmsg frame rfl with ⟨t', htype', _, hpast⟩
          obtain rfl := Option.some_inj.mp (htype'.symm.trans htype)
          rw [Bool.not_not] at hpast
          exact hpast hk
        · exact hsounds hs hc
    · intro hs hc
      cases r with
      | true =>
        rw [Function.update_of_ne (by decide)] at hs hc
        rw [Function.update_self]
        exact notBefore_step hrun (by decide) (hsounds hs hc)
      | false =>
        rw [Function.update_self] at hs hc
        rw [Function.update_of_ne (by decide)]
        rcases collecting_of_step (hrole false) hs hc with ⟨hs', hc'⟩ | ⟨frame, rfl, htype⟩
        · exact hsounds hs' hc'
        · rcases hmsg frame rfl with ⟨t, htype', _, hpast⟩
          obtain rfl := Option.some_inj.mp (htype'.symm.trans htype)
          exact hpast (by decide)
  msg_stable := by
    intro p r env recv q frame ⟨hrole, _⟩ hrun ⟨t, htype, hspeaker, hpast⟩
    refine ⟨t, htype, hspeaker, fun hk => ?_⟩
    by_cases hr : r = !q
    · subst hr
      rw [Function.update_self]
      exact notBefore_step hrun hk (hpast hk)
    · rw [Function.update_of_ne (fun h => hr h.symm)]
      exact hpast hk
  msg_sent := by
    intro p r env recv ⟨hrole, _⟩ hrun frame hframe
    rcases sent_of_step hrun hframe with ⟨t, htype, hspeaker, hpast⟩
    refine ⟨t, htype, ?_, fun _ => ?_⟩
    · rw [hspeaker, hrole, Bool.not_not]
    · rw [Bool.not_not, Function.update_self]
      exact hpast

theorem inStep_start {ctx : Bool → SlacContext} (hrole : ∀ r, (ctx r).isEv = r)
    (statics : Bool → SlacStatics) : inStep.Holds (slacStart ctx statics) := by
  have hzero : ∀ r, ((slacStart ctx statics).party r).ctx.stage = some 0 := by
    intro r
    change (slacRunStart (ctx r)).stage = some 0
    cases r with
    | true =>
      rw [slacRunStart_ev (hrole true)]
      simp [SlacContext.stage, hrole true]
    | false =>
      rw [slacRunStart_evse (hrole false)]
      simp [SlacContext.stage, hrole false]
  apply inStep.holds_of_empty ⟨slacStart_role hrole statics, ?_, ?_⟩ fun _ => rfl
  · rintro k hk ⟨n, hn, hkn⟩
    have := Option.some_inj.mp ((hzero _).symm.trans hn)
    omega
  · intro hs
    change (slacRunStart (ctx false)).state = .evseCollectSounds at hs
    rw [slacRunStart_evse (hrole false)] at hs
    cases hs

theorem stage_le {ctx : SlacContext} {n : ℕ} (h : ctx.stage = some n) : n ≤ 10 := by
  unfold SlacContext.stage at h
  split at h
  case h_23 => cases h
  all_goals
    cases h
    decide

/-- Whatever the channel does and however the steps and timeouts interleave: who has taken a
message, from the confirmation on, has a peer that sent it or failed since, the same holds for
every frame on the way, and two sides that go on are at most two messages apart. -/
theorem match_in_step {ctx : Bool → SlacContext} (hrole : ∀ r, (ctx r).isEv = r)
    {statics : Bool → SlacStatics} {as : List (Action SlacEnv)} {s : SlacJoint}
    (hrun : Transition.run (act slacProtocol) (slacStart ctx statics) as = some s) :
    (∀ k, 2 ≤ k → (s.party (!speaker k)).ctx.Reached k → (s.party (speaker k)).ctx.NotBefore k) ∧
    (∀ r, ∀ frame ∈ s.inbox r, ∃ t, frameType frame = some t ∧ speaker (messageNumber t) = !r ∧
      (2 ≤ messageNumber t → (s.party (!r)).ctx.NotBefore (messageNumber t))) ∧
    (∀ m n, (s.party true).ctx.stage = some m → (s.party false).ctx.stage = some n → 2 ≤ m →
      m ≤ n + 2 ∧ n ≤ m + 1) := by
  have h := inStep.run (inStep_start hrole statics) hrun
  rcases h.parties with ⟨_, htaken, _⟩
  refine ⟨htaken, h.msg, ?_⟩
  intro m n hm hn h2
  have hev : ∀ k, 2 ≤ k → speaker k = false → k ≤ m → k ≤ n := by
    intro k hk hs hkm
    have hk := htaken k hk
    rw [hs] at hk
    exact hk ⟨m, hm, hkm⟩ n hn
  have hevse : ∀ k, 2 ≤ k → speaker k = true → k ≤ n → k ≤ m := by
    intro k hk hs hkn
    have hk := htaken k hk
    rw [hs] at hk
    exact hk ⟨n, hn, hkn⟩ m hm
  have hm10 := stage_le hm
  have hn10 := stage_le hn
  -- the EVSE sends messages 2, 5, 8 and 10
  have h2' := hev 2 (by decide) rfl
  have h5 := hev 5 (by decide) rfl
  have h8 := hev 8 (by decide) rfl
  have h10 := hev 10 (by decide) rfl
  have h3 := hevse 3 (by decide) rfl
  have h4 := hevse 4 (by decide) rfl
  have h6 := hevse 6 (by decide) rfl
  have h7 := hevse 7 (by decide) rfl
  have h9 := hevse 9 (by decide) rfl
  omega

theorem match_in_step_retried :
    ∃ s, Transition.run (act slacProtocol) (slacStart twoStations fun _ => .zero) retriedRun =
        some s ∧ (s.party true).ctx.state = .evMatched ∧ (s.party false).ctx.NotBefore 10 := by
  rcases retriedRun_matched with ⟨s, hs, hm⟩
  refine ⟨s, hs, hm, (match_in_step (fun _ => rfl) hs).1 10 (by decide) ⟨10, ?_, le_rfl⟩⟩
  have hrole := (inStep.run (inStep_start (fun _ => rfl) _) hs).parties.1 true
  change (s.party true).ctx.stage = some 10
  simp [SlacContext.stage, hrole, hm]

end EvseIso15118
