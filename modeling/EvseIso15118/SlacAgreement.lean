import EvseIso15118.SlacContexts
import EvseIso15118.SlacRepetition
import EvseIso15118.SlacStages

namespace EvseIso15118

open Network

/-- `hdr->src`. -/
def frameSrc (frame : List Byte) : Mac := fun i => byteAt frame (6 + i)

/-- `hdr->dst`. -/
def frameDst (frame : List Byte) : Mac := fun i => byteAt frame i

section frame
variable (dst src : Mac) (mmtype : UInt16) (body : List Byte)

theorem frameSrc_buildHdr : frameSrc (buildHdr dst src mmtype ++ body) = src := by
  funext i
  have hi := i.isLt
  have hdst : (List.ofFn dst).length = 6 := List.length_ofFn
  have hsrc : (List.ofFn src).length = 6 := List.length_ofFn
  rw [frameSrc, byteAt_append_left _ (by simp; omega), buildHdr]
  simp only [List.append_assoc]
  rw [byteAt_append_right _ (by omega), hdst, Nat.add_sub_cancel_left,
    byteAt_append_left _ (by omega), byteAt_ofFn]

theorem frameDst_buildHdr : frameDst (buildHdr dst src mmtype ++ body) = dst := by
  funext i
  have hi := i.isLt
  have hdst : (List.ofFn dst).length = 6 := List.length_ofFn
  rw [frameDst, byteAt_append_left _ (by simp; omega), buildHdr]
  simp only [List.append_assoc]
  rw [byteAt_append_left _ (by omega), byteAt_ofFn]

end frame

section step
variable {env : SlacEnv} {p : SlacParty} {recv : Option (List Byte)}

/-- `hdr->src` of the frame in the buffer. -/
theorem field_src {frame : List Byte} {mmtype : UInt16} (h : frameType frame = some mmtype)
    (buf : Octets 2048) : field (recvInto buf frame) 6 6 = frameSrc frame := by
  have hlen := length_of_frameType h
  exact field_of_covered (by omega) (by decide)

/-- Every frame has the address of its sender and goes to all stations or to the peer that the
sender has stored. -/
theorem sent_addressed {frame : List Byte} (hf : frame ∈ (slacStep env recv p).sent) :
    frameSrc frame = p.ctx.localMac ∧
      (frameDst frame = broadcastAddr ∨
        (p.ctx.isEv = true ∧ p.ctx.state.confirmed = true ∧
          frameDst frame = p.statics.evseMac) ∨
        (p.ctx.isEv = false ∧ p.ctx.state ≠ .evseWaitParmReq ∧
          frameDst frame = p.statics.evMac)) := by
  cases hw : waitOf p.ctx.isEv p.ctx.state with
  | some w =>
    rw [slacStep_of_wait hw] at hf
    cases hf
  | none =>
    rw [slacStep_of_send hw] at hf
    change frame ∈ (slacSend env p).2 at hf
    cases hr : p.ctx.isEv with
    | true =>
      rw [slacSend_ev hr] at hf
      unfold evSend at hf
      split at hf
      case h_1 =>
        have hframe : frame ∈ sendFrame env (cmSlacParmReq p.ctx.localMac (randBytes env 0 8)) := by
          unfold evSendParmReq at hf
          dsimp only at hf
          split_ifs at hf <;> exact hf
        rw [eq_of_mem_sendFrame hframe]
        simp [cmSlacParmReq, frameSrc_buildHdr, frameDst_buildHdr]
      case h_2 =>
        rw [eq_of_mem_sendFrame hf]
        simp [cmStartAttenInd, frameSrc_buildHdr, frameDst_buildHdr]
      case h_3 =>
        rcases List.mem_map.mp hf with ⟨i, _, rfl⟩
        simp [cmMnbcSoundInd, frameSrc_buildHdr, frameDst_buildHdr]
      case h_7 => cases hf
      all_goals
        rename_i hs
        rw [eq_of_mem_sendFrame hf]
        simp [cmAttenCharRsp, cmValidateReq, cmSlacMatchReq, frameSrc_buildHdr, frameDst_buildHdr,
          hs, SlacState.confirmed]
    | false =>
      rw [slacSend_evse hr] at hf
      unfold evseSend at hf
      split at hf
      case h_5 => cases hf
      all_goals
        rename_i hs
        rw [eq_of_mem_sendFrame hf]
        simp [cmSlacParmCnf, cmAttenCharInd, cmValidateCnf, cmSlacMatchCnf, frameSrc_buildHdr,
          frameDst_buildHdr, hs]

theorem evStep_evseMac (hev : p.ctx.isEv = true)
    (hc : (slacStep env recv p).party.ctx.state.confirmed = true) :
    (p.ctx.state.confirmed = true ∧
      (slacStep env recv p).party.statics.evseMac = p.statics.evseMac) ∨
      ∃ frame, recv = some frame ∧
        (slacStep env recv p).party.statics.evseMac = frameSrc frame := by
  cases hw : waitOf p.ctx.isEv p.ctx.state with
  | none =>
    have hold := (evStep_confirmed hev hc).2
    rcases hold with hold | ⟨hs, _⟩
    · rw [slacStep_of_send hw]
      exact Or.inl ⟨hold, rfl⟩
    · rw [hev, hs] at hw
      cases hw
  | some w =>
    rw [slacStep_of_wait hw] at hc ⊢
    rw [hev] at hw
    rcases w.run_cases env recv p.ctx p.statics with ⟨frame, hrecv, htype, h⟩ | ⟨_, h⟩ | h
    · rw [h] at hc ⊢
      rcases waitOf_ev hw with ⟨hs, rfl⟩ | ⟨hs, rfl⟩ | ⟨hs, rfl⟩ | ⟨hs, rfl⟩
      · exact Or.inr ⟨frame, hrecv, field_src htype p.statics.buf⟩
      all_goals exact Or.inl ⟨by rw [hs]; rfl, rfl⟩
    · rw [h] at hc
      rcases waitOf_ev hw with ⟨_, rfl⟩ | ⟨_, rfl⟩ | ⟨_, rfl⟩ | ⟨_, rfl⟩
      · dsimp only [evWaitParmCnf] at hc
        split_ifs at hc <;> cases hc
      all_goals cases hc
    · rw [h] at hc ⊢
      exact Or.inl ⟨hc, rfl⟩

theorem evseStep_evMac (hevse : p.ctx.isEv = false)
    (hs : (slacStep env recv p).party.ctx.state ≠ .evseWaitParmReq) :
    (p.ctx.state ≠ .evseWaitParmReq ∧
      (slacStep env recv p).party.statics.evMac = p.statics.evMac) ∨
      ∃ frame, recv = some frame ∧
        (slacStep env recv p).party.statics.evMac = frameSrc frame := by
  cases hw : waitOf p.ctx.isEv p.ctx.state with
  | none =>
    rw [slacStep_of_send hw]
    refine Or.inl ⟨?_, rfl⟩
    intro hq
    rw [hevse, hq] at hw
    cases hw
  | some w =>
    rw [slacStep_of_wait hw] at hs ⊢
    rw [hevse] at hw
    rcases w.run_cases env recv p.ctx p.statics with ⟨frame, hrecv, htype, h⟩ | ⟨hexp, h⟩ | h
    · rw [h] at hs ⊢
      rcases waitOf_evse hw with
        ⟨hq, rfl⟩ | ⟨hq, rfl⟩ | ⟨hq, rfl⟩ | ⟨hq, rfl⟩ | ⟨hq, rfl⟩ | ⟨hq, rfl⟩
      · exact Or.inr ⟨frame, hrecv, field_src htype p.statics.buf⟩
      all_goals exact Or.inl ⟨by rw [hq]; simp, rfl⟩
    · rw [h]
      refine Or.inl ⟨?_, rfl⟩
      intro hq
      rw [hq] at hw
      cases hw
      -- there is no time limit
      cases hexp
    · rw [h] at hs ⊢
      exact Or.inl ⟨hs, rfl⟩

end step

def addresses (mac : Bool → Mac) : Invariant slacProtocol where
  Parties p := (∀ r, (p r).ctx.isEv = r ∧ (p r).ctx.localMac = mac r) ∧
    ((p true).ctx.state.confirmed = true → (p true).statics.evseMac = mac false) ∧
    ((p false).ctx.state ≠ .evseWaitParmReq → (p false).statics.evMac = mac true)
  Msg _ r frame :=
    frameSrc frame = mac (!r) ∧ (frameDst frame = broadcastAddr ∨ frameDst frame = mac r)
  parties_step := by
    intro p r env recv ⟨hown, hev, hevse⟩ _ hmsg
    refine ⟨?_, ?_, ?_⟩
    · intro q
      refine ⟨role_update (fun r => (hown r).1) r env recv q, ?_⟩
      by_cases hq : q = r
      · subst hq
        rw [Function.update_self]
        exact (slacStep_keepsCount env recv (p q)).localMac.trans (hown q).2
      · rw [Function.update_of_ne hq]
        exact (hown q).2
    · intro hc
      cases r with
      | true =>
        rw [Function.update_self] at hc ⊢
        rcases evStep_evseMac (hown true).1 hc with ⟨hold, hsame⟩ | ⟨frame, rfl, hsrc⟩
        · exact hsame.trans (hev hold)
        · exact hsrc.trans (hmsg frame rfl).1
      | false =>
        rw [Function.update_of_ne (by decide)] at hc ⊢
        exact hev hc
    · intro hs
      cases r with
      | true =>
        rw [Function.update_of_ne (by decide)] at hs ⊢
        exact hevse hs
      | false =>
        rw [Function.update_self] at hs ⊢
        rcases evseStep_evMac (hown false).1 hs with ⟨hold, hsame⟩ | ⟨frame, rfl, hsrc⟩
        · exact hsame.trans (hevse hold)
        · exact hsrc.trans (hmsg frame rfl).1
  msg_stable := fun _ _ _ _ _ _ _ _ hmsg => hmsg
  msg_sent := by
    intro p r env recv ⟨hown, hev, hevse⟩ _ frame hframe
    rcases sent_addressed hframe with ⟨hsrc, hdst⟩
    rw [Bool.not_not]
    refine ⟨hsrc.trans (hown r).2, ?_⟩
    rcases hdst with hdst | ⟨hr, hc, hdst⟩ | ⟨hr, hs, hdst⟩
    · exact Or.inl hdst
    · rw [(hown r).1] at hr
      subst hr
      exact Or.inr (hdst.trans (hev hc))
    · rw [(hown r).1] at hr
      subst hr
      exact Or.inr (hdst.trans (hevse hs))

/-- Whatever the channel does and however the steps and timeouts interleave: an EV past the
confirmation has stored the address of its EVSE, an EVSE past the request that of its EV, and
every frame on the way comes from the other station and is for all or for the one it reaches. -/
theorem peers_agree {ctx : Bool → SlacContext} (hrole : ∀ r, (ctx r).isEv = r)
    {statics : Bool → SlacStatics} {as : List (Action SlacEnv)} {s : SlacJoint}
    (hrun : Transition.run (act slacProtocol) (slacStart ctx statics) as = some s) :
    ((s.party true).ctx.state.confirmed = true →
      (s.party true).statics.evseMac = (ctx false).localMac) ∧
    ((s.party false).ctx.state ≠ .evseWaitParmReq →
      (s.party false).statics.evMac = (ctx true).localMac) ∧
    ∀ r, ∀ frame ∈ s.inbox r, frameSrc frame = (ctx (!r)).localMac ∧
      (frameDst frame = broadcastAddr ∨ frameDst frame = (ctx r).localMac) := by
  have hstart : (addresses fun r => (ctx r).localMac).Holds (slacStart ctx statics) := by
    apply (addresses fun r => (ctx r).localMac).holds_of_empty ⟨?_, ?_, ?_⟩ fun _ => rfl
    · intro r
      refine ⟨slacStart_role hrole statics r, ?_⟩
      change (slacRunStart (ctx r)).localMac = _
      unfold slacRunStart
      split_ifs <;> rfl
    · intro hc
      change (slacRunStart (ctx true)).state.confirmed = true at hc
      rw [slacRunStart_ev (hrole true)] at hc
      cases hc
    · intro hs
      change (slacRunStart (ctx false)).state ≠ _ at hs
      rw [slacRunStart_evse (hrole false)] at hs
      exact absurd rfl hs
  have h := (addresses fun r => (ctx r).localMac).run hstart hrun
  exact ⟨h.parties.2.1, h.parties.2.2, h.msg⟩

theorem peers_agree_retried :
    ∃ s, Transition.run (act slacProtocol) (slacStart twoStations fun _ => .zero) retriedRun =
        some s ∧ (s.party true).ctx.state = .evMatched ∧
      (s.party true).statics.evseMac = (twoStations false).localMac := by
  rcases retriedRun_matched with ⟨s, hs, hm⟩
  exact ⟨s, hs, hm, (peers_agree (fun _ => rfl) hs).1 (by rw [hm]; rfl)⟩

/-- An EVSE that has reported these averages, of the sounds it has counted. -/
def Reported (evse : SlacContext) (aag : Octets 58) : Prop :=
  evse.NotBefore 5 ∧ 1 ≤ evse.soundCount.toNat ∧ aag = averageAag evse

/-- What a frame on its way to the EV says about the attenuation, if it is a
CM_ATTEN_CHAR.IND. -/
def CarriesAttenuation (evse : SlacContext) (frame : List Byte) : Prop :=
  frameType frame = some mmeCmAttenCharInd → ∀ buf,
    Reported evse (field (recvInto buf frame) 70 58)

theorem aag_of_cmAttenCharInd (evMac localMac : Mac) (runId : Octets 8) (soundCount : Byte)
    (aag : Octets 58) (buf : Octets 2048) :
    field (recvInto buf (cmAttenCharInd evMac localMac runId soundCount aag)) 70 58 = aag := by
  rw [cmAttenCharInd, ← List.append_nil (_ ++ List.ofFn aag)]
  apply field_recvInto
  · simp
  · decide

section step
variable {env : SlacEnv} {p : SlacParty} {recv : Option (List Byte)}

theorem evseStep_aag (hevse : p.ctx.isEv = false) (h : p.ctx.NotBefore 5) :
    (slacStep env recv p).party.ctx.aag = p.ctx.aag ∧
      (slacStep env recv p).party.ctx.soundCount = p.ctx.soundCount := by
  rcases slacStep_cases env recv hevse with
    ⟨_, _, hstep⟩ | ⟨w, hw, ⟨_, st, _, _, hstep⟩ | ⟨_, _, hstep⟩ | ⟨_, _, hstep⟩⟩
  · rw [hstep, slacSend_evse hevse]
    unfold evseSend
    split
    all_goals exact ⟨rfl, rfl⟩
  · rw [hstep]
    rcases waitOf_evse hw with ⟨hs, rfl⟩ | ⟨hs, rfl⟩ | ⟨hs, rfl⟩ | ⟨_, rfl⟩ | ⟨_, rfl⟩ | ⟨_, rfl⟩
    case inr.inl => exact absurd (h 2 (by simp [SlacContext.stage, hevse, hs])) (by decide)
    case inr.inr.inl => exact absurd (h 3 (by simp [SlacContext.stage, hevse, hs])) (by decide)
    all_goals exact ⟨rfl, rfl⟩
  · rw [hstep]
    rcases waitOf_evse hw with ⟨_, rfl⟩ | ⟨_, rfl⟩ | ⟨_, rfl⟩ | ⟨_, rfl⟩ | ⟨_, rfl⟩ | ⟨_, rfl⟩
    all_goals exact ⟨rfl, rfl⟩
  · rw [hstep]
    exact ⟨rfl, rfl⟩

theorem Reported.step {aag : Octets 58} (h : Reported p.ctx aag) (hevse : p.ctx.isEv = false)
    (hrun : p.ctx.state.terminal = false) :
    Reported (slacStep env recv p).party.ctx aag := by
  rcases h with ⟨hpast, hcount, haag⟩
  rcases @evseStep_aag env _ recv hevse hpast with ⟨hsame, hsame'⟩
  refine ⟨notBefore_step hrun (by decide) hpast, by rw [hsame']; exact hcount, ?_⟩
  rw [haag]
  unfold averageAag
  rw [hsame, hsame']

theorem evStep_aag (hev : p.ctx.isEv = true) (hrun : p.ctx.state.terminal = false)
    (h : (slacStep env recv p).party.ctx.Reached 5) :
    (p.ctx.Reached 5 ∧ (slacStep env recv p).party.ctx.aag = p.ctx.aag) ∨
      ∃ frame, recv = some frame ∧ frameType frame = some mmeCmAttenCharInd ∧
        (slacStep env recv p).party.ctx.aag = field (recvInto p.statics.buf frame) 70 58 := by
  rcases h with ⟨m, hm, h5⟩
  cases hw : waitOf p.ctx.isEv p.ctx.state with
  | none =>
    rw [slacStep_of_send hw] at hm ⊢
    left
    have hsame : (slacSend env p).1.aag = p.ctx.aag := by
      rw [slacSend_ev hev]
      unfold evSend evSendParmReq
      split
      · dsimp only
        split_ifs <;> rfl
      all_goals rfl
    refine ⟨?_, hsame⟩
    cases hn : p.ctx.stage with
    | none =>
      rw [(slacStep_of_no_stage (p := p) hn).2] at hm
      exact absurd (hn.symm.trans hm) (by simp)
    | some n =>
      rcases stage_of_send hw hrun hn with ⟨hspeaker, hs | hs, _⟩
      · cases hs.symm.trans hm
      · have hmn := Option.some_inj.mp (hs.symm.trans hm)
        refine ⟨n, hn, ?_⟩
        -- the EV does not send message 5
        by_contra hlt
        obtain rfl : n = 4 := by omega
        rw [hev] at hspeaker
        cases hspeaker
  | some w =>
    rcases slacStep_wait_cases env recv hw with ⟨frame, hrecv, _, htype, hstep⟩ | ⟨_, hstep⟩
    · rw [hstep] at hm ⊢
      rw [hev] at hw
      rcases waitOf_ev hw with ⟨hs, rfl⟩ | ⟨hs, rfl⟩ | ⟨hs, rfl⟩ | ⟨hs, rfl⟩
      · have h2 : (some 2 : Option ℕ) = some m := by
          simpa [SlacContext.stage, evWaitParmCnf, hev] using hm
        have := Option.some_inj.mp h2
        omega
      · exact Or.inr ⟨frame, hrecv, htype, rfl⟩
      · exact Or.inl ⟨⟨7, by simp [SlacContext.stage, hev, hs], by decide⟩, rfl⟩
      · exact Or.inl ⟨⟨9, by simp [SlacContext.stage, hev, hs], by decide⟩, rfl⟩
    · rw [hstep] at hm ⊢
      left
      split_ifs at hm ⊢ with hexp
      · rcases stage_of_timeout hw hexp with hs | ⟨_, hs⟩ | ⟨hr, _⟩
        · cases hs.symm.trans hm
        · have := Option.some_inj.mp (hs.symm.trans hm)
          omega
        · rw [hev] at hr
          cases hr
      · exact ⟨⟨m, hm, h5⟩, rfl⟩

theorem carriesAttenuation_of_evseStep (hevse : p.ctx.isEv = false)
    (hrange : SoundsInRange p.ctx) {frame : List Byte}
    (hf : frame ∈ (slacStep env recv p).sent) :
    CarriesAttenuation (slacStep env recv p).party.ctx frame := by
  intro htype buf
  cases hw : waitOf p.ctx.isEv p.ctx.state with
  | some w =>
    rw [slacStep_of_wait hw] at hf
    cases hf
  | none =>
    rw [slacStep_of_send hw] at hf ⊢
    change frame ∈ (slacSend env p).2 at hf
    rw [slacSend_evse hevse] at hf ⊢
    unfold evseSend at hf ⊢
    split at hf
    case h_2 hs =>
      rw [eq_of_mem_sendFrame hf, aag_of_cmAttenCharInd]
      refine ⟨?_, hrange.collected (by rw [hs]; rfl), rfl⟩
      intro n hn
      have h5 : (some 5 : Option ℕ) = some n := by simpa [SlacContext.stage, hevse] using hn
      exact (Option.some_inj.mp h5).le
    case h_5 => cases hf
    all_goals
      rw [eq_of_mem_sendFrame hf] at htype
      simp only [frameType_cmSlacParmCnf, frameType_cmValidateCnf,
        frameType_cmSlacMatchCnf] at htype
      exact absurd htype (by decide)

end step

def attenuation : Invariant slacProtocol where
  Parties p := (∀ r, (p r).ctx.isEv = r) ∧ SoundsInRange (p false).ctx ∧
    ((p true).ctx.Reached 5 → Reported (p false).ctx (p true).ctx.aag)
  Msg p r frame := r = true → CarriesAttenuation (p false).ctx frame
  parties_step := by
    intro p r env recv ⟨hrole, hrange, hreported⟩ hrun hmsg
    refine ⟨role_update hrole r env recv, ?_, ?_⟩
    · cases r with
      | true =>
        rw [Function.update_of_ne (by decide)]
        exact hrange
      | false =>
        rw [Function.update_self]
        exact hrange.step (hrole false)
    · intro hreached
      cases r with
      | true =>
        rw [Function.update_self] at hreached ⊢
        rw [Function.update_of_ne (by decide)]
        change Reported _ (slacStep env recv (p true)).party.ctx.aag
        rcases evStep_aag (hrole true) hrun hreached with
          ⟨hold, hsame⟩ | ⟨frame, rfl, htype, hfield⟩
        · rw [hsame]
          exact hreported hold
        · rw [hfield]
          exact hmsg frame rfl rfl htype _
      | false =>
        rw [Function.update_of_ne (by decide)] at hreached
        rw [Function.update_self, Function.update_of_ne (by decide)]
        exact (hreported hreached).step (hrole false) hrun
  msg_stable := by
    intro p r env recv q frame ⟨hrole, _⟩ hrun hmsg hq htype buf
    cases r with
    | true =>
      rw [Function.update_of_ne (by decide)]
      exact hmsg hq htype buf
    | false =>
      rw [Function.update_self]
      exact (hmsg hq htype buf).step (hrole false) hrun
  msg_sent := by
    intro p r env recv ⟨hrole, hrange, _⟩ _ frame hframe hr
    cases r with
    | true => cases hr
    | false =>
      rw [Function.update_self]
      exact carriesAttenuation_of_evseStep (hrole false) hrange hframe

/-- Whatever the channel does and however the steps and timeouts interleave, an EV past
CM_ATTEN_CHAR.IND holds the averages of what its EVSE has measured, over one to ten sounds. -/
theorem attenuation_agrees {ctx : Bool → SlacContext} (hrole : ∀ r, (ctx r).isEv = r)
    {statics : Bool → SlacStatics} {as : List (Action SlacEnv)} {s : SlacJoint}
    (hrun : Transition.run (act slacProtocol) (slacStart ctx statics) as = some s)
    (hreached : (s.party true).ctx.Reached 5) :
    (∀ g, (s.party true).ctx.aag g =
      (s.party false).ctx.aag g / (s.party false).ctx.soundCount) ∧
    1 ≤ (s.party false).ctx.soundCount.toNat ∧
    (s.party false).ctx.soundCount.toNat ≤ numSounds := by
  have hstart : attenuation.Holds (slacStart ctx statics) := by
    apply attenuation.holds_of_empty ⟨slacStart_role hrole statics, ?_, ?_⟩ fun _ => rfl
    · change SoundsInRange (slacRunStart (ctx false))
      rw [slacRunStart_evse (hrole false)]
      exact ⟨Nat.zero_le _, by simp, by simp [SlacState.soundsCollected]⟩
    · rintro ⟨n, hn, h5⟩
      have h0 : (some 0 : Option ℕ) = some n := by
        rw [← hn]
        change _ = (slacRunStart (ctx true)).stage
        rw [slacRunStart_ev (hrole true)]
        simp [SlacContext.stage, hrole true]
      have := Option.some_inj.mp h0
      omega
  rcases (attenuation.run hstart hrun).parties with ⟨_, hrange, hreported⟩
  rcases hreported hreached with ⟨_, hcount, haag⟩
  refine ⟨fun g => ?_, hcount, hrange.le⟩
  have hpos : 0 < (s.party false).ctx.soundCount := UInt8.lt_iff_toNat_lt.mpr hcount
  rw [haag, averageAag, if_pos hpos]

theorem attenuation_agrees_retried :
    ∃ s, Transition.run (act slacProtocol) (slacStart twoStations fun _ => .zero) retriedRun =
        some s ∧ (s.party true).ctx.state = .evMatched ∧
      ∀ g, (s.party true).ctx.aag g =
        (s.party false).ctx.aag g / (s.party false).ctx.soundCount := by
  rcases retriedRun_matched with ⟨s, hs, hm⟩
  have hrole := (inStep.run (inStep_start (fun _ => rfl) _) hs).parties.1 true
  refine ⟨s, hs, hm, (attenuation_agrees (fun _ => rfl) hs ⟨10, ?_, by decide⟩).1⟩
  simp [SlacContext.stage, hrole, hm]

end EvseIso15118
